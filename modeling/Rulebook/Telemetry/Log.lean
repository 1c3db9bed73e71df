import Rulebook.Telemetry.Activity
import Rulebook.Telemetry.Filter
import Rulebook.Text.Quoted

/-! # Logs

A filter turns activities into log records: one for each admitted event, and one when an
admitted span closes. A record names the admitted spans around it. Records can also be laid out
as lines of text, which leave out the closing of spans.
-/

namespace Rulebook

structure SpanView where
  name : String
  fields : Fields
deriving DecidableEq

structure LogRecord where
  level : Level
  target : String
  message : String
  fields : Fields
  spans : List SpanView
  closed : Option SpanView
deriving DecidableEq

namespace LogRecord

def ofEvent (spans : List SpanView) (event : Event) : LogRecord :=
  ⟨event.level, event.target, event.message, event.fields, spans, none⟩

def ofClosing (spans : List SpanView) (span : Span) : LogRecord :=
  ⟨span.level, span.target, "close", [], spans,
    some ⟨span.name, span.fields ++ span.lateFields⟩⟩

end LogRecord

namespace Filter

mutual

/-- The records of an activity inside spans that admit levels up to a threshold. -/
def recordsOf (filter : Filter) (inside : Threshold) (spans : List SpanView) :
    Activity → List LogRecord
  | .event event => if filter.admitsEvent inside event then [.ofEvent spans event] else []
  | .span span activities =>
    if filter.admitsSpan inside span then
      recordsOfAll filter (filter.within inside span) (spans ++ [⟨span.name, span.fields⟩])
        activities ++ [.ofClosing spans span]
    else recordsOfAll filter inside spans activities

def recordsOfAll (filter : Filter) (inside : Threshold) (spans : List SpanView) :
    List Activity → List LogRecord
  | [] => []
  | activity :: activities =>
    recordsOf filter inside spans activity ++ recordsOfAll filter inside spans activities

end

def records (filter : Filter) (activities : List Activity) : List LogRecord :=
  filter.recordsOfAll 0 [] activities

end Filter

namespace LogRecord

def fieldText : FieldValue → String
  | .integer n => toString n
  | .flag b => if b then "true" else "false"
  | .quoted text => Text.quote text
  | .plain text => text

def fieldsText (fields : Fields) : String :=
  " ".intercalate (fields.map fun (name, value) => name ++ "=" ++ fieldText value)

def spanText (span : SpanView) : String :=
  if span.fields.isEmpty then span.name ++ ":"
  else span.name ++ "\x7b" ++ fieldsText span.fields ++ "\x7d:"

/-- A record as a line: level, spans, target, message and fields. -/
def line (record : LogRecord) : String :=
  let spans := if record.spans.isEmpty then ""
    else String.join (record.spans.map spanText) ++ " "
  let fields := if record.fields.isEmpty then "" else " " ++ fieldsText record.fields
  record.level.name ++ " " ++ spans ++ record.target ++ ": " ++ record.message ++ fields

end LogRecord

/-- The lines of records, without those of closing spans. -/
def logLines (records : List LogRecord) : List String :=
  (records.filter (·.closed.isNone)).map LogRecord.line

end Rulebook
