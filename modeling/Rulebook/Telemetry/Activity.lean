import Rulebook.Numeral

/-! # Activities

What a program does is a tree: a span encloses the activities between its beginning and its
end, and an event happens at once. Both carry named fields and have a level, which is the severity
of what is logged. A threshold admits a level and all that are more severe, or nothing.
-/

namespace Rulebook

inductive Level
  | error
  | warn
  | info
  | debug
  | trace
deriving DecidableEq

namespace Level

def verbosity : Level → Nat
  | error => 1
  | warn => 2
  | info => 3
  | debug => 4
  | trace => 5

def name : Level → String
  | error => "ERROR"
  | warn => "WARN"
  | info => "INFO"
  | debug => "DEBUG"
  | trace => "TRACE"

end Level

/-- The verbosity up to which levels are admitted; 0 admits none. -/
abbrev Threshold := Nat

namespace Threshold

def names : List (String × Threshold) :=
  [("OFF", 0), ("ERROR", 1), ("WARN", 2), ("INFO", 3), ("DEBUG", 4), ("TRACE", 5)]

/-- The threshold of a name in any case or of its number. -/
def ofName? (name : String) : Option Threshold :=
  (names.lookup (name.map Char.toUpper)).orElse fun _ => (Numeral.natural? name).filter (· ≤ 5)

def admits (threshold : Threshold) (level : Level) : Bool := level.verbosity ≤ threshold

end Threshold

/-- A field's value. Quoted text shows its quotes where text is laid out in a line. -/
inductive FieldValue
  | integer (value : Int)
  | flag (value : Bool)
  | quoted (text : String)
  | plain (text : String)
deriving DecidableEq

abbrev Fields := List (String × FieldValue)

structure Event where
  level : Level
  target : String
  message : String
  fields : Fields := []
deriving DecidableEq

/-- Late fields get their value inside the span; of hidden ones only the names matter. -/
structure Span where
  level : Level
  target : String
  name : String
  fields : Fields := []
  lateFields : Fields := []
  hiddenFields : List String := []
deriving DecidableEq

/-- Whether an event has a field of a name, as which its message counts. -/
def Event.declares (event : Event) (name : String) : Bool :=
  name = "message" || event.fields.any (·.1 = name)

/-- Whether a span has a field of a name, be its value known or not. -/
def Span.declares (span : Span) (name : String) : Bool :=
  (span.fields ++ span.lateFields).any (·.1 = name) || span.hiddenFields.contains name

inductive Activity
  | event (event : Event)
  | span (span : Span) (inside : List Activity)

end Rulebook
