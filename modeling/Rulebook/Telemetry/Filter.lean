import Rulebook.Telemetry.Activity
import Rulebook.Text.Basic

/-! # Filters

A directive gives a threshold to the targets that begin with its text, to what happens inside the
spans of a name, or to what happens inside the spans that have a field, of any value or of a
given one. It is written as `target[span{field=value}]=level`, of which every part may be left
out.

A filter is a list of directives, and decides what is logged. Of the directives that look at
targets the one with the longest decides. The directives that hold inside spans make their spans
known, and admit more inside them.
-/

namespace Rulebook

/-- A value that a field must have: a natural number, a text, or what no field has. -/
inductive FieldTest
  | natural (value : Nat)
  | text (value : String)
  | never
deriving DecidableEq

/-- A field that a span or an event must have, perhaps of a given value. -/
structure FieldCondition where
  name : String
  test : Option FieldTest := none
deriving DecidableEq

structure Directive where
  threshold : Threshold
  target : Option String := none
  span : Option String := none
  field : Option FieldCondition := none
deriving DecidableEq

namespace FieldTest

/-- The value that a text states. No field of a span is a truth value, a negative number or a
fraction. -/
def ofString (text : String) : FieldTest :=
  if text = "true" ∨ text = "false" then never
  else match Numeral.natural? text with
    | some n => if n < 0x10000000000000000 then natural n else never
    | none => if isNumber text.toList then never else .text text
where
  isNumber (cs : List Char) : Bool :=
    let unsigned := (Numeral.splitSign cs).2
    ["inf", "infinity", "nan"].contains (String.ofList (unsigned.map Char.toLower)) ||
      (Numeral.scanDecimal unsigned).any (·.2.isEmpty)

def holds : FieldTest → FieldValue → Bool
  | natural n, .integer m => n = m
  | text t, .quoted u => t = u
  | text t, .plain u => t = u
  | _, _ => false

end FieldTest

namespace FieldCondition

/-- A name, which a value may follow behind an equals sign. -/
def ofString (text : String) : FieldCondition :=
  let (name, rest) := text.toList.span (· ≠ '=')
  let value := match rest with
    | [] => none
    | _ :: value => some (FieldTest.ofString (String.ofList (value.takeWhile (· ≠ '='))))
  ⟨String.ofList name, value⟩

end FieldCondition

namespace Directive

/-- Where a reader of a directive stands. The numbers tell where the part at hand began. -/
inductive Place
  | start
  | word (start : Nat)
  | span (start : Nat)
  | field (start : Nat)
  | fieldEnd
  | spanEnd
  | level (start : Nat)
deriving DecidableEq

def isStart (c : Char) : Bool := c = '-' || c = ':' || c = '_' || Text.isAlphanumeric c

/-- The part of a text from one byte up to another, given at which byte the text begins. -/
def slice (first last offset : Nat) : List Char → List Char
  | [] => []
  | c :: cs =>
    let rest := slice first last (offset + c.utf8Size) cs
    if first ≤ offset && offset < last then c :: rest else rest

/-- One character further, which is at a byte of the text. -/
def advance (cs : List Char) (place : Place) (d : Directive) (offset : Nat) (c : Char) :
    Option (Place × Directive) :=
  let part := fun start => String.ofList (slice start offset 0 cs)
  match place with
  | .start =>
    if c = '[' then some (.span (offset + 1), d)
    else if isStart c then some (.word offset, d)
    else none
  | .word start =>
    if c = '=' then some (.level (offset + 1), { d with target := some (part start) })
    else if c = '[' then some (.span (offset + 1), { d with target := some (part start) })
    else some (place, d)
  | .span start =>
    if c = ']' then some (.spanEnd, { d with span := some (part start) })
    else if c = '\x7b' then
      some (.field (offset + 1), { d with span := (some (part start)).filter (· ≠ "") })
    else some (place, d)
  | .field start =>
    if c = '\x7d' then
      if part start = "" then none
      else some (.fieldEnd, { d with field := some (.ofString (part start)) })
    else some (place, d)
  | .fieldEnd => if c = ']' then some (.spanEnd, d) else none
  | .spanEnd => if c = '=' then some (.level (offset + 1), d) else none
  | .level _ => some (place, d)

/-- A directive; a word alone is a threshold if it names one, and a target if not. -/
def parse? (text : String) : Option Directive := do
  let cs := text.toList
  let all := Level.trace.verbosity
  let (place, d, _) ← (Text.trim cs).foldlM (fun (place, d, offset) c =>
    (advance cs place d offset c).map fun (place, d) => (place, d, offset + c.utf8Size))
    (Place.start, ({ threshold := all } : Directive), 0)
  -- The parts are counted in the text without the blanks around it, but taken from the whole text.
  let rest := fun start => String.ofList (slice start text.utf8ByteSize 0 cs)
  match place with
  | .word start => match Threshold.ofName? (rest start) with
    | some threshold => some { threshold }
    | none => some { threshold := all, target := some (rest start) }
  | .level start =>
    if rest start = "" then some d
    else (Threshold.ofName? (rest start)).map fun threshold => { d with threshold }
  | .spanEnd => some d
  | _ => none

/-- Whether a directive looks at targets only, and perhaps at the fields of events. -/
def isStatic (d : Directive) : Bool := d.span.isNone && !d.field.any (·.test.isSome)

def isDynamic (d : Directive) : Bool := d.span.isSome || d.field.isSome

def coversTarget (d : Directive) (target : String) : Bool :=
  d.target.all fun start => start.toList.isPrefixOf target.toList

/-- Whether a directive holds inside a span, whatever the values of its fields. -/
def concerns (d : Directive) (span : Span) : Bool :=
  d.isDynamic && d.coversTarget span.target && d.span.all (· = span.name) &&
    d.field.all fun condition => span.declares condition.name

/-- Whether the fields of a span have the values that a directive asks for. -/
def holdsIn (d : Directive) (span : Span) : Bool :=
  d.field.all fun condition => condition.test.all fun test =>
    (span.fields.lookup condition.name).any test.holds

/-- Whether a directive ranks no higher than another. -/
def ranksUpTo (a b : Directive) : Bool :=
  let size := fun d : Directive => (d.target.map fun t => t.utf8ByteSize + 1).getD 0
  let target := fun d : Directive => d.target.getD ""
  let field := fun d : Directive => (d.field.map (·.name)).getD ""
  let count := fun d : Directive => if d.field.isSome then 1 else 0
  -- A longer target ranks above a shorter one, a field above none, and the rest goes by texts.
  if size a ≠ size b then size a < size b
  else if count a ≠ count b then count a < count b
  else if target a ≠ target b then target a < target b
  else decide (field a ≤ field b)

end Directive

structure Filter where
  directives : List Directive
deriving DecidableEq

namespace Filter

def pieces (text : String) : List String :=
  let (last, done) := text.toList.foldl (fun (piece, done) c =>
    if c = ',' then ([], String.ofList piece.reverse :: done) else (c :: piece, done))
    (([] : List Char), ([] : List String))
  (String.ofList last.reverse :: done).reverse

/-- The filter of a list of directives, all of which must be sound. Without any it admits
nothing. -/
def parse? (text : String) : Option Filter :=
  (((pieces text).filter (!·.isEmpty)).mapM Directive.parse?).map Filter.mk

/-- The filter of those directives of a list that are sound. Without any it admits errors. -/
def ofSound (text : String) : Filter :=
  let directives := (pieces text).filterMap Directive.parse?
  ⟨if directives.isEmpty then [{ threshold := Level.error.verbosity }] else directives⟩

/-- The directive that decides among some; of equally high ones it is the last. -/
def highest? (directives : List Directive) : Option Directive :=
  directives.foldl (fun best d => match best with
    | some b => if b.ranksUpTo d then some d else some b
    | none => some d) none

/-- Whether the directive that decides among some admits a level. -/
def decides (directives : List Directive) (level : Level) : Bool :=
  (highest? directives).any fun d => Threshold.admits d.threshold level

/-- Whether an event is admitted inside spans that admit levels up to a threshold. -/
def admitsEvent (filter : Filter) (inside : Threshold) (event : Event) : Bool :=
  Threshold.admits inside event.level ||
    decides (filter.directives.filter fun d => d.isStatic && d.coversTarget event.target &&
      d.field.all fun condition => event.declares condition.name) event.level

/-- The highest threshold that the filter states; to ask for a field's value counts as the
highest. -/
def limit (filter : Filter) : Threshold :=
  filter.directives.foldl (fun n d => max n (if d.isStatic then d.threshold
    else if d.field.any (·.test.isSome) then Level.trace.verbosity else d.threshold)) 0

/-- Whether a span is admitted inside spans that admit levels up to a threshold. -/
def admitsSpan (filter : Filter) (inside : Threshold) (span : Span) : Bool :=
  Threshold.admits inside span.level ||
    (Threshold.admits filter.limit span.level && filter.directives.any (·.concerns span)) ||
    decides (filter.directives.filter fun d => d.isStatic && d.coversTarget span.target) span.level

/-- The directives without those that a later one replaces, which differs in its threshold at
most. -/
def latest : List Directive → List Directive
  | [] => []
  | d :: ds =>
    if ds.any fun e => { d with threshold := e.threshold } = e then latest ds else d :: latest ds

def within (filter : Filter) (inside : Threshold) (span : Span) : Threshold :=
  (latest filter.directives).foldl (fun n d =>
    if d.concerns span && d.holdsIn span then max n d.threshold else n) inside

end Filter

end Rulebook
