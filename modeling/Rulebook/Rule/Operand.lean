import Rulebook.Numeral
import Rulebook.Rule.Expression
import Rulebook.Json.Document
import Rulebook.Rule.Fault

/-! # Operands and records

How the text of a leaf is classified: a numeric literal stands for its number; any other text
names a field, once a quote is taken off either end. Fields are those of a record, which are the
members of a JSON object; names match exactly.
-/

namespace Rulebook.Operand

/-- The text without one quote in front and without one at the end, each on its own. -/
def stripQuotes (text : String) : String :=
  String.ofList (dropQuote (dropQuote text.toList).reverse).reverse
where
  dropQuote : List Char → List Char
    | '\'' :: cs => cs
    | cs => cs

/-- The name under which a text looks for a field; numbers and empty names look for none. -/
def fieldName? (text : String) : Option String :=
  match Numeral.literal? text with
  | some _ => none
  | none =>
    let name := stripQuotes text
    if name.isEmpty then none else some name

end Rulebook.Operand

namespace Rulebook.Expression

def insertName (name : String) : List String → List String
  | [] => [name]
  | n :: names =>
    if name < n then name :: n :: names
    else if name = n then n :: names
    else n :: insertName name names

/-- The fields that an expression can read, sorted and without repetition. -/
def fields (e : Expression) : List String :=
  (e.operands.filterMap Operand.fieldName?).foldr insertName []

end Rulebook.Expression

namespace Rulebook

structure Record where
  members : List (String × Json)

namespace Record

def empty : Record := ⟨[]⟩

instance : Inhabited Record := ⟨empty⟩

def field? (record : Record) (name : String) : Option Json := Json.lookup name record.members

def contains (record : Record) (name : String) : Bool := (record.field? name).isSome

def names (record : Record) : List String := record.members.map (·.1)

def toJson (record : Record) : Json := .object record.members

/-- The record of a JSON value, which must be an object. -/
def ofJson : Json → Except Fault Record
  | .object members => return ⟨members⟩
  | json => throw (.invalidContext ("评估数据必须是 JSON 对象，实际为 " ++ json.kindName))

def parse (text : String) : Except Fault Record :=
  match Json.parse text with
  | .ok json => ofJson json
  | .error fault => throw (.json fault)

/-- The record of a text that is an object from end to end. -/
def read? (text : String) : Option Record :=
  (Json.Document.read? (·.members? Json.maxNesting) (Json.symbols text)).map (⟨·⟩)

end Record

end Rulebook
