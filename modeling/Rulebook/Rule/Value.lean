import Rulebook.Json.Value
import Rulebook.Rule.Fault

/-! # Values

What an expression evaluates to, and how operators combine values. Connectives use truth
values. Relations compare numbers, texts counting as the numbers they begin with; only the
equality of two texts compares them as they are.
-/

namespace Rulebook

/-- A value; `data` keeps whatever else a record holds. -/
inductive Value
  | bool (value : Bool)
  | number (value : Binary64)
  | text (value : String)
  | data (value : Json)

namespace Value

instance : Inhabited Value := ⟨bool false⟩

/-- The value of a JSON value: scalars become values of their own kind. -/
def ofJson : Json → Value
  | .bool b => bool b
  | .text t => text t
  | .number n => number n.toBinary64
  | json => data json

/-- False are `false`, both zeros, NaN, the empty text and `null`. -/
def isTruthy : Value → Bool
  | bool b => b
  | number .nan => false
  | number x => !x.isZero
  | text t => !t.isEmpty
  | data .null => false
  | data _ => true

/-- A number in positional notation, without a point if it is a safe integer. -/
def displayNumber (x : Binary64) : String :=
  match x with
  | .nan => "NaN"
  | .signed negative m =>
    let sign := if negative then "-" else ""
    if !m.isFinite then sign ++ "Infinity"
    else match x.safeInt? with
      | some n => String.ofList (Json.writeInteger n)
      | none =>
        let d := Decimal.shortest .up m
        sign ++ String.ofList (Decimal.positional (Decimal.digits d.coefficient) d.exponent)

def display : Value → String
  | bool b => if b then "true" else "false"
  | number x => displayNumber x
  | text t => t
  | data json => json.print

/-- A number as JSON: a safe integer is an integer, and what is not finite is `null`. -/
def numberToJson (x : Binary64) : Json :=
  match x.safeInt? with
  | some n => .integer n
  | none => if h : x.isFinite = true then .number (.double ⟨x, h⟩) else .null

def toJson : Value → Json
  | bool b => .bool b
  | number x => numberToJson x
  | text t => .text t
  | data json => json

/-- The number that a value counts as in a comparison. -/
def toNumber? : Value → Option Binary64
  | number .nan => none
  | number x => some x
  | text t => Numeral.leading? t
  | bool _ => none
  | data _ => none

end Value

namespace Relation

def holds : Relation → Binary64 → Binary64 → Bool
  | greater, x, y => y.lt x
  | less, x, y => x.lt y
  | equal, x, y => x.eq y

def compareNumbers (r : Relation) (left right : Value) : Except Fault Value :=
  match left.toNumber?, right.toNumber? with
  | some x, some y => return .bool (r.holds x y)
  | _, _ => throw (.invalidComparison left.display right.display)

def apply : Relation → Value → Value → Except Fault Value
  | equal, .text l, .text r => return .bool (l = r)
  | relation, left, right => relation.compareNumbers left right

end Relation

def Connective.apply (c : Connective) (left right : Value) : Value :=
  match c with
  | .and => .bool (left.isTruthy && right.isTruthy)
  | .or => .bool (left.isTruthy || right.isTruthy)

def Operator.apply (op : Operator) (left right : Value) : Except Fault Value :=
  match op with
  | .connective c => return c.apply left right
  | .relation r => r.apply left right

end Rulebook
