import Rulebook.Decimal
import Rulebook.Numeral

/-! # Scalars

A scalar setting as a source states it, and what it means for a setting of a given type. Texts
that spell truth values or numbers count as such, and the other way round.
-/

namespace Rulebook

inductive Scalar
  | bool (value : Bool)
  | integer (value : Int)
  | float (value : Binary64)
  | text (value : String)
deriving DecidableEq

namespace Scalar

def lower (text : String) : String := text.map Char.toLower

def trueWords : List String := ["true", "on", "yes"]

def falseWords : List String := ["false", "off", "no"]

/-- The bound of natural numbers that fit 64 bits: 2⁶⁴. -/
def wordBound : Nat := 0x10000000000000000

def portBound : Nat := 0x10000

/-- Whether an integer fits 64 bits, of which one is for the sign. -/
def fitsWord (n : Int) : Bool := -0x8000000000000000 ≤ n && n < 0x8000000000000000

def naturalBelow? (bound : Nat) (text : String) : Option Nat :=
  (Numeral.natural? text).filter (· < bound)

def integer? (text : String) : Option Int := do
  let n ← match text.toList with
    | '-' :: ds => (Numeral.natural? (String.ofList ds)).bind fun n =>
        if ds.head? = some '+' then none else some (-(n : Int))
    | _ => (Numeral.natural? text).map Int.ofNat
  if fitsWord n then some n else none

/-- A number that is a text from end to end, or a word for infinity or NaN in any case. -/
def float? (text : String) : Option Binary64 :=
  let (negative, unsigned) := Numeral.splitSign text.toList
  let word := lower (String.ofList unsigned)
  if word = "inf" ∨ word = "infinity" then some (.infinity negative)
  else if word = "nan" then some .nan
  else match Numeral.scanDecimal unsigned with
    | some (m, []) => some (.signed negative m)
    | _ => none

/-- What the text of a variable states: a truth value, an integer or a number if it spells one. -/
def ofVariable (text : String) : Scalar :=
  if lower text = "true" then .bool true
  else if lower text = "false" then .bool false
  else match integer? text with
    | some n => .integer n
    | none => match float? text with
      | some x => .float x
      | none => .text text

/-- The nearest natural number below `wordBound`, a half going up; NaN and what is negative give
zero. -/
def roundToNat : Binary64 → Nat
  | .nan => 0
  | .signed true _ => 0
  | .signed false m =>
    min ((2 * m.units + Binary64.unitsPerOne) / (2 * Binary64.unitsPerOne)) (wordBound - 1)

def toNat? (bound : Nat) (s : Scalar) : Option Nat :=
  let n? := match s with
    | bool b => some (if b then 1 else 0)
    | integer n => if n < 0 then none else some n.toNat
    | float x => some (roundToNat x)
    | text t =>
      if trueWords.contains (lower t) then some 1
      else if falseWords.contains (lower t) then some 0
      else naturalBelow? wordBound t
  n?.filter (· < bound)

def toBool? : Scalar → Option Bool
  | bool b => some b
  | integer n => some (n ≠ 0)
  | float x => some (!x.isZero)
  | text t =>
    if lower t = "1" ∨ trueWords.contains (lower t) then some true
    else if lower t = "0" ∨ falseWords.contains (lower t) then some false
    else none

/-- The text of a number, without a point if it is whole. -/
def floatText : Binary64 → String
  | .nan => "NaN"
  | .signed negative m =>
    let sign := if negative then "-" else ""
    if !m.isFinite then sign ++ "inf"
    else if m.rank = 0 then sign ++ "0"
    else
      let d := Decimal.shortest .up m
      sign ++ String.ofList (Decimal.positional (Decimal.digits d.coefficient) d.exponent)

def toText : Scalar → String
  | bool b => if b then "true" else "false"
  | integer n => toString n
  | float x => floatText x
  | text t => t

end Scalar

end Rulebook
