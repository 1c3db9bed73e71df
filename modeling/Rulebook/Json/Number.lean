import Rulebook.Decimal
import Rulebook.Numeral

/-! # JSON numbers

A number of a JSON document is an integer or a finite double. A numeral without fraction and
exponent is an integer as long as it fits 64 bits; every other numeral is read as a double, by
scaling its 64-bit significand with a power of ten. Doubles are written with their shortest
digits.
-/

namespace Rulebook.Json

/-- A double that is neither NaN nor infinite. -/
abbrev FiniteDouble := { x : Binary64 // x.isFinite = true }

inductive Number
  | integer (value : Int)
  | double (value : FiniteDouble)
deriving DecidableEq

namespace Number

def toBinary64 : Number → Binary64
  | integer n => .ofInt n
  | double x => x.val

end Number

/-- Finite doubles are positional from 10⁻⁵ up to 10¹⁶ and scientific elsewhere. -/
def writeMagnitude (m : Magnitude) : List Char :=
  if m.rank = 0 then ['0', '.', '0']
  else
    let d := Decimal.shortest .even m
    let ds := Decimal.digits d.coefficient
    let power := d.exponent + ds.length - 1
    -- A whole number keeps one zero behind the point.
    if -5 ≤ power ∧ power < 16 then
      Decimal.positional ds d.exponent ++ (if 0 ≤ d.exponent then ['.', '0'] else [])
    else Decimal.scientific ds power

/-- The text of a double; the values that JSON cannot write become `null`. -/
def writeDouble : Binary64 → List Char
  | .nan => "null".toList
  | .signed s m =>
    if m.isFinite then (if s then ['-'] else []) ++ writeMagnitude m else "null".toList

def writeInteger (n : Int) : List Char :=
  (if n < 0 then ['-'] else []) ++ Decimal.digits n.natAbs

def Number.write : Number → List Char
  | integer n => writeInteger n
  | double x => writeDouble x.val

/-- The parts of a number as a document spells it. An empty fraction stands for none. -/
structure Numeral where
  negative : Bool
  whole : List Char
  fraction : List Char
  exponent : Option (Bool × List Char)
deriving DecidableEq

namespace Numeral

def maxSignificand : Nat := 0xffffffffffffffff

/-- Takes digits into a significand while it fits 64 bits, and returns the digits that are left. -/
def accumulate (significand : Nat) : List Char → Nat × List Char
  | [] => (significand, [])
  | d :: ds =>
    let next := significand * 10 + (d.toNat - '0'.toNat)
    if next ≤ maxSignificand then accumulate next ds else (significand, d :: ds)

def powerOfTen (p : Nat) : Magnitude := .ofDecimal 1 p

def maxPower : Nat := 308

/-- Multiplies by a power of ten, unless the product is out of range. -/
def scaleUp (m : Magnitude) (p : Nat) : Option Magnitude :=
  if p ≤ maxPower then
    let product := m.mul (powerOfTen p)
    if product.isFinite then some product else none
  else if m.rank = 0 then some m else none

/-- Divides by a power of ten, at most `maxPower` at a time, until nothing is left of the
magnitude. -/
def scaleDown (m : Magnitude) (p : Nat) : Magnitude :=
  if p ≤ maxPower then m.div (powerOfTen p)
  else if m.rank = 0 then m
  else scaleDown (m.div (powerOfTen maxPower)) (p - maxPower)
termination_by p
decreasing_by simp only [maxPower] at *; omega

/-- The magnitude of `significand · 10 ^ exponent`, the significand being rounded first. -/
def scaled (significand : Nat) (exponent : Int) : Option Magnitude :=
  let m := Magnitude.ofNat significand
  match exponent with
  | .ofNat p => scaleUp m p
  | .negSucc p => some (scaleDown m (p + 1))

def maxExponent : Nat := 0x7fffffff

/-- The value of a significand with the written exponent and the shift of the point. -/
def withExponent (significand : Nat) (shift : Int) : Option (Bool × List Char) → Option Magnitude
  | none => scaled significand shift
  | some (negative, ds) =>
    let e := Rulebook.Numeral.ofDigits ds
    -- So large an exponent is not added up: it leaves zero or nothing.
    if maxExponent < e then
      if significand ≠ 0 ∧ !negative then none else some .zero
    else scaled significand (if negative then shift - e else shift + e)

/-- The magnitude of a numeral with a fraction, an exponent or more digits than an integer has. -/
def magnitude? (n : Numeral) : Option Magnitude :=
  let (whole, dropped) := accumulate 0 n.whole
  let (significand, ignored) := accumulate whole n.fraction
  let places : Int := (n.fraction.length : Int) - ignored.length
  withExponent significand (dropped.length - places) n.exponent

/-- The double of a sign and a magnitude, if it is finite. -/
def toDouble? (negative : Bool) (m : Magnitude) : Option Number :=
  if h : (Binary64.signed negative m).isFinite = true then
    some (.double ⟨.signed negative m, h⟩)
  else none

/-- The number that a numeral denotes, unless it is out of range. -/
def value? (n : Numeral) : Option Number :=
  let k := Rulebook.Numeral.ofDigits n.whole
  if n.fraction = [] ∧ n.exponent = none ∧ k ≤ maxSignificand then
    if !n.negative then some (.integer k)
    else if 0 < k ∧ k ≤ 0x8000000000000000 then some (.integer (-k))
    else toDouble? true (.ofNat k)
  else n.magnitude?.bind (toDouble? n.negative)

end Numeral

end Rulebook.Json
