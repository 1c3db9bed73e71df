import Rulebook.Binary64

/-! # Shortest decimals

The decimal text of a binary64 magnitude uses the fewest digits that read back as that
magnitude, and among those the nearest. On each decimal grid only the two neighbours of the
value can be nearest, so the search tests these two in exact arithmetic, from one digit up.
-/

namespace Rulebook

structure Decimal where
  coefficient : Nat
  exponent : Int
deriving DecidableEq

namespace Decimal

def toMagnitude (d : Decimal) : Magnitude := .ofDecimal d.coefficient d.exponent

/-- Whether the upper of two neighbours at equal distance is taken. -/
inductive Tie
  | even
  | up
deriving DecidableEq

def Tie.takesUpper (tie : Tie) (lower : Nat) : Bool :=
  match tie with
  | .even => lower % 2 == 1
  | .up => true

/-- The quotient `u / 10 ^ g` of a value in units, as numerator and denominator. -/
def overPower (u : Nat) : Int → Nat × Nat
  | .ofNat p => (u, Binary64.unitsPerOne * Nat.pow 10 p)
  | .negSucc p => (u * Nat.pow 10 (p + 1), Binary64.unitsPerOne)

/-- The power of ten of the leading digit. -/
def leadingPower (u : Nat) : Int :=
  -- 30103 / 100000 stands for log₁₀ 2: the guess is never too large, and at most one too small.
  let guess := ((u.log2 : Int) - 1074) * 30103 / 100000
  let (n, d) := overPower u (guess + 1)
  if d ≤ n then guess + 1 else guess

/-- The better of the neighbouring multiples of `10 ^ g` among those that read back as the value. -/
def onGrid (tie : Tie) (m : Magnitude) (g : Int) : Option Decimal :=
  let (n, d) := overPower m.units g
  let lower := n / d
  let r := n % d
  let low : Decimal := ⟨lower, g⟩
  let high : Decimal := ⟨lower + 1, g⟩
  let up := if d < 2 * r then true else if 2 * r < d then false else tie.takesUpper lower
  if high.toMagnitude = m ∧ (up ∨ low.toMagnitude ≠ m) then some high
  else if low.toMagnitude = m then some low
  else none

/-- The number of units, written out in full: `2⁻¹⁰⁷⁴ = 5¹⁰⁷⁴ · 10⁻¹⁰⁷⁴`. -/
def exact (m : Magnitude) : Decimal := ⟨m.units * Nat.pow 5 1074, -1074⟩

/-- The first grid from one digit to seventeen that holds a decimal of the magnitude. -/
def search (tie : Tie) (m : Magnitude) : Decimal :=
  let p := leadingPower m.units
  ((List.range 17).findSome? fun (n : Nat) => onGrid tie m (p - n)).getD (exact m)

/-- The same number with no zero at the end of the coefficient. -/
def trim (c : Nat) (e : Int) : Decimal :=
  if h : c ≠ 0 ∧ c % 10 = 0 then trim (c / 10) (e + 1) else ⟨c, e⟩
termination_by c
decreasing_by omega

def shortest (tie : Tie) (m : Magnitude) : Decimal :=
  let d := search tie m
  trim d.coefficient d.exponent

/-- The digits of a natural number, most significant first. -/
def digits (n : Nat) : List Char := Nat.toDigits 10 n

/-- Digits in positional notation, for the number `ds · 10 ^ e`; a whole number has no point. -/
def positional (ds : List Char) : Int → List Char
  | .ofNat p => ds ++ List.replicate p '0'
  | .negSucc p =>
    let places := p + 1
    if ds.length ≤ places then
      '0' :: '.' :: List.replicate (places - ds.length) '0' ++ ds
    else ds.take (ds.length - places) ++ '.' :: ds.drop (ds.length - places)

/-- Digits in scientific notation: one before the point and an exponent with its sign. -/
def scientific (ds : List Char) (power : Int) : List Char :=
  let mantissa := match ds with
    | [] => []
    | [d] => [d]
    | d :: rest => d :: '.' :: rest
  let sign := if power < 0 then '-' else '+'
  mantissa ++ 'e' :: sign :: digits power.natAbs

end Decimal

end Rulebook
