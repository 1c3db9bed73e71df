/-! # Binary64 numbers

A binary64 number is NaN or a sign and a magnitude. A magnitude is named by its rank among all
magnitudes: zero has rank 0, the top rank is infinity, and rank order is numeric order. Its
value is a whole number of units, the unit being the least positive magnitude 2⁻¹⁰⁷⁴, so every
operation here is exact arithmetic on natural numbers followed by one rounding to the nearest
rank.
-/

namespace Rulebook

/-- The quotient rounded to the nearest whole number, a half going to the even neighbour. -/
def divEven (n d : Nat) : Nat :=
  let q := n / d
  let r := n % d
  if 2 * r < d then q else if d < 2 * r then q + 1 else q + q % 2

namespace Binary64

/-- How many magnitudes lie from one power of two to the next: 2⁵². -/
def binade : Nat := 0x10000000000000

/-- The rank of infinity: 2046 binades lie below the least power of two with full precision. -/
def topRank : Nat := 2047 * binade

def unitsPerOne : Nat := 1 <<< 1074

/-- The number of units that the magnitude of a rank is worth. -/
def unitsOfRank (k : Nat) : Nat :=
  if k < binade then k else (binade + k % binade) <<< (k / binade - 1)

end Binary64

/-- An absolute value that binary64 represents, infinity included. -/
structure Magnitude where
  rank : Nat
  rank_le : rank ≤ Binary64.topRank
deriving DecidableEq

namespace Magnitude

def zero : Magnitude := ⟨0, Nat.zero_le _⟩

def infinity : Magnitude := ⟨Binary64.topRank, Nat.le_refl _⟩

instance : Inhabited Magnitude := ⟨zero⟩

/-- The magnitude of a rank; every rank past the top is infinity. -/
def ofRank (k : Nat) : Magnitude := ⟨min k Binary64.topRank, Nat.min_le_right _ _⟩

def isFinite (m : Magnitude) : Bool := m.rank < Binary64.topRank

/-- The value in units. Infinity counts as the power of two that follows the largest magnitude. -/
def units (m : Magnitude) : Nat := Binary64.unitsOfRank m.rank

/-- The magnitude nearest to `n / d` units, a tie going to the even rank. -/
def nearest (n d : Nat) : Magnitude :=
  let q := n / d
  let s := if q < 2 * Binary64.binade then 0 else q.log2 - 52
  ofRank (s * Binary64.binade + divEven n (d <<< s))

def ofNat (n : Nat) : Magnitude := nearest (n * Binary64.unitsPerOne) 1

def ofFraction (n d : Nat) : Magnitude := nearest (n * Binary64.unitsPerOne) d

/-- The magnitude nearest to `c · 10 ^ e`. -/
def ofDecimal (c : Nat) (e : Int) : Magnitude :=
  if c = 0 then zero
  -- `c` is below `2 ^ (log2 c + 1)`, so the bounds only spare the large powers of ten.
  else match e with
    | .ofNat p => if 400 < p then infinity else ofFraction (c * Nat.pow 10 p) 1
    | .negSucc p => if 400 + c.log2 < p then zero else ofFraction c (Nat.pow 10 (p + 1))

def mul (a b : Magnitude) : Magnitude := nearest (a.units * b.units) Binary64.unitsPerOne

/-- The quotient by a divisor other than zero and infinity. -/
def div (a b : Magnitude) : Magnitude := nearest (a.units * Binary64.unitsPerOne) b.units

def scale (a : Magnitude) (n : Nat) : Magnitude := nearest (a.units * n) 1

def addNat (a : Magnitude) (n : Nat) : Magnitude := nearest (a.units + n * Binary64.unitsPerOne) 1

/-- The natural number that the magnitude is, if it is one. -/
def whole? (m : Magnitude) : Option Nat :=
  if m.isFinite && m.units % Binary64.unitsPerOne == 0 then
    some (m.units / Binary64.unitsPerOne)
  else none

end Magnitude

inductive Binary64
  | nan
  | signed (negative : Bool) (magnitude : Magnitude)
deriving DecidableEq

namespace Binary64

def zero : Binary64 := .signed false .zero

def infinity (negative : Bool) : Binary64 := .signed negative .infinity

instance : Inhabited Binary64 := ⟨zero⟩

def isFinite : Binary64 → Bool
  | .nan => false
  | .signed _ m => m.isFinite

def isZero : Binary64 → Bool
  | .nan => false
  | .signed _ m => m.rank == 0

/-- The number nearest to an integer; zero is positive. -/
def ofInt (n : Int) : Binary64 := .signed (n < 0) (.ofNat n.natAbs)

/-- The signed rank: numbers compare as their signed ranks, so both zeros are equal. -/
def signedRank (negative : Bool) (m : Magnitude) : Int :=
  if negative then -m.rank else m.rank

def eq : Binary64 → Binary64 → Bool
  | .signed s m, .signed t n => signedRank s m == signedRank t n
  | _, _ => false

def lt : Binary64 → Binary64 → Bool
  | .signed s m, .signed t n => signedRank s m < signedRank t n
  | _, _ => false

/-- The bit pattern: sign, exponent and fraction; NaN is the quiet one with an empty payload. -/
def toBits : Binary64 → Nat
  | .nan => 0x7ff8000000000000
  | .signed s m => (if s then 0x8000000000000000 else 0) + m.rank

/-- The largest integer below which every integer is represented. -/
def maxSafe : Nat := 2 * binade - 1

/-- The integer that the number is, if it is one of absolute value at most `maxSafe`. -/
def safeInt? : Binary64 → Option Int
  | .nan => none
  | .signed s m => match m.whole? with
    | some n => if n ≤ maxSafe then some (if s then -(n : Int) else n) else none
    | none => none

end Binary64

end Rulebook
