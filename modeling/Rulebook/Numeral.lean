import Rulebook.Binary64
import Rulebook.Text.Basic

/-! # Numerals

A text denotes a number in two ways. A literal is a number from end to end: a decimal with an
optional sign, `Infinity`, or a whole number in radix 16, 8 or 2. A text that only begins with
a number still counts as that number where one is needed. Both readings rest on one scanner,
which takes the longest unsigned number at the front of a text and leaves the rest.
-/

namespace Rulebook.Numeral

def ofDigits (ds : List Char) : Nat := ds.foldl (fun n d => n * 10 + (d.toNat - '0'.toNat)) 0

/-- A natural number in decimal digits, which a plus sign may precede. -/
def natural? (text : String) : Option Nat :=
  let ds := match text.toList with
    | '+' :: ds => ds
    | ds => ds
  if ds.isEmpty ∨ ¬ ds.all Char.isDigit then none else some (ofDigits ds)

def splitSign : List Char → Bool × List Char
  | '-' :: cs => (true, cs)
  | '+' :: cs => (false, cs)
  | cs => (false, cs)

def scanFraction : List Char → List Char × List Char
  | '.' :: cs => (cs.takeWhile Char.isDigit, cs.dropWhile Char.isDigit)
  | cs => ([], cs)

/-- An exponent at the front. A mark that no digit follows is none. -/
def scanExponent (cs : List Char) : Int × List Char :=
  match cs with
  | c :: after =>
    if c = 'e' ∨ c = 'E' then
      let (negative, unsigned) := splitSign after
      let ds := unsigned.takeWhile Char.isDigit
      if ds.isEmpty then (0, cs)
      else
        let n : Int := ofDigits ds
        (if negative then -n else n, unsigned.dropWhile Char.isDigit)
    else (0, cs)
  | [] => (0, [])

/-- The longest unsigned decimal at the front, correctly rounded, and the rest. -/
def scanDecimal (cs : List Char) : Option (Magnitude × List Char) :=
  let whole := cs.takeWhile Char.isDigit
  let (fraction, afterFraction) := scanFraction (cs.dropWhile Char.isDigit)
  let (exponent, rest) := scanExponent afterFraction
  if whole.isEmpty ∧ fraction.isEmpty then none
  else some (.ofDecimal (ofDigits (whole ++ fraction)) (exponent - fraction.length), rest)

/-- What follows the word `Infinity`, if the text begins with it. -/
def dropInfinity (cs : List Char) : Option (List Char) :=
  let word := "Infinity".toList
  if word.isPrefixOf cs then some (cs.drop word.length) else none

/-- The longest unsigned number at the front and the rest. -/
def scanUnsigned (cs : List Char) : Option (Magnitude × List Char) :=
  match dropInfinity cs with
  | some rest => some (.infinity, rest)
  | none => scanDecimal cs

/-- The longest number with an optional sign at the front and the rest. -/
def scan (cs : List Char) : Option (Binary64 × List Char) :=
  let (negative, unsigned) := splitSign cs
  (scanUnsigned unsigned).map fun (m, rest) => (.signed negative m, rest)

inductive Radix
  | hexadecimal
  | octal
  | binary
deriving DecidableEq

namespace Radix

def base : Radix → Nat
  | hexadecimal => 16
  | octal => 8
  | binary => 2

/-- The radix that a letter announces after a leading zero. -/
def ofLetter? (c : Char) : Option Radix :=
  if c = 'x' ∨ c = 'X' then some .hexadecimal
  else if c = 'o' ∨ c = 'O' then some .octal
  else if c = 'b' ∨ c = 'B' then some .binary
  else none

end Radix

def hexDigit? (c : Char) : Option Nat :=
  if '0' ≤ c ∧ c ≤ '9' then some (c.toNat - '0'.toNat)
  else if 'a' ≤ c ∧ c ≤ 'f' then some (c.toNat - 'a'.toNat + 10)
  else if 'A' ≤ c ∧ c ≤ 'F' then some (c.toNat - 'A'.toNat + 10)
  else none

def Radix.digit? (radix : Radix) (c : Char) : Option Nat :=
  (hexDigit? c).filter (· < radix.base)

/-- Takes one more digit into a number. -/
def Radix.push (radix : Radix) (acc : Magnitude) (digit : Nat) : Magnitude :=
  -- Each step rounds, so beyond 53 bits the sum need not be the one nearest to the whole.
  (acc.scale radix.base).addNat digit

def radixLiteral? : List Char → Option Magnitude
  | '0' :: letter :: ds => do
    let radix ← Radix.ofLetter? letter
    if ds.isEmpty then none
    else ds.foldlM (fun acc c => (radix.digit? c).map (radix.push acc)) .zero
  | _ => none

/-- The number that a text is from end to end, blanks aside; a blank text is zero. -/
def literal? (text : String) : Option Binary64 :=
  let cs := Text.trim text.toList
  if cs.isEmpty then some .zero
  else match radixLiteral? cs with
    | some m => some (.signed false m)
    | none => match scan cs with
      | some (x, []) => some x
      | _ => none

/-- The longest number at the front of a text, leading blanks aside. -/
def leading? (text : String) : Option Binary64 :=
  (scan (Text.dropBlanks text.toList)).map (·.1)

end Rulebook.Numeral
