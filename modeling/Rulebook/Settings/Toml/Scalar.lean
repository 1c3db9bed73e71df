import Rulebook.Binary64
import Rulebook.Numeral

/-! # Scalars in TOML

Integers in four radices, and numbers with a fraction or an exponent; underscores may stand between
two digits. Dates, times of day, or both with an optional offset from universal time; settings keep
the canonical text of these.
-/

namespace Rulebook.Toml

/-- Digits of a radix without the underscores between them. -/
def digits? (isDigit : Char → Bool) (cs : List Char) : Option (List Char) :=
  let groups := cs.foldr (fun c groups => match groups with
    | group :: groups => if c = '_' then [] :: group :: groups else (c :: group) :: groups
    | [] => [[c]]) [[]]
  if groups.all fun group => !group.isEmpty && group.all isDigit then some groups.flatten
  else none

/-- An unsigned decimal integer, which does not begin with a needless zero. -/
def decimal? (cs : List Char) : Option Nat := do
  let ds ← digits? Char.isDigit cs
  if 1 < ds.length ∧ ds.head? = some '0' then none else some (Numeral.ofDigits ds)

def radixInteger? (radix : Numeral.Radix) (cs : List Char) : Option Nat := do
  let ds ← digits? (fun c => (radix.digit? c).isSome) cs
  ds.foldlM (fun n c => (radix.digit? c).map (n * radix.base + ·)) 0

def integer? : List Char → Option Int
  | '0' :: 'x' :: cs => (radixInteger? .hexadecimal cs).map Int.ofNat
  | '0' :: 'o' :: cs => (radixInteger? .octal cs).map Int.ofNat
  | '0' :: 'b' :: cs => (radixInteger? .binary cs).map Int.ofNat
  | '+' :: cs => (decimal? cs).map Int.ofNat
  | '-' :: cs => (decimal? cs).map fun n => -(n : Int)
  | cs => (decimal? cs).map Int.ofNat

/-- A number with a fraction, an exponent or both. It must not be too large. -/
def float? (cs : List Char) : Option Binary64 := do
  let (negative, unsigned) := Numeral.splitSign cs
  let word := String.ofList unsigned
  if word = "inf" then return .infinity negative
  if word = "nan" then return .nan
  let (mantissa, exponent) := unsigned.span fun c => c ≠ 'e' && c ≠ 'E'
  let (whole, fraction) := mantissa.span (· ≠ '.')
  let _ ← decimal? whole
  let fraction ← match fraction with
    | [] => some []
    | _ :: fraction => (digits? Char.isDigit fraction).map ('.' :: ·)
  let exponent ← match exponent with
    | [] => some []
    | mark :: exponent =>
      let (sign, ds) := Numeral.splitSign exponent
      (digits? Char.isDigit ds).map fun ds => mark :: (if sign then '-' else '+') :: ds
  let (m, _) ← Numeral.scanDecimal ((← digits? Char.isDigit whole) ++ fraction ++ exponent)
  if m.isFinite then some (.signed negative m) else none

structure Date where
  year : Nat
  month : Nat
  day : Nat
deriving DecidableEq

structure Time where
  hour : Nat
  minute : Nat
  second : Nat := 0
  /-- The digits behind the point of the second, nine at most. -/
  fraction : List Char := []
deriving DecidableEq

inductive Offset
  | zulu
  | minutes (count : Int)
deriving DecidableEq

def digitsAt? (width : Nat) (cs : List Char) : Option (Nat × List Char) :=
  let ds := cs.take width
  if ds.length = width ∧ ds.all Char.isDigit then some (Numeral.ofDigits ds, cs.drop width)
  else none

namespace Date

def isLeapYear (year : Nat) : Bool := year % 4 = 0 && (year % 100 ≠ 0 || year % 400 = 0)

def monthLength (year month : Nat) : Nat :=
  if month = 2 then if isLeapYear year then 29 else 28
  else if [4, 6, 9, 11].contains month then 30 else 31

def scan (cs : List Char) : Option (Date × List Char) := do
  let (year, '-' :: rest) ← digitsAt? 4 cs | none
  let (month, '-' :: rest) ← digitsAt? 2 rest | none
  let (day, rest) ← digitsAt? 2 rest
  if 1 ≤ month ∧ month ≤ 12 ∧ 1 ≤ day ∧ day ≤ monthLength year month then
    some (⟨year, month, day⟩, rest)
  else none

end Date

def scanClock (cs : List Char) : Option (Nat × Nat × List Char) := do
  let (hour, ':' :: rest) ← digitsAt? 2 cs | none
  let (minute, rest) ← digitsAt? 2 rest
  if hour < 24 ∧ minute < 60 then some (hour, minute, rest) else none

namespace Time

/-- A time of day. The second may be left out, and 60 is a leap second. -/
def scan (cs : List Char) : Option (Time × List Char) := do
  let (hour, minute, rest) ← scanClock cs
  match rest with
  | ':' :: rest =>
    let (second, rest) ← digitsAt? 2 rest
    if 60 < second then none
    else match rest with
      | '.' :: rest =>
        let ds := rest.takeWhile Char.isDigit
        if ds.isEmpty then none
        else some (⟨hour, minute, second, ds.take 9⟩, rest.dropWhile Char.isDigit)
      | rest => some (⟨hour, minute, second, []⟩, rest)
  | rest => some (⟨hour, minute, 0, []⟩, rest)

end Time

namespace Offset

def scan : List Char → Option (Offset × List Char)
  | 'Z' :: rest | 'z' :: rest => some (zulu, rest)
  | '+' :: cs => (scanClock cs).map fun (h, m, rest) => (minutes (h * 60 + m : Nat), rest)
  | '-' :: cs => (scanClock cs).map fun (h, m, rest) => (minutes (-(h * 60 + m : Nat)), rest)
  | _ => none

end Offset

structure Moment where
  date : Option Date := none
  time : Option Time := none
  offset : Option Offset := none
deriving DecidableEq

namespace Moment

def ofList? (cs : List Char) : Option Moment :=
  match Date.scan cs with
  | none => match Time.scan cs with
    | some (time, []) => some { time := some time }
    | _ => none
  | some (date, []) => some { date := some date }
  | some (date, separator :: rest) =>
    if separator = 'T' ∨ separator = 't' ∨ separator = ' ' then
      match Time.scan rest with
      | some (time, []) => some { date := some date, time := some time }
      | some (time, rest) => match Offset.scan rest with
        | some (offset, []) => some ⟨some date, some time, some offset⟩
        | _ => none
      | none => none
    else none

def padded (width n : Nat) : String :=
  let ds := toString n
  String.ofList (List.replicate (width - ds.length) '0') ++ ds

def dateText (d : Date) : String :=
  padded 4 d.year ++ "-" ++ padded 2 d.month ++ "-" ++ padded 2 d.day

def timeText (t : Time) : String :=
  let ds := (t.fraction.reverse.dropWhile (· = '0')).reverse
  padded 2 t.hour ++ ":" ++ padded 2 t.minute ++ ":" ++ padded 2 t.second ++
    if ds.isEmpty then "" else "." ++ String.ofList ds

def offsetText : Offset → String
  | .zulu => "Z"
  | .minutes n => (if n < 0 then "-" else "+") ++ padded 2 (n.natAbs / 60) ++ ":" ++
      padded 2 (n.natAbs % 60)

def text (m : Moment) : String :=
  (m.date.map dateText).getD "" ++ (if m.date.isSome && m.time.isSome then "T" else "") ++
    (m.time.map timeText).getD "" ++ (m.offset.map offsetText).getD ""

end Moment

end Rulebook.Toml
