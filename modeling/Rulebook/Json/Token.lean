import Rulebook.Json.Number

/-! # Tokens of a JSON document

A document arrives as symbols: its characters, and a gap for every byte that belongs to no
character. Gaps may stand inside strings only, and a string with a gap can be passed over but
not read.
-/

namespace Rulebook.Json

/-- A character, or a gap. -/
abbrev Symbol := Option Char

def symbols (text : String) : List Symbol := text.toList.map some

inductive Token
  | openBrace
  | closeBrace
  | openBracket
  | closeBracket
  | comma
  | colon
  | null
  | bool (value : Bool)
  | number (numeral : Numeral)
  | text (content : List Symbol)

/-- The blanks of JSON: space, tab, line feed and carriage return. -/
def isSpace : Symbol → Bool
  | some c => c = ' ' || c = '\t' || c = '\n' || c = '\r'
  | none => false

def skipSpace (cs : List Symbol) : List Symbol := cs.dropWhile isSpace

def takeDigits : List Symbol → List Char × List Symbol
  | some c :: cs =>
    if c.isDigit then
      let (ds, rest) := takeDigits cs
      (c :: ds, rest)
    else ([], some c :: cs)
  | cs => ([], cs)

namespace Numeral

/-- The whole part: a lone zero, or digits that do not begin with zero. -/
def scanWhole (cs : List Symbol) : Option (List Char × List Symbol) :=
  match takeDigits cs with
  | ([], _) => none
  | ('0' :: _ :: _, _) => none
  | (ds, rest) => some (ds, rest)

/-- The fraction: absent, or a point and at least one digit. -/
def scanFraction : List Symbol → Option (List Char × List Symbol)
  | some '.' :: cs => match takeDigits cs with
    | ([], _) => none
    | (ds, rest) => some (ds, rest)
  | cs => some ([], cs)

def scanSign : List Symbol → Bool × List Symbol
  | some '-' :: cs => (true, cs)
  | some '+' :: cs => (false, cs)
  | cs => (false, cs)

/-- The exponent: absent, or its mark, a sign at most and at least one digit. -/
def scanExponent (cs : List Symbol) : Option (Option (Bool × List Char) × List Symbol) :=
  match cs with
  | some c :: after =>
    if c = 'e' ∨ c = 'E' then
      let (negative, unsigned) := scanSign after
      match takeDigits unsigned with
      | ([], _) => none
      | (ds, rest) => some (some (negative, ds), rest)
    else some (none, cs)
  | _ => some (none, cs)

def scan (cs : List Symbol) : Option (Numeral × List Symbol) := do
  let (negative, unsigned) := match cs with
    | some '-' :: cs => (true, cs)
    | cs => (false, cs)
  let (whole, afterWhole) ← scanWhole unsigned
  let (fraction, afterFraction) ← scanFraction afterWhole
  let (exponent, rest) ← scanExponent afterFraction
  return (⟨negative, whole, fraction, exponent⟩, rest)

end Numeral

/-- What the letter behind a backslash stands for; `u` is not among them. -/
def unescape (c : Char) : Option Char :=
  if c = '"' ∨ c = '\\' ∨ c = '/' then some c
  else if c = 'b' then some '\x08'
  else if c = 'f' then some '\x0c'
  else if c = 'n' then some '\n'
  else if c = 'r' then some '\r'
  else if c = 't' then some '\t'
  else none

def codeUnit? (a b c d : Char) : Option Nat := do
  let a ← Rulebook.Numeral.hexDigit? a
  let b ← Rulebook.Numeral.hexDigit? b
  let c ← Rulebook.Numeral.hexDigit? c
  let d ← Rulebook.Numeral.hexDigit? d
  return ((a * 16 + b) * 16 + c) * 16 + d

/-- The code points of a string up to its closing quote, and the rest; a gap gives none. -/
def scanString (done : List (Option Nat)) : List Symbol → Option (List (Option Nat) × List Symbol)
  | [] => none
  | some '"' :: cs => some (done.reverse, cs)
  -- A surrogate can only come from an escape.
  | some '\\' :: some 'u' :: some a :: some b :: some c :: some d :: cs =>
    match codeUnit? a b c d with
    | some unit => scanString (some unit :: done) cs
    | none => none
  | some '\\' :: some e :: cs =>
    match unescape e with
    | some c => scanString (some c.toNat :: done) cs
    | none => none
  | some c :: cs =>
    if c = '\\' ∨ c.toNat < 0x20 then none else scanString (some c.toNat :: done) cs
  | none :: cs => scanString (none :: done) cs

def isHighSurrogate (n : Nat) : Bool := 0xd800 ≤ n && n ≤ 0xdbff

def isLowSurrogate (n : Nat) : Bool := 0xdc00 ≤ n && n ≤ 0xdfff

/-- A high surrogate and the low one after it form one character; a surrogate on its own is a
gap. -/
def joinSurrogates : List (Option Nat) → List Symbol
  | [] => []
  | some high :: some low :: rest =>
    if isHighSurrogate high && isLowSurrogate low then
      some (Char.ofNat (0x10000 + (high - 0xd800) * 0x400 + (low - 0xdc00))) :: joinSurrogates rest
    else symbol high :: joinSurrogates (some low :: rest)
  | some n :: rest => symbol n :: joinSurrogates rest
  | none :: rest => none :: joinSurrogates rest
where
  symbol (n : Nat) : Symbol :=
    if isHighSurrogate n || isLowSurrogate n then none else some (Char.ofNat n)

namespace Token

/-- The rest behind a word that the document must continue with. -/
def dropWord (word : String) (cs : List Symbol) : Option (List Symbol) :=
  let expected := symbols word
  if expected.isPrefixOf cs then some (cs.drop expected.length) else none

/-- The first token and the rest, if the document goes on with a token. -/
def next? (cs : List Symbol) : Option (Token × List Symbol) :=
  match skipSpace cs with
  | some '\x7b' :: rest => some (openBrace, rest)
  | some '\x7d' :: rest => some (closeBrace, rest)
  | some '[' :: rest => some (openBracket, rest)
  | some ']' :: rest => some (closeBracket, rest)
  | some ',' :: rest => some (comma, rest)
  | some ':' :: rest => some (colon, rest)
  | some '"' :: rest => (scanString [] rest).map fun (content, rest) =>
      (text (joinSurrogates content), rest)
  | some 'n' :: rest => (dropWord "ull" rest).map (null, ·)
  | some 't' :: rest => (dropWord "rue" rest).map (bool true, ·)
  | some 'f' :: rest => (dropWord "alse" rest).map (bool false, ·)
  | cs => (Numeral.scan cs).map fun (numeral, rest) => (number numeral, rest)

end Token

section Lengths

theorem length_skipSpace_le (cs : List Symbol) : (skipSpace cs).length ≤ cs.length :=
  (List.dropWhile_sublist _).length_le

theorem length_takeDigits (cs : List Symbol) :
    (takeDigits cs).1.length + (takeDigits cs).2.length = cs.length := by
  fun_induction takeDigits cs with
  | case1 c cs h ds rest hd ih =>
    simp only [hd] at ih
    simp only [List.length_cons]
    omega
  | case2 => simp
  | case3 => simp

theorem length_lt_of_takeDigits {cs rest : List Symbol} {d : Char} {ds : List Char}
    (h : takeDigits cs = (d :: ds, rest)) : rest.length < cs.length := by
  have := length_takeDigits cs
  simp only [h, List.length_cons] at this
  omega

theorem Numeral.length_lt_of_scanWhole {cs rest : List Symbol} {ds : List Char}
    (h : scanWhole cs = some (ds, rest)) : rest.length < cs.length := by
  unfold scanWhole at h
  split at h
  · simp at h
  · simp at h
  · rename_i hne _ hd
    cases h
    cases ds with
    | nil => exact absurd rfl hne
    | cons => exact length_lt_of_takeDigits hd

theorem Numeral.length_le_of_scanFraction {cs rest : List Symbol} {ds : List Char}
    (h : scanFraction cs = some (ds, rest)) : rest.length ≤ cs.length := by
  unfold scanFraction at h
  split at h
  · rename_i cs
    split at h
    · simp at h
    · rename_i hd
      cases h
      have := length_takeDigits cs
      simp only [hd] at this
      simp only [List.length_cons]
      omega
  · cases h
    exact Nat.le_refl _

theorem Numeral.length_scanSign_le (cs : List Symbol) : (scanSign cs).2.length ≤ cs.length := by
  unfold scanSign
  split <;> simp

theorem Numeral.length_le_of_scanExponent {cs rest : List Symbol} {e : Option (Bool × List Char)}
    (h : scanExponent cs = some (e, rest)) : rest.length ≤ cs.length := by
  unfold scanExponent at h
  split at h
  · rename_i c after
    have hs := length_scanSign_le after
    have hd := length_takeDigits (scanSign after).2
    grind
  · grind

theorem Numeral.length_lt_of_scan {cs rest : List Symbol} {n : Numeral}
    (h : scan cs = some (n, rest)) : rest.length < cs.length := by
  unfold scan at h
  simp only [bind, Option.bind_eq_some_iff, pure] at h
  obtain ⟨⟨whole, r₁⟩, h₁, ⟨fraction, r₂⟩, h₂, ⟨exponent, r₃⟩, h₃, h⟩ := h
  cases h
  have h₁ := length_lt_of_scanWhole h₁
  have h₂ := length_le_of_scanFraction h₂
  have h₃ := length_le_of_scanExponent h₃
  split at h₁ <;> simp only [List.length_cons] at * <;> omega

theorem length_lt_of_scanString {cs rest : List Symbol} {done content : List (Option Nat)}
    (h : scanString done cs = some (content, rest)) : rest.length < cs.length := by
  fun_induction scanString done cs
  case case1 => simp at h
  all_goals simp only [List.length_cons]
  all_goals grind

theorem Token.length_le_of_dropWord {word : String} {cs rest : List Symbol}
    (h : dropWord word cs = some rest) : rest.length ≤ cs.length := by
  unfold dropWord at h
  grind

theorem Token.length_lt_of_next? {cs rest : List Symbol} {token : Token}
    (h : next? cs = some (token, rest)) : rest.length < cs.length := by
  have hs := length_skipSpace_le cs
  unfold next? at h
  split at h
  case h_11 =>
    obtain ⟨⟨numeral, r⟩, hr, h⟩ := Option.map_eq_some_iff.1 h
    cases h
    have := Numeral.length_lt_of_scan hr
    omega
  all_goals
    rename_i hc
    simp only [hc, List.length_cons] at hs
  case h_7 =>
    obtain ⟨⟨content, r⟩, hr, h⟩ := Option.map_eq_some_iff.1 h
    cases h
    have := length_lt_of_scanString hr
    omega
  case h_8 | h_9 | h_10 =>
    obtain ⟨r, hr, h⟩ := Option.map_eq_some_iff.1 h
    cases h
    have := length_le_of_dropWord hr
    omega
  all_goals
    cases h
    omega

end Lengths

end Rulebook.Json
