import Rulebook.Proofs.Lexing
import Rulebook.Proofs.Numeral.Prefixes

/-! # Numeric literals

A literal is blank, a whole number in another radix, or a number with at most one sign. A reader
of floats takes more texts than these; it is asked only about texts of the characters of decimals
that begin with a digit or a point.
-/

namespace Rulebook.Numeral

variable {cs ds t p mantissa whole fraction exponent : List Char} {c letter : Char} {m : Magnitude}
  {e : Int} {x : Binary64}

namespace Radix

variable {radix : Radix}

def letters : Radix → List Char
  | hexadecimal => ['x', 'X']
  | octal => ['o', 'O']
  | binary => ['b', 'B']

def digits : Radix → List Char
  | hexadecimal => "0123456789abcdefABCDEF".toList
  | octal => "01234567".toList
  | binary => "01".toList

def read (radix : Radix) (ds : List Char) : Magnitude :=
  (ds.filterMap radix.digit?).foldl radix.push .zero

theorem mem_letters_iff : letter ∈ radix.letters ↔ ofLetter? letter = some radix := by
  constructor
  · intro h
    cases radix <;> rcases List.mem_pair.mp h with rfl | rfl <;> rfl
  · intro h
    unfold ofLetter? at h
    split_ifs at h with hx ho hb <;> cases h
    · exact List.mem_pair.mpr hx
    · exact List.mem_pair.mpr ho
    · exact List.mem_pair.mpr hb

theorem toNat_le_of_hexDigit {v : Nat} (h : hexDigit? c = some v) : c.toNat ≤ 'f'.toNat := by
  unfold hexDigit? at h
  split_ifs at h with hdecimal hlower hupper
  · exact Nat.le_trans hdecimal.2 (by decide)
  · exact hlower.2
  · exact Nat.le_trans hupper.2 (by decide)

theorem mem_digits_iff : c ∈ radix.digits ↔ (radix.digit? c).isSome := by
  rcases Nat.lt_or_ge c.toNat 128 with hc | hc
  · -- ASCII is small enough to be gone through
    have hall : ∀ n < 128, Char.ofNat n ∈ radix.digits ↔ (radix.digit? (Char.ofNat n)).isSome := by
      cases radix <;> decide +kernel
    have := hall c.toNat hc
    rwa [Char.ofNat_toNat] at this
  · have hascii : radix.digits.all (·.toNat < 128) = true := by
      cases radix <;> decide
    constructor
    · intro h
      exact absurd (of_decide_eq_true (List.all_eq_true.mp hascii c h)) (Nat.not_lt.mpr hc)
    · intro h
      obtain ⟨v, hv⟩ := Option.isSome_iff_exists.mp h
      have := toNat_le_of_hexDigit (Option.filter_eq_some_iff.mp hv).1
      exact absurd (Nat.lt_of_le_of_lt this (by decide)) (Nat.not_lt.mpr hc)

theorem foldlM_push_eq_some_iff {acc m : Magnitude} :
    ds.foldlM (fun acc c => (radix.digit? c).map (radix.push acc)) acc = some m ↔
      (∀ c ∈ ds, c ∈ radix.digits) ∧ m = (ds.filterMap radix.digit?).foldl radix.push acc := by
  induction ds generalizing acc with
  | nil => simp [eq_comm]
  | cons c ds ih =>
    rw [List.foldlM_cons, List.forall_mem_cons, mem_digits_iff]
    cases hc : radix.digit? c with
    | none => simp
    | some v => simp [hc, ih]

end Radix

section Grammar

inductive IsLiteral : List Char → Binary64 → Prop
  | blank : IsLiteral [] .zero
  | radix {radix : Radix} {letter : Char} {ds : List Char} : letter ∈ radix.letters → ds ≠ [] →
      (∀ c ∈ ds, c ∈ radix.digits) → IsLiteral ('0' :: letter :: ds) (.signed false (radix.read ds))
  | number {cs : List Char} {x : Binary64} : Denotes cs x → IsLiteral cs x

def isDecimalChar (c : Char) : Bool :=
  c.isDigit || c == '.' || c == 'e' || c == 'E' || c == '+' || c == '-'

theorem isDecimalChar_of_digit (h : c.isDigit = true) : isDecimalChar c = true := by
  simp [isDecimalChar, h]

theorem Mantissa.forall_isDecimalChar (h : Mantissa mantissa whole fraction) :
    ∀ c ∈ mantissa, isDecimalChar c = true := by
  cases h with
  | whole _ hds => exact fun c hc => isDecimalChar_of_digit (hds c hc)
  | point hwhole hfraction _ =>
    intro c hc
    rcases List.mem_append.mp hc with hc | hc
    · exact isDecimalChar_of_digit (hwhole c hc)
    · rcases List.mem_cons.mp hc with rfl | hc
      · rfl
      · exact isDecimalChar_of_digit (hfraction c hc)

theorem Sign.forall_isDecimalChar {sign : List Char} {negative : Bool} (h : Sign sign negative) :
    ∀ c ∈ sign, isDecimalChar c = true := by
  cases h <;> simp [isDecimalChar]

theorem Exponent.forall_isDecimalChar (h : Exponent exponent e) :
    ∀ c ∈ exponent, isDecimalChar c = true := by
  cases h with
  | none => nofun
  | marked hmark hsign _ hds =>
    intro c hc
    rcases List.mem_cons.mp hc with rfl | hc
    · rcases hmark with rfl | rfl <;> rfl
    · rcases List.mem_append.mp hc with hc | hc
      · exact hsign.forall_isDecimalChar c hc
      · exact isDecimalChar_of_digit (hds c hc)

theorem DenotesDecimal.forall_isDecimalChar (h : DenotesDecimal p m) :
    ∀ c ∈ p, isDecimalChar c = true := by
  obtain ⟨hmantissa, hexponent, -⟩ := h
  intro c hc
  rcases List.mem_append.mp hc with hc | hc
  · exact hmantissa.forall_isDecimalChar c hc
  · exact hexponent.forall_isDecimalChar c hc

theorem Denotes.forall_char (h : Denotes t x) :
    ∀ c ∈ t, isDecimalChar c = true ∨ c ∈ "Infinity".toList := by
  obtain ⟨hsign, hunsigned⟩ := h
  intro c hc
  rcases List.mem_append.mp hc with hc | hc
  · exact .inl (hsign.forall_isDecimalChar c hc)
  · cases hunsigned with
    | infinity => exact .inr hc
    | decimal h => exact .inl (h.forall_isDecimalChar c hc)

theorem not_denotes_nil : ¬ Denotes [] x := by
  intro h
  have hscan : scan [] = none := rfl
  exact nomatch hscan.symm.trans (scan_eq_nil_iff.mpr h)

theorem not_denotes_of_letter {radix : Radix} (h : letter ∈ radix.letters) :
    ¬ Denotes ('0' :: letter :: ds) x := by
  intro hx
  have hletter := hx.forall_char letter (by simp)
  cases radix <;> rcases List.mem_pair.mp h with rfl | rfl <;> exact absurd hletter (by decide)

theorem radixLiteral?_eq_some_iff : radixLiteral? cs = some m ↔
    ∃ (radix : Radix) (letter : Char) (ds : List Char), cs = '0' :: letter :: ds ∧
      letter ∈ radix.letters ∧ ds ≠ [] ∧ (∀ c ∈ ds, c ∈ radix.digits) ∧ m = radix.read ds := by
  constructor
  · intro h
    unfold radixLiteral? at h
    split at h
    · next letter ds =>
      simp only [Option.bind_eq_bind, Option.bind_eq_some_iff, List.isEmpty_iff] at h
      obtain ⟨radix, hletter, h⟩ := h
      split_ifs at h with hds
      obtain ⟨hdigits, hm⟩ := Radix.foldlM_push_eq_some_iff.mp h
      exact ⟨radix, letter, ds, rfl, Radix.mem_letters_iff.mpr hletter, hds, hdigits, hm⟩
    · cases h
  · rintro ⟨radix, letter, ds, rfl, hletter, hds, hdigits, rfl⟩
    rw [radixLiteral?, Radix.mem_letters_iff.mp hletter, Option.bind_eq_bind, Option.bind_some,
      if_neg (by simpa using hds)]
    exact Radix.foldlM_push_eq_some_iff.mpr ⟨hdigits, rfl⟩

/-- A text is recognised as a literal just if it is one, blanks at both ends aside. -/
theorem literal?_eq_some_iff {text : String} :
    literal? text = some x ↔ IsLiteral (Text.trim text.toList) x := by
  unfold literal?
  generalize Text.trim text.toList = t
  simp only [List.isEmpty_iff]
  by_cases hblank : t = []
  · subst hblank
    rw [if_pos rfl, Option.some.injEq]
    constructor
    · rintro rfl
      exact .blank
    · rintro (_ | _ | h)
      · rfl
      · exact absurd h not_denotes_nil
  · rw [if_neg hblank]
    cases hradix : radixLiteral? t with
    | some m =>
      obtain ⟨radix, letter, ds, rfl, hletter, hds, hdigits, rfl⟩ :=
        radixLiteral?_eq_some_iff.mp hradix
      rw [Option.some.injEq]
      -- What is read in another radix is no number, so the readings never compete.
      constructor
      · rintro rfl
        exact .radix hletter hds hdigits
      · rintro (_ | ⟨hletter', hds', hdigits'⟩ | h)
        · have hother := radixLiteral?_eq_some_iff.mpr
            ⟨_, letter, ds, rfl, hletter', hds', hdigits', rfl⟩
          rw [hradix] at hother
          rw [Option.some.inj hother]
        · exact absurd h (not_denotes_of_letter hletter)
    | none =>
      have hliteral : IsLiteral t x ↔ scan t = some (x, []) := by
        rw [scan_eq_nil_iff]
        constructor
        · rintro (_ | ⟨hletter, hds, hdigits⟩ | h)
          · exact absurd rfl hblank
          · have hother := radixLiteral?_eq_some_iff.mpr
              ⟨_, _, _, rfl, hletter, hds, hdigits, rfl⟩
            exact nomatch hradix.symm.trans hother
          · exact h
        · exact .number
      rw [hliteral]
      rcases scan t with _ | ⟨y, _ | ⟨c, rest⟩⟩ <;> simp

theorem not_blank_of_isDecimalChar (h : isDecimalChar c = true) : Text.isBlank c = false := by
  simp only [isDecimalChar, Bool.or_eq_true, beq_iff_eq] at h
  rcases h with ((((h | rfl) | rfl) | rfl) | rfl) | rfl
  · obtain ⟨hlo, hhi⟩ := isDigit_iff.mp h
    refine Text.not_blank_of_le ?_ ?_
    · exact Nat.le_trans (by decide) hlo
    · exact Nat.le_trans hhi (by decide)
  all_goals rfl

theorem Denotes.not_blank (h : Denotes t x) : ∀ c ∈ t, Text.isBlank c = false := by
  intro c hc
  rcases h.forall_char c hc with h | h
  · exact not_blank_of_isDecimalChar h
  · have hword : "Infinity".toList.all (!Text.isBlank ·) = true := rfl
    simpa using List.all_eq_true.mp hword c h

theorem literal?_of_denotes {text : String} (h : Denotes text.toList x) :
    literal? text = some x := by
  rw [literal?_eq_some_iff, Text.trim_of_not_blank h.not_blank]
  exact .number h

end Grammar

section Filters

def radixAt? (bytes : List UInt8) (i : Nat) : Option Radix :=
  if isAt bytes i 'x' ∨ isAt bytes i 'X' then some .hexadecimal
  else if isAt bytes i 'o' ∨ isAt bytes i 'O' then some .octal
  else if isAt bytes i 'b' ∨ isAt bytes i 'B' then some .binary
  else none

theorem Boundary.radixAt? {i : Nat} (h : Boundary cs i (c :: t)) :
    radixAt? (utf8 cs) i = Radix.ofLetter? c := by
  unfold Numeral.radixAt? Radix.ofLetter?
  simp only [h.isAt_iff (a := 'x') (by decide), h.isAt_iff (a := 'X') (by decide),
    h.isAt_iff (a := 'o') (by decide), h.isAt_iff (a := 'O') (by decide),
    h.isAt_iff (a := 'b') (by decide), h.isAt_iff (a := 'B') (by decide), List.head?_cons,
    Option.some.injEq]

/-- A whole number in another radix by its first two bytes; a cut character gives no outcome. -/
def radixInBytes (cs : List Char) : Option (Option Magnitude) :=
  let bytes := utf8 cs
  if bytes.length < 3 ∨ ¬ isAt bytes 0 '0' then some none
  else match radixAt? bytes 1 with
    | none => some none
    | some radix => (splitAtByte? cs 2).map fun (_, ds) =>
      ds.foldlM (fun acc c => (radix.digit? c).map (radix.push acc)) .zero

/-- A number without its sign, if its characters pass the filter in front of the reader of
floats. -/
def unsignedLiteral (negative : Bool) (cs : List Char) : Option Binary64 :=
  if cs = "Infinity".toList then some (.infinity negative)
  else if cs.all isDecimalChar ∧ cs.head?.any fun c => c.isDigit || c == '.' then
    (float? cs).map (withSign negative)
  else none

/-- The literal that is left by all filters; a cut character gives no outcome. -/
def filteredLiteral (text : String) : Option (Option Binary64) :=
  let t := Text.trim text.toList
  if t = [] then some (some .zero)
  else (radixInBytes t).map fun
    | some m => some (.signed false m)
    | none => unsignedLiteral (splitSign t).1 (splitSign t).2

theorem radixInBytes_eq (cs : List Char) : radixInBytes cs = some (radixLiteral? cs) := by
  unfold radixInBytes
  simp only [(boundary_zero cs).isAt_iff (a := '0') (by decide)]
  by_cases hzero : cs.head? = some '0'
  · obtain ⟨rest, rfl⟩ := List.head?_eq_some_iff.mp hzero
    have hone : Boundary ('0' :: rest) 1 rest := (boundary_zero _).succ (by decide)
    cases rest with
    | nil => rfl
    | cons letter ds =>
      rw [hone.radixAt?, radixLiteral?]
      cases hletter : Radix.ofLetter? letter with
      | none => simp
      | some radix =>
        have hascii : letter.toNat < 128 := by
          have hmem := Radix.mem_letters_iff.mpr hletter
          cases radix <;> rcases List.mem_pair.mp hmem with rfl | rfl <;> decide
        have hbytes (tail : List Char) :
            utf8 ('0' :: letter :: tail) = byteOf '0' :: byteOf letter :: utf8 tail := by
          rw [utf8_cons_ascii (by decide), utf8_cons_ascii hascii]
        have hslice : splitAtByte? ('0' :: letter :: ds) 2 = some (['0', letter], ds) := by
          have := splitAtByte?_append ['0', letter] ds
          rwa [hbytes []] at this
        have hlength : (utf8 ('0' :: letter :: ds)).length < 3 ↔ ds = [] := by
          have := length_le_length_utf8 ds
          rw [hbytes ds, List.length_cons, List.length_cons]
          constructor
          · intro h
            exact List.eq_nil_of_length_eq_zero (by omega)
          · rintro rfl
            decide
        simp only [hlength, List.isEmpty_iff, hslice, Option.bind_eq_bind, Option.bind_some]
        by_cases hds : ds = []
        · simp [hds]
        · simp [hds]
  · have hnone : radixLiteral? cs = none := by
      unfold radixLiteral?
      split
      · exact absurd rfl hzero
      · rfl
    rw [if_pos (.inr (by simpa using hzero)), hnone]

theorem denotes_iff_splitSign :
    Denotes t x ↔ ∃ m, DenotesUnsigned (splitSign t).2 m ∧ x = .signed (splitSign t).1 m := by
  constructor
  · rintro ⟨hsign, hm⟩
    have hhead := hm.head?_ne []
    rw [List.append_nil] at hhead
    rw [splitSign_append hsign hhead]
    exact ⟨_, hm, rfl⟩
  · rintro ⟨m, hm, rfl⟩
    obtain ⟨sign, ht, hsign⟩ := exists_sign_of_splitSign Prod.mk.eta.symm
    have := Denotes.signed hsign hm
    rwa [← ht] at this

theorem denotesUnsigned_infinity_iff : DenotesUnsigned "Infinity".toList m ↔ m = .infinity := by
  constructor
  · rintro (_ | h)
    · rfl
    · obtain ⟨c, tail, hcs, hc⟩ := h.exists_cons
      obtain ⟨rfl, -⟩ := List.cons.inj hcs
      rcases hc with hc | hc <;> exact absurd hc (by decide)
  · rintro rfl
    exact .infinity

theorem denotesUnsigned_iff_decimal (hword : cs ≠ "Infinity".toList) :
    DenotesUnsigned cs m ↔ DenotesDecimal cs m := by
  constructor
  · rintro (_ | h)
    · exact absurd rfl hword
    · exact h
  · exact .decimal

theorem unsignedLiteral_eq_some_iff {negative : Bool} :
    unsignedLiteral negative cs = some x ↔ ∃ m, DenotesUnsigned cs m ∧ x = .signed negative m := by
  unfold unsignedLiteral
  by_cases hword : cs = "Infinity".toList
  · subst hword
    simp only [if_true, denotesUnsigned_infinity_iff, exists_eq_left, Option.some.injEq]
    exact eq_comm
  simp only [denotesUnsigned_iff_decimal hword, if_neg hword]
  split
  · next hfilters =>
    obtain ⟨c, hcs, hc⟩ := (Option.any_eq_true _ _).mp hfilters.2
    obtain ⟨tail, rfl⟩ := List.head?_eq_some_iff.mp hcs
    rw [float?_cons (by simpa using hc)]
    simp only [← scanDecimal_eq_nil_iff]
    rcases scanDecimal (c :: tail) with _ | ⟨m, _ | ⟨d, ds⟩⟩ <;> simp [withSign, eq_comm]
  · next hfilters =>
    constructor
    · intro h
      cases h
    · rintro ⟨m, hm, rfl⟩
      refine absurd ⟨List.all_eq_true.mpr hm.forall_isDecimalChar, ?_⟩ hfilters
      obtain ⟨c, tail, rfl, hc⟩ := hm.exists_cons
      simpa using hc

/-- The filters together come to the same as the scan. -/
theorem filteredLiteral_eq (text : String) : filteredLiteral text = some (literal? text) := by
  unfold filteredLiteral
  by_cases hblank : Text.trim text.toList = []
  · rw [if_pos hblank, literal?, hblank]
    rfl
  · rw [if_neg hblank, radixInBytes_eq, Option.map_some, literal?]
    generalize Text.trim text.toList = t at hblank
    simp only [List.isEmpty_iff, if_neg hblank]
    cases radixLiteral? t with
    | some m => rfl
    | none =>
      congr 1
      refine Option.ext fun x => ?_
      rw [unsignedLiteral_eq_some_iff, ← denotes_iff_splitSign, ← scan_eq_nil_iff]
      rcases scan t with _ | ⟨y, _ | ⟨c, rest⟩⟩ <;> simp

end Filters

/-- Just the literals are recognised, each with its value, by the scan as by the filters. -/
theorem literal_accepts_grammar (text : String) :
    (∀ x, literal? text = some x ↔ IsLiteral (Text.trim text.toList) x) ∧
      filteredLiteral text = some (literal? text) :=
  ⟨fun _ => literal?_eq_some_iff, filteredLiteral_eq text⟩

end Rulebook.Numeral
