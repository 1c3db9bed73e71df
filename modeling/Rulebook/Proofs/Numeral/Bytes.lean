import Rulebook.Proofs.Numeral.Scanning

/-! # Numbers in bytes

In UTF-8 no byte of a longer character is one of ASCII. A scan for digits, points, signs and
exponent marks that goes from byte to byte therefore never stops inside a character, and it stops
where the scan of the characters does.
-/

namespace Rulebook.Numeral

variable {cs post rest : List Char} {a c : Char} {i : Nat} {m : Magnitude}

section Offsets

def utf8 (cs : List Char) : List UInt8 := cs.flatMap String.utf8EncodeChar

/-- What lies before and behind a byte offset, unless that is inside a character or too large. -/
def splitAtByte? : List Char → Nat → Option (List Char × List Char)
  | cs, 0 => some ([], cs)
  | [], _ + 1 => none
  | c :: cs, n + 1 =>
    if c.utf8Size ≤ n + 1 then
      (splitAtByte? cs (n + 1 - c.utf8Size)).map fun (front, back) => (c :: front, back)
    else none

@[simp] theorem utf8_nil : utf8 [] = [] := by rw [utf8, List.flatMap_nil]

@[simp] theorem utf8_cons : utf8 (c :: cs) = String.utf8EncodeChar c ++ utf8 cs :=
  List.flatMap_cons

@[simp] theorem utf8_append : utf8 (cs ++ rest) = utf8 cs ++ utf8 rest := List.flatMap_append

theorem length_le_length_utf8 (cs : List Char) : cs.length ≤ (utf8 cs).length := by
  induction cs with
  | nil => exact le_rfl
  | cons c cs ih =>
    have := c.utf8Size_pos
    simp only [utf8_cons, List.length_append, String.length_utf8EncodeChar, List.length_cons]
    omega

theorem splitAtByte?_append (front back : List Char) :
    splitAtByte? (front ++ back) (utf8 front).length = some (front, back) := by
  induction front with
  | nil => cases back <;> rfl
  | cons c front ih =>
    have hsize : 0 < c.utf8Size := c.utf8Size_pos
    rw [utf8_cons, List.length_append, String.length_utf8EncodeChar, List.cons_append]
    obtain ⟨n, hn⟩ : ∃ n, c.utf8Size + (utf8 front).length = n + 1 :=
      ⟨_, (Nat.succ_pred (by omega)).symm⟩
    rw [hn, splitAtByte?, if_pos (by omega), ← hn, Nat.add_sub_cancel_left, ih]
    rfl

def byteOf (c : Char) : UInt8 := UInt8.ofNat c.toNat

theorem utf8EncodeChar_ascii (h : c.toNat < 128) : String.utf8EncodeChar c = [byteOf c] := by
  have hle : c.val.toNat ≤ 127 := Nat.le_of_lt_succ h
  simp only [String.utf8EncodeChar, if_pos hle]
  rfl

theorem utf8_cons_ascii (h : c.toNat < 128) : utf8 (c :: cs) = byteOf c :: utf8 cs := by
  rw [utf8_cons, utf8EncodeChar_ascii h, List.singleton_append]

theorem exists_utf8EncodeChar (h : 128 ≤ c.toNat) :
    ∃ b bs, String.utf8EncodeChar c = b :: bs ∧ 128 ≤ b.toNat := by
  have hgt : ¬ c.val.toNat ≤ 127 := Nat.not_le_of_gt h
  simp only [String.utf8EncodeChar, if_neg hgt]
  split
  · exact ⟨_, _, rfl, by simp; omega⟩
  · split
    · exact ⟨_, _, rfl, by simp; omega⟩
    · exact ⟨_, _, rfl, by simp; omega⟩

theorem toNat_byteOf (h : c.toNat < 128) : (byteOf c).toNat = c.toNat := by
  simp [byteOf]
  omega

theorem head?_utf8_eq_iff (h : a.toNat < 128) :
    (utf8 cs).head? = some (byteOf a) ↔ cs.head? = some a := by
  cases cs with
  | nil => simp
  | cons c cs =>
    rcases Nat.lt_or_ge c.toNat 128 with hc | hc
    · simp only [utf8_cons, utf8EncodeChar_ascii hc, List.cons_append, List.head?_cons,
        Option.some.injEq]
      constructor
      · intro heq
        have := congrArg UInt8.toNat heq
        rw [toNat_byteOf hc, toNat_byteOf h] at this
        exact Char.toNat_inj.mp this
      · rintro rfl
        rfl
    · obtain ⟨b, bs, hbytes, hb⟩ := exists_utf8EncodeChar hc
      simp only [utf8_cons, hbytes, List.cons_append, List.head?_cons, Option.some.injEq]
      constructor
      · rintro rfl
        rw [toNat_byteOf h] at hb
        omega
      · rintro rfl
        omega

def isDigitByte (b : UInt8) : Bool := byteOf '0' ≤ b && b ≤ byteOf '9'

theorem isDigit_iff : c.isDigit = true ↔ 48 ≤ c.toNat ∧ c.toNat ≤ 57 := by
  simp [Char.isDigit, UInt32.le_iff_toNat_le]

theorem isDigitByte_iff {b : UInt8} : isDigitByte b = true ↔ 48 ≤ b.toNat ∧ b.toNat ≤ 57 := by
  simp [isDigitByte, UInt8.le_iff_toNat_le, toNat_byteOf]

theorem any_head?_utf8 (cs : List Char) :
    (utf8 cs).head?.any isDigitByte = cs.head?.any Char.isDigit := by
  cases cs with
  | nil => rfl
  | cons c cs =>
    rw [Bool.eq_iff_iff]
    rcases Nat.lt_or_ge c.toNat 128 with hc | hc
    · simp [utf8EncodeChar_ascii hc, isDigit_iff, isDigitByte_iff, toNat_byteOf hc]
    · obtain ⟨b, bs, hbytes, hb⟩ := exists_utf8EncodeChar hc
      simp [hbytes, isDigit_iff, isDigitByte_iff]
      omega

/-- The offset is that of the rest of the text behind some of its characters. -/
def Boundary (cs : List Char) (i : Nat) (post : List Char) : Prop :=
  ∃ pre, cs = pre ++ post ∧ (utf8 pre).length = i

theorem boundary_zero (cs : List Char) : Boundary cs 0 cs := ⟨[], rfl, rfl⟩

theorem Boundary.getElem? (h : Boundary cs i post) : (utf8 cs)[i]? = (utf8 post).head? := by
  obtain ⟨pre, rfl, rfl⟩ := h
  rw [utf8_append, List.getElem?_append_right le_rfl, Nat.sub_self, List.head?_eq_getElem?]

def isAt (bytes : List UInt8) (i : Nat) (c : Char) : Bool := bytes[i]? == some (byteOf c)

theorem Boundary.isAt_iff (h : Boundary cs i post) (ha : a.toNat < 128) :
    isAt (utf8 cs) i a = true ↔ post.head? = some a := by
  rw [isAt, beq_iff_eq, h.getElem?, head?_utf8_eq_iff ha]

theorem Boundary.succ (h : Boundary cs i (c :: post)) (hc : c.toNat < 128) :
    Boundary cs (i + 1) post := by
  obtain ⟨pre, rfl, rfl⟩ := h
  exact ⟨pre ++ [c], by simp, by simp [utf8EncodeChar_ascii hc]⟩

end Offsets

section Scans

def digitsEnd (bytes : List UInt8) (i : Nat) : Nat :=
  if h : i < bytes.length then
    if isDigitByte bytes[i] then digitsEnd bytes (i + 1) else i
  else i
termination_by bytes.length - i

theorem digitsEnd_eq (bytes : List UInt8) (i : Nat) :
    digitsEnd bytes i = if bytes[i]?.any isDigitByte then digitsEnd bytes (i + 1) else i := by
  rw [digitsEnd]
  split
  · next h => simp [List.getElem?_eq_getElem h]
  · next h => simp [List.getElem?_eq_none (Nat.le_of_not_lt h)]

theorem Boundary.digitsEnd (h : Boundary cs i post) :
    Boundary cs (digitsEnd (utf8 cs) i) (post.dropWhile Char.isDigit) ∧
      Numeral.digitsEnd (utf8 cs) i = i + (post.takeWhile Char.isDigit).length := by
  induction post generalizing i with
  | nil =>
    rw [digitsEnd_eq, h.getElem?]
    exact ⟨h, rfl⟩
  | cons c post ih =>
    rw [digitsEnd_eq, h.getElem?, any_head?_utf8, List.head?_cons, Option.any_some]
    by_cases hc : c.isDigit = true
    · have hascii : c.toNat < 128 := by have := (isDigit_iff.mp hc).2; omega
      obtain ⟨hend, hlength⟩ := ih (h.succ hascii)
      rw [if_pos hc, List.dropWhile_cons_of_pos hc, List.takeWhile_cons_of_pos hc, hlength]
      refine ⟨hlength ▸ hend, ?_⟩
      rw [List.length_cons]
      omega
    · rw [if_neg hc, List.dropWhile_cons_of_neg hc, List.takeWhile_cons_of_neg hc]
      exact ⟨h, rfl⟩

def signEnd (bytes : List UInt8) (i : Nat) : Nat :=
  if isAt bytes i '+' ∨ isAt bytes i '-' then i + 1 else i

theorem Boundary.signEnd (h : Boundary cs i post) :
    Boundary cs (signEnd (utf8 cs) i) (splitSign post).2 := by
  unfold Numeral.signEnd
  simp only [h.isAt_iff (a := '+') (by decide), h.isAt_iff (a := '-') (by decide)]
  by_cases hsign : post.head? = some '+' ∨ post.head? = some '-'
  · rw [if_pos hsign]
    rcases hsign with hsign | hsign <;> obtain ⟨tail, rfl⟩ := List.head?_eq_some_iff.mp hsign
    · exact h.succ (by decide)
    · exact h.succ (by decide)
  · rw [if_neg hsign, splitSign_of_ne]
    · exact h
    · intro c hc
      have hhead : post.head? = some c := hc
      rw [hhead] at hsign
      simpa [and_comm] using hsign

def exponentEnd (bytes : List UInt8) (i : Nat) : Nat :=
  if isAt bytes i 'e' ∨ isAt bytes i 'E' then
    let start := signEnd bytes (i + 1)
    let stop := digitsEnd bytes start
    if start < stop then stop else i
  else i

theorem Boundary.exponentEnd (h : Boundary cs i post) :
    Boundary cs (exponentEnd (utf8 cs) i) (scanExponent post).2 := by
  unfold Numeral.exponentEnd
  simp only [h.isAt_iff (a := 'e') (by decide), h.isAt_iff (a := 'E') (by decide)]
  by_cases hmark : post.head? = some 'e' ∨ post.head? = some 'E'
  · obtain ⟨c, after, rfl, hc⟩ : ∃ c after, post = c :: after ∧ (c = 'e' ∨ c = 'E') := by
      rcases hmark with h | h <;> obtain ⟨after, rfl⟩ := List.head?_eq_some_iff.mp h
      · exact ⟨_, after, rfl, .inl rfl⟩
      · exact ⟨_, after, rfl, .inr rfl⟩
    have hafter : Boundary cs (i + 1) after := h.succ (by rcases hc with rfl | rfl <;> decide)
    obtain ⟨hstop, hlength⟩ := hafter.signEnd.digitsEnd
    rw [if_pos hmark, scanExponent_marked hc Prod.mk.eta.symm]
    generalize (splitSign after).2 = tail at *
    dsimp only
    -- The offset has moved behind the sign just if there are digits.
    by_cases hdigits : tail.takeWhile Char.isDigit = []
    · rw [hdigits, List.length_nil, Nat.add_zero] at hlength
      rw [if_pos hdigits, if_neg (by omega)]
      exact h
    · have := List.length_pos_of_ne_nil hdigits
      rw [if_neg hdigits, if_pos (by omega)]
      exact hstop
  · rw [if_neg hmark, scanExponent_of_ne]
    · exact h
    · intro c hc
      have hhead : post.head? = some c := hc
      rw [hhead] at hmark
      simpa using hmark

def fractionBounds (bytes : List UInt8) (i : Nat) : Nat × Nat :=
  if isAt bytes i '.' then (i + 1, digitsEnd bytes (i + 1)) else (i, i)

theorem Boundary.fractionBounds (h : Boundary cs i post) :
    Boundary cs (fractionBounds (utf8 cs) i).2 (scanFraction post).2 ∧
      (Numeral.fractionBounds (utf8 cs) i).2 =
        (Numeral.fractionBounds (utf8 cs) i).1 + (scanFraction post).1.length := by
  unfold Numeral.fractionBounds
  simp only [h.isAt_iff (a := '.') (by decide)]
  by_cases hpoint : post.head? = some '.'
  · obtain ⟨tail, rfl⟩ := List.head?_eq_some_iff.mp hpoint
    have hafter : Boundary cs (i + 1) tail := h.succ (by decide)
    rw [if_pos hpoint]
    exact hafter.digitsEnd
  · rw [if_neg hpoint, scanFraction_of_ne fun c hc he => hpoint (he ▸ hc)]
    exact ⟨h, rfl⟩

/-- The offset behind a decimal at the front, if there is a digit before a point or after it. -/
def decimalEnd? (bytes : List UInt8) : Option Nat :=
  let whole := digitsEnd bytes 0
  let (start, stop) := fractionBounds bytes whole
  if whole + (stop - start) = 0 then none else some (exponentEnd bytes stop)

/-- The scan of the bytes finds a decimal where that of the characters does, and stops where it
does. -/
theorem decimalEnd?_utf8 (cs : List Char) :
    (scanDecimal cs = none ∧ decimalEnd? (utf8 cs) = none) ∨
      ∃ m rest stop, scanDecimal cs = some (m, rest) ∧ decimalEnd? (utf8 cs) = some stop ∧
        Boundary cs stop rest := by
  obtain ⟨hwhole, hlength⟩ := (boundary_zero cs).digitsEnd
  obtain ⟨hstop, hcount⟩ := hwhole.fractionBounds
  unfold decimalEnd?
  rcases hfraction : scanFraction (cs.dropWhile Char.isDigit) with ⟨fraction, after⟩
  rcases hbounds : fractionBounds (utf8 cs) (digitsEnd (utf8 cs) 0) with ⟨start, stop⟩
  simp only [hfraction, hbounds] at hstop hcount ⊢
  rw [hlength, Nat.zero_add, hcount, Nat.add_sub_cancel_left, ← List.length_append]
  by_cases hne : cs.takeWhile Char.isDigit ≠ [] ∨ fraction ≠ []
  · right
    have hdigits : (cs.takeWhile Char.isDigit ++ fraction).length ≠ 0 := by
      rw [Ne, List.length_eq_zero_iff, List.append_eq_nil_iff]
      tauto
    rw [if_neg hdigits, scanDecimal_eq hfraction hne, ← hcount]
    exact ⟨_, _, _, rfl, rfl, hstop.exponentEnd⟩
  · left
    have hdigits : (cs.takeWhile Char.isDigit ++ fraction).length = 0 := by
      rw [List.length_eq_zero_iff, List.append_eq_nil_iff]
      tauto
    exact ⟨scanDecimal_eq_none hfraction hne, if_pos hdigits⟩

end Scans

end Rulebook.Numeral
