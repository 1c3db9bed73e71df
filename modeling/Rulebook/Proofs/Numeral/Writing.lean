import Rulebook.Json.Number
import Rulebook.Proofs.Decimal
import Rulebook.Proofs.Numeral.Literals

/-! # Numbers written out

The digits of a number in positional or in scientific notation are a decimal of the grammar, whose
value is that of the digits. So what JSON writes for a number denotes that number.
-/

namespace Rulebook.Numeral

open Decimal

variable {ds mantissa whole fraction exponent : List Char} {e : Int}

section Digits

theorem digitsValue_eq (ds : List Char) : digitsValue ds = Nat.ofDigitChars 10 ds 0 := by
  rw [← ofDigits_eq, Nat.ofDigitChars_eq_foldl, ofDigits]
  simp only [Nat.mul_comm 10]

@[simp] theorem digitsValue_digits (n : Nat) : digitsValue (digits n) = n := by
  rw [digitsValue_eq]
  exact Nat.ofDigitChars_ten_toDigits

theorem digitsValue_append_zeros (ds : List Char) (p : Nat) :
    digitsValue (ds ++ List.replicate p '0') = digitsValue ds * 10 ^ p := by
  simp only [digitsValue_eq, Nat.ofDigitChars_append, Nat.ofDigitChars_replicate_zero,
    Nat.mul_comm]

theorem digitsValue_zeros_append (p : Nat) (ds : List Char) :
    digitsValue (List.replicate p '0' ++ ds) = digitsValue ds := by
  simp only [digitsValue_eq, Nat.ofDigitChars_append, Nat.ofDigitChars_replicate_zero,
    Nat.mul_zero]

theorem digits_ne_nil (n : Nat) : digits n ≠ [] := Nat.toDigits_ne_nil

theorem allDigits_digits (n : Nat) : AllDigits (digits n) :=
  fun _ => Nat.isDigit_of_mem_toDigits (by decide) (by decide)

theorem allDigits_zeros (p : Nat) : AllDigits (List.replicate p '0') := by
  intro c hc
  rw [List.eq_of_mem_replicate hc]
  rfl

theorem AllDigits.append (h : AllDigits whole) (h' : AllDigits fraction) :
    AllDigits (whole ++ fraction) := List.forall_mem_append.mpr ⟨h, h'⟩

end Digits

section Positional

theorem Mantissa.denotes (h : Mantissa mantissa whole fraction) (he : Exponent exponent e) :
    DenotesDecimal (mantissa ++ exponent)
      (.ofDecimal (digitsValue (whole ++ fraction)) (e - fraction.length)) :=
  .decimal h he (Magnitude.isNearestDecimal_ofDecimal _ _)

theorem Mantissa.denotes_alone (h : Mantissa mantissa whole fraction) :
    DenotesDecimal mantissa
      (.ofDecimal (digitsValue (whole ++ fraction)) (-fraction.length)) := by
  have hdecimal := h.denotes .none
  rwa [List.append_nil, zero_sub] at hdecimal

theorem denotes_positional_whole (hne : ds ≠ []) (hds : AllDigits ds) (p : Nat) :
    DenotesDecimal (positional ds p) (.ofDecimal (digitsValue ds) p) ∧
      DenotesDecimal (positional ds p ++ ['.', '0']) (.ofDecimal (digitsValue ds) p) := by
  have hwhole : AllDigits (ds ++ List.replicate p '0') := hds.append (allDigits_zeros p)
  have hwhole_ne : ds ++ List.replicate p '0' ≠ [] := List.append_ne_nil_of_left_ne_nil hne _
  constructor
  · have hvalue := Magnitude.ofDecimal_mul_pow (digitsValue ds) p p
    have hdenotes := (Mantissa.whole hwhole_ne hwhole).denotes_alone
    rw [List.append_nil, digitsValue_append_zeros] at hdenotes
    rw [sub_self] at hvalue
    exact hvalue ▸ hdenotes
  · have hvalue := Magnitude.ofDecimal_mul_pow (digitsValue ds) (p + 1) p
    have hdenotes :=
      (Mantissa.point hwhole (allDigits_zeros 1) (.inl hwhole_ne)).denotes_alone
    have hdigits : ds ++ List.replicate p '0' ++ List.replicate 1 '0' =
        ds ++ List.replicate (p + 1) '0' := by
      rw [List.append_assoc, List.replicate_append_replicate]
    rw [hdigits, digitsValue_append_zeros] at hdenotes
    rw [Nat.cast_succ, sub_add_cancel_left] at hvalue
    exact hvalue ▸ hdenotes

theorem denotes_point {p : Nat} (hvalue : digitsValue (whole ++ fraction) = digitsValue ds)
    (hlength : fraction.length = p + 1) (hwhole : AllDigits whole)
    (hfraction : AllDigits fraction) :
    DenotesDecimal (whole ++ '.' :: fraction) (.ofDecimal (digitsValue ds) (.negSucc p)) := by
  have hne : fraction ≠ [] := by
    rintro rfl
    exact absurd hlength (Nat.succ_ne_zero p).symm
  have hdenotes := (Mantissa.point hwhole hfraction (.inr hne)).denotes_alone
  rwa [hvalue, hlength] at hdenotes

theorem denotes_positional_fraction (hds : AllDigits ds) (p : Nat) :
    DenotesDecimal (positional ds (.negSucc p)) (.ofDecimal (digitsValue ds) (.negSucc p)) := by
  rw [positional]
  split
  · next hle =>
    have hvalue : digitsValue (['0'] ++ (List.replicate (p + 1 - ds.length) '0' ++ ds)) =
        digitsValue ds := digitsValue_zeros_append (p + 1 - ds.length + 1) ds
    refine denotes_point hvalue ?_ (allDigits_zeros 1) ((allDigits_zeros _).append hds)
    simp only [List.length_append, List.length_replicate]
    omega
  · next hgt =>
    refine denotes_point ?_ ?_ (fun c hc => hds c (List.mem_of_mem_take hc))
      (fun c hc => hds c (List.mem_of_mem_drop hc))
    · rw [List.take_append_drop]
    · rw [List.length_drop]
      omega

theorem denotes_positional (hne : ds ≠ []) (hds : AllDigits ds) (e : Int) :
    DenotesDecimal (positional ds e) (.ofDecimal (digitsValue ds) e) := by
  cases e with
  | ofNat p => exact (denotes_positional_whole hne hds p).1
  | negSucc p => exact denotes_positional_fraction hds p

end Positional

section Scientific

theorem exponent_digits (power : Int) :
    Exponent ('e' :: (if power < 0 then '-' else '+') :: digits power.natAbs) power := by
  have hexponent {sign : List Char} {negative : Bool} (h : Sign sign negative) :=
    Exponent.marked (.inl rfl : 'e' = 'e' ∨ 'e' = 'E') h (digits_ne_nil power.natAbs)
      (allDigits_digits power.natAbs)
  simp only [digitsValue_digits] at hexponent
  by_cases hneg : power < 0
  · have hvalue : -(power.natAbs : Int) = power := by omega
    have := hexponent .minus
    rw [if_pos rfl, hvalue] at this
    rwa [if_pos hneg]
  · have hvalue : (power.natAbs : Int) = power := by omega
    have := hexponent .plus
    rw [if_neg (by decide), hvalue] at this
    rwa [if_neg hneg]

theorem denotes_scientific (hne : ds ≠ []) (hds : AllDigits ds) (power : Int) :
    DenotesDecimal (scientific ds power)
      (.ofDecimal (digitsValue ds) (power - (ds.length - 1 : Nat))) := by
  match ds, hne, hds with
  | [d], hne, hds => exact (Mantissa.whole hne hds).denotes (exponent_digits power)
  | d :: d' :: rest, _, hds =>
    obtain ⟨hd, hrest⟩ := List.forall_mem_cons.mp hds
    have hmantissa : Mantissa ([d] ++ '.' :: d' :: rest) [d] (d' :: rest) :=
      .point (List.forall_mem_singleton.mpr hd) hrest (.inl (List.cons_ne_nil d []))
    exact hmantissa.denotes (exponent_digits power)

end Scientific

section Json

open Json

def minus (negative : Bool) : List Char := if negative then ['-'] else []

theorem sign_minus (negative : Bool) : Sign (minus negative) negative := by
  cases negative with
  | false => exact .none
  | true => exact .minus

theorem denotes_writeMagnitude (m : Magnitude) : DenotesDecimal (writeMagnitude m) m := by
  unfold writeMagnitude
  split
  · next hzero =>
    have hm : m = .ofDecimal 0 (-1 : Int) := Magnitude.ext hzero
    rw [hm]
    exact denotes_positional_fraction (allDigits_zeros 1) 0
  · have hvalue := toMagnitude_shortest .even m
    generalize shortest .even m = d at hvalue ⊢
    rw [toMagnitude, ← digitsValue_digits d.coefficient] at hvalue
    have hne := digits_ne_nil d.coefficient
    have hall := allDigits_digits d.coefficient
    dsimp only
    generalize digits d.coefficient = ds at hvalue hne hall ⊢
    subst hvalue
    split
    · cases d.exponent with
      | ofNat p => simpa using (denotes_positional_whole hne hall p).2
      | negSucc p => simpa using denotes_positional_fraction hall p
    · have hlength := List.length_pos_iff.mpr hne
      have hexponent : d.exponent + ds.length - 1 - (ds.length - 1 : Nat) = d.exponent := by omega
      have := denotes_scientific hne hall (d.exponent + ds.length - 1)
      rwa [hexponent] at this

theorem denotes_writeDouble {x : Binary64} (h : x.isFinite = true) :
    Denotes (writeDouble x) x := by
  cases x with
  | nan => cases h
  | signed negative m =>
    have hm := DenotesUnsigned.decimal (denotes_writeMagnitude m)
    have hfinite : m.isFinite = true := h
    rw [writeDouble, if_pos hfinite]
    exact .signed (sign_minus negative) hm

theorem denotes_writeInteger (n : Int) : Denotes (writeInteger n) (.ofInt n) := by
  have hm := (Mantissa.whole (digits_ne_nil n.natAbs) (allDigits_digits n.natAbs)).denotes_alone
  rw [List.append_nil, digitsValue_digits, List.length_nil, Nat.cast_zero, neg_zero,
    Magnitude.ofDecimal_zero_right] at hm
  have hsign := sign_minus (decide (n < 0))
  simp only [minus, decide_eq_true_eq] at hsign
  exact .signed hsign (.decimal hm)

/-- What is written for a number is a number, the double that it is read as. -/
theorem denotes_write (n : Json.Number) : Denotes n.write n.toBinary64 := by
  cases n with
  | integer n => exact denotes_writeInteger n
  | double x => exact denotes_writeDouble x.property

end Json

end Rulebook.Numeral
