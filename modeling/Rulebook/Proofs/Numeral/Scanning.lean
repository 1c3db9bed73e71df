import Mathlib.Data.List.TakeWhile
import Rulebook.Proofs.Numeral.Grammar

/-! # Scanning numbers

The scanner takes a number off the front of a text, and no number there is longer. How the text
goes on behind a number can only make the scanner take more.
-/

namespace Rulebook.Numeral

variable {cs ds tail rest sign whole fraction mantissa exponent p : List Char} {c : Char}
  {negative : Bool} {e : Int} {m : Magnitude} {x y : Binary64}

theorem takeWhile_digits (h : AllDigits ds) :
    (ds ++ cs).takeWhile Char.isDigit = ds ++ cs.takeWhile Char.isDigit :=
  List.takeWhile_append_of_pos h

theorem dropWhile_digits (h : AllDigits ds) :
    (ds ++ cs).dropWhile Char.isDigit = cs.dropWhile Char.isDigit :=
  List.dropWhile_append_of_pos h

theorem allDigits_takeWhile (cs : List Char) : AllDigits (cs.takeWhile Char.isDigit) :=
  fun _ => List.mem_takeWhile_imp

section Signs

theorem exists_sign_of_splitSign (h : splitSign cs = (negative, rest)) :
    ∃ sign, cs = sign ++ rest ∧ Sign sign negative := by
  unfold splitSign at h
  split at h <;> obtain ⟨rfl, rfl⟩ := Prod.mk.inj h
  · exact ⟨['-'], rfl, .minus⟩
  · exact ⟨['+'], rfl, .plus⟩
  · exact ⟨[], rfl, .none⟩

theorem splitSign_of_ne (h : ∀ c ∈ cs.head?, c ≠ '-' ∧ c ≠ '+') : splitSign cs = (false, cs) := by
  unfold splitSign
  split
  · exact absurd rfl (h '-' rfl).1
  · exact absurd rfl (h '+' rfl).2
  · rfl

theorem splitSign_append (h : Sign sign negative) (hcs : ∀ c ∈ cs.head?, c ≠ '-' ∧ c ≠ '+') :
    splitSign (sign ++ cs) = (negative, cs) := by
  cases h with
  | none => exact splitSign_of_ne hcs
  | plus => rfl
  | minus => rfl

theorem ne_sign_of_digit (h : c.isDigit = true) : c ≠ '-' ∧ c ≠ '+' := by
  constructor <;> rintro rfl <;> exact absurd h (by decide)

end Signs

section Exponents

theorem scanExponent_of_ne (h : ∀ c ∈ cs.head?, c ≠ 'e' ∧ c ≠ 'E') :
    scanExponent cs = (0, cs) := by
  cases cs with
  | nil => rfl
  | cons c cs =>
    obtain ⟨he, hE⟩ := h c rfl
    simp [scanExponent, he, hE]

theorem scanExponent_marked (hc : c = 'e' ∨ c = 'E') (h : splitSign cs = (negative, tail)) :
    scanExponent (c :: cs) =
      if tail.takeWhile Char.isDigit = [] then (0, c :: cs)
      else (let n : Int := digitsValue (tail.takeWhile Char.isDigit)
        if negative then -n else n, tail.dropWhile Char.isDigit) := by
  simp [scanExponent, hc, h, ofDigits_eq]

theorem exists_exponent (cs : List Char) :
    ∃ exponent, cs = exponent ++ (scanExponent cs).2 ∧ Exponent exponent (scanExponent cs).1 := by
  by_cases hmark : ∃ c after, cs = c :: after ∧ (c = 'e' ∨ c = 'E')
  · obtain ⟨c, after, rfl, hc⟩ := hmark
    rcases hsplit : splitSign after with ⟨negative, tail⟩
    obtain ⟨sign, rfl, hsign⟩ := exists_sign_of_splitSign hsplit
    rw [scanExponent_marked hc hsplit]
    split
    · exact ⟨[], rfl, .none⟩
    · next hne =>
      refine ⟨_, ?_, .marked hc hsign hne (allDigits_takeWhile tail)⟩
      simp
  · rw [scanExponent_of_ne]
    · exact ⟨[], rfl, .none⟩
    · intro c hc
      obtain ⟨after, rfl⟩ := List.head?_eq_some_iff.mp hc
      exact not_or.mp fun h => hmark ⟨c, after, rfl, h⟩

theorem scanExponent_suffix (cs : List Char) : (scanExponent cs).2 <:+ cs := by
  obtain ⟨exponent, h, -⟩ := exists_exponent cs
  exact ⟨exponent, h.symm⟩

theorem scanExponent_append (h : Exponent exponent e) (rest : List Char) :
    (scanExponent (exponent ++ rest)).2 <:+ rest ∧
      (rest = [] → scanExponent exponent = (e, [])) := by
  cases h with
  | none => exact ⟨scanExponent_suffix rest, fun _ => rfl⟩
  | @marked mark sign ds negative hmark hsign hne hds =>
    obtain ⟨d, digits, rfl⟩ := List.exists_cons_of_ne_nil hne
    have hsplit (tail : List Char) :
        splitSign (sign ++ (d :: digits) ++ tail) = (negative, (d :: digits) ++ tail) := by
      rw [List.append_assoc]
      refine splitSign_append hsign ?_
      rintro c ⟨⟩
      exact ne_sign_of_digit (hds d List.mem_cons_self)
    constructor
    · rw [List.cons_append, scanExponent_marked hmark (hsplit rest), takeWhile_digits hds,
        dropWhile_digits hds, if_neg (by simp)]
      exact List.dropWhile_suffix _
    · have hself := hsplit []
      rw [List.append_nil, List.append_nil] at hself
      have htake : (d :: digits).takeWhile Char.isDigit = d :: digits :=
        List.takeWhile_eq_self_iff.mpr hds
      have hdrop : (d :: digits).dropWhile Char.isDigit = [] :=
        List.dropWhile_eq_nil_iff.mpr hds
      rintro rfl
      rw [scanExponent_marked hmark hself, htake, hdrop, if_neg hne]

end Exponents

section Mantissas

theorem scanFraction_of_ne (h : ∀ c ∈ cs.head?, c ≠ '.') : scanFraction cs = ([], cs) := by
  unfold scanFraction
  split
  · exact absurd rfl (h '.' rfl)
  · rfl

theorem scanFraction_suffix (cs : List Char) : (scanFraction cs).2 <:+ cs := by
  unfold scanFraction
  split
  · exact (List.dropWhile_suffix _).trans (List.suffix_cons _ _)
  · exact List.suffix_rfl

theorem exists_mantissa (h : cs.takeWhile Char.isDigit ≠ [] ∨
    (scanFraction (cs.dropWhile Char.isDigit)).1 ≠ []) :
    ∃ mantissa, cs = mantissa ++ (scanFraction (cs.dropWhile Char.isDigit)).2 ∧
      Mantissa mantissa (cs.takeWhile Char.isDigit)
        (scanFraction (cs.dropWhile Char.isDigit)).1 := by
  have hcs := List.takeWhile_append_dropWhile (p := Char.isDigit) (l := cs)
  have hwhole := allDigits_takeWhile cs
  generalize cs.takeWhile Char.isDigit = whole, cs.dropWhile Char.isDigit = after at *
  by_cases hpoint : ∃ tail, after = '.' :: tail
  · obtain ⟨tail, rfl⟩ := hpoint
    refine ⟨_, ?_, .point hwhole (allDigits_takeWhile tail) h⟩
    simp [← hcs, scanFraction]
  · have hnone : scanFraction after = ([], after) :=
      scanFraction_of_ne fun c hc he =>
        hpoint ((List.head?_eq_some_iff.mp hc).imp fun _ h => he ▸ h)
    rw [hnone] at h ⊢
    exact ⟨whole, hcs.symm, .whole (h.resolve_right fun h => h rfl) hwhole⟩

def EndsMantissa (cs : List Char) : Prop := ∀ c ∈ cs.head?, c.isDigit = false ∧ c ≠ '.'

theorem dropWhile_of_endsMantissa (h : EndsMantissa cs) : cs.dropWhile Char.isDigit = cs := by
  cases cs with
  | nil => rfl
  | cons c cs => exact List.dropWhile_cons_of_neg (by simp [(h c rfl).1])

theorem takeWhile_of_endsMantissa (h : EndsMantissa cs) : cs.takeWhile Char.isDigit = [] := by
  cases cs with
  | nil => rfl
  | cons c cs => exact List.takeWhile_cons_of_neg (by simp [(h c rfl).1])

theorem scanMantissa_append (h : Mantissa mantissa whole fraction) (tail : List Char) :
    ∃ fraction' after,
      scanFraction ((mantissa ++ tail).dropWhile Char.isDigit) = (fraction', after) ∧
      ((mantissa ++ tail).takeWhile Char.isDigit ≠ [] ∨ fraction' ≠ []) ∧ after <:+ tail ∧
      (EndsMantissa tail → (mantissa ++ tail).takeWhile Char.isDigit = whole ∧
        fraction' = fraction ∧ after = tail) := by
  cases h with
  | whole hne hds =>
    rw [takeWhile_digits hds, dropWhile_digits hds]
    have hsuffix := scanFraction_suffix (tail.dropWhile Char.isDigit)
    rcases hscan : scanFraction (tail.dropWhile Char.isDigit) with ⟨fraction', after⟩
    rw [hscan] at hsuffix
    refine ⟨fraction', after, rfl, .inl (by simp [hne]),
      hsuffix.trans (List.dropWhile_suffix _), fun hend => ?_⟩
    rw [dropWhile_of_endsMantissa hend, scanFraction_of_ne fun c hc => (hend c hc).2] at hscan
    cases hscan
    simp [takeWhile_of_endsMantissa hend]
  | point hwhole hfraction hne =>
    rw [List.append_assoc, takeWhile_digits hwhole, dropWhile_digits hwhole, List.cons_append,
      List.takeWhile_cons_of_neg (by decide), List.dropWhile_cons_of_neg (by decide), scanFraction,
      takeWhile_digits hfraction, dropWhile_digits hfraction, List.append_nil]
    refine ⟨_, _, rfl, hne.imp_right fun h => by simp [h], List.dropWhile_suffix _, fun hend => ?_⟩
    simp [takeWhile_of_endsMantissa hend, dropWhile_of_endsMantissa hend]

theorem Exponent.endsMantissa (h : Exponent exponent e) (hne : exponent ≠ []) (rest : List Char) :
    EndsMantissa (exponent ++ rest) := by
  cases h with
  | none => exact absurd rfl hne
  | marked hmark =>
    rintro c ⟨⟩
    rcases hmark with rfl | rfl <;> decide

end Mantissas

section Decimals

theorem scanDecimal_eq (hfraction : scanFraction (cs.dropWhile Char.isDigit) = (fraction, tail))
    (hne : cs.takeWhile Char.isDigit ≠ [] ∨ fraction ≠ []) :
    scanDecimal cs = some (.ofDecimal (digitsValue (cs.takeWhile Char.isDigit ++ fraction))
      ((scanExponent tail).1 - fraction.length), (scanExponent tail).2) := by
  unfold scanDecimal
  simp only [hfraction, List.isEmpty_iff, ofDigits_eq]
  rw [if_neg (by tauto)]

theorem scanDecimal_eq_none
    (hfraction : scanFraction (cs.dropWhile Char.isDigit) = (fraction, tail))
    (hne : ¬ (cs.takeWhile Char.isDigit ≠ [] ∨ fraction ≠ [])) : scanDecimal cs = none := by
  unfold scanDecimal
  simp only [hfraction, List.isEmpty_iff]
  rw [if_pos (by tauto)]

theorem exists_decimal (h : scanDecimal cs = some (m, rest)) :
    ∃ p, cs = p ++ rest ∧ DenotesDecimal p m := by
  rcases hfraction : scanFraction (cs.dropWhile Char.isDigit) with ⟨fraction, after⟩
  by_cases hne : cs.takeWhile Char.isDigit ≠ [] ∨ fraction ≠ []
  · rw [scanDecimal_eq hfraction hne] at h
    cases h
    have hdigits : cs.takeWhile Char.isDigit ≠ [] ∨
        (scanFraction (cs.dropWhile Char.isDigit)).1 ≠ [] := by
      rwa [hfraction]
    obtain ⟨mantissa, hcs, hmantissa⟩ := exists_mantissa hdigits
    rw [hfraction] at hcs hmantissa
    obtain ⟨exponent, hafter, hexponent⟩ := exists_exponent after
    refine ⟨mantissa ++ exponent, ?_,
      .decimal hmantissa hexponent (Magnitude.isNearestDecimal_ofDecimal _ _)⟩
    rw [List.append_assoc, ← hafter, ← hcs]
  · rw [scanDecimal_eq_none hfraction hne] at h
    cases h

/-- A decimal at the front is scanned whole, and more if the text goes on with more of it. -/
theorem scanDecimal_append (h : DenotesDecimal p m) (rest : List Char) :
    ∃ m' tail, scanDecimal (p ++ rest) = some (m', tail) ∧ tail <:+ rest ∧
      (rest = [] → m' = m) := by
  obtain ⟨hmantissa, hexponent, hnearest⟩ := h
  next mantissa whole fraction exponent e =>
  obtain ⟨fraction', after, hfraction, hne, hafter, hends⟩ :=
    scanMantissa_append hmantissa (exponent ++ rest)
  rw [List.append_assoc, scanDecimal_eq hfraction hne]
  refine ⟨_, _, rfl, ?_, ?_⟩
  -- Without an exponent the rest may lengthen the mantissa; the mark of one ends it.
  · by_cases hnone : exponent = []
    · subst hnone
      exact (scanExponent_suffix after).trans hafter
    · obtain ⟨-, -, rfl⟩ := hends (hexponent.endsMantissa hnone rest)
      exact (scanExponent_append hexponent rest).1
  · rintro rfl
    have hend : EndsMantissa (exponent ++ []) := by
      by_cases hnone : exponent = []
      · subst hnone
        nofun
      · exact hexponent.endsMantissa hnone []
    obtain ⟨hwhole, rfl, rfl⟩ := hends hend
    have hvalue := (scanExponent_append hexponent []).2 rfl
    rw [hwhole, List.append_nil, hvalue]
    exact (Magnitude.isNearestDecimal_ofDecimal _ _).unique (Nat.pow_pos (by decide)) hnearest

theorem scanDecimal_eq_nil_iff : scanDecimal cs = some (m, []) ↔ DenotesDecimal cs m := by
  constructor
  · intro h
    obtain ⟨p, rfl, hm⟩ := exists_decimal h
    rwa [List.append_nil]
  · intro h
    obtain ⟨m', tail, hscan, htail, hm⟩ := scanDecimal_append h []
    rw [List.append_nil, hm rfl, List.suffix_nil.mp htail] at hscan
    exact hscan

end Decimals

section Numbers

theorem Mantissa.exists_cons (h : Mantissa mantissa whole fraction) :
    ∃ c cs, mantissa = c :: cs ∧ (c.isDigit = true ∨ c = '.') := by
  cases h with
  | whole hne hds =>
    obtain ⟨d, ds, rfl⟩ := List.exists_cons_of_ne_nil hne
    exact ⟨d, ds, rfl, .inl (hds d List.mem_cons_self)⟩
  | point hwhole _ _ =>
    cases whole with
    | nil => exact ⟨'.', fraction, rfl, .inr rfl⟩
    | cons d ds => exact ⟨d, ds ++ '.' :: fraction, rfl, .inl (hwhole d List.mem_cons_self)⟩

theorem DenotesDecimal.exists_cons (h : DenotesDecimal p m) :
    ∃ c cs, p = c :: cs ∧ (c.isDigit = true ∨ c = '.') := by
  obtain ⟨hmantissa, -, -⟩ := h
  obtain ⟨c, cs, rfl, hc⟩ := hmantissa.exists_cons
  exact ⟨c, _, rfl, hc⟩

theorem dropInfinity_eq_some_iff :
    dropInfinity cs = some rest ↔ cs = "Infinity".toList ++ rest := by
  unfold dropInfinity
  simp only [List.isPrefixOf_iff_prefix]
  constructor
  · intro h
    split at h
    · next hword =>
      obtain ⟨tail, rfl⟩ := hword
      rw [List.drop_left, Option.some.injEq] at h
      rw [h]
    · cases h
  · rintro rfl
    rw [if_pos (List.prefix_append _ _), List.drop_left]

theorem dropInfinity_cons (h : c ≠ 'I') : dropInfinity (c :: cs) = none := by
  rw [Option.eq_none_iff_forall_ne_some]
  intro rest hrest
  have hcs : c :: cs = 'I' :: ("nfinity".toList ++ rest) := dropInfinity_eq_some_iff.mp hrest
  exact h (List.cons.inj hcs).1

theorem exists_unsigned (h : scanUnsigned cs = some (m, rest)) :
    ∃ p, cs = p ++ rest ∧ DenotesUnsigned p m := by
  unfold scanUnsigned at h
  split at h
  · next hword =>
    cases h
    exact ⟨_, dropInfinity_eq_some_iff.mp hword, .infinity⟩
  · obtain ⟨p, hp, hm⟩ := exists_decimal h
    exact ⟨p, hp, .decimal hm⟩

theorem scanUnsigned_append (h : DenotesUnsigned p m) (rest : List Char) :
    ∃ m' tail, scanUnsigned (p ++ rest) = some (m', tail) ∧ tail <:+ rest ∧
      (rest = [] → m' = m) := by
  cases h with
  | infinity =>
    have hword : dropInfinity ("Infinity".toList ++ rest) = some rest :=
      dropInfinity_eq_some_iff.mpr rfl
    exact ⟨_, rest, by rw [scanUnsigned, hword], List.suffix_rfl, fun _ => rfl⟩
  | decimal h =>
    have hword : dropInfinity (p ++ rest) = none := by
      obtain ⟨c, cs, rfl, hc⟩ := h.exists_cons
      refine dropInfinity_cons ?_
      rintro rfl
      rcases hc with hc | hc <;> exact absurd hc (by decide)
    rw [scanUnsigned, hword]
    exact scanDecimal_append h rest

theorem DenotesUnsigned.head?_ne (h : DenotesUnsigned p m) (rest : List Char) :
    ∀ c ∈ (p ++ rest).head?, c ≠ '-' ∧ c ≠ '+' := by
  cases h with
  | infinity =>
    rintro c ⟨⟩
    decide
  | decimal h =>
    obtain ⟨c, cs, rfl, hc⟩ := h.exists_cons
    rintro c ⟨⟩
    rcases hc with hc | rfl
    · exact ne_sign_of_digit hc
    · decide

theorem exists_denotes_of_scan (h : scan cs = some (x, rest)) :
    ∃ p, cs = p ++ rest ∧ Denotes p x := by
  rcases hsplit : splitSign cs with ⟨negative, unsigned⟩
  simp only [scan, hsplit, Option.map_eq_some_iff, Prod.exists] at h
  obtain ⟨m, tail, hscan, hx⟩ := h
  cases hx
  obtain ⟨sign, rfl, hsign⟩ := exists_sign_of_splitSign hsplit
  obtain ⟨p, rfl, hm⟩ := exists_unsigned hscan
  exact ⟨sign ++ p, (List.append_assoc _ _ _).symm, .signed hsign hm⟩

/-- A number at the front is scanned whole, and more if the text goes on with more of it. -/
theorem scan_append (h : Denotes p x) (rest : List Char) :
    ∃ y tail, scan (p ++ rest) = some (y, tail) ∧ tail <:+ rest ∧ (rest = [] → y = x) := by
  obtain ⟨hsign, hm⟩ := h
  next sign cs negative m =>
  obtain ⟨m', tail, hscan, htail, hvalue⟩ := scanUnsigned_append hm rest
  have hsplit : splitSign (sign ++ cs ++ rest) = (negative, cs ++ rest) := by
    rw [List.append_assoc]
    exact splitSign_append hsign (hm.head?_ne rest)
  refine ⟨.signed negative m', tail, ?_, htail, fun h => by rw [hvalue h]⟩
  simp only [scan, hsplit, hscan, Option.map_some]

/-- The scanner reads a text to its end just if all of it is a number. -/
theorem scan_eq_nil_iff : scan cs = some (x, []) ↔ Denotes cs x := by
  constructor
  · intro h
    obtain ⟨p, rfl, hx⟩ := exists_denotes_of_scan h
    rwa [List.append_nil]
  · intro h
    obtain ⟨y, tail, hscan, htail, hy⟩ := scan_append h []
    rw [List.append_nil, hy rfl, List.suffix_nil.mp htail] at hscan
    exact hscan

theorem Denotes.unique (hx : Denotes cs x) (hy : Denotes cs y) : x = y := by
  have h := (scan_eq_nil_iff.mpr hx).symm.trans (scan_eq_nil_iff.mpr hy)
  exact (Prod.mk.inj (Option.some.inj h)).1

theorem Denotes.exists_signed (h : Denotes cs x) : ∃ s m, x = .signed s m := by
  obtain ⟨-, -⟩ := h
  exact ⟨_, _, rfl⟩

end Numbers

end Rulebook.Numeral
