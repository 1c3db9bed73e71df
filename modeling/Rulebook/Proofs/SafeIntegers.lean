import Rulebook.Proofs.Coherence
import Rulebook.Proofs.Rounding

/-! # Safe integers

Integers of at most 53 bits are doubles, so that a double which is equal to one of them is turned
into that integer with nothing lost but the sign of zero.
-/

namespace Rulebook

open Binary64

namespace Magnitude

variable {m : Magnitude} {n : Nat}

theorem whole?_eq_some_iff :
    m.whole? = some n ↔ m.isFinite = true ∧ m.units = n * unitsPerOne := by
  rw [whole?]
  constructor
  · intro h
    split at h
    · next hwhole =>
      obtain ⟨hfinite, hrest⟩ := Bool.and_eq_true_iff.mp hwhole
      rw [← Option.some.inj h, Nat.div_mul_cancel (Nat.dvd_of_mod_eq_zero (eq_of_beq hrest))]
      exact ⟨hfinite, rfl⟩
    · cases h
  · rintro ⟨hfinite, hunits⟩
    rw [hfinite, hunits, Nat.mul_mod_left, Nat.mul_div_cancel _ unitsPerOne_pos]
    rfl

theorem isFinite_eq_false_iff : m.isFinite = false ↔ m = .infinity := by
  rw [isFinite, decide_eq_false_iff_not, Nat.not_lt]
  constructor
  · exact fun h => ext (Nat.le_antisymm m.rank_le h)
  · rintro rfl
    exact Nat.le_refl _

theorem isFinite_ofNat (hn : n ≤ maxSafe) : (ofNat n).isFinite = true := by
  have hlt (e t : Nat) : n * 2 ^ e < binade * 2 ^ (e + 1 + t) := by
    calc n * 2 ^ e < 2 * binade * 2 ^ e :=
          Nat.mul_lt_mul_of_pos_right (Nat.lt_of_le_of_lt hn (by decide)) (Nat.two_pow_pos e)
      _ = binade * 2 ^ (e + 1) := by ring
      _ ≤ binade * 2 ^ (e + 1 + t) :=
          Nat.mul_le_mul_left _ (Nat.pow_le_pow_right Nat.two_pos (Nat.le_add_right _ t))
  have hexponent : 2046 = unitExponent + 1 + 971 := rfl
  have hunits : (ofNat n).units < infinity.units := by
    rw [units_ofNat (Nat.le_trans hn (Nat.sub_le _ _)), units_infinity, unitsPerOne_eq, hexponent]
    exact hlt unitExponent 971
  exact decide_eq_true (units_lt_units.mp hunits)

theorem whole?_eq_some_iff_of_le (hn : n ≤ maxSafe) : m.whole? = some n ↔ m = ofNat n := by
  have hunits := units_ofNat (Nat.le_trans hn (Nat.sub_le _ _))
  rw [whole?_eq_some_iff, ← hunits]
  constructor
  · rintro ⟨-, h⟩
    exact ext (strictMono_unitsOfRank.injective h)
  · rintro rfl
    exact ⟨isFinite_ofNat hn, rfl⟩

theorem rank_ofNat_eq_zero_iff (hn : n ≤ maxSafe) : (ofNat n).rank = 0 ↔ n = 0 := by
  have hzero : (ofNat n).units = 0 ↔ (ofNat n).rank = 0 :=
    strictMono_unitsOfRank.injective.eq_iff' rfl
  rw [← hzero, units_ofNat (Nat.le_trans hn (Nat.sub_le _ _)), Nat.mul_eq_zero,
    or_iff_left (Nat.ne_of_gt unitsPerOne_pos)]

end Magnitude

namespace Binary64

variable {x y : Binary64} {k : Int}

def dropZeroSign (x : Binary64) : Binary64 := if x.isZero then zero else x

theorem dropZeroSign_eq (hx : x ≠ .nan) : x.dropZeroSign.eq x = true := by
  rw [dropZeroSign]
  split
  · next hzero => exact (eq_iff Binary64.noConfusion).mpr (.inr ⟨rfl, hzero⟩)
  · exact (eq_iff hx).mpr (.inl rfl)

theorem ofInt_zero_eq_of_isZero (h : x.isZero = true) : (ofInt 0).eq x = true := by
  have hzero := (Magnitude.rank_ofNat_eq_zero_iff (Nat.zero_le maxSafe)).mpr rfl
  exact (eq_iff Binary64.noConfusion).mpr (.inr ⟨beq_iff_eq.mpr hzero, h⟩)

theorem ofInt_of_isZero (hk : k.natAbs ≤ maxSafe) (h : (ofInt k).isZero = true) :
    ofInt k = zero := by
  have hrank : (Magnitude.ofNat k.natAbs).rank = 0 := eq_of_beq h
  obtain rfl : k = 0 := Int.natAbs_eq_zero.mp ((Magnitude.rank_ofNat_eq_zero_iff hk).mp hrank)
  have hmagnitude : Magnitude.ofNat (0 : Int).natAbs = .zero := Magnitude.ext hrank
  rw [ofInt, hmagnitude]
  rfl

theorem safeInt?_signed {negative : Bool} {m : Magnitude} :
    (signed negative m).safeInt? = some k ↔
      ∃ n ≤ maxSafe, m = .ofNat n ∧ k = if negative then -(n : Int) else n := by
  rw [safeInt?]
  constructor
  · intro h
    split at h
    · next n hwhole =>
      split at h
      · next hn =>
        exact ⟨n, hn, (Magnitude.whole?_eq_some_iff_of_le hn).mp hwhole, (Option.some.inj h).symm⟩
      · cases h
    · cases h
  · rintro ⟨n, hn, hm, rfl⟩
    rw [(Magnitude.whole?_eq_some_iff_of_le hn).mpr hm]
    exact if_pos hn

/-- A double is turned into the safe integer that it is equal to. -/
theorem safeInt?_eq_some_iff :
    x.safeInt? = some k ↔ k.natAbs ≤ maxSafe ∧ (ofInt k).eq x = true := by
  cases x with
  | nan => simp [safeInt?, ofInt, eq]
  | signed negative m =>
    rw [safeInt?_signed, ofInt, eq, beq_iff_eq, signedRank_eq_iff]
    constructor
    · rintro ⟨n, hn, rfl, rfl⟩
      have habs : (if negative then -(n : Int) else n).natAbs = n := by split <;> omega
      rw [habs, Magnitude.rank_ofNat_eq_zero_iff hn]
      refine ⟨hn, ?_⟩
      rcases Nat.eq_zero_or_pos n with hzero | hpos
      · exact .inr ⟨hzero, hzero⟩
      · refine .inl ⟨?_, rfl⟩
        cases negative
        · simp
        · simp [hpos]
    · rintro ⟨hk, ⟨rfl, rfl⟩ | ⟨hzero, hm⟩⟩
      · refine ⟨k.natAbs, hk, rfl, ?_⟩
        simp only [decide_eq_true_eq]
        split <;> omega
      · rw [Magnitude.rank_ofNat_eq_zero_iff hk] at hzero
        refine ⟨k.natAbs, hk, Magnitude.ext ?_, ?_⟩
        · rw [hm, (Magnitude.rank_ofNat_eq_zero_iff hk).mpr hzero]
        · split <;> omega

theorem ofInt_of_safeInt? (h : x.safeInt? = some k) : ofInt k = x.dropZeroSign := by
  obtain ⟨hk, heq⟩ := safeInt?_eq_some_iff.mp h
  rw [dropZeroSign]
  rcases (eq_iff Binary64.noConfusion).mp heq with rfl | ⟨hzero, hx⟩
  · split
    · next hzero => exact ofInt_of_isZero hk hzero
    · rfl
  · rw [if_pos hx, ofInt_of_isZero hk hzero]

end Binary64

end Rulebook
