import Rulebook.Decimal
import Rulebook.Proofs.Numeral.Grammar

/-! # Decimals that read back

What a decimal is rounded to depends on its value alone, not on how many zeros end its coefficient.
The search for the shortest decimal of a magnitude takes none that does not read back, and the
decimal written out in full is there for when it finds none.
-/

namespace Rulebook

namespace Magnitude

open Binary64

variable {m : Magnitude} {n d n' d' c k : Nat} {e : Int}

theorem isNearest_mul_right (hk : 0 < k) : m.IsNearest (n * k) (d * k) ↔ m.IsNearest n d := by
  have hdist (x : Magnitude) : Nat.dist (x.units * (d * k)) (n * k) =
      Nat.dist (x.units * d) n * k := by
    rw [← Nat.mul_assoc, Nat.dist_mul_right]
  have hlt (a b : Nat) : a * k < b * k ↔ a < b := Nat.mul_lt_mul_right hk
  have heq (a b : Nat) : a * k = b * k ↔ a = b := Nat.mul_left_inj (Nat.ne_of_gt hk)
  simp only [IsNearest, hdist, hlt, heq]

theorem isNearest_congr (hd : 0 < d) (hd' : 0 < d') (h : n * d' = n' * d) :
    m.IsNearest n d ↔ m.IsNearest n' d' := by
  rw [← isNearest_mul_right hd', h, Nat.mul_comm d, isNearest_mul_right hd]

theorem ofDecimal_eq_iff : ofDecimal c e = m ↔ m.IsNearestDecimal c e := by
  have hnearest := isNearestDecimal_ofDecimal c e
  constructor
  · rintro rfl
    exact hnearest
  · exact hnearest.unique (Nat.pow_pos (by decide))

theorem ofDecimal_mul_pow (c k : Nat) (e : Int) :
    ofDecimal (c * 10 ^ k) (e - k) = ofDecimal c e := by
  rw [ofDecimal_eq_iff]
  refine (isNearest_congr ?_ ?_ ?_).mp (isNearestDecimal_ofDecimal c e)
  · exact Nat.pow_pos (by decide)
  · exact Nat.pow_pos (by decide)
  · have hexponents : e.toNat + (-(e - k)).toNat = k + (e - k).toNat + (-e).toNat := by omega
    calc c * 10 ^ e.toNat * unitsPerOne * 10 ^ (-(e - k)).toNat
        = c * 10 ^ (e.toNat + (-(e - k)).toNat) * unitsPerOne := by ring
      _ = c * 10 ^ k * 10 ^ (e - k).toNat * unitsPerOne * 10 ^ (-e).toNat := by
        rw [hexponents]
        ring

theorem ofDecimal_zero_right (n : Nat) : ofDecimal n 0 = ofNat n := by
  rw [ofDecimal_eq_iff]
  exact (isNearest_congr Nat.one_pos Nat.one_pos (by simp)).mp (isNearest_ofNat n)

theorem ofDecimal_units (m : Magnitude) {p : Nat} (hp : unitsPerOne = 2 ^ p) :
    ofDecimal (m.units * Nat.pow 5 p) (-p) = m := by
  have htens : Nat.pow 5 p * 2 ^ p = 10 ^ p := (Nat.mul_pow 5 2 p).symm
  have hpos : 0 < 10 ^ p := Nat.pow_pos (by decide)
  have hzero : (-(p : Int)).toNat = 0 := by omega
  rw [ofDecimal_eq_iff, IsNearestDecimal, hp, hzero, neg_neg, Int.toNat_natCast, Nat.pow_zero,
    Nat.mul_one, Nat.mul_assoc, htens]
  exact (nearest_eq_iff hpos).mp (nearest_units m hpos)

end Magnitude

namespace Decimal

open Binary64

variable {tie : Tie} {m : Magnitude} {d : Decimal} {g : Int}

theorem toMagnitude_trim (c : Nat) (e : Int) : (trim c e).toMagnitude = .ofDecimal c e := by
  fun_induction trim c e with
  | case1 c e h ih =>
    have hten : c = c / 10 * 10 ^ 1 := by omega
    have hexponent : e = e + 1 - (1 : Nat) := by omega
    rw [ih, ← Magnitude.ofDecimal_mul_pow (c / 10) 1, ← hten, ← hexponent]
  | case2 c e h => rfl

theorem toMagnitude_onGrid (h : onGrid tie m g = some d) : d.toMagnitude = m := by
  rcases hquotient : overPower m.units g with ⟨n, q⟩
  simp only [onGrid, hquotient] at h
  generalize (if q < 2 * (n % q) then true else _) = up at h
  split_ifs at h with hhigh hlow
  · cases h
    exact hhigh.1
  · cases h
    exact hlow

theorem toMagnitude_exact (m : Magnitude) : (exact m).toMagnitude = m := by
  have hpower := unitsPerOne_eq
  have hexponent : (-1074 : Int) = -(1074 : Nat) := rfl
  rw [toMagnitude, exact, hexponent]
  rw [unitExponent] at hpower
  -- which power it is does not matter, and it is too large to be looked at
  generalize 1074 = p at *
  exact m.ofDecimal_units hpower

theorem toMagnitude_search (tie : Tie) (m : Magnitude) : (search tie m).toMagnitude = m := by
  unfold search
  dsimp only
  generalize hfound : (List.range 17).findSome? _ = found
  cases found with
  | none => exact toMagnitude_exact m
  | some d =>
    obtain ⟨n, -, hd⟩ := List.exists_of_findSome?_eq_some hfound
    exact toMagnitude_onGrid hd

/-- The shortest decimal of a magnitude reads back as that magnitude. -/
theorem toMagnitude_shortest (tie : Tie) (m : Magnitude) : (shortest tie m).toMagnitude = m :=
  (toMagnitude_trim _ _).trans (toMagnitude_search tie m)

end Decimal

end Rulebook
