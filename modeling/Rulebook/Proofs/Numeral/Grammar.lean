import Mathlib.Data.Nat.Digits.Lemmas
import Rulebook.Numeral
import Rulebook.Proofs.Rounding

/-! # The grammar of numbers

A number is written with one sign at most, then either as the word `Infinity` or as a decimal:
digits with at most one point, and behind them an exponent or none. A decimal stands for the
double nearest to it.
-/

namespace Rulebook

namespace Magnitude

open Binary64

variable {m : Magnitude} {n d : Nat}

theorem isNearest_infinity (hd : 0 < d) (h : infinity.units * d ≤ n) : infinity.IsNearest n d := by
  intro x hx
  have hrank : x.rank < topRank := lt_of_le_of_ne x.rank_le fun he => hx (ext he)
  have hunits : x.units * d < infinity.units * d :=
    Nat.mul_lt_mul_of_pos_right (units_lt_units.mpr hrank) hd
  unfold Nat.dist
  omega

theorem isNearest_zero (h : 2 * n < d) : zero.IsNearest n d := by
  intro x hx
  have hrank : 0 < x.rank := Nat.pos_of_ne_zero fun he => hx (ext he)
  have hunits : zero.units < x.units := units_lt_units.mpr hrank
  have hzero : zero.units = 0 := rfl
  have hstep : 1 * d ≤ x.units * d := Nat.mul_le_mul_right d (by omega)
  unfold Nat.dist
  rw [hzero]
  omega

/-- No magnitude is nearer to `c · 10 ^ e`, and a tie goes to the even rank. -/
def IsNearestDecimal (m : Magnitude) (c : Nat) (e : Int) : Prop :=
  m.IsNearest (c * 10 ^ e.toNat * unitsPerOne) (10 ^ (-e).toNat)

theorem two_pow_le_ten_pow (p : Nat) : 2 ^ (3 * p) ≤ 10 ^ p := by
  rw [Nat.pow_mul]
  exact Nat.pow_le_pow_left (by decide) p

theorem units_infinity_le {p : Nat} (hp : 342 ≤ p) : infinity.units ≤ 10 ^ p * unitsPerOne := by
  have hbinade : binade = 2 ^ 52 := rfl
  rw [units_infinity, hbinade, unitsPerOne_eq, ← Nat.pow_add]
  refine Nat.le_trans ?_ (Nat.mul_le_mul_right _ (two_pow_le_ten_pow p))
  rw [← Nat.pow_add]
  apply Nat.pow_le_pow_right
  · decide
  · unfold unitExponent
    omega

theorem unitsPerOne_lt {p : Nat} (hp : 359 ≤ p) : 4 * unitsPerOne < 10 ^ p := by
  have hfour : 4 * unitsPerOne = 2 ^ (2 + unitExponent) := by
    rw [unitsPerOne_eq, Nat.pow_add]
  rw [hfour]
  refine Nat.lt_of_lt_of_le ?_ (two_pow_le_ten_pow p)
  apply Nat.pow_lt_pow_right
  · decide
  · unfold unitExponent
    omega

/-- A decimal is rounded to the nearest magnitude, the extreme ones by a shorter way. -/
theorem isNearestDecimal_ofDecimal (c : Nat) (e : Int) :
    (ofDecimal c e).IsNearestDecimal c e := by
  unfold ofDecimal IsNearestDecimal
  split
  · next hc =>
    subst hc
    exact isNearest_zero (by simp)
  · next hc =>
    cases e with
    | ofNat p =>
      simp only [Int.ofNat_eq_natCast, Int.toNat_natCast, Int.toNat_neg_natCast, Nat.pow_zero]
      split
      · next hp =>
        refine isNearest_infinity Nat.one_pos ?_
        rw [Nat.mul_one, Nat.mul_assoc]
        exact Nat.le_trans (units_infinity_le (by omega)) (Nat.le_mul_of_pos_left _ (by omega))
      · exact isNearest_nearest Nat.one_pos
    | negSucc p =>
      have hpower : (-Int.negSucc p).toNat = p + 1 := rfl
      have hzero : (Int.negSucc p).toNat = 0 := rfl
      simp only [hpower, hzero, Nat.pow_zero, Nat.mul_one]
      split
      · next hp =>
        refine isNearest_zero ?_
        calc 2 * (c * unitsPerOne) < 2 * (2 ^ (c.log2 + 1) * unitsPerOne) := by
              have := Nat.mul_lt_mul_of_pos_right (Nat.lt_log2_self (n := c)) unitsPerOne_pos
              omega
          _ = 2 ^ c.log2 * (4 * unitsPerOne) := by ring
          _ ≤ 10 ^ c.log2 * 10 ^ (p + 1 - c.log2) := by
            refine Nat.mul_le_mul (Nat.pow_le_pow_left (by decide) _) ?_
            exact Nat.le_of_lt (unitsPerOne_lt (by omega))
          _ = 10 ^ (p + 1) := by
            rw [← Nat.pow_add, Nat.add_sub_cancel' (by omega)]
      · exact isNearest_nearest (Nat.pow_pos (by decide))

end Magnitude

namespace Numeral

def AllDigits (ds : List Char) : Prop := ∀ c ∈ ds, c.isDigit = true

def digitsValue (ds : List Char) : Nat :=
  Nat.ofDigits 10 (ds.map fun d => d.toNat - '0'.toNat).reverse

inductive Sign : List Char → Bool → Prop
  | none : Sign [] false
  | plus : Sign ['+'] false
  | minus : Sign ['-'] true

/-- At least one digit, with at most one point; what stands before the point and behind it. -/
inductive Mantissa : List Char → List Char → List Char → Prop
  | whole {ds : List Char} : ds ≠ [] → AllDigits ds → Mantissa ds ds []
  | point {whole fraction : List Char} : AllDigits whole → AllDigits fraction →
      whole ≠ [] ∨ fraction ≠ [] → Mantissa (whole ++ '.' :: fraction) whole fraction

/-- A mark, one sign or none, and at least one digit; or no exponent at all, which counts as 0. -/
inductive Exponent : List Char → Int → Prop
  | none : Exponent [] 0
  | marked {mark : Char} {sign ds : List Char} {negative : Bool} : mark = 'e' ∨ mark = 'E' →
      Sign sign negative → ds ≠ [] → AllDigits ds →
      Exponent (mark :: (sign ++ ds)) (if negative then -digitsValue ds else digitsValue ds)

/-- A decimal from end to end, and the magnitude nearest to it. -/
inductive DenotesDecimal : List Char → Magnitude → Prop
  | decimal {mantissa whole fraction exponent : List Char} {e : Int} {m : Magnitude} :
      Mantissa mantissa whole fraction → Exponent exponent e →
      m.IsNearestDecimal (digitsValue (whole ++ fraction)) (e - fraction.length) →
      DenotesDecimal (mantissa ++ exponent) m

inductive DenotesUnsigned : List Char → Magnitude → Prop
  | infinity : DenotesUnsigned "Infinity".toList .infinity
  | decimal {cs : List Char} {m : Magnitude} : DenotesDecimal cs m → DenotesUnsigned cs m

inductive Denotes : List Char → Binary64 → Prop
  | signed {sign cs : List Char} {negative : Bool} {m : Magnitude} :
      Sign sign negative → DenotesUnsigned cs m → Denotes (sign ++ cs) (.signed negative m)

theorem ofDigits_eq (ds : List Char) : ofDigits ds = digitsValue ds := by
  rw [ofDigits, digitsValue, Nat.ofDigits_eq_foldr, List.foldr_reverse, List.foldl_map]
  congr 1
  funext n d
  simp only [Nat.cast_id]
  ring

end Numeral

end Rulebook
