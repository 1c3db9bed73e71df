import Mathlib.Data.Nat.Dist
import Mathlib.Order.Monotone.Basic
import Rulebook.Binary64

/-! # Rounding

Between one power of two and the next all magnitudes are equally far apart. A number is rounded to
a whole number of such steps, which is the magnitude nearest to it among all there are.
-/

namespace Rulebook

section DivEven

variable {n d a b c : Nat}

/-- The rounded quotient is at most half a divisor off, and even where it is as much as that. -/
theorem divEven_spec (hd : 0 < d) :
    (2 * (divEven n d * d) < 2 * n + d ∨
      2 * (divEven n d * d) = 2 * n + d ∧ divEven n d % 2 = 0) ∧
    (2 * n < 2 * (divEven n d * d) + d ∨
      2 * n = 2 * (divEven n d * d) + d ∧ divEven n d % 2 = 0) := by
  have hn := Nat.div_add_mod n d
  have hr := Nat.mod_lt n hd
  rw [Nat.mul_comm] at hn
  unfold divEven
  dsimp only
  split
  · omega
  · split
    · rw [Nat.add_mul, Nat.one_mul]
      omega
    · rcases Nat.mod_two_eq_zero_or_one (n / d) with h | h
      · rw [h, Nat.add_zero]
        omega
      · rw [h, Nat.add_mul, Nat.one_mul]
        omega

theorem le_divEven (hd : 0 < d) (h : a * d ≤ n) : a ≤ divEven n d := by
  have hspec := (divEven_spec (n := n) hd).2
  have hlt : 2 * a * d < (2 * divEven n d + 2) * d := by
    rw [Nat.add_mul, Nat.mul_assoc, Nat.mul_assoc]
    omega
  have := Nat.lt_of_mul_lt_mul_right hlt
  omega

theorem divEven_le (hd : 0 < d) (h : n ≤ b * d) : divEven n d ≤ b := by
  have hspec := (divEven_spec (n := n) hd).1
  have hlt : 2 * divEven n d * d < (2 * b + 2) * d := by
    rw [Nat.add_mul, Nat.mul_assoc, Nat.mul_assoc]
    omega
  have := Nat.lt_of_mul_lt_mul_right hlt
  omega

theorem divEven_mul_right (hc : 0 < c) : divEven (n * c) (d * c) = divEven n d := by
  have hlt (x y : Nat) : 2 * (x * c) < y * c ↔ 2 * x < y := by
    rw [← Nat.mul_assoc, Nat.mul_lt_mul_right hc]
  have hgt (x y : Nat) : x * c < 2 * (y * c) ↔ x < 2 * y := by
    rw [← Nat.mul_assoc, Nat.mul_lt_mul_right hc]
  unfold divEven
  simp only [Nat.mul_div_mul_right n d hc, Nat.mul_mod_mul_right, hlt, hgt]

theorem divEven_of_lt (h : 2 * b < d) : divEven (a * d + b) d = a := by
  have hd : 0 < d := Nat.zero_lt_of_lt h
  have hb : b < d := by omega
  unfold divEven
  simp only [Nat.mul_comm a d, Nat.mul_add_div hd, Nat.div_eq_of_lt hb, Nat.mul_add_mod,
    Nat.mod_eq_of_lt hb, h, if_true, Nat.add_zero]

theorem divEven_mul_add (hpos : 0 < d) (hd : d % 2 = 0) (hb : b < c) :
    divEven (n * c + b) (d * c) =
      if 2 * (n % d) = d ∧ n / d % 2 = 0 ∧ b ≠ 0 then divEven n d + 1 else divEven n d := by
  have hr := Nat.mod_lt n hpos
  have hrest : n % d * c + b < d * c := by
    have : (n % d + 1) * c ≤ d * c := Nat.mul_le_mul_right c hr
    rw [Nat.add_mul, Nat.one_mul] at this
    omega
  have hsum : n * c + b = d * c * (n / d) + (n % d * c + b) := by
    rw [Nat.mul_right_comm, ← Nat.add_assoc, ← Nat.add_mul, Nat.div_add_mod]
  have hq : (n * c + b) / (d * c) = n / d := by
    rw [hsum, Nat.mul_add_div (Nat.zero_lt_of_lt hrest), Nat.div_eq_of_lt hrest, Nat.add_zero]
  have hm : (n * c + b) % (d * c) = n % d * c + b := by
    rw [hsum, Nat.mul_add_mod, Nat.mod_eq_of_lt hrest]
  unfold divEven
  simp only [hq, hm]
  generalize n % d = r, n / d = q at *
  rcases Nat.lt_trichotomy (2 * r) d with hlt | heq | hgt
  · have : (2 * r + 2) * c ≤ d * c := Nat.mul_le_mul_right c (by omega)
    rw [Nat.add_mul, Nat.mul_assoc] at this
    rw [if_pos (by omega), if_pos hlt, if_neg (by omega)]
  · have : 2 * (r * c) = d * c := by rw [← Nat.mul_assoc, heq]
    split_ifs <;> omega
  · have : d * c < 2 * (r * c) := by
      rw [← Nat.mul_assoc]
      exact Nat.mul_lt_mul_of_pos_right hgt (Nat.zero_lt_of_lt hb)
    rw [if_neg (by omega), if_pos (by omega), if_neg (by omega), if_pos hgt, if_neg (by omega)]

end DivEven

namespace Binary64

variable {k s c : Nat}

theorem binade_pos : 0 < binade := by decide

theorem log2_eq {n : Nat} (hlo : binade * 2 ^ s ≤ n) (hhi : n < 2 * binade * 2 ^ s) :
    n.log2 = 52 + s := by
  have hpos : n ≠ 0 :=
    Nat.ne_of_gt (Nat.lt_of_lt_of_le (Nat.mul_pos binade_pos (Nat.two_pow_pos s)) hlo)
  refine (Nat.log2_eq_iff hpos).mpr ⟨?_, ?_⟩
  · rw [Nat.pow_add]
    exact hlo
  · rw [Nat.add_right_comm, Nat.pow_add]
    exact hhi

theorem exists_scale_of_le {n : Nat} (h : 2 * binade ≤ n) :
    ∃ s, binade * 2 ^ (s + 1) ≤ n ∧ n < 2 * binade * 2 ^ (s + 1) := by
  have hpos : n ≠ 0 := Nat.ne_of_gt (Nat.lt_of_lt_of_le (by decide) h)
  have hlog : 52 + 1 ≤ n.log2 := (Nat.le_log2 hpos).mpr h
  obtain ⟨s, hs⟩ := Nat.exists_eq_add_of_le hlog
  obtain ⟨hlo, hhi⟩ := (Nat.log2_eq_iff hpos).mp (hs.trans (by omega : _ = 52 + (s + 1)))
  rw [Nat.pow_add] at hlo
  rw [Nat.add_right_comm, Nat.pow_add] at hhi
  exact ⟨s, hlo, hhi⟩

theorem scale_mul_add {n t b : Nat} (hlo : binade * 2 ^ s ≤ n) (hhi : n < 2 * binade * 2 ^ s)
    (hb : b < 2 ^ t) : binade * 2 ^ (s + t) ≤ n * 2 ^ t + b ∧
      n * 2 ^ t + b < 2 * binade * 2 ^ (s + t) := by
  rw [Nat.pow_add, ← Nat.mul_assoc, ← Nat.mul_assoc]
  constructor
  · exact Nat.le_trans (Nat.mul_le_mul_right _ hlo) (Nat.le_add_right _ _)
  · have : (n + 1) * 2 ^ t ≤ 2 * binade * 2 ^ s * 2 ^ t := Nat.mul_le_mul_right _ hhi
    rw [Nat.add_mul, Nat.one_mul] at this
    omega

def unitExponent : Nat := 1074

theorem unitsPerOne_eq : unitsPerOne = 2 ^ unitExponent := Nat.one_shiftLeft unitExponent

theorem unitsPerOne_pos : 0 < unitsPerOne := by
  rw [unitsPerOne_eq]
  exact Nat.two_pow_pos _

/-- The rank of a significand at a scale, and what it is worth. -/
theorem unitsOfRank_eq (hs : s = 0 ∨ binade ≤ c) (hc : c ≤ 2 * binade) :
    unitsOfRank (s * binade + c) = c * 2 ^ s := by
  by_cases hlt : c < binade
  · obtain rfl : s = 0 := hs.resolve_right (Nat.not_le.mpr hlt)
    rw [Nat.zero_mul, Nat.zero_add, unitsOfRank, if_pos hlt, Nat.pow_zero, Nat.mul_one]
  · obtain ⟨f, rfl⟩ := Nat.exists_eq_add_of_le (Nat.le_of_not_lt hlt)
    have hrank : s * binade + (binade + f) = binade * (s + 1) + f := by
      rw [Nat.mul_comm s, Nat.mul_succ, Nat.add_assoc]
    rw [hrank, unitsOfRank, if_neg (Nat.not_lt.mpr (by rw [Nat.mul_succ]; omega)),
      Nat.mul_add_div binade_pos, Nat.mul_add_mod, Nat.shiftLeft_eq]
    rcases Nat.lt_or_ge f binade with hf | hf
    · rw [Nat.div_eq_of_lt hf, Nat.mod_eq_of_lt hf, Nat.add_zero, Nat.add_sub_cancel]
    · obtain rfl : f = binade := by omega
      rw [Nat.div_self binade_pos, Nat.mod_self, Nat.add_zero, Nat.add_sub_cancel, Nat.pow_succ,
        ← Nat.two_mul, Nat.mul_comm _ 2, ← Nat.mul_assoc, Nat.mul_comm binade]

theorem exists_rank_eq (k : Nat) :
    ∃ s c, k = s * binade + c ∧ (s = 0 ∨ binade ≤ c) ∧ c < 2 * binade := by
  have hk := Nat.div_add_mod k binade
  have hr := Nat.mod_lt k binade_pos
  rw [Nat.mul_comm] at hk
  cases hq : k / binade with
  | zero =>
    rw [hq, Nat.zero_mul] at hk
    exact ⟨0, k, by omega, .inl rfl, by omega⟩
  | succ s =>
    rw [hq, Nat.succ_mul] at hk
    exact ⟨s, binade + k % binade, by omega, .inr (Nat.le_add_right _ _), by omega⟩

theorem unitsOfRank_succ (hs : s = 0 ∨ binade ≤ c) (hc : c < 2 * binade) :
    unitsOfRank (s * binade + c + 1) = unitsOfRank (s * binade + c) + 2 ^ s := by
  rw [Nat.add_assoc, unitsOfRank_eq (hs.imp_right (by omega)) hc, unitsOfRank_eq hs (by omega),
    Nat.succ_mul]

theorem strictMono_unitsOfRank : StrictMono unitsOfRank := by
  refine strictMono_nat_of_lt_succ fun k => ?_
  obtain ⟨s, c, rfl, hs, hc⟩ := exists_rank_eq k
  rw [unitsOfRank_succ hs hc]
  exact Nat.lt_add_of_pos_right (Nat.two_pow_pos s)

theorem unitsOfRank_pred (hs : s = 0 ∨ binade ≤ c) (hc : c ≤ 2 * binade)
    (h : k < s * binade + c) :
    unitsOfRank k + 2 ^ s ≤ c * 2 ^ s ∨ s ≠ 0 ∧ c = binade := by
  by_cases hstart : s ≠ 0 ∧ c = binade
  · exact .inr hstart
  · have hpos : 0 < c := by
      rcases hs with rfl | hs
      · omega
      · exact Nat.lt_of_lt_of_le binade_pos hs
    have hs : s = 0 ∨ binade ≤ c - 1 := by
      rcases hs with hs | hs
      · exact .inl hs
      · omega
    have hle : unitsOfRank k ≤ (c - 1) * 2 ^ s := by
      rw [← unitsOfRank_eq hs (by omega)]
      exact strictMono_unitsOfRank.monotone (by omega)
    rw [Nat.sub_mul, Nat.one_mul] at hle
    have := Nat.le_mul_of_pos_left (2 ^ s) hpos
    omega

theorem le_unitsOfRank (hs : s = 0 ∨ binade ≤ c) (hc : c ≤ 2 * binade)
    (h : s * binade + c < k) :
    c * 2 ^ s + 2 ^ s ≤ unitsOfRank k := by
  refine Nat.le_trans ?_ (strictMono_unitsOfRank.monotone h)
  rcases Nat.lt_or_ge c (2 * binade) with hlt | hge
  · rw [unitsOfRank_succ hs hlt, unitsOfRank_eq hs hc]
  · obtain rfl : c = 2 * binade := by omega
    -- there the scale doubles
    have hrank : s * binade + 2 * binade = (s + 1) * binade + binade := by
      rw [Nat.add_mul, Nat.one_mul]
      omega
    have hlt : binade < 2 * binade := by decide
    rw [hrank, unitsOfRank_succ (.inr (Nat.le_refl _)) hlt, ← hrank,
      unitsOfRank_eq (.inr (by omega)) (Nat.le_refl _), Nat.pow_succ]
    omega

end Binary64

namespace Magnitude

open Binary64

variable {m x : Magnitude} {n d s c k : Nat}

@[ext] theorem ext (h : m.rank = x.rank) : m = x := by
  cases m
  cases x
  cases h
  rfl

@[simp] theorem rank_ofRank : (ofRank k).rank = min k topRank := rfl

theorem ofRank_rank_add (k t : Nat) : ofRank ((ofRank k).rank + t) = ofRank (k + t) := by
  apply ext
  simp only [rank_ofRank]
  generalize topRank = top
  omega

theorem units_ofRank (h : k ≤ topRank) : (ofRank k).units = unitsOfRank k := by
  rw [units, rank_ofRank, Nat.min_eq_left h]

theorem units_lt_units : m.units < x.units ↔ m.rank < x.rank := strictMono_unitsOfRank.lt_iff_lt

theorem units_infinity : infinity.units = binade * 2 ^ 2046 :=
  unitsOfRank_eq (s := 2046) (c := binade) (.inr le_rfl) (by decide)

/-- No magnitude is nearer to `n / d` units, and one as near has an odd rank. -/
def IsNearest (m : Magnitude) (n d : Nat) : Prop :=
  -- In units, infinity counts as the power of two that follows the largest magnitude.
  ∀ x : Magnitude, x ≠ m → Nat.dist (m.units * d) n < Nat.dist (x.units * d) n ∨
    Nat.dist (m.units * d) n = Nat.dist (x.units * d) n ∧ m.rank % 2 = 0

theorem IsNearest.unique (hd : 0 < d) (h : m.IsNearest n d) (h' : x.IsNearest n d) : m = x := by
  by_contra hne
  wlog hlt : m.rank < x.rank generalizing m x
  · have hgt : x.rank < m.rank :=
      Nat.lt_of_le_of_ne (Nat.le_of_not_lt hlt) fun he => hne (ext he.symm)
    exact this h' h (Ne.symm hne) hgt
  have hx := h x (Ne.symm hne)
  have hm := h' m hne
  -- two that are equally near have even ranks, so that another one lies between them
  have hbetween : m.rank + 1 < x.rank := by omega
  let y : Magnitude := ⟨m.rank + 1, Nat.le_trans (Nat.le_of_lt hbetween) x.rank_le⟩
  have hy := h y fun he => Nat.succ_ne_self m.rank (congrArg rank he)
  have hmy : m.units * d < y.units * d :=
    Nat.mul_lt_mul_of_pos_right (units_lt_units.mpr (Nat.lt_succ_self m.rank)) hd
  have hyx : y.units * d < x.units * d :=
    Nat.mul_lt_mul_of_pos_right (units_lt_units.mpr hbetween) hd
  unfold Nat.dist at hx hm hy
  omega

theorem nearest_of_lt (h : n / d < 2 * binade) : nearest n d = ofRank (divEven n d) := by
  rw [nearest]
  simp only [if_pos h, Nat.zero_mul, Nat.zero_add, Nat.shiftLeft_zero]

/-- What lies between a power of two and the next is rounded to steps of one scale. -/
theorem nearest_of_le (hlo : binade * 2 ^ s ≤ n / d) (hhi : n / d < 2 * binade * 2 ^ s) :
    nearest n d = ofRank (s * binade + divEven n (d * 2 ^ s)) := by
  cases s with
  | zero =>
    rw [Nat.pow_zero, Nat.mul_one] at hhi ⊢
    rw [nearest_of_lt hhi, Nat.zero_mul, Nat.zero_add]
  | succ s =>
    have hge : 2 * binade ≤ n / d := by
      refine Nat.le_trans ?_ hlo
      rw [Nat.mul_comm]
      exact Nat.mul_le_mul_left _ (Nat.le_self_pow (Nat.succ_ne_zero s) 2)
    rw [nearest]
    simp only [if_neg (Nat.not_lt.mpr hge), log2_eq hlo hhi, Nat.add_sub_cancel_left,
      Nat.shiftLeft_eq]

theorem exists_scale (hd : 0 < d) : ∃ s,
    nearest n d = ofRank (s * binade + divEven n (d * 2 ^ s)) ∧
    (s = 0 ∨ binade * (d * 2 ^ s) ≤ n) ∧ n ≤ 2 * binade * (d * 2 ^ s) := by
  rcases Nat.lt_or_ge (n / d) (2 * binade) with hlt | hge
  · refine ⟨0, ?_, .inl rfl, ?_⟩
    · rw [nearest_of_lt hlt, Nat.zero_mul, Nat.zero_add, Nat.pow_zero, Nat.mul_one]
    · rw [Nat.pow_zero, Nat.mul_one]
      exact Nat.le_of_lt ((Nat.div_lt_iff_lt_mul hd).mp hlt)
  · obtain ⟨s, hlo, hhi⟩ := exists_scale_of_le hge
    refine ⟨s + 1, nearest_of_le hlo hhi, .inr ?_, ?_⟩
    · rw [Nat.mul_comm d, ← Nat.mul_assoc]
      exact (Nat.le_div_iff_mul_le hd).mp hlo
    · rw [Nat.mul_comm d, ← Nat.mul_assoc]
      exact Nat.le_of_lt ((Nat.div_lt_iff_lt_mul hd).mp hhi)

/-- Rounding finds the nearest magnitude. -/
theorem isNearest_nearest (hd : 0 < d) : (nearest n d).IsNearest n d := by
  obtain ⟨s, hnearest, hlo, hhi⟩ := exists_scale (n := n) hd
  have hstep : 0 < d * 2 ^ s := Nat.mul_pos hd (Nat.two_pow_pos s)
  have hspec := divEven_spec (n := n) hstep
  have hs : s = 0 ∨ binade ≤ divEven n (d * 2 ^ s) := hlo.imp_right (le_divEven hstep)
  have hc : divEven n (d * 2 ^ s) ≤ 2 * binade := divEven_le hstep hhi
  rw [hnearest]
  generalize divEven n (d * 2 ^ s) = c at *
  have hunits : unitsOfRank (s * binade + c) * d = c * (d * 2 ^ s) := by
    rw [unitsOfRank_eq hs hc, Nat.mul_comm d, Nat.mul_assoc]
  -- what lies below is a step away, or else a scale starts here and this is not above `n / d`
  have hbelow {k : Nat} (hk : k < s * binade + c) :
      unitsOfRank k * d < c * (d * 2 ^ s) ∧
        (unitsOfRank k * d + d * 2 ^ s ≤ c * (d * 2 ^ s) ∨ c * (d * 2 ^ s) ≤ n) := by
    refine ⟨hunits ▸ Nat.mul_lt_mul_of_pos_right (strictMono_unitsOfRank hk) hd, ?_⟩
    rcases unitsOfRank_pred hs hc hk with h | ⟨hne, rfl⟩
    · have := Nat.mul_le_mul_right d h
      rw [Nat.add_mul, Nat.mul_assoc, Nat.mul_comm (2 ^ s)] at this
      exact .inl this
    · exact .inr (hlo.resolve_left hne)
  intro x hx
  rcases Nat.lt_or_ge topRank (s * binade + c) with hover | hle
  · have hrank : x.rank < topRank := by
      refine Nat.lt_of_le_of_ne x.rank_le fun he => hx (ext ?_)
      rw [he, rank_ofRank, Nat.min_eq_right (Nat.le_of_lt hover)]
    have hx : x.units * d < unitsOfRank topRank * d :=
      Nat.mul_lt_mul_of_pos_right (strictMono_unitsOfRank hrank) hd
    have htop := hbelow hover
    rw [units, rank_ofRank, Nat.min_eq_right (Nat.le_of_lt hover)]
    unfold Nat.dist
    omega
  · rw [units_ofRank hle, hunits, rank_ofRank, Nat.min_eq_left hle]
    have heven : (s * binade + c) % 2 = c % 2 := by
      have : 2 ∣ s * binade := Nat.dvd_mul_left_of_dvd (by decide) s
      omega
    rw [heven]
    rcases Nat.lt_trichotomy x.rank (s * binade + c) with hlt | heq | hgt
    · have := hbelow hlt
      change unitsOfRank x.rank * d < _ ∧ _ at this
      unfold Nat.dist units
      omega
    · exact absurd (ext (by rw [heq, rank_ofRank, Nat.min_eq_left hle])) hx
    · have := Nat.mul_le_mul_right d (le_unitsOfRank hs hc hgt)
      rw [Nat.add_mul, Nat.mul_assoc, Nat.mul_comm (2 ^ s)] at this
      unfold Nat.dist units
      omega

theorem isNearest_ofNat (n : Nat) : (ofNat n).IsNearest (n * unitsPerOne) 1 :=
  isNearest_nearest Nat.one_pos

theorem nearest_eq_iff (hd : 0 < d) : nearest n d = m ↔ m.IsNearest n d := by
  constructor
  · rintro rfl
    exact isNearest_nearest hd
  · exact (isNearest_nearest hd).unique hd

theorem nearest_units (m : Magnitude) (hd : 0 < d) : nearest (m.units * d) d = m := by
  refine (nearest_eq_iff hd).mpr fun x hx => .inl ?_
  have hne : m.units * d ≠ x.units * d := fun he =>
    hx (ext (strictMono_unitsOfRank.injective (Nat.eq_of_mul_eq_mul_right hd he)).symm)
  unfold Nat.dist
  omega

theorem exists_units_eq (m : Magnitude) : ∃ s c, m.rank = s * binade + c ∧
    m.units = c * 2 ^ s ∧ (s = 0 ∨ binade ≤ c) ∧ c < 2 * binade := by
  obtain ⟨s, c, hrank, hs, hc⟩ := exists_rank_eq m.rank
  refine ⟨s, c, hrank, ?_, hs, hc⟩
  rw [units, hrank, unitsOfRank_eq hs (Nat.le_of_lt hc)]

/-- What has no more than 53 bits and is not too large is a magnitude. -/
theorem exists_of_units (hc : c ≤ 2 * binade) (hs : s ≤ 2045) :
    ∃ m : Magnitude, m.units = c * 2 ^ s := by
  induction s generalizing c with
  | zero =>
    refine ⟨⟨c, Nat.le_trans hc (by decide)⟩, ?_⟩
    have := unitsOfRank_eq (.inl rfl) hc
    rwa [Nat.zero_mul, Nat.zero_add] at this
  | succ s ih =>
    rcases Nat.lt_or_ge c binade with hlt | hge
    · obtain ⟨m, hm⟩ := ih (c := 2 * c) (by omega) (by omega)
      exact ⟨m, by rw [hm, Nat.pow_succ, Nat.mul_comm 2, Nat.mul_assoc, Nat.mul_comm 2]⟩
    · have hle : (s + 1) * binade + c ≤ topRank := by
        have : (s + 1) * binade ≤ 2045 * binade := Nat.mul_le_mul_right _ hs
        rw [topRank, show 2047 * binade = 2045 * binade + 2 * binade from rfl]
        exact Nat.add_le_add this hc
      exact ⟨⟨_, hle⟩, unitsOfRank_eq (.inr hge) hc⟩

theorem units_nearest (hc : c ≤ 2 * binade) (hs : s ≤ 2045) :
    (nearest (c * 2 ^ s) 1).units = c * 2 ^ s := by
  obtain ⟨m, hm⟩ := exists_of_units hc hs
  have := nearest_units m Nat.one_pos
  rw [Nat.mul_one, hm] at this
  rw [this, hm]

theorem units_ofNat (hn : n ≤ 2 * binade) : (ofNat n).units = n * unitsPerOne := by
  rw [ofNat, unitsPerOne_eq]
  exact units_nearest hn (by decide)

theorem ofNat_of_le (hlo : binade * 2 ^ s ≤ n) (hhi : n < 2 * binade * 2 ^ s) :
    ofNat n = ofRank ((s + unitExponent) * binade + divEven n (2 ^ s)) := by
  have hpos : 0 < 2 ^ unitExponent := Nat.two_pow_pos unitExponent
  rw [ofNat, unitsPerOne_eq]
  have hnearest : nearest (n * 2 ^ unitExponent) 1 =
      ofRank ((s + unitExponent) * binade +
        divEven (n * 2 ^ unitExponent) (1 * 2 ^ (s + unitExponent))) := by
    refine nearest_of_le ?_ ?_
    · rw [Nat.div_one, Nat.pow_add, ← Nat.mul_assoc]
      exact Nat.mul_le_mul_right _ hlo
    · rw [Nat.div_one, Nat.pow_add, ← Nat.mul_assoc]
      exact Nat.mul_lt_mul_of_pos_right hhi hpos
  rw [hnearest, Nat.one_mul, Nat.pow_add, divEven_mul_right hpos]

theorem rank_ofRank_succ (hs : s ≤ 971) (hc : c + 1 ≤ 2 * binade) :
    (ofRank ((s + unitExponent) * binade + (c + 1))).rank =
      (ofRank ((s + unitExponent) * binade + c)).rank + 1 := by
  have hle : (s + unitExponent) * binade + (c + 1) ≤ topRank := by
    have : (s + unitExponent) * binade ≤ 2045 * binade :=
      Nat.mul_le_mul_right _ (Nat.add_le_add_right hs unitExponent)
    have htop : 2045 * binade + 2 * binade = topRank := rfl
    exact htop ▸ Nat.add_le_add this hc
  have hle' : (s + unitExponent) * binade + c ≤ topRank := Nat.le_of_succ_le hle
  rw [rank_ofRank, rank_ofRank, Nat.min_eq_left hle, Nat.min_eq_left hle', Nat.add_assoc]

theorem ofRank_of_le (hs : 972 ≤ s) (hc : binade ≤ c) :
    ofRank ((s + unitExponent) * binade + c) = infinity := by
  have hle : topRank ≤ (s + unitExponent) * binade + c := by
    have : 2046 * binade ≤ (s + unitExponent) * binade :=
      Nat.mul_le_mul_right _ (Nat.add_le_add_right hs unitExponent)
    have htop : 2046 * binade + binade = topRank := rfl
    exact htop ▸ Nat.add_le_add this hc
  exact ext (Nat.min_eq_right hle)

theorem scale_two_pow (t : Nat) (h : binade ≤ m.rank) :
    m.scale (2 ^ t) = ofRank (m.rank + t * binade) := by
  obtain ⟨s, c, hrank, hunits, hs, hc⟩ := exists_units_eq m
  have hge : binade ≤ c := by
    rcases hs with rfl | hs
    · omega
    · exact hs
  have hnearest : nearest (c * 2 ^ (s + t)) 1 =
      ofRank ((s + t) * binade + divEven (c * 2 ^ (s + t)) (1 * 2 ^ (s + t))) := by
    refine nearest_of_le ?_ ?_
    · rw [Nat.div_one]
      exact Nat.mul_le_mul_right _ hge
    · rw [Nat.div_one]
      exact Nat.mul_lt_mul_of_pos_right hc (Nat.two_pow_pos _)
  rw [scale, hunits, Nat.mul_assoc, ← Nat.pow_add, hnearest, Nat.one_mul]
  have hexact : divEven (c * 2 ^ (s + t) + 0) (2 ^ (s + t)) = c :=
    divEven_of_lt (Nat.two_pow_pos _)
  rw [Nat.add_zero] at hexact
  rw [hexact, hrank, Nat.add_mul]
  congr 1
  omega

theorem addNat_of_lt {t : Nat} (h : (unitExponent + 2 + t) * binade ≤ m.rank) (hn : n < 2 ^ t) :
    m.addNat n = m := by
  obtain ⟨s, c, hrank, hunits, hs, hc⟩ := exists_units_eq m
  have hpos : 0 < binade := binade_pos
  have hscale : unitExponent + 1 + t ≤ s := by
    by_contra hlt
    have : (s + 1) * binade ≤ (unitExponent + 1 + t) * binade := Nat.mul_le_mul_right _ (by omega)
    rw [Nat.add_mul, Nat.one_mul] at this
    rw [show unitExponent + 2 + t = unitExponent + 1 + t + 1 by omega, Nat.add_mul,
      Nat.one_mul] at h
    omega
  have hge : binade ≤ c := hs.resolve_left (by omega)
  have hhalf : 2 * (n * unitsPerOne) < 2 ^ s := by
    have hlt : n * 2 ^ unitExponent < 2 ^ t * 2 ^ unitExponent :=
      Nat.mul_lt_mul_of_pos_right hn (Nat.two_pow_pos unitExponent)
    have hle : 2 ^ (t + unitExponent + 1) ≤ 2 ^ s := Nat.pow_le_pow_right (by decide) (by omega)
    rw [← Nat.pow_add] at hlt
    rw [Nat.pow_succ] at hle
    rw [unitsPerOne_eq]
    omega
  have hnearest : nearest (c * 2 ^ s + n * unitsPerOne) 1 =
      ofRank (s * binade + divEven (c * 2 ^ s + n * unitsPerOne) (1 * 2 ^ s)) := by
    refine nearest_of_le ?_ ?_
    · rw [Nat.div_one]
      exact Nat.le_trans (Nat.mul_le_mul_right _ hge) (Nat.le_add_right _ _)
    · rw [Nat.div_one]
      have : (c + 1) * 2 ^ s ≤ 2 * binade * 2 ^ s := Nat.mul_le_mul_right _ hc
      rw [Nat.add_mul, Nat.one_mul] at this
      omega
  rw [addNat, hunits, hnearest, Nat.one_mul, divEven_of_lt hhalf, ← hrank]
  exact ext (Nat.min_eq_left m.rank_le)

end Magnitude

end Rulebook
