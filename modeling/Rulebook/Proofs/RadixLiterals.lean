import Mathlib.Data.Nat.Digits.Lemmas
import Rulebook.Numeral
import Rulebook.Proofs.Lexing
import Rulebook.Proofs.Rounding
import Rulebook.Proofs.Sequencing

/-! # Numbers in other radices

A whole number in radix 16, 8 or 2 is read digit by digit, each of which is rounded. As long as 53
bits are enough nothing is lost. The digit after which they no longer are is rounded with what
comes before it, and those that follow only make up for places.
-/

namespace Rulebook.Numeral

open Binary64 Magnitude

namespace Radix

variable {radix : Radix} {front back vs : List Nat} {v n j s : Nat} {m : Magnitude}

def bits : Radix → Nat
  | hexadecimal => 4
  | octal => 3
  | binary => 1

theorem base_eq (radix : Radix) : radix.base = 2 ^ radix.bits := by
  cases radix <;> rfl

theorem bits_le (radix : Radix) : radix.bits ≤ 4 := by
  cases radix <;> decide

theorem one_lt_base (radix : Radix) : 1 < radix.base := by
  cases radix <;> decide

def value (radix : Radix) (vs : List Nat) : Nat := Nat.ofDigits radix.base vs.reverse

theorem value_append : radix.value (front ++ back) =
    radix.value front * radix.base ^ back.length + radix.value back := by
  rw [value, List.reverse_append, Nat.ofDigits_append, List.length_reverse, Nat.add_comm,
    Nat.mul_comm]
  rfl

theorem value_concat : radix.value (front ++ [v]) = radix.value front * radix.base + v := by
  rw [value_append, List.length_singleton, Nat.pow_one]
  congr 1

theorem value_lt (h : ∀ v ∈ vs, v < radix.base) : radix.value vs < radix.base ^ vs.length := by
  rw [← List.length_reverse]
  exact Nat.ofDigits_lt_base_pow_length radix.one_lt_base fun v hv => h v (List.mem_reverse.mp hv)

theorem push_ofNat (hn : n ≤ 2 * binade) (v : Nat) :
    radix.push (.ofNat n) v = .ofNat (n * radix.base + v) := by
  have hscale : ((Magnitude.ofNat n).scale radix.base).units = n * radix.base * unitsPerOne := by
    rw [scale, units_ofNat hn, base_eq, unitsPerOne_eq, Nat.mul_assoc, ← Nat.pow_add,
      units_nearest hn, Nat.mul_assoc, ← Nat.pow_add, Nat.add_comm]
    exact Nat.le_trans (Nat.add_le_add_left radix.bits_le _) (by decide)
  rw [push, addNat, hscale, ← Nat.add_mul, Magnitude.ofNat]

theorem foldl_push_of_le (h : radix.value vs ≤ 2 * binade) :
    vs.foldl radix.push .zero = .ofNat (radix.value vs) := by
  induction vs using List.reverseRecOn with
  | nil =>
    have hzero : radix.value [] = 0 := rfl
    rw [hzero, Magnitude.ofNat, Nat.zero_mul]
    rfl
  | append_singleton vs v ih =>
    rw [value_concat] at h
    have hle : radix.value vs ≤ 2 * binade := by
      have := Nat.le_mul_of_pos_right (radix.value vs) (Nat.zero_lt_of_lt radix.one_lt_base)
      omega
    rw [List.foldl_append, ih hle, List.foldl_cons, List.foldl_nil, push_ofNat hle, value_concat]

theorem foldl_push_of_ge (hm : (unitExponent + 2) * binade ≤ m.rank)
    (hvs : ∀ v ∈ vs, v < radix.base) :
    vs.foldl radix.push m = ofRank (m.rank + radix.bits * vs.length * binade) := by
  induction vs generalizing m with
  | nil =>
    simp only [List.foldl_nil, List.length_nil, Nat.mul_zero, Nat.zero_mul, Nat.add_zero]
    exact (ext (Nat.min_eq_left m.rank_le)).symm
  | cons v vs ih =>
    rw [List.forall_mem_cons] at hvs
    have hscale : m.scale radix.base = ofRank (m.rank + radix.bits * binade) := by
      rw [base_eq, scale_two_pow]
      exact Nat.le_trans (Nat.le_mul_of_pos_left _ (Nat.succ_pos _)) hm
    have htop : (unitExponent + 2 + radix.bits) * binade ≤ topRank :=
      Nat.mul_le_mul_right _ (Nat.le_trans (Nat.add_le_add_left radix.bits_le _) (by decide))
    have hrank : (unitExponent + 2 + radix.bits) * binade ≤ (m.scale radix.base).rank := by
      rw [hscale, rank_ofRank]
      refine Nat.le_min.mpr ⟨?_, htop⟩
      rw [Nat.add_mul]
      exact Nat.add_le_add_right hm _
    have hpush : radix.push m v = ofRank (m.rank + radix.bits * binade) := by
      rw [push, addNat_of_lt hrank (radix.base_eq ▸ hvs.1), hscale]
    have hnext : (unitExponent + 2) * binade ≤ (radix.push m v).rank := by
      rw [hpush, ← hscale]
      exact Nat.le_trans (Nat.mul_le_mul_right _ (Nat.le_add_right _ _)) hrank
    rw [List.foldl_cons, ih hnext hvs.2, hpush, ofRank_rank_add, List.length_cons, Nat.mul_succ,
      Nat.add_mul, Nat.add_right_comm, Nat.add_assoc]

theorem exists_split (h : 2 * binade ≤ radix.value vs) :
    ∃ front v back, vs = front ++ v :: back ∧ radix.value front < 2 * binade ∧
      2 * binade ≤ radix.value (front ++ [v]) := by
  induction vs using List.reverseRecOn with
  | nil =>
    have hzero : radix.value [] = 0 := rfl
    rw [hzero] at h
    exact absurd h (by decide)
  | append_singleton vs v ih =>
    rcases Nat.lt_or_ge (radix.value vs) (2 * binade) with hlt | hge
    · exact ⟨vs, v, [], rfl, hlt, h⟩
    · obtain ⟨front, w, back, rfl, hfront⟩ := ih hge
      exact ⟨front, w, back ++ [v], by simp, hfront⟩

/-- Without its last `j` digits the number exceeds 53 bits and is halfway above an even double. -/
def DropsTail (radix : Radix) (n : Nat) : Prop :=
  -- `c` is the even neighbour below the tie, and the last `j` digits are not all zero.
  n.log2 < 1024 ∧ ∃ j e c, n / radix.base ^ (j + 1) < 2 ^ 53 ∧
    n / radix.base ^ j = c * 2 ^ (e + 1) + 2 ^ e ∧ 2 ^ 52 ≤ c ∧ c < 2 ^ 53 ∧ c % 2 = 0 ∧
    n % radix.base ^ j ≠ 0

theorem le_mul_two_pow_succ {c e : Nat} (hc : 2 ^ 52 ≤ c) : 2 ^ 53 ≤ c * 2 ^ (e + 1) :=
  Nat.mul_le_mul hc (Nat.le_self_pow (Nat.succ_ne_zero e) 2)

theorem not_dropsTail_of_div_lt (h : n / radix.base < 2 ^ 53) : ¬ radix.DropsTail n := by
  rintro ⟨-, j, e, c, -, hhalf, hlo, -, -, htail⟩
  cases j with
  | zero => exact htail (Nat.mod_one n)
  | succ j =>
    have hdiv : n / radix.base ^ (j + 1) ≤ n / radix.base :=
      Nat.div_le_div_left (Nat.le_self_pow (Nat.succ_ne_zero j) _)
        (Nat.zero_lt_of_lt radix.one_lt_base)
    rw [hhalf] at hdiv
    have hlarge := Nat.le_trans (le_mul_two_pow_succ hlo) (Nat.le_of_add_right_le hdiv)
    exact absurd h (Nat.not_lt_of_le hlarge)

theorem place_unique {i b : Nat} (hb : 0 < b) (hi : n / b ^ (i + 1) < 2 ^ 53)
    (hi' : 2 ^ 53 ≤ n / b ^ i) (hj : n / b ^ (j + 1) < 2 ^ 53) (hj' : 2 ^ 53 ≤ n / b ^ j) :
    i = j := by
  have hle {i j : Nat} (hi : n / b ^ (i + 1) < 2 ^ 53) (hj' : 2 ^ 53 ≤ n / b ^ j) : j ≤ i := by
    by_contra hlt
    have hpow : b ^ (i + 1) ≤ b ^ j := Nat.pow_le_pow_right hb (Nat.lt_of_not_le hlt)
    have hdiv : n / b ^ j ≤ n / b ^ (i + 1) := Nat.div_le_div_left hpow (Nat.pow_pos hb)
    exact absurd (Nat.lt_of_le_of_lt hdiv hi) (Nat.not_lt_of_le hj')
  exact Nat.le_antisymm (hle hj hi') (hle hi hj')

/-- The tie is told from the place and the scale at which the number is rounded. -/
theorem dropsTail_iff (hplace : n / radix.base ^ (j + 1) < 2 ^ 53)
    (hlo : binade * 2 ^ (s + 1) ≤ n / radix.base ^ j)
    (hhi : n / radix.base ^ j < 2 * binade * 2 ^ (s + 1)) :
    radix.DropsTail n ↔ n.log2 < 1024 ∧ 2 * (n / radix.base ^ j % 2 ^ (s + 1)) = 2 ^ (s + 1) ∧
      n / radix.base ^ j / 2 ^ (s + 1) % 2 = 0 ∧ n % radix.base ^ j ≠ 0 := by
  refine and_congr_right fun _ => ?_
  have hpos : 0 < 2 ^ (s + 1) := Nat.two_pow_pos _
  constructor
  · rintro ⟨i, e, c, hi, hhalf, hclo, hchi, heven, htail⟩
    have hstep : 2 ^ (e + 1) = 2 * 2 ^ e := Nat.pow_succ'
    have hbelow : 2 ^ e < 2 ^ (e + 1) := Nat.pow_lt_pow_succ (by decide)
    obtain rfl : i = j := by
      refine place_unique (Nat.zero_lt_of_lt radix.one_lt_base) hi ?_ hplace ?_
      · rw [hhalf]
        exact Nat.le_trans (le_mul_two_pow_succ hclo) (Nat.le_add_right _ _)
      · exact Nat.le_trans (le_mul_two_pow_succ (Nat.le_refl _)) hlo
    rw [hhalf] at hlo hhi ⊢
    have hscale : 52 + (e + 1) = 52 + (s + 1) := by
      refine (log2_eq ?_ ?_).symm.trans (log2_eq hlo hhi)
      · exact Nat.le_trans (Nat.mul_le_mul_right _ hclo) (Nat.le_add_right _ _)
      · have : (c + 1) * 2 ^ (e + 1) ≤ 2 * binade * 2 ^ (e + 1) := Nat.mul_le_mul_right _ hchi
        rw [Nat.add_mul, Nat.one_mul] at this
        exact Nat.lt_of_lt_of_le (Nat.add_lt_add_left hbelow _) this
    obtain rfl : e = s := by omega
    rw [Nat.mul_comm c, Nat.mul_add_mod, Nat.mul_add_div hpos, Nat.mod_eq_of_lt hbelow,
      Nat.div_eq_of_lt hbelow]
    exact ⟨hstep.symm, heven, htail⟩
  · rintro ⟨htie, heven, htail⟩
    refine ⟨j, s, n / radix.base ^ j / 2 ^ (s + 1), hplace, ?_, ?_, ?_, heven, htail⟩
    · have hdiv := Nat.div_add_mod (n / radix.base ^ j) (2 ^ (s + 1))
      have hstep : 2 ^ (s + 1) = 2 * 2 ^ s := Nat.pow_succ'
      have hmod : n / radix.base ^ j % 2 ^ (s + 1) = 2 ^ s :=
        Nat.eq_of_mul_eq_mul_left (by decide) (htie.trans hstep)
      rw [hmod, Nat.mul_comm] at hdiv
      exact hdiv.symm
    · exact (Nat.le_div_iff_mul_le hpos).mpr hlo
    · exact (Nat.div_lt_iff_lt_mul hpos).mpr hhi

/-- Digits beyond the 53rd bit only move up what the ones before them are rounded to. -/
theorem exists_foldl_push (hvs : ∀ v ∈ vs, v < radix.base) (h : 2 ^ 53 ≤ radix.value vs) :
    ∃ j s, radix.value vs / radix.base ^ (j + 1) < 2 ^ 53 ∧
      binade * 2 ^ (s + 1) ≤ radix.value vs / radix.base ^ j ∧
      radix.value vs / radix.base ^ j < 2 * binade * 2 ^ (s + 1) ∧
      vs.foldl radix.push .zero = ofRank ((s + 1 + radix.bits * j + unitExponent) * binade +
        divEven (radix.value vs / radix.base ^ j) (2 ^ (s + 1))) := by
  obtain ⟨front, v, back, rfl, hfront, hsplit⟩ := exists_split h
  have hsplit' : front ++ v :: back = front ++ [v] ++ back := by simp
  have hback : ∀ v ∈ back, v < radix.base := fun w hw => hvs w (by simp [hw])
  have hv : v < radix.base := hvs v (by simp)
  have hplace : radix.value (front ++ v :: back) / radix.base ^ back.length =
      radix.value (front ++ [v]) := by
    rw [hsplit', value_append, Nat.mul_comm, Nat.mul_add_div (Nat.pow_pos (Nat.zero_lt_of_lt hv)),
      Nat.div_eq_of_lt (value_lt hback), Nat.add_zero]
  have hnext : radix.value (front ++ v :: back) / radix.base ^ (back.length + 1) =
      radix.value front := by
    rw [Nat.pow_succ, ← Nat.div_div_eq_div_mul, hplace, value_concat, Nat.mul_comm,
      Nat.mul_add_div (Nat.zero_lt_of_lt hv), Nat.div_eq_of_lt hv, Nat.add_zero]
  obtain ⟨s, hlo, hhi⟩ := exists_scale_of_le hsplit
  refine ⟨back.length, s, ?_, ?_, ?_, ?_⟩
  · rw [hnext]
    exact hfront
  · rw [hplace]
    exact hlo
  · rw [hplace]
    exact hhi
  · have hread : (front ++ [v]).foldl radix.push .zero = .ofNat (radix.value (front ++ [v])) := by
      rw [List.foldl_append, foldl_push_of_le (Nat.le_of_lt hfront), List.foldl_cons,
        List.foldl_nil, push_ofNat (Nat.le_of_lt hfront), value_concat]
    have hrank := ofNat_of_le hlo hhi
    have hfull : binade ≤ divEven (radix.value (front ++ [v])) (2 ^ (s + 1)) :=
      le_divEven (Nat.two_pow_pos _) hlo
    rw [hplace, hsplit', List.foldl_append, hread, foldl_push_of_ge ?_ hback, hrank,
      ofRank_rank_add]
    · rw [Nat.add_right_comm (s + 1), Nat.add_mul _ (radix.bits * _), Nat.add_right_comm]
    · have hscale : (unitExponent + 1) * binade ≤ (s + 1 + unitExponent) * binade :=
        Nat.mul_le_mul_right _ (by omega)
      have htop : (unitExponent + 2) * binade ≤ topRank := Nat.mul_le_mul_right _ (by decide)
      rw [hrank, rank_ofRank]
      refine Nat.le_min.mpr ⟨?_, htop⟩
      rw [← Nat.add_assoc unitExponent 1 1, Nat.add_mul _ 1, Nat.one_mul]
      exact Nat.add_le_add hscale hfull

theorem foldl_push (hvs : ∀ v ∈ vs, v < radix.base) :
    (radix.DropsTail (radix.value vs) →
      (Magnitude.ofNat (radix.value vs)).rank = (vs.foldl radix.push .zero).rank + 1) ∧
    (¬ radix.DropsTail (radix.value vs) →
      vs.foldl radix.push .zero = .ofNat (radix.value vs)) := by
  rcases Nat.lt_or_ge (radix.value vs) (2 ^ 53) with hlt | hge
  · have hdiv := Nat.div_le_self (radix.value vs) radix.base
    exact ⟨fun h => absurd h (not_dropsTail_of_div_lt (Nat.lt_of_le_of_lt hdiv hlt)),
      fun _ => foldl_push_of_le (Nat.le_of_lt hlt)⟩
  · obtain ⟨j, s, hplace, hlo, hhi, hread⟩ := exists_foldl_push hvs hge
    generalize radix.value vs = n at *
    have htail : n % radix.base ^ j < 2 ^ (radix.bits * j) := by
      rw [Nat.pow_mul, ← base_eq]
      exact Nat.mod_lt _ (Nat.pow_pos (Nat.zero_lt_of_lt radix.one_lt_base))
    have hn : n = n / radix.base ^ j * 2 ^ (radix.bits * j) + n % radix.base ^ j := by
      rw [Nat.pow_mul, ← base_eq, Nat.mul_comm, Nat.div_add_mod]
    rw [dropsTail_iff hplace hlo hhi]
    generalize n / radix.base ^ j = q, n % radix.base ^ j = tail at *
    obtain ⟨hlo', hhi'⟩ := scale_mul_add hlo hhi htail
    rw [← hn] at hlo' hhi'
    have heven : 2 ^ (s + 1) % 2 = 0 := by
      rw [Nat.pow_succ, Nat.mul_mod_left]
    have hround := divEven_mul_add (n := q) (Nat.two_pow_pos (s + 1)) heven htail
    rw [← hn, ← Nat.pow_add] at hround
    have hfull : binade ≤ divEven q (2 ^ (s + 1)) := le_divEven (Nat.two_pow_pos _) hlo
    have hmost : divEven n (2 ^ (s + 1 + radix.bits * j)) ≤ 2 * binade :=
      divEven_le (Nat.two_pow_pos _) (Nat.le_of_lt hhi')
    rw [hread, ofNat_of_le hlo' hhi', log2_eq hlo' hhi']
    generalize s + 1 + radix.bits * j = scale at *
    by_cases htie : 2 * (q % 2 ^ (s + 1)) = 2 ^ (s + 1) ∧ q / 2 ^ (s + 1) % 2 = 0 ∧ tail ≠ 0
    · rw [if_pos htie] at hround
      rw [hround] at hmost ⊢
      constructor
      · rintro ⟨hscale, -⟩
        exact rank_ofRank_succ (by omega) hmost
      · intro h
        have hscale : 972 ≤ scale := by
          by_contra hlt
          exact h ⟨by omega, htie⟩
        rw [ofRank_of_le hscale hfull, ofRank_of_le hscale (Nat.le_succ_of_le hfull)]
    · rw [if_neg htie] at hround
      exact ⟨fun h => absurd h.2 htie, fun _ => by rw [hround]⟩

theorem foldl_push_isNearest_iff (hvs : ∀ v ∈ vs, v < radix.base) :
    (vs.foldl radix.push .zero).IsNearest (radix.value vs * unitsPerOne) 1 ↔
      ¬ radix.DropsTail (radix.value vs) := by
  obtain ⟨hlost, hkept⟩ := foldl_push hvs
  constructor
  · intro h hdrops
    have hrank := hlost hdrops
    rw [(isNearest_ofNat _).unique Nat.one_pos h] at hrank
    exact Nat.succ_ne_self _ hrank.symm
  · intro h
    rw [hkept h]
    exact isNearest_ofNat _

section Digits

variable {c : Char} {ds : List Char}

theorem digit_lt (h : radix.digit? c = some v) : v < radix.base :=
  of_decide_eq_true (Option.filter_eq_some_iff.mp h).2

theorem not_blank_of_digit (h : radix.digit? c = some v) : Text.isBlank c = false := by
  obtain ⟨h, -⟩ := Option.filter_eq_some_iff.mp h
  rw [hexDigit?] at h
  split_ifs at h with hd hl hu
  · exact Text.not_blank_of_le (Char.le_trans (by decide) hd.1) (Char.le_trans hd.2 (by decide))
  · exact Text.not_blank_of_le (Char.le_trans (by decide) hl.1) (Char.le_trans hl.2 (by decide))
  · exact Text.not_blank_of_le (Char.le_trans (by decide) hu.1) (Char.le_trans hu.2 (by decide))

theorem not_blank_of_letter (h : ofLetter? c = some radix) : Text.isBlank c = false := by
  rw [ofLetter?] at h
  split_ifs at h with hx ho hb
  · rcases hx with rfl | rfl <;> rfl
  · rcases ho with rfl | rfl <;> rfl
  · rcases hb with rfl | rfl <;> rfl

theorem forall_lt_of_digits (h : ds.mapM radix.digit? = some vs) : ∀ v ∈ vs, v < radix.base := by
  intro v hv
  obtain ⟨c, -, hc⟩ := exists_of_mem_of_mapM h hv
  exact digit_lt hc

theorem not_blank_of_digits (h : ds.mapM radix.digit? = some vs) :
    ∀ c ∈ ds, Text.isBlank c = false := by
  replace h := forall₂_of_mapM h
  induction h with
  | nil => nofun
  | cons hc _ ih => exact List.forall_mem_cons.mpr ⟨not_blank_of_digit hc, ih⟩

theorem foldlM_push (h : ds.mapM radix.digit? = some vs) (m : Magnitude) :
    ds.foldlM (fun acc c => (radix.digit? c).map (radix.push acc)) m =
      some (vs.foldl radix.push m) := by
  replace h := forall₂_of_mapM h
  induction h generalizing m with
  | nil => rfl
  | cons hc _ ih =>
    rw [List.foldlM_cons, hc]
    exact ih _

end Digits

end Radix

section Literals

variable {text : String} {letter : Char} {ds : List Char} {radix : Radix} {vs : List Nat}

theorem literal_of_radix (htext : text.toList = '0' :: letter :: ds)
    (hletter : Radix.ofLetter? letter = some radix) (hne : ds ≠ [])
    (hds : ds.mapM radix.digit? = some vs) :
    literal? text = some (.signed false (vs.foldl radix.push .zero)) := by
  have htrim : Text.trim text.toList = '0' :: letter :: ds := by
    rw [htext, Text.trim_of_not_blank]
    simp only [List.forall_mem_cons]
    exact ⟨rfl, Radix.not_blank_of_letter hletter, Radix.not_blank_of_digits hds⟩
  have hradix : radixLiteral? ('0' :: letter :: ds) = some (vs.foldl radix.push .zero) := by
    rw [radixLiteral?, hletter, Option.bind_eq_bind, Option.bind_some,
      if_neg (by simpa using hne), Radix.foldlM_push hds]
  rw [literal?]
  simp only [htrim, hradix, List.isEmpty_cons, Bool.false_eq_true, if_false]

/-- A whole number in another radix is read as the nearest double just if no tie drops its tail. -/
theorem radix_literal_isNearest (htext : text.toList = '0' :: letter :: ds)
    (hletter : Radix.ofLetter? letter = some radix) (hne : ds ≠ [])
    (hds : ds.mapM radix.digit? = some vs) :
    ∃ m : Magnitude, literal? text = some (.signed false m) ∧
      (m.IsNearest (radix.value vs * unitsPerOne) 1 ↔ ¬ radix.DropsTail (radix.value vs)) ∧
      (radix.DropsTail (radix.value vs) →
        ∃ x : Magnitude, x.IsNearest (radix.value vs * unitsPerOne) 1 ∧ x.rank = m.rank + 1) := by
  have hvs := Radix.forall_lt_of_digits hds
  exact ⟨_, literal_of_radix htext hletter hne hds, Radix.foldl_push_isNearest_iff hvs,
    fun h => ⟨_, isNearest_ofNat _, (Radix.foldl_push hvs).1 h⟩⟩

theorem radix_literal_isNearest_up :
    "0X20000000000003".toList = '0' :: 'X' :: "20000000000003".toList ∧
      "20000000000003".toList.mapM Radix.hexadecimal.digit? =
        some [2, 0, 0, 0, 0, 0, 0, 0, 0, 0, 0, 0, 0, 3] ∧
      ¬ Radix.hexadecimal.DropsTail 0x20000000000003 ∧
      ∃ m : Magnitude, literal? "0X20000000000003" = some (.signed false m) ∧
        m.IsNearest (0x20000000000003 * unitsPerOne) 1 := by
  have htext : "0X20000000000003".toList = '0' :: 'X' :: "20000000000003".toList := rfl
  have hds : "20000000000003".toList.mapM Radix.hexadecimal.digit? =
      some [2, 0, 0, 0, 0, 0, 0, 0, 0, 0, 0, 0, 0, 3] := rfl
  have hvalue : Radix.hexadecimal.value [2, 0, 0, 0, 0, 0, 0, 0, 0, 0, 0, 0, 0, 3] =
      0x20000000000003 := rfl
  have hkept : ¬ Radix.hexadecimal.DropsTail 0x20000000000003 :=
    Radix.not_dropsTail_of_div_lt (by decide)
  obtain ⟨m, hm, hnearest, -⟩ := radix_literal_isNearest htext rfl (by decide) hds
  rw [hvalue] at hnearest
  exact ⟨htext, hds, hkept, m, hm, hnearest.mpr hkept⟩

/-- The tie at the last digit but one is rounded down, and then the last one is lost. -/
theorem radix_literal_below_nearest :
    "0x200000000000011".toList = '0' :: 'x' :: "200000000000011".toList ∧
      "200000000000011".toList.mapM Radix.hexadecimal.digit? =
        some [2, 0, 0, 0, 0, 0, 0, 0, 0, 0, 0, 0, 0, 1, 1] ∧
      Radix.hexadecimal.value [2, 0, 0, 0, 0, 0, 0, 0, 0, 0, 0, 0, 0, 1, 1] =
        0x200000000000011 ∧
      ∃ m : Magnitude, literal? "0x200000000000011" = some (.signed false m) ∧
        ¬ m.IsNearest (0x200000000000011 * unitsPerOne) 1 := by
  have htext : "0x200000000000011".toList = '0' :: 'x' :: "200000000000011".toList := rfl
  have hds : "200000000000011".toList.mapM Radix.hexadecimal.digit? =
      some [2, 0, 0, 0, 0, 0, 0, 0, 0, 0, 0, 0, 0, 1, 1] := rfl
  have hvalue : Radix.hexadecimal.value [2, 0, 0, 0, 0, 0, 0, 0, 0, 0, 0, 0, 0, 1, 1] =
      0x200000000000011 := rfl
  have hdrops : Radix.hexadecimal.DropsTail 0x200000000000011 :=
    ⟨by decide, 1, 0, 2 ^ 52, by decide +kernel, rfl, by decide, by decide, by decide, by decide⟩
  have hnearest := Radix.foldl_push_isNearest_iff (Radix.forall_lt_of_digits hds)
  rw [hvalue] at hnearest
  exact ⟨htext, hds, hvalue, _, literal_of_radix htext rfl (by decide) hds,
    fun h => hnearest.mp h hdrops⟩

end Literals

end Rulebook.Numeral
