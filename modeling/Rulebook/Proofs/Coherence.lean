import Mathlib.Data.List.Count
import Rulebook.Proofs.Numeral.Prefixes
import Rulebook.Proofs.Refusal

/-! # How comparisons go together

What values count as in a comparison is never NaN, so `>` and `<` order the values that count as
numbers, and `==` holds where neither does. Only between texts, which are equal just if they are
the same, it may be that none of the three holds.
-/

namespace Rulebook

namespace Binary64

variable {x y z : Binary64}

theorem lt_trans (hxy : x.lt y = true) (hyz : y.lt z = true) : x.lt z = true := by
  cases x <;> cases y <;> cases z <;> simp only [lt, decide_eq_true_eq, Bool.false_eq_true] at *
  exact Int.lt_trans hxy hyz

theorem lt_trichotomy (s t : Bool) (m n : Magnitude) :
    let x := signed s m
    let y := signed t n
    (y.lt x = true ∧ x.lt y = false ∧ x.eq y = false) ∨
      (y.lt x = false ∧ x.lt y = true ∧ x.eq y = false) ∨
      (y.lt x = false ∧ x.lt y = false ∧ x.eq y = true) := by
  simp only [lt, eq, decide_eq_true_eq, decide_eq_false_iff_not, beq_iff_eq, beq_eq_false_iff_ne]
  omega

theorem count_lt_eq (s t : Bool) (m n : Magnitude) :
    let x := signed s m
    let y := signed t n
    [y.lt x, x.lt y, x.eq y].count true = 1 := by
  intro x y
  rcases lt_trichotomy s t m n with ⟨hgt, hlt, heq⟩ | ⟨hgt, hlt, heq⟩ | ⟨hgt, hlt, heq⟩ <;>
    simp only [x, y, hgt, hlt, heq] <;> rfl

theorem count_lt_same {s t same : Bool} {m n : Magnitude} :
    let x := signed s m
    let y := signed t n
    (same = true → x.eq y = true) →
      [y.lt x, x.lt y, same].count true ≤ 1 ∧
        ([y.lt x, x.lt y, same].count true = 0 ↔ same = false ∧ x.eq y = true) := by
  intro x y hsame
  rcases lt_trichotomy s t m n with ⟨hgt, hlt, heq⟩ | ⟨hgt, hlt, heq⟩ | ⟨hgt, hlt, heq⟩ <;>
    simp only [x, y, hgt, hlt, heq] at hsame ⊢ <;> cases same <;> simp at hsame ⊢

theorem signedRank_eq_iff {s t : Bool} {m n : Magnitude} :
    signedRank s m = signedRank t n ↔ s = t ∧ m = n ∨ m.rank = 0 ∧ n.rank = 0 := by
  rw [Magnitude.ext_iff]
  cases s <;> cases t <;> simp [signedRank] <;> omega

/-- Equal are doubles that are the same, and zeros of either sign. -/
theorem eq_iff (hx : x ≠ .nan) : x.eq y = true ↔ x = y ∨ x.isZero ∧ y.isZero := by
  cases x with
  | nan => exact absurd rfl hx
  | signed s m =>
    cases y with
    | nan => simp [eq, isZero]
    | signed t n => simp [eq, isZero, signedRank_eq_iff]

end Binary64

theorem Value.exists_signed_of_toNumber? {v : Value} {x : Binary64} (h : v.toNumber? = some x) :
    ∃ s m, x = .signed s m := by
  cases v with
  | bool b => cases h
  | data json => cases h
  | number y =>
    cases y with
    | nan => cases h
    | signed s m =>
      cases h
      exact ⟨s, m, rfl⟩
  | text t =>
    obtain ⟨p, hp⟩ := Numeral.leading?_eq_some_iff.mp h
    exact hp.denotes.exists_signed

namespace Relation

variable {l r s v : Value} {x y : Binary64}

theorem eq_bool_of_apply {relation : Relation} (h : relation.apply l r = .ok v) :
    ∃ b, v = .bool b := by
  have happly : (Operator.relation relation).apply l r = .ok v := h
  exact Operator.eq_bool_of_apply happly

theorem greater_eq_ok_iff : greater.apply l r = .ok v ↔
    ∃ x y, l.toNumber? = some x ∧ r.toNumber? = some y ∧ v = .bool (y.lt x) := by
  rw [apply_eq_compareNumbers (.inl Relation.noConfusion), compareNumbers_eq_ok_iff]
  rfl

theorem greater_trans (hlr : greater.apply l r = .ok (.bool true))
    (hrs : greater.apply r s = .ok (.bool true)) : greater.apply l s = .ok (.bool true) := by
  obtain ⟨x, y, hx, hy, hlt⟩ := greater_eq_ok_iff.mp hlr
  obtain ⟨y', z, hy', hz, hlt'⟩ := greater_eq_ok_iff.mp hrs
  obtain rfl : y = y' := Option.some.inj (hy.symm.trans hy')
  refine greater_eq_ok_iff.mpr ⟨x, z, hx, hz, ?_⟩
  rw [Binary64.lt_trans (Value.bool.inj hlt').symm (Value.bool.inj hlt).symm]

structure Compares (l r : Value) (above below same : Bool) : Prop where
  greater : greater.apply l r = .ok (.bool above)
  less : less.apply l r = .ok (.bool below)
  equal : equal.apply l r = .ok (.bool same)

theorem compares_numbers (hx : l.toNumber? = some x) (hy : r.toNumber? = some y)
    (htexts : ∀ s t, l = .text s → r ≠ .text t) :
    Compares l r (y.lt x) (x.lt y) (x.eq y) := by
  have hnumbers (relation : Relation) : relation.apply l r = .ok (.bool (relation.holds x y)) := by
    rw [apply_eq_compareNumbers (.inr htexts)]
    exact compareNumbers_eq_ok_iff.mpr ⟨x, y, hx, hy, rfl⟩
  exact ⟨hnumbers .greater, hnumbers .less, hnumbers .equal⟩

theorem compares_texts {s t : String} (hx : Numeral.leading? s = some x)
    (hy : Numeral.leading? t = some y) :
    Compares (.text s) (.text t) (y.lt x) (x.lt y) (s = t) := by
  have hgreater {s t : String} {x y : Binary64} (hx : Numeral.leading? s = some x)
      (hy : Numeral.leading? t = some y) :
      Relation.greater.apply (.text s) (.text t) = .ok (.bool (y.lt x)) :=
    greater_eq_ok_iff.mpr ⟨x, y, hx, hy, rfl⟩
  exact ⟨hgreater hx hy, apply_converse (r := .greater).mpr (hgreater hy hx), rfl⟩

theorem count_texts {a b : String} (hx : Numeral.leading? a = some x)
    (hy : Numeral.leading? b = some y) :
    [y.lt x, x.lt y, decide (a = b)].count true ≤ 1 ∧
      ([y.lt x, x.lt y, decide (a = b)].count true = 0 ↔ a ≠ b ∧
        ∃ x y, Numeral.leading? a = some x ∧ Numeral.leading? b = some y ∧
          (x = y ∨ x.isZero ∧ y.isZero)) := by
  obtain ⟨s, m, rfl⟩ := Value.exists_signed_of_toNumber? (v := .text a) hx
  obtain ⟨t, n, rfl⟩ := Value.exists_signed_of_toNumber? (v := .text b) hy
  have hsame : decide (a = b) = true → (Binary64.signed s m).eq (.signed t n) = true := by
    intro h
    obtain rfl := of_decide_eq_true h
    exact (Binary64.eq_iff Binary64.noConfusion).mpr (.inl (Option.some.inj (hx.symm.trans hy)))
  obtain ⟨hle, hzero⟩ := Binary64.count_lt_same hsame
  refine ⟨hle, hzero.trans ?_⟩
  rw [decide_eq_false_iff_not, Binary64.eq_iff Binary64.noConfusion]
  simp [hx, hy]

/-- `>`, `<` and `==` cohere on all values: symmetry, refusals, transitivity and how many may
hold. -/
theorem comparisons_are_coherent (l r s : Value) :
    (∀ v, greater.apply l r = .ok v ↔ less.apply r l = .ok v) ∧
    (∀ v, equal.apply l r = .ok v ↔ equal.apply r l = .ok v) ∧
    (∀ (relation : Relation) v, relation.apply l r = .ok v → ∃ b, v = .bool b) ∧
    (∀ (relation : Relation) fault, relation.apply l r = .error fault →
      fault = .invalidComparison l.display r.display) ∧
    (greater.apply l r = .ok (.bool true) → greater.apply r s = .ok (.bool true) →
      greater.apply l s = .ok (.bool true)) ∧
    ((∃ v, greater.apply l r = .ok v) → ∃ above below same, Compares l r above below same ∧
      [above, below, same].count true ≤ 1 ∧
      ((∀ a b, l = .text a → r ≠ .text b) → [above, below, same].count true = 1) ∧
      ∀ a b, l = .text a → r = .text b →
        ([above, below, same].count true = 0 ↔ a ≠ b ∧
          ∃ x y, Numeral.leading? a = some x ∧ Numeral.leading? b = some y ∧
            (x = y ∨ x.isZero ∧ y.isZero))) := by
  refine ⟨fun v => apply_converse (r := .less), fun v => apply_converse (r := .equal),
    fun relation v h => eq_bool_of_apply h,
    fun relation fault h => (apply_eq_error_iff.mp h).2, greater_trans, ?_⟩
  rintro ⟨v, hv⟩
  obtain ⟨x, y, hx, hy, -⟩ := greater_eq_ok_iff.mp hv
  by_cases htexts : ∃ a b, l = .text a ∧ r = .text b
  · obtain ⟨a, b, rfl, rfl⟩ := htexts
    obtain ⟨hle, hzero⟩ := count_texts hx hy
    refine ⟨_, _, _, compares_texts hx hy, hle, fun h => absurd rfl (h a b rfl), ?_⟩
    rintro _ _ ⟨⟩ ⟨⟩
    exact hzero
  · have hnot : ∀ a b, l = .text a → r ≠ .text b := fun a b hl hr => htexts ⟨a, b, hl, hr⟩
    obtain ⟨s, m, rfl⟩ := Value.exists_signed_of_toNumber? hx
    obtain ⟨t, n, rfl⟩ := Value.exists_signed_of_toNumber? hy
    have hone := Binary64.count_lt_eq s t m n
    exact ⟨_, _, _, compares_numbers hx hy hnot, hone.le, fun _ => hone,
      fun a b hl hr => absurd hr (hnot a b hl)⟩

theorem comparisons_are_coherent_texts :
    greater.apply (.text "Infinity") (.text "-Infinity") = .ok (.bool true) ∧
    (∃ above below same, Compares (.number .zero) (.text "-0 km") above below same ∧
      [above, below, same].count true = 1) ∧
    (∃ above below same, Compares (.text "0 km") (.text "-0 km") above below same ∧
      [above, below, same].count true = 0) ∧
    ∃ fault, greater.apply (.bool true) (.data .null) = .error fault ∧
      fault = .invalidComparison "true" "null" := by
  obtain ⟨-, -, -, -, htrans, -⟩ :=
    comparisons_are_coherent (.text "Infinity") (.text "0 km") (.text "-Infinity")
  obtain ⟨-, -, -, -, -, hnumber⟩ :=
    comparisons_are_coherent (.number .zero) (.text "-0 km") (.bool true)
  obtain ⟨-, -, -, -, -, htexts⟩ :=
    comparisons_are_coherent (.text "0 km") (.text "-0 km") (.bool true)
  obtain ⟨-, -, -, hfault, -⟩ := comparisons_are_coherent (.bool true) (.data .null) (.bool true)
  obtain ⟨above, below, same, hcompares, -, hone, -⟩ := hnumber ⟨_, rfl⟩
  obtain ⟨above', below', same', hcompares', -, -, hzero⟩ := htexts ⟨_, rfl⟩
  refine ⟨htrans rfl rfl, ⟨above, below, same, hcompares, hone nofun⟩,
    ⟨above', below', same', hcompares', ?_⟩, ⟨_, rfl, hfault .greater _ rfl⟩⟩
  exact (hzero _ _ rfl rfl).mpr ⟨by decide, _, _, rfl, rfl, .inr ⟨rfl, rfl⟩⟩

/-- The texts of the two zeros begin with different doubles, and yet none of the three holds. -/
theorem comparisons_of_zeros :
    Compares (.text "0") (.text "-0") false false false ∧
      ¬ ∃ x, Numeral.leading? "0" = some x ∧ Numeral.leading? "-0" = some x := by
  constructor
  · exact ⟨rfl, rfl, rfl⟩
  · rintro ⟨x, hx, hy⟩
    have hpositive : Numeral.leading? "0" = some (.signed false .zero) := rfl
    have hnegative : Numeral.leading? "-0" = some (.signed true .zero) := rfl
    have hsame := Option.some.inj (hpositive.symm.trans (hx.trans (hy.symm.trans hnegative)))
    exact nomatch (Binary64.signed.inj hsame).1

end Relation

end Rulebook
