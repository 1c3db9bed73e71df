import Mathlib.Data.List.Forall2

/-! # Sequencing

A sequence of steps that may fail succeeds if each step does, and the first fault ends it.
-/

namespace Rulebook

variable {ε α β γ : Type}

@[simp] theorem ok_bind (a : α) (f : α → Except ε β) : (Except.ok a >>= f) = f a := rfl

@[simp] theorem error_bind (fault : ε) (f : α → Except ε β) :
    (Except.error fault >>= f) = .error fault := rfl

theorem bind_eq_ok_iff {x : Except ε α} {f : α → Except ε β} {b : β} :
    (x >>= f) = .ok b ↔ ∃ a, x = .ok a ∧ f a = .ok b := by
  cases x <;> simp

theorem bind_eq_error_iff {x : Except ε α} {f : α → Except ε β} {fault : ε} :
    (x >>= f) = .error fault ↔ x = .error fault ∨ ∃ a, x = .ok a ∧ f a = .error fault := by
  cases x <;> simp

theorem exists_error_iff_not_ok {x : Except ε α} :
    (∃ fault, x = .error fault) ↔ ¬ ∃ a, x = .ok a := by
  cases x <;> simp

theorem toOption_bind (x : Except ε α) (f : α → Except ε β) :
    (x >>= f).toOption = x.toOption.bind fun a => (f a).toOption := by
  cases x <;> rfl

theorem ite_bind_ite {p q : Prop} [Decidable p] [Decidable q] (a : α) (b : β) (fault : ε)
    (f : α → β → γ) :
    (do
      let x ← (if p then Except.ok a else .error fault)
      let y ← (if q then Except.ok b else .error fault)
      return f x y) = if p ∧ q then .ok (f a b) else .error fault := by
  by_cases hp : p
  · by_cases hq : q
    · rw [if_pos hp, if_pos hq, if_pos ⟨hp, hq⟩]
      rfl
    · rw [if_pos hp, if_neg hq, if_neg fun h => hq h.2]
      rfl
  · rw [if_neg hp, if_neg fun h : p ∧ q => hp h.1]
    rfl

theorem mapM_eq_ok {f : α → Except ε β} {as : List α} {bs : List β}
    (h : List.Forall₂ (fun a b => f a = .ok b) as bs) : as.mapM f = .ok bs := by
  induction h with
  | nil => rfl
  | cons ha _ ih =>
    rw [List.mapM_cons, ha, ok_bind, ih]
    rfl

theorem forall₂_of_mapM {f : α → Option β} {as : List α} {bs : List β}
    (h : as.mapM f = some bs) : List.Forall₂ (fun a b => f a = some b) as bs := by
  induction as generalizing bs with
  | nil =>
    cases h
    exact .nil
  | cons a as ih =>
    simp only [List.mapM_cons, Option.bind_eq_bind, Option.bind_eq_some_iff] at h
    obtain ⟨b, hb, bs, hbs, h⟩ := h
    cases h
    exact .cons hb (ih hbs)

theorem exists_of_mem_of_mapM {f : α → Option β} {as : List α} {bs : List β} {b : β}
    (h : as.mapM f = some bs) (hb : b ∈ bs) : ∃ a ∈ as, f a = some b := by
  replace h := forall₂_of_mapM h
  induction h with
  | nil => cases hb
  | cons ha _ ih =>
    rcases List.mem_cons.mp hb with rfl | hb
    · exact ⟨_, List.mem_cons_self, ha⟩
    · obtain ⟨a, hmem, ha⟩ := ih hb
      exact ⟨a, List.mem_cons_of_mem _ hmem, ha⟩

theorem isSome_list_mapM_iff {f : α → Option β} {as : List α} :
    (as.mapM f).isSome ↔ ∀ a ∈ as, (f a).isSome := by
  induction as with
  | nil => simp
  | cons a as ih =>
    rw [List.forall_mem_cons, ← ih, List.mapM_cons]
    cases f a <;> cases as.mapM f <;> simp

theorem isSome_mapM_iff {f : α → Option β} {a? : Option α} :
    (a?.mapM f).isSome ↔ ∀ a, a? = some a → (f a).isSome := by
  cases a? with
  | none => simp
  | some a => simp [Option.mapM_some]

theorem isSome_of_mapM {f : α → Option β} {a? : Option α} {b? : Option β}
    (h : a?.mapM f = some b?) : b?.isSome = a?.isSome := by
  cases a? with
  | none =>
    cases h
    rfl
  | some a =>
    rw [Option.mapM_some] at h
    obtain ⟨b, -, rfl⟩ := Option.map_eq_some_iff.mp h
    rfl

theorem mapM_eq_error {f : α → Except ε β} {before after : List α} {a : α} {fault : ε}
    (hb : ∀ x ∈ before, ∃ b, f x = .ok b) (ha : f a = .error fault) :
    (before ++ a :: after).mapM f = .error fault := by
  induction before with
  | nil =>
    rw [List.nil_append, List.mapM_cons, ha]
    rfl
  | cons x before ih =>
    rw [List.forall_mem_cons] at hb
    obtain ⟨⟨b, hx⟩, hb⟩ := hb
    rw [List.cons_append, List.mapM_cons, hx, ok_bind, ih hb]
    rfl

section First

variable {P : α → ε → Prop} {a : α} {items more : List α} {fault : ε}

def FirstFault (P : α → ε → Prop) (items : List α) (fault : ε) : Prop :=
  ∃ before a after, items = before ++ a :: after ∧ (∀ b ∈ before, ∀ other, ¬ P b other) ∧ P a fault

@[simp] theorem firstFault_nil : ¬ FirstFault P [] fault := by
  simp [FirstFault]

theorem firstFault_cons : FirstFault P (a :: items) fault ↔
    P a fault ∨ (∀ other, ¬ P a other) ∧ FirstFault P items fault := by
  constructor
  · rintro ⟨_ | ⟨b, before⟩, c, after, h, hb, hc⟩
    · obtain ⟨rfl, -⟩ := List.cons.inj h
      exact .inl hc
    · obtain ⟨rfl, rfl⟩ := List.cons.inj h
      rw [List.forall_mem_cons] at hb
      exact .inr ⟨hb.1, before, c, after, rfl, hb.2, hc⟩
  · rintro (h | ⟨ha, before, c, after, rfl, hb, hc⟩)
    · exact ⟨[], a, items, rfl, by simp, h⟩
    · exact ⟨a :: before, c, after, rfl, List.forall_mem_cons.mpr ⟨ha, hb⟩, hc⟩

theorem firstFault_singleton : FirstFault P [a] fault ↔ P a fault := by
  simp [firstFault_cons]

theorem firstFault_append : FirstFault P (items ++ more) fault ↔
    FirstFault P items fault ∨ (∀ a ∈ items, ∀ other, ¬ P a other) ∧ FirstFault P more fault := by
  induction items with
  | nil => simp
  | cons a items ih =>
    rw [List.cons_append, firstFault_cons, ih, firstFault_cons, List.forall_mem_cons]
    tauto

theorem exists_firstFault_iff :
    (∃ fault, FirstFault P items fault) ↔ ∃ a ∈ items, ∃ fault, P a fault := by
  induction items with
  | nil => simp
  | cons a items ih =>
    simp only [firstFault_cons, exists_or, exists_and_left, ih, List.exists_mem_cons_iff]
    constructor
    · rintro (h | ⟨-, h⟩)
      · exact .inl h
      · exact .inr h
    · intro h
      by_cases ha : ∃ fault, P a fault
      · exact .inl ha
      · exact .inr ⟨not_exists.mp ha, h.resolve_left ha⟩

theorem not_firstFault_iff :
    (∀ fault, ¬ FirstFault P items fault) ↔ ∀ a ∈ items, ∀ fault, ¬ P a fault := by
  rw [← not_exists, exists_firstFault_iff]
  push Not
  rfl

theorem FirstFault.unique {other : ε} (hP : ∀ a fault other, P a fault → P a other → fault = other)
    (h : FirstFault P items fault) (h' : FirstFault P items other) : fault = other := by
  induction items with
  | nil => exact absurd h firstFault_nil
  | cons a items ih =>
    rcases firstFault_cons.mp h with ha | ⟨hno, h⟩
    · rcases firstFault_cons.mp h' with ha' | ⟨hno, -⟩
      · exact hP a fault other ha ha'
      · exact absurd ha (hno fault)
    · rcases firstFault_cons.mp h' with ha' | ⟨-, h'⟩
      · exact absurd ha' (hno other)
      · exact ih h h'

end First

end Rulebook
