import Mathlib.Data.List.Forall2
import Rulebook.Settings.Tree

/-! # Layering

What a path leads to in a tree of settings, and what a source states for a path. A tree that a
source is laid over leads to what the source states, where it states anything, and otherwise to
what it led to before. No other path has a say in this.

An outer `none` means that something else stands in the way: a table or a list where the path
ends, or a scalar or a list before it does.
-/

namespace Rulebook.SettingTree

def shown? : List String → Option SettingTree → Option (Option Scalar)
  | _, none => some none
  | [], some (scalar value) => some (some value)
  | key :: path, some (table entries) => shown? path (entries.lookup key)
  | _, _ => none

mutual

def stated? : List String → SettingTree → Option (Option Scalar)
  | [], scalar value => some (some value)
  | key :: path, table entries => statedAt? key path entries
  | _, _ => none

def statedAt? (key : String) (path : List String) :
    List (String × SettingTree) → Option (Option Scalar)
  | [] => some none
  | (name, tree) :: rest => do
    let here ← (if name = key then stated? path tree else some none)
    let above ← statedAt? key path rest
    return above.or here

end

def statedBehind? (tree : SettingTree) : List SettingStep → List String → Option (Option Scalar)
  | [], path => stated? path tree
  | .key name :: steps, key :: path =>
    if name = key then statedBehind? tree steps path else some none
  | _, _ => none

/-- What a source states for a path. Its own keys are paths, and the later ones prevail. -/
def statedBy? (path : List String) : List (String × SettingTree) → Option (Option Scalar)
  | [] => some none
  | (text, tree) :: rest => do
    let here ← statedBehind? tree ((SettingStep.path? text).getD [.key text]) path
    let above ← statedBy? path rest
    return above.or here

variable {key name : String} {path : List String} {o o' : Option Scalar}

theorem shown?_none (path : List String) : shown? path none = some none := by
  cases path <;> rfl

theorem shown?_entries {tree : Option SettingTree} (h : shown? (key :: path) tree = some o) :
    shown? path ((tree.getD gap).entries.lookup key) = some o := by
  cases tree with
  | none => exact (shown?_none path).trans h
  | some tree =>
    cases tree with
    | table below => exact h
    | _ => cases h

theorem lookup_cons {α : Type} (key name : String) (value : α) (rest : List (String × α)) :
    ((name, value) :: rest).lookup key = if name = key then some value else rest.lookup key := by
  by_cases h : name = key
  · simp [h]
  · rw [List.lookup_cons, beq_false_of_ne (Ne.symm h), if_neg h]

theorem lookup_put {α : Type} (key name : String) (value : α) (entries : List (String × α)) :
    (put name value entries).lookup key =
      if name = key then some value else entries.lookup key := by
  induction entries with
  | nil => rw [put, lookup_cons]
  | cons entry rest ih =>
    obtain ⟨k, v⟩ := entry
    rw [put]
    split
    · next hk =>
      subst hk
      rw [lookup_cons, lookup_cons]
      split <;> rfl
    · next hk =>
      rw [lookup_cons, lookup_cons, ih]
      split
      · next hkey =>
        subst hkey
        rw [if_neg (Ne.symm hk)]
      · rfl

theorem or_eq_some_iff {here? above? : Option (Option Scalar)} :
    (do
      let here ← here?
      let above ← above?
      return above.or here) = some o ↔
      ∃ here above, here? = some here ∧ above? = some above ∧ o = above.or here := by
  cases here? <;> cases above? <;> simp [eq_comm]

theorem statedAt?_cons_eq_some_iff {tree : SettingTree} {rest : List (String × SettingTree)} :
    statedAt? key path ((name, tree) :: rest) = some o ↔
      ∃ here above, (if name = key then stated? path tree else some none) = some here ∧
        statedAt? key path rest = some above ∧ o = above.or here := by
  rw [statedAt?]
  exact or_eq_some_iff

mutual

/-- A tree that is laid over another one prevails where it states a path. -/
theorem shown?_overlay {lower : Option SettingTree} {path : List String} {o o' : Option Scalar}
    (upper : SettingTree) (h : stated? path upper = some o) (hl : shown? path lower = some o') :
    shown? path (some ((lower.getD gap).overlay upper)) = some (o.or o') := by
  cases upper with
  | gap => cases path <;> cases h
  | list items => cases path <;> cases h
  | scalar value =>
    cases path with
    | cons key path => cases h
    | nil =>
      obtain rfl := Option.some.inj h
      rw [overlay]
      · rfl
      · intro entries h
        cases h
  | table entries =>
    cases path with
    | nil => cases h
    | cons key path =>
      rw [stated?] at h
      rw [overlay, shown?]
      exact shown?_overlayEntries entries h (shown?_entries hl)

theorem shown?_overlayEntries {lower : List (String × SettingTree)} {key : String}
    {path : List String} {o o' : Option Scalar} (upper : List (String × SettingTree))
    (h : statedAt? key path upper = some o) (hl : shown? path (lower.lookup key) = some o') :
    shown? path ((overlayEntries lower upper).lookup key) = some (o.or o') := by
  cases upper with
  | nil =>
    rw [statedAt?] at h
    obtain rfl := Option.some.inj h
    rw [overlayEntries]
    exact hl
  | cons entry rest =>
    obtain ⟨name, tree⟩ := entry
    obtain ⟨here, above, hhere, habove, rfl⟩ := statedAt?_cons_eq_some_iff.mp h
    rw [overlayEntries, Option.or_assoc]
    refine shown?_overlayEntries rest habove ?_
    rw [lookup_put]
    split
    · next hname =>
      subst hname
      rw [if_pos rfl] at hhere
      exact shown?_overlay tree hhere hl
    · next hname =>
      rw [if_neg hname] at hhere
      obtain rfl := Option.some.inj hhere
      exact hl

end

/-- What is changed at the end of some steps is changed for the paths along them only. -/
theorem shown?_change {upper : SettingTree} (lower : Option SettingTree) (steps : List SettingStep)
    (h : statedBehind? upper steps path = some o) (hl : shown? path lower = some o') :
    shown? path (some (change (·.overlay upper) steps (lower.getD gap))) = some (o.or o') := by
  induction steps generalizing path lower with
  | nil => exact shown?_overlay upper h hl
  | cons step steps ih =>
    cases step with
    | position index => cases path <;> cases h
    | key name =>
      cases path with
      | nil => cases h
      | cons key path =>
        rw [statedBehind?] at h
        rw [change, shown?, lookup_put]
        split
        · next hname =>
          subst hname
          rw [if_pos rfl] at h
          exact ih _ h (shown?_entries hl)
        · next hname =>
          rw [if_neg hname] at h
          obtain rfl := Option.some.inj h
          exact shown?_entries hl

theorem statedBy?_cons_eq_some_iff {text : String} {tree : SettingTree}
    {rest : List (String × SettingTree)} :
    statedBy? path ((text, tree) :: rest) = some o ↔
      ∃ here above, statedBehind? tree ((SettingStep.path? text).getD [.key text]) path =
        some here ∧ statedBy? path rest = some above ∧ o = above.or here := by
  rw [statedBy?]
  exact or_eq_some_iff

theorem shown?_overlaySource {lower : SettingTree} (source : List (String × SettingTree))
    (h : statedBy? path source = some o) (hl : shown? path (some lower) = some o') :
    shown? path (some (lower.overlaySource source)) = some (o.or o') := by
  induction source generalizing lower o o' with
  | nil =>
    obtain rfl := Option.some.inj h
    exact hl
  | cons entry rest ih =>
    obtain ⟨text, tree⟩ := entry
    obtain ⟨here, above, hhere, habove, rfl⟩ := statedBy?_cons_eq_some_iff.mp h
    rw [Option.or_assoc]
    exact ih habove (shown?_change (some lower) _ hhere hl)

/-- Of several sources, the last one that states a path prevails. -/
theorem shown?_foldl {lower : SettingTree} {base : Option Scalar}
    {stated : List (Option Scalar)} {sources : List (List (String × SettingTree))}
    (h : List.Forall₂ (fun source o => statedBy? path source = some o) sources stated)
    (hl : shown? path (some lower) = some base) :
    shown? path (some (sources.foldl overlaySource lower)) =
      some (stated.foldl (fun below o => o.or below) base) := by
  induction h generalizing lower base with
  | nil => exact hl
  | cons hsource _ ih => exact ih (shown?_overlaySource _ hsource hl)

end Rulebook.SettingTree
