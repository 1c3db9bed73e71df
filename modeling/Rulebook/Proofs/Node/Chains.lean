import Mathlib.Algebra.BigOperators.Group.Multiset.Basic
import Mathlib.Data.List.Chain
import Rulebook.Rule.Ingest

/-! # Chains of children

The raw depth of a value is that of its longest chain of children along `left` and `right`. The
search for a value that lies too deep keeps the values at which such a chain can go on, so it ends
with one just if there is a chain that is too long. Which of the pending values goes first makes no
difference: no order goes on for ever, and all come to one answer.
-/

namespace Rulebook.Json

variable {json child : Json} {n max : Nat}

/-- The value is a member of the object, by the name of a side, and not `null`. -/
def IsChild (json child : Json) : Prop :=
  (json.member? "left" = some child ∨ json.member? "right" = some child) ∧ child.isNull = false

/-- Some chain of children that starts with the value has more than `n` members. -/
def DescendsPast (json : Json) (n : Nat) : Prop :=
  ∃ below : List Json, List.IsChain IsChild (json :: below) ∧ n < (json :: below).length

theorem mem_childAt_iff {side : String} :
    child ∈ json.childAt side ↔ json.member? side = some child ∧ child.isNull = false := by
  rw [childAt]
  cases json.member? side with
  | none => simp
  | some value =>
    dsimp only
    constructor
    · split
      · simp
      · next hnull =>
        rw [List.mem_singleton]
        rintro rfl
        exact ⟨rfl, Bool.eq_false_iff.mpr hnull⟩
    · rintro ⟨h, hnull⟩
      obtain rfl := Option.some.inj h
      rw [if_neg (Bool.eq_false_iff.mp hnull)]
      exact List.mem_singleton_self value

theorem mem_children_iff : child ∈ json.children ↔ IsChild json child := by
  simp only [children, List.mem_append, mem_childAt_iff, IsChild]
  tauto

theorem descendsPast_zero (json : Json) : json.DescendsPast 0 :=
  ⟨[], .singleton json, Nat.zero_lt_one⟩

theorem descendsPast_succ_iff :
    json.DescendsPast (n + 1) ↔ ∃ child ∈ json.children, child.DescendsPast n := by
  constructor
  · rintro ⟨_ | ⟨child, below⟩, hchain, hlt⟩
    · simp at hlt
    · rw [List.isChain_cons_cons] at hchain
      exact ⟨child, mem_children_iff.mpr hchain.1, below, hchain.2, Nat.lt_of_succ_lt_succ hlt⟩
  · rintro ⟨child, hc, below, hchain, hlt⟩
    exact ⟨child :: below, List.isChain_cons_cons.mpr ⟨mem_children_iff.mp hc, hchain⟩,
      Nat.succ_lt_succ hlt⟩

/-- A pending value leads too deep if a chain below it takes up what is left of the bound. -/
theorem anyExceeds_iff {pending : List (Json × Nat)} :
    anyExceeds max pending = true ↔ ∃ p ∈ pending, p.1.DescendsPast (max + 1 - p.2) := by
  fun_induction anyExceeds max pending with
  | case1 => simp
  | case2 json depth pending hd =>
    have hzero : max + 1 - depth = 0 := by omega
    simp [hzero, descendsPast_zero]
  | case3 json depth pending hd ih =>
    have hsucc : max + 1 - depth = (max + 1 - (depth + 1)) + 1 := by omega
    rw [ih, List.exists_mem_cons_iff, hsucc, descendsPast_succ_iff]
    simp only [List.mem_append, List.mem_map, or_and_right, exists_or]
    simp

theorem exceedsDepth_iff : json.exceedsDepth max = true ↔ json.DescendsPast max := by
  simp [exceedsDepth, anyExceeds_iff]

section Orders

variable {pending rest : Multiset (Json × Nat)} {answer : Bool}

/-- Some pending value within the bound gives way to its children. -/
inductive Pops (max : Nat) : Multiset (Json × Nat) → Multiset (Json × Nat) → Prop
  | pop {json : Json} {depth : Nat} {pending : Multiset (Json × Nat)} : depth ≤ max →
      Pops max ((json, depth) ::ₘ pending) (↑(json.children.map (·, depth + 1)) + pending)

/-- A search that may pop any of the pending values next can end with the answer. -/
inductive Searches (max : Nat) : Multiset (Json × Nat) → Bool → Prop
  | nothing : Searches max 0 false
  | tooDeep {json : Json} {depth : Nat} {pending : Multiset (Json × Nat)} : max < depth →
      Searches max ((json, depth) ::ₘ pending) true
  | onward {pending rest : Multiset (Json × Nat)} {answer : Bool} :
      Pops max pending rest → Searches max rest answer → Searches max pending answer

def LeadsPast (max : Nat) (pending : Multiset (Json × Nat)) : Prop :=
  ∃ p ∈ pending, p.1.DescendsPast (max + 1 - p.2)

theorem Pops.leadsPast_iff (h : Pops max pending rest) :
    LeadsPast max pending ↔ LeadsPast max rest := by
  cases h with
  | @pop json depth pending hd =>
    have hsucc : max + 1 - depth = (max + 1 - (depth + 1)) + 1 := by omega
    simp only [LeadsPast, Multiset.mem_cons, Multiset.mem_add, Multiset.mem_coe, List.mem_map,
      or_and_right, exists_or, exists_eq_left, hsucc, descendsPast_succ_iff]
    simp

/-- Every order comes to the answer that there is a chain, or that there is none. -/
theorem Searches.eq_true_iff (h : Searches max pending answer) :
    answer = true ↔ LeadsPast max pending := by
  induction h with
  | nothing => simp [LeadsPast]
  | @tooDeep json depth pending hd =>
    have hzero : max + 1 - depth = 0 := by omega
    simp only [LeadsPast, Multiset.mem_cons, true_iff]
    exact ⟨(json, depth), .inl rfl, by simp [hzero, descendsPast_zero]⟩
  | onward hp _ ih => rw [ih, hp.leadsPast_iff]

/-- Popping the latest value first is one of the orders. -/
theorem searches_anyExceeds (pending : List (Json × Nat)) :
    Searches max pending (anyExceeds max pending) := by
  fun_induction anyExceeds max pending with
  | case1 => exact .nothing
  | case2 json depth pending hd =>
    rw [← Multiset.cons_coe]
    exact .tooDeep hd
  | case3 json depth pending hd ih =>
    rw [← Multiset.coe_add] at ih
    rw [← Multiset.cons_coe]
    exact .onward (.pop (Nat.le_of_not_lt hd)) ih

theorem searches_iff (pending : List (Json × Nat)) :
    Searches max pending answer ↔ answer = anyExceeds max pending := by
  constructor
  · intro h
    rw [Bool.eq_iff_iff, h.eq_true_iff, (searches_anyExceeds pending).eq_true_iff]
  · rintro rfl
    exact searches_anyExceeds pending

def load (pending : Multiset (Json × Nat)) : Nat := (pending.map fun p => p.1.weight).sum

theorem load_at_depth (items : List Json) (depth : Nat) :
    load ↑(items.map (·, depth)) = weightItems items := by
  induction items with
  | nil => rfl
  | cons item items ih =>
    rw [weightItems, ← ih]
    simp [load]

theorem Pops.load_lt (h : Pops max pending rest) : load rest < load pending := by
  cases h with
  | @pop json depth pending _ =>
    have hlt := weightItems_children_lt json
    rw [← load_at_depth _ (depth + 1)] at hlt
    simpa only [load, Multiset.map_add, Multiset.sum_add, Multiset.map_cons, Multiset.sum_cons,
      Nat.add_lt_add_iff_right] using hlt

/-- Popping comes to an end, whatever is popped. -/
theorem wellFounded_pops (max : Nat) : WellFounded fun rest pending => Pops max pending rest :=
  Subrelation.wf Pops.load_lt (InvImage.wf load Nat.lt_wfRel.wf)

/-- In whichever order values are popped, the search ends and tells whether a chain is too long. -/
theorem exceedsDepth_in_any_order (json : Json) (max : Nat) :
    (json.exceedsDepth max = true ↔
      ∃ below : List Json, List.IsChain IsChild (json :: below) ∧ max < (json :: below).length) ∧
    (WellFounded fun rest pending => Pops max pending rest) ∧
    ∀ answer, Searches max {(json, 1)} answer ↔ answer = json.exceedsDepth max :=
  ⟨exceedsDepth_iff, wellFounded_pops max, fun _ => searches_iff [(json, 1)]⟩

end Orders

end Rulebook.Json
