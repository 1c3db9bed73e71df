import Rulebook.Proofs.Parser.Grammar
import Rulebook.Proofs.Parser.Settling

/-! # The output of a parser

Trees come on the output stack as operands and by joins only, so what operands have and joins
keep holds of every tree that a parser returns. Its depth is within the limit, and its leaves are
tokens that have no meaning of their own.
-/

namespace Rulebook.Parser

open Grammar

variable {limit floor position : Nat} {P : Built → Prop} {s t : Stacks}

def KeptByJoins (limit : Nat) (P : Built → Prop) : Prop :=
  ∀ (op : Operator) (left right : Built), P left → P right →
    1 + max left.depth right.depth ≤ limit →
    P ⟨.binary op left.tree right.tree, 1 + max left.depth right.depth⟩

theorem reduce_output (hP : KeptByJoins limit P) {op : Operator} {output reduced : List Built}
    (h : reduce limit op position output = .ok reduced) (ho : ∀ b ∈ output, P b) :
    ∀ b ∈ reduced, P b := by
  rcases output with _ | ⟨right, _ | ⟨left, output⟩⟩
  · cases h
  · cases h
  · simp only [reduce] at h
    split at h
    · cases h
    · rename_i hd
      cases h
      simp only [List.forall_mem_cons] at ho ⊢
      exact ⟨hP op left right ho.2.1 ho.1 (Nat.le_of_not_lt hd), ho.2.2⟩

theorem settle_output (hP : KeptByJoins limit P) {pending : List Entry} {output : List Built}
    (h : settle limit floor pending output = .ok s) (ho : ∀ b ∈ output, P b) :
    ∀ b ∈ s.output, P b := by
  fun_induction settle limit floor pending output with
  | case1 =>
    cases h
    exact ho
  | case2 op p pending output hge ih =>
    obtain ⟨reduced, hr, h⟩ := bind_eq_ok_iff.mp h
    exact ih reduced h (reduce_output hP hr ho)
  | case3 =>
    cases h
    exact ho

theorem push_output (hP : KeptByJoins limit P) {token : String}
    (hoperand : token ∉ symbols → P ⟨.operand token, 1⟩)
    (h : push limit s token position = .ok t) (hs : ∀ b ∈ s.output, P b) :
    ∀ b ∈ t.output, P b := by
  unfold push at h
  split at h
  · cases h
    exact hs
  split at h
  · rw [closeParenthesis_eq_settle] at h
    obtain ⟨u, hu, h⟩ := bind_eq_ok_iff.mp h
    split at h
    · cases h
      have ho := settle_output hP hu hs
      exact ho
    · cases h
  rename_i hl hr
  split at h
  · rw [pushOperator_eq_settle] at h
    obtain ⟨u, hu, h⟩ := bind_eq_ok_iff.mp h
    cases h
    have ho := settle_output hP hu hs
    exact ho
  · rename_i hop
    cases h
    rw [List.forall_mem_cons]
    exact ⟨hoperand (not_mem_symbols_iff.mpr ⟨hl, hr, hop⟩), hs⟩

theorem pushAll_output (hP : KeptByJoins limit P) {tokens : List String}
    (hoperand : ∀ token ∈ tokens, token ∉ symbols → P ⟨.operand token, 1⟩)
    (h : pushAll limit s position tokens = .ok t) (hs : ∀ b ∈ s.output, P b) :
    ∀ b ∈ t.output, P b := by
  induction tokens generalizing s position with
  | nil =>
    cases h
    exact hs
  | cons token tokens ih =>
    rw [List.forall_mem_cons] at hoperand
    rw [pushAll] at h
    obtain ⟨u, hu, h⟩ := bind_eq_ok_iff.mp h
    exact ih hoperand.2 h (push_output hP hoperand.1 hu hs)

/-- A tree that is returned has the property, with the depth that was counted for it. -/
theorem finish_output (hP : KeptByJoins limit P) {e : Expression}
    (h : finish limit s = .ok e) (hs : ∀ b ∈ s.output, P b) : ∃ b, P b ∧ b.tree = e := by
  rw [finish, drain_eq_settle] at h
  obtain ⟨output, ho, h⟩ := bind_eq_ok_iff.mp h
  obtain ⟨u, hu, ho⟩ := bind_eq_ok_iff.mp ho
  split at ho
  · cases ho
  · cases ho
    have hP := settle_output hP hu hs
    split at h
    · cases h
    · rename_i built hb
      cases h
      exact ⟨built, hP built (by rw [hb]; exact List.mem_singleton_self _), rfl⟩
    · cases h

/-- The counted depth is right and within the limit, and the leaves are operand tokens. -/
structure Sound (limit : Nat) (tokens : List String) (b : Built) : Prop where
  depth_eq : b.tree.depth = b.depth
  depth_le : b.depth ≤ max 1 limit
  operands : ∀ text ∈ b.tree.operands, text ∈ tokens ∧ text ∉ symbols

theorem sound_keptByJoins (limit : Nat) (tokens : List String) :
    KeptByJoins limit (Sound limit tokens) := by
  intro op left right hl hr hd
  refine ⟨?_, Nat.le_trans hd (Nat.le_max_right 1 limit), ?_⟩
  · simp only [Expression.depth, hl.depth_eq, hr.depth_eq]
  · intro text h
    rcases List.mem_append.mp h with h | h
    · exact hl.operands text h
    · exact hr.operands text h

theorem sound_operand {tokens : List String} {token : String} (hm : token ∈ tokens)
    (h : token ∉ symbols) : Sound limit tokens ⟨.operand token, 1⟩ := by
  refine ⟨rfl, Nat.le_max_left 1 limit, ?_⟩
  intro text ht
  rw [List.mem_singleton.mp ht]
  exact ⟨hm, h⟩

theorem sound_of_parse {tokens : List String} {e : Expression}
    (h : parse limit tokens = .ok e) :
    e.depth ≤ max 1 (min limit Expression.depthLimit) ∧
      ∀ text ∈ e.operands, text ∈ tokens ∧ text ∉ symbols := by
  obtain ⟨s, hs, h⟩ := bind_eq_ok_iff.mp h
  have hP := sound_keptByJoins (min limit Expression.depthLimit) tokens
  have ho := pushAll_output hP (fun _ => sound_operand) hs (by simp [Stacks.empty])
  obtain ⟨b, hb, rfl⟩ := finish_output hP h ho
  exact ⟨hb.depth_eq ▸ hb.depth_le, hb.operands⟩

end Rulebook.Parser
