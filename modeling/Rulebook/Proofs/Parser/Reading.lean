import Rulebook.Proofs.Parser.Grammar
import Rulebook.Proofs.Parser.Settling

/-! # Reading a token

An operand goes to the output, and an operator waits once the stacks are settled to the rank of
its level. What an operator, a right parenthesis or the end would settle by itself may as well be
settled before.
-/

namespace Rulebook.Parser

open Grammar

variable {limit position : Nat}

theorem one_le_depth (e : Expression) : 1 ≤ e.depth := by
  cases e <;> simp only [Expression.depth] <;> omega

theorem left_lt_depth (op : Operator) (left right : Expression) :
    left.depth < (Expression.binary op left right).depth := by
  simp only [Expression.depth]
  omega

theorem right_lt_depth (op : Operator) (left right : Expression) :
    right.depth < (Expression.binary op left right).depth := by
  simp only [Expression.depth]
  omega

theorem reduce_eq (op : Operator) (left right : Expression) (output : List Built) :
    reduce limit op position (⟨right, right.depth⟩ :: ⟨left, left.depth⟩ :: output) =
      if (Expression.binary op left right).depth ≤ max 1 limit then
        .ok (⟨.binary op left right, (Expression.binary op left right).depth⟩ :: output)
      else .error (.treeTooDeep limit) := by
  have hl := one_le_depth left
  by_cases h : limit < (Expression.binary op left right).depth
  · rw [reduce, if_pos (by simpa only [Expression.depth] using h), if_neg]
    · rfl
    · simp only [Expression.depth] at h ⊢
      omega
  · rw [reduce, if_neg (by simpa only [Expression.depth] using h), if_pos (by omega)]
    rfl

theorem push_operand {token : String} (h : token ∉ symbols) (s : Stacks) :
    push limit s token position = .ok ⟨s.pending, ⟨.operand token, 1⟩ :: s.output⟩ := by
  obtain ⟨hl, hr, hop⟩ := not_mem_symbols_iff.mp h
  simp only [push, if_neg hl, if_neg hr, hop]
  rfl

section Settling

variable {level : Level} {token : String} {op : Operator}

theorem push_joining (h : Joins level token op) (s : Stacks) :
    push limit s token position = (do
      let s ← settle limit level.rank s.pending s.output
      return ⟨.operator op position :: s.pending, s.output⟩) := by
  obtain ⟨hl, hr⟩ := h.ne_parentheses
  simp only [push, if_neg hl, if_neg hr, h.ofSymbol?_eq]
  rw [pushOperator_eq_settle, h.precedence_eq]

theorem push_right (s : Stacks) :
    push limit s ")" position = closeParenthesis limit position s.pending s.output := by
  rw [push, if_neg (by decide), if_pos rfl]

/-- A joining operator may find the stacks settled to the rank of its level. -/
theorem settle_bind_joining (h : Joins level token op) (s : Stacks) :
    (do
      let t ← settle limit level.rank s.pending s.output
      push limit t token position) = push limit s token position := by
  simp only [push_joining h]
  exact settle_bind_settle_bind (Nat.le_refl _) _ _ _

theorem settle_bind_right (level : Level) (s : Stacks) :
    (do
      let t ← settle limit level.rank s.pending s.output
      push limit t ")" position) = push limit s ")" position := by
  simp only [push_right, closeParenthesis_eq_settle]
  exact settle_bind_settle_bind (Nat.zero_le _) _ _ _

theorem settle_bind_finish (level : Level) (s : Stacks) :
    (do
      let t ← settle limit level.rank s.pending s.output
      finish limit t) = finish limit s := by
  simp only [finish, drain_eq_settle, bind_assoc]
  exact settle_bind_settle_bind (Nat.zero_le _) _ _ _

end Settling

theorem pushAll_singleton (s : Stacks) (token : String) :
    pushAll limit s position [token] = push limit s token position := by
  rw [pushAll]
  exact bind_pure _

theorem pushAll_bind_settle {floor ceiling : Nat} (hle : floor ≤ ceiling) (s : Stacks)
    (tokens : List String) :
    (do
      let u ← (do
        let t ← pushAll limit s position tokens
        settle limit ceiling t.pending t.output)
      settle limit floor u.pending u.output) = (do
      let t ← pushAll limit s position tokens
      settle limit floor t.pending t.output) := by
  rw [bind_assoc]
  exact bind_congr fun t => settle_bind_settle hle t.pending t.output

theorem pushAll_bind_right (level : Level) (s : Stacks) (tokens : List String) (closing : Nat) :
    (do
      let u ← (do
        let t ← pushAll limit s position tokens
        settle limit level.rank t.pending t.output)
      push limit u ")" closing) = (do
      push limit (← pushAll limit s position tokens) ")" closing) := by
  rw [bind_assoc]
  exact bind_congr fun t => settle_bind_right level t

theorem pushAll_bind_finish (level : Level) (s : Stacks) (tokens : List String) :
    (do
      let u ← (do
        let t ← pushAll limit s position tokens
        settle limit level.rank t.pending t.output)
      finish limit u) = (do finish limit (← pushAll limit s position tokens)) := by
  rw [bind_assoc]
  exact bind_congr fun t => settle_bind_finish level t

end Rulebook.Parser
