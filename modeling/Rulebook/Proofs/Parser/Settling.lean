import Rulebook.Proofs.Sequencing
import Rulebook.Rule.Parser

/-! # Settling

Before an operator waits, at a right parenthesis and at the end, the parser does the same
thing: it reduces the operators on top that bind at least as tightly as some floor. Each of
the three is settling with a floor of its own and one more step. Settling in two goes, to a
higher floor and then to a lower one, is settling to the lower one at once.
-/

namespace Rulebook.Parser

variable {limit floor ceiling position : Nat}

/-- Reduces the operators on top that bind at least as tightly as the floor. -/
def settle (limit floor : Nat) : List Entry → List Built → Except Fault Stacks
  | .operator op p :: pending, output =>
    if op.precedence < floor then return ⟨.operator op p :: pending, output⟩
    else do
      settle limit floor pending (← reduce limit op p output)
  | pending, output => return ⟨pending, output⟩

def Settled (floor : Nat) : List Entry → Prop
  | .operator op _ :: _ => op.precedence < floor
  | _ => True

theorem Settled.mono {pending : List Entry} (h : Settled floor pending) (hle : floor ≤ ceiling) :
    Settled ceiling pending := by
  rcases pending with _ | ⟨_ | _, _⟩
  · trivial
  · trivial
  · exact Nat.lt_of_lt_of_le h hle

theorem settle_of_settled {pending : List Entry} (h : Settled floor pending)
    (output : List Built) : settle limit floor pending output = .ok ⟨pending, output⟩ := by
  rcases pending with _ | ⟨_ | _, _⟩
  · rfl
  · rfl
  · rw [settle, if_pos (show _ < _ from h)]
    rfl

/-- Settling to a floor may stop at a higher one on the way. -/
theorem settle_bind_settle (hle : floor ≤ ceiling) (pending : List Entry) (output : List Built) :
    (settle limit ceiling pending output >>= fun s => settle limit floor s.pending s.output) =
      settle limit floor pending output := by
  fun_induction settle limit ceiling pending output with
  | case1 => rfl
  | case2 op p pending output hge ih =>
    have hfloor : ¬ op.precedence < floor := by omega
    rw [settle, if_neg hfloor, bind_assoc]
    exact bind_congr ih
  | case3 => rfl

theorem settle_bind_settle_bind {α : Type} (hle : floor ≤ ceiling) (pending : List Entry)
    (output : List Built) (f : Stacks → Except Fault α) :
    (do
      let s ← settle limit ceiling pending output
      let t ← settle limit floor s.pending s.output
      f t) = settle limit floor pending output >>= f := by
  rw [← settle_bind_settle hle, bind_assoc]

theorem pushOperator_eq_settle (op : Operator) (pending : List Entry) (output : List Built) :
    pushOperator limit op position pending output = (do
      let s ← settle limit op.precedence pending output
      return ⟨.operator op position :: s.pending, s.output⟩) := by
  fun_induction pushOperator limit op position pending output with
  | case1 top p pending output hlt =>
    rw [settle, if_pos hlt]
    rfl
  | case2 top p pending output hge ih =>
    rw [settle, if_neg hge, bind_assoc]
    exact bind_congr ih
  | case3 pending output hne =>
    rw [settle]
    · rfl
    · exact hne

theorem closeParenthesis_eq_settle (pending : List Entry) (output : List Built) :
    closeParenthesis limit position pending output = (do
      let s ← settle limit 0 pending output
      match s.pending with
      | .leftParenthesis _ :: rest => return ⟨rest, s.output⟩
      | _ => throw (.malformed (.unmatchedRight position))) := by
  fun_induction closeParenthesis limit position pending output with
  | case1 => rfl
  | case2 => rfl
  | case3 op p pending output ih =>
    rw [settle, if_neg (Nat.not_lt_zero _), bind_assoc]
    exact bind_congr ih

theorem drain_eq_settle (pending : List Entry) (output : List Built) :
    drain limit pending output = (do
      let s ← settle limit 0 pending output
      match s.pending with
      | .leftParenthesis p :: _ => throw (.malformed (.unclosedLeft p))
      | _ => return s.output) := by
  fun_induction drain limit pending output with
  | case1 => rfl
  | case2 => rfl
  | case3 op p pending output ih =>
    rw [settle, if_neg (Nat.not_lt_zero _), bind_assoc]
    exact bind_congr ih

theorem pushAll_append (s : Stacks) (xs ys : List String) :
    pushAll limit s position (xs ++ ys) = (do
      pushAll limit (← pushAll limit s position xs) (position + xs.length) ys) := by
  induction xs generalizing s position with
  | nil => rfl
  | cons x xs ih =>
    rw [List.cons_append, pushAll, pushAll, bind_assoc, List.length_cons, Nat.add_comm xs.length,
      ← Nat.add_assoc]
    exact bind_congr fun t => ih t

end Rulebook.Parser
