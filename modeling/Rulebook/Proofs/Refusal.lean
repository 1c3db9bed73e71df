import Rulebook.Proofs.Evaluability
import Rulebook.Proofs.Mirroring

/-! # Refused comparisons

An evaluation fails for one reason only: some relation refuses the values of its sides. Both sides
of every operator are evaluated, so no operator above hides the fault, and of several the one
comes out that is met first.
-/

namespace Rulebook

namespace Relation

variable {r : Relation} {x y : Value} {fault : Fault}

/-- One side counts as no number, and they are not two texts to be compared as they are. -/
def Refuses (r : Relation) (x y : Value) : Prop :=
  (x.toNumber? = none ∨ y.toNumber? = none) ∧ ¬ (r = .equal ∧ ∃ s t, x = .text s ∧ y = .text t)

theorem compareNumbers_eq_error_iff : r.compareNumbers x y = .error fault ↔
    (x.toNumber? = none ∨ y.toNumber? = none) ∧
      fault = .invalidComparison x.display y.display := by
  unfold compareNumbers
  cases x.toNumber? <;> cases y.toNumber? <;>
    simp [pure, Except.pure, throw, throwThe, MonadExceptOf.throw, eq_comm]

theorem apply_eq_error_iff : r.apply x y = .error fault ↔
    r.Refuses x y ∧ fault = .invalidComparison x.display y.display := by
  by_cases htexts : r = .equal ∧ ∃ s t, x = .text s ∧ y = .text t
  · obtain ⟨rfl, s, t, rfl, rfl⟩ := htexts
    simp [apply, Refuses, pure, Except.pure]
  · have hnumbers : r.apply x y = r.compareNumbers x y := by
      refine apply_eq_compareNumbers ?_
      rw [not_and_or] at htexts
      push Not at htexts
      exact htexts
    rw [hnumbers, compareNumbers_eq_error_iff, Refuses, and_iff_left htexts]

end Relation

namespace Expression

variable {record : Record} {x y : Value} {fault : Fault}

/-- The expression is a comparison whose sides have these values and which refuses them. -/
inductive Refused (record : Record) (x y : Value) : Expression → Prop
  | relation {r : Relation} {left right : Expression} :
      left.evaluate record = .ok x → right.evaluate record = .ok y → r.Refuses x y →
      Refused record x y (binary (.relation r) left right)

def OwnFault (record : Record) (node : Expression) (fault : Fault) : Prop :=
  ∃ x y, Refused record x y node ∧ fault = .invalidComparison x.display y.display

theorem not_ownFault_operand (text : String) : ¬ OwnFault record (operand text) fault := by
  rintro ⟨x, y, h, -⟩
  cases h

theorem ownFault_binary_iff {op : Operator} {left right : Expression} :
    OwnFault record (binary op left right) fault ↔
      ∃ x y, left.evaluate record = .ok x ∧ right.evaluate record = .ok y ∧
        op.apply x y = .error fault := by
  constructor
  · rintro ⟨x, y, ⟨hx, hy, h⟩, rfl⟩
    exact ⟨x, y, hx, hy, Relation.apply_eq_error_iff.mpr ⟨h, rfl⟩⟩
  · rintro ⟨x, y, hx, hy, h⟩
    cases op with
    | connective c => cases h
    | relation r =>
      obtain ⟨hr, rfl⟩ := Relation.apply_eq_error_iff.mp h
      exact ⟨x, y, .relation hx hy hr, rfl⟩

theorem evaluate_binary_eq_error_iff {op : Operator} {left right : Expression} :
    (binary op left right).evaluate record = .error fault ↔
      left.evaluate record = .error fault ∨
      (∃ x, left.evaluate record = .ok x) ∧ (right.evaluate record = .error fault ∨
        (∃ y, right.evaluate record = .ok y) ∧ OwnFault record (binary op left right) fault) := by
  rw [evaluate, bind_eq_error_iff, ownFault_binary_iff]
  simp only [bind_eq_error_iff]
  constructor
  · rintro (h | ⟨x, hx, h | ⟨y, hy, h⟩⟩)
    · exact .inl h
    · exact .inr ⟨⟨x, hx⟩, .inl h⟩
    · exact .inr ⟨⟨x, hx⟩, .inr ⟨⟨y, hy⟩, x, y, hx, hy, h⟩⟩
  · rintro (h | ⟨⟨x, hx⟩, h | ⟨-, z, y, hz, hy, h⟩⟩)
    · exact .inl h
    · exact .inr ⟨x, hx, .inl h⟩
    · exact .inr ⟨z, hz, .inr ⟨y, hy, h⟩⟩

/-- The fault of a tree is that of the first node that is refused itself. -/
theorem evaluate_eq_error_iff (e : Expression) :
    e.evaluate record = .error fault ↔ FirstFault (OwnFault record) e.nodes fault := by
  induction e generalizing fault with
  | operand text =>
    rw [nodes, firstFault_singleton, iff_false_right (not_ownFault_operand text)]
    intro h
    cases h
  | binary op left right ihl ihr =>
    -- a side has a value just if none of its nodes is refused
    have hok {side : Expression}
        (ih : ∀ {fault}, side.evaluate record = .error fault ↔
          FirstFault (OwnFault record) side.nodes fault) :
        (∃ x, side.evaluate record = .ok x) ↔
          ∀ n ∈ side.nodes, ∀ other, ¬ OwnFault record n other := by
      rw [← not_iff_not, ← exists_error_iff_not_ok, ← not_firstFault_iff]
      simp only [ih]
      exact not_forall_not.symm
    rw [evaluate_binary_eq_error_iff, ihl, ihr, hok ihl, hok ihr, nodes, List.append_assoc,
      firstFault_append, firstFault_append, firstFault_singleton]

/-- An evaluation fails just if some node is refused, and for the first such node in post-order. -/
theorem fails_for_first_refused (e : Expression) (record : Record) :
    ((∃ fault, e.evaluate record = .error fault) ↔
      ∃ node ∈ e.nodes, ∃ x y, Refused record x y node) ∧
    ∀ fault, e.evaluate record = .error fault ↔
      ∃ before node after x y, e.nodes = before ++ node :: after ∧
        (∀ n ∈ before, ∀ x y, ¬ Refused record x y n) ∧ Refused record x y node ∧
        fault = .invalidComparison x.display y.display := by
  have hown (node : Expression) :
      (∃ fault, OwnFault record node fault) ↔ ∃ x y, Refused record x y node := by
    constructor
    · rintro ⟨_, x, y, h, -⟩
      exact ⟨x, y, h⟩
    · rintro ⟨x, y, h⟩
      exact ⟨_, x, y, h, rfl⟩
  constructor
  · simp only [evaluate_eq_error_iff, exists_firstFault_iff, hown]
  · intro fault
    rw [evaluate_eq_error_iff]
    constructor
    · rintro ⟨before, node, after, hnodes, hbefore, x, y, h, rfl⟩
      exact ⟨before, node, after, x, y, hnodes,
        fun n hn x y hr => hbefore n hn _ ⟨x, y, hr, rfl⟩, h, rfl⟩
    · rintro ⟨before, node, after, x, y, hnodes, hbefore, h, rfl⟩
      refine ⟨before, node, after, hnodes, ?_, x, y, h, rfl⟩
      rintro n hn _ ⟨x, y, hr, -⟩
      exact hbefore n hn x y hr

/-- Of two comparisons that are refused the left one is reported, whatever stands above. -/
example :
    let refused (a b : String) := binary (.relation .less) (operand a) (operand b)
    (binary (.connective .or) (operand "1")
      (binary (.connective .and) (refused "a" "b") (refused "c" "d"))).evaluate .empty =
        .error (.invalidComparison "a" "b") := rfl

end Expression

end Rulebook
