import Rulebook.Proofs.Evaluation

/-! # Reading from right to left

An expression can be turned around: the sides of every operator change places, and `>` and `<`
change into one another. Both sides of an operator are always evaluated, and how a value counts
does not depend on the side it stands on, so nothing changes but the order in which faults are
met.
-/

namespace Rulebook

theorem Binary64.eq_comm (x y : Binary64) : x.eq y = y.eq x := by
  cases x <;> cases y <;> simp [Binary64.eq, BEq.comm]

namespace Relation

/-- The relation that holds just if this one holds of the sides in the other order. -/
def converse : Relation → Relation
  | greater => less
  | less => greater
  | equal => equal

@[simp] theorem converse_converse (r : Relation) : r.converse.converse = r := by
  cases r <;> rfl

theorem holds_converse (r : Relation) (x y : Binary64) : r.converse.holds x y = r.holds y x := by
  cases r with
  | greater => rfl
  | less => rfl
  | equal => exact x.eq_comm y

variable {r : Relation} {x y v : Value}

theorem compareNumbers_eq_ok_iff :
    r.compareNumbers x y = .ok v ↔
      ∃ m n, x.toNumber? = some m ∧ y.toNumber? = some n ∧ v = .bool (r.holds m n) := by
  unfold compareNumbers
  constructor
  · intro h
    split at h
    · next m n hx hy =>
      cases h
      exact ⟨m, n, hx, hy, rfl⟩
    · cases h
  · rintro ⟨m, n, hx, hy, rfl⟩
    rw [hx, hy]
    rfl

theorem compareNumbers_converse :
    r.converse.compareNumbers x y = .ok v ↔ r.compareNumbers y x = .ok v := by
  simp only [compareNumbers_eq_ok_iff, holds_converse]
  constructor
  · rintro ⟨m, n, hx, hy, rfl⟩
    exact ⟨n, m, hy, hx, rfl⟩
  · rintro ⟨m, n, hy, hx, rfl⟩
    exact ⟨n, m, hx, hy, rfl⟩

theorem apply_eq_compareNumbers (h : r ≠ .equal ∨ ∀ s t, x = .text s → y ≠ .text t) :
    r.apply x y = r.compareNumbers x y := by
  unfold apply
  split
  · next s t =>
    rcases h with h | h
    · exact absurd rfl h
    · exact absurd rfl (h s t rfl)
  · rfl

/-- A comparison comes to the same with its sides in the other order, if it comes to anything. -/
theorem apply_converse : r.converse.apply x y = .ok v ↔ r.apply y x = .ok v := by
  by_cases htexts : r = .equal ∧ ∃ s t, x = .text s ∧ y = .text t
  · obtain ⟨rfl, s, t, rfl, rfl⟩ := htexts
    simp [converse, apply, pure, Except.pure, eq_comm]
  · rw [not_and_or] at htexts
    push Not at htexts
    rw [apply_eq_compareNumbers, apply_eq_compareNumbers, compareNumbers_converse]
    · exact htexts.imp_right fun h t s hy hx => h s t hx hy
    · refine htexts.imp_left fun hr hc => hr ?_
      rw [← r.converse_converse, hc]
      rfl

end Relation

theorem Connective.apply_comm (c : Connective) (x y : Value) : c.apply x y = c.apply y x := by
  cases c <;> simp [Connective.apply, Bool.and_comm, Bool.or_comm]

def Operator.converse : Operator → Operator
  | connective c => connective c
  | relation r => relation r.converse

theorem Operator.apply_converse {op : Operator} {x y v : Value} :
    op.converse.apply x y = .ok v ↔ op.apply y x = .ok v := by
  cases op with
  | connective c => simp [converse, apply, c.apply_comm x y]
  | relation r => exact Relation.apply_converse

namespace Expression

/-- The expression read from right to left. -/
def mirror : Expression → Expression
  | operand text => operand text
  | binary op left right => binary op.converse right.mirror left.mirror

/-- Read from right to left, an expression has the value it has from left to right, or none. -/
theorem evaluate_mirror (record : Record) (e : Expression) (v : Value) :
    e.mirror.evaluate record = .ok v ↔ e.evaluate record = .ok v := by
  induction e generalizing v with
  | operand text => rfl
  | binary op left right ihl ihr =>
    rw [mirror, evaluate_binary_eq_ok_iff, evaluate_binary_eq_ok_iff]
    constructor
    · rintro ⟨y, x, hy, hx, h⟩
      exact ⟨x, y, (ihl x).mp hx, (ihr y).mp hy, Operator.apply_converse.mp h⟩
    · rintro ⟨x, y, hx, hy, h⟩
      exact ⟨y, x, (ihr y).mpr hy, (ihl x).mpr hx, Operator.apply_converse.mpr h⟩

/-- Faults name the sides in their order, so they need not be the same. -/
example :
    let e := binary (.relation .greater) (.operand "a") (.operand "b")
    e.evaluate .empty = .error (.invalidComparison "a" "b") ∧
      e.mirror.evaluate .empty = .error (.invalidComparison "b" "a") := ⟨rfl, rfl⟩

end Expression

end Rulebook
