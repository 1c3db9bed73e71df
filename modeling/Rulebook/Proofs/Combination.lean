import Mathlib.Data.List.Forall2
import Rulebook.Proofs.Sequencing
import Rulebook.Rule.Compiler
import Rulebook.Rule.Evaluation

/-! # Combinations

A combination joins the trees of its rules from left to right. Both sides of a join are always
evaluated, the left one first, so the faults of the rules come out in their order, and a
connective of truth values has none of its own.
-/

namespace Rulebook

open List (Forall₂)

def Expression.joined (op : Connective) (tree : Expression) (trees : List Expression) :
    Expression :=
  trees.foldl (.binary (.connective op)) tree

theorem Expression.joined_nil (op : Connective) (tree : Expression) :
    joined op tree [] = tree := rfl

theorem Expression.joined_cons (op : Connective) (tree next : Expression)
    (trees : List Expression) :
    joined op tree (next :: trees) = joined op (.binary (.connective op) tree next) trees := rfl

/-- The value of a combination: that of its only rule, or whether all of them hold, or any. -/
def Connective.verdict (op : Connective) : List Value → Value
  | [value] => value
  | values => .bool (match op with
    | .and => values.all (·.isTruthy)
    | .or => values.any (·.isTruthy))

namespace Compiler

variable {c : Compiler} {op : Connective} {rule : String} {rules : List String}
  {tree e : Expression} {r : Rule}

theorem compile_eq_ok_iff :
    c.compile rule = .ok r ↔ r.source = rule ∧ c.parse rule = .ok r.root := by
  obtain ⟨source, root⟩ := r
  rw [compile, bind_eq_ok_iff]
  constructor
  · rintro ⟨_, hroot, h⟩
    cases h
    exact ⟨rfl, hroot⟩
  · rintro ⟨rfl, hroot⟩
    exact ⟨root, hroot, rfl⟩

theorem exists_joined_of_foldlM (h : rules.foldlM (c.extend op) tree = .ok e) :
    ∃ trees, Forall₂ (fun rule next => c.parse rule = .ok next) rules trees ∧
      e = .joined op tree trees := by
  induction rules generalizing tree with
  | nil =>
    cases h
    exact ⟨[], .nil, rfl⟩
  | cons rule rules ih =>
    rw [List.foldlM_cons] at h
    obtain ⟨extended, hext, h⟩ := bind_eq_ok_iff.mp h
    obtain ⟨next, hnext, hext⟩ := bind_eq_ok_iff.mp hext
    dsimp only at hext
    split at hext
    · cases hext
    · cases hext
      obtain ⟨trees, htrees, rfl⟩ := ih h
      exact ⟨next :: trees, .cons hnext htrees, rfl⟩

theorem exists_joined_of_combine (h : c.combine op rules = .ok r) :
    ∃ tree trees,
      Forall₂ (fun rule next => c.parse rule = .ok next) rules (tree :: trees) ∧
      r.root = .joined op tree trees := by
  obtain ⟨-, -, h⟩ := bind_eq_ok_iff.mp h
  obtain ⟨e, he, h⟩ := bind_eq_ok_iff.mp h
  cases h
  cases rules with
  | nil => cases he
  | cons rule rules =>
    obtain ⟨tree, htree, he⟩ := bind_eq_ok_iff.mp he
    obtain ⟨trees, htrees, rfl⟩ := exists_joined_of_foldlM he
    exact ⟨tree, trees, .cons htree htrees, rfl⟩

end Compiler

section Evaluation

variable {op : Connective} {record : Record}

theorem isTruthy_foldl (op : Connective) (first : Value) (values : List Value) :
    (values.foldl op.apply first).isTruthy = match op with
      | .and => (first :: values).all (·.isTruthy)
      | .or => (first :: values).any (·.isTruthy) := by
  induction values generalizing first with
  | nil => cases op <;> simp
  | cons value values ih =>
    rw [List.foldl_cons, ih]
    cases op <;> simp [Connective.apply, Value.isTruthy, Bool.and_assoc, Bool.or_assoc]

theorem foldl_apply_eq_verdict (op : Connective) (first : Value) (values : List Value) :
    values.foldl op.apply first = op.verdict (first :: values) := by
  rcases List.eq_nil_or_concat values with rfl | ⟨init, last, rfl⟩
  · rfl
  · -- The last join makes a truth value of all that was joined before.
    have hne : init.concat last ≠ [] := by simp
    obtain ⟨value, more, hcons⟩ := List.exists_cons_of_ne_nil hne
    have hbool (x y : Value) : op.apply x y = .bool (op.apply x y).isTruthy := by
      cases op <;> rfl
    have hfold : (init.concat last).foldl op.apply first =
        .bool ((init.concat last).foldl op.apply first).isTruthy := by
      rw [List.concat_eq_append, List.foldl_append]
      exact hbool _ _
    rw [hfold, isTruthy_foldl, hcons]
    rfl

/-- The faults of joined trees come in the order of the trees. -/
theorem evaluate_joined (op : Connective) (tree : Expression) (trees : List Expression) :
    (Expression.joined op tree trees).evaluate record = (do
      let first ← tree.evaluate record
      let values ← trees.mapM (·.evaluate record)
      return values.foldl op.apply first) := by
  induction trees generalizing tree with
  | nil =>
    rw [Expression.joined_nil, List.mapM_nil]
    exact (bind_pure _).symm
  | cons next trees ih =>
    rw [Expression.joined_cons, ih, Expression.evaluate, bind_assoc]
    refine bind_congr fun first => ?_
    rw [List.mapM_cons, bind_assoc, bind_assoc]
    refine bind_congr fun value => ?_
    rw [bind_assoc]
    rfl

theorem evaluate_joined_eq_verdict (op : Connective) (tree : Expression)
    (trees : List Expression) :
    (Expression.joined op tree trees).evaluate record = (do
      return op.verdict (← (tree :: trees).mapM (·.evaluate record))) := by
  rw [evaluate_joined, List.mapM_cons, bind_assoc]
  refine bind_congr fun first => ?_
  rw [bind_assoc]
  exact bind_congr fun values => congrArg pure (foldl_apply_eq_verdict op first values)

end Evaluation

/-- A combination has the first fault of its rules, or else the verdict of their values. -/
theorem Compiler.evaluate_combine {c : Compiler} {op : Connective} {rules : List String} {r : Rule}
    (h : c.combine op rules = .ok r) :
    ∃ trees : List Expression,
      Forall₂ (fun rule tree => c.compile rule = .ok ⟨rule, tree⟩) rules trees ∧
      ∀ record : Record,
        (∀ before tree after fault, trees = before ++ tree :: after →
          (∀ t ∈ before, ∃ v, t.evaluate record = .ok v) → tree.evaluate record = .error fault →
          r.root.evaluate record = .error fault) ∧
        ∀ values, Forall₂ (fun tree v => tree.evaluate record = .ok v) trees values →
          r.root.evaluate record = .ok (op.verdict values) := by
  obtain ⟨tree, trees, hparse, hroot⟩ := exists_joined_of_combine h
  have hcompile : Forall₂ (fun rule tree => c.compile rule = .ok ⟨rule, tree⟩) rules
      (tree :: trees) := by
    refine hparse.imp fun rule tree htree => ?_
    rw [compile_eq_ok_iff]
    exact ⟨rfl, htree⟩
  refine ⟨tree :: trees, hcompile, fun record => ?_⟩
  rw [hroot, evaluate_joined_eq_verdict]
  refine ⟨fun before failing after fault htrees hbefore hfault => ?_, fun values hvalues => ?_⟩
  · rw [htrees, mapM_eq_error hbefore hfault]
    rfl
  · rw [mapM_eq_ok hvalues]
    rfl

theorem Compiler.evaluate_combine_failing :
    let c : Compiler := Compiler.withDepth {} 3
    let equal := Expression.binary (.relation .equal) (.operand "b") (.operand "'x'")
    let r : Rule := ⟨"a OR (b == 'x')", .binary (.connective .or) (.operand "a") equal⟩
    let one : Record := ⟨[("a", .bool true), ("b", .null)]⟩
    let two : Record := ⟨[("a", .array []), ("b", .text "y")]⟩
    c.combine .or ["a", "b == 'x'"] = .ok r ∧
      r.root.evaluate one = .error (.invalidComparison "null" "x") ∧
      r.root.evaluate two = .ok (.bool true) := by
  intro c equal r one two
  have h : c.combine .or ["a", "b == 'x'"] = .ok r := by rfl
  obtain ⟨trees, htrees, hmeaning⟩ := Compiler.evaluate_combine h
  have hcompiled : Forall₂ (fun rule tree => c.compile rule = .ok ⟨rule, tree⟩)
      ["a", "b == 'x'"] [.operand "a", equal] := .cons rfl (.cons rfl .nil)
  have hunique : Relator.RightUnique fun rule tree => c.compile rule = .ok ⟨rule, tree⟩ := by
    intro rule tree next h h'
    exact (Rule.mk.inj (Except.ok.inj (h.symm.trans h'))).2
  obtain rfl := hunique.forall₂ htrees hcompiled
  refine ⟨h, ?_, ?_⟩
  · refine (hmeaning one).1 [.operand "a"] equal [] _ rfl ?_ rfl
    rintro t ht
    obtain rfl := List.mem_singleton.mp ht
    exact ⟨.bool true, rfl⟩
  · exact (hmeaning two).2 [.data (.array []), .bool false] (.cons rfl (.cons rfl .nil))

end Rulebook
