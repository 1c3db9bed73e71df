import Rulebook.Rule.Evaluation
import Rulebook.Proofs.Sequencing

/-! # Walks

An expression sees a record only through the values of its leaves, and evaluation is the walk
that notes nothing. The trace of a walk shows what every leaf stands for.
-/

namespace Rulebook.Expression

variable {a b record : Record} {e : Expression}

theorem evaluate_binary_eq_ok_iff {op : Operator} {left right : Expression} {v : Value} :
    (binary op left right).evaluate record = .ok v ↔
      ∃ x y, left.evaluate record = .ok x ∧ right.evaluate record = .ok y ∧
        op.apply x y = .ok v := by
  rw [evaluate]
  simp only [bind_eq_ok_iff]
  constructor
  · rintro ⟨x, hx, y, hy, h⟩
    exact ⟨x, y, hx, hy, h⟩
  · rintro ⟨x, y, hx, hy, h⟩
    exact ⟨x, hx, y, hy, h⟩

theorem walk_binary_iff {path : Option String} {op : Operator} {left right : Expression}
    {before lines : List String} {v : Value} :
    walk record path (binary op left right) before = .ok (v, lines) ↔
      ∃ x between y after,
        walk record (path.map (· ++ ".left")) left before = .ok (x, between) ∧
        walk record (path.map (· ++ ".right")) right between = .ok (y, after) ∧
        op.apply x y = .ok v ∧ lines = note path (binary op left right) v after := by
  rw [walk]
  simp only [bind_eq_ok_iff, Prod.exists, pure, Except.pure, Except.ok.injEq, Prod.mk.injEq]
  constructor
  · rintro ⟨x, between, hl, y, after, hr, w, hv, rfl, rfl⟩
    exact ⟨x, between, y, after, hl, hr, hv, rfl⟩
  · rintro ⟨x, between, y, after, hl, hr, hv, rfl⟩
    exact ⟨x, between, hl, y, after, hr, v, hv, rfl, rfl⟩

/-- The value of a walk is that of evaluation, whether or not a path is known. -/
theorem walk_value (path : Option String) (e : Expression) (trace : List String) :
    (walk record path e trace).map (·.1) = e.evaluate record := by
  induction e generalizing path trace with
  | operand text => rfl
  | binary op left right ihl ihr =>
    rw [walk, evaluate, ← ihl (path.map (· ++ ".left")) trace]
    cases walk record (path.map (· ++ ".left")) left trace with
    | error fault => rfl
    | ok outcome =>
      obtain ⟨x, between⟩ := outcome
      simp only [ok_bind, Except.map]
      rw [← ihr (path.map (· ++ ".right")) between]
      cases walk record (path.map (· ++ ".right")) right between with
      | error fault => rfl
      | ok outcome =>
        obtain ⟨y, after⟩ := outcome
        simp only [ok_bind, Except.map]
        cases op.apply x y <;> rfl

theorem exists_walk_of_evaluate {v : Value} (hv : e.evaluate record = .ok v)
    (path : Option String) : ∃ lines, walk record path e [] = .ok (v, lines) := by
  rw [← walk_value path e []] at hv
  cases hw : walk record path e [] with
  | error fault => exact nomatch hw ▸ hv
  | ok outcome =>
    obtain ⟨w, lines⟩ := outcome
    rw [hw] at hv
    obtain rfl := Except.ok.inj hv
    exact ⟨lines, rfl⟩

theorem execute_of_walk {tracing : Bool} {v : Value} {lines : List String}
    (h : walk record (if tracing then some "root" else none) e [] = .ok (v, lines)) :
    execute tracing record e = .ok ⟨v, lines.reverse⟩ := by
  rw [execute, h]
  rfl

theorem execute_of_fault {fault : Fault} (h : e.evaluate record = .error fault) (tracing : Bool) :
    execute tracing record e = .error fault := by
  rw [← walk_value (if tracing then some "root" else none) e []] at h
  rw [execute]
  cases hw : walk record (if tracing then some "root" else none) e [] with
  | error _ =>
    rw [hw] at h
    obtain rfl := Except.error.inj h
    rfl
  | ok _ => exact nomatch hw ▸ h

theorem walk_congr (h : ∀ text ∈ e.operands, Operand.value a text = Operand.value b text)
    (path : Option String) (trace : List String) : walk a path e trace = walk b path e trace := by
  induction e generalizing path trace with
  | operand text =>
    have hv : Operand.value a text = Operand.value b text := h text (List.mem_singleton_self text)
    rw [walk, walk, hv]
  | binary op left right ihl ihr =>
    have hl := ihl fun text ht => h text (List.mem_append_left _ ht)
    have hr := ihr fun text ht => h text (List.mem_append_right _ ht)
    rw [walk, walk, hl]
    simp only [hr]

theorem traceLine_inj {path : String} {x y : Value} (h : traceLine path e x = traceLine path e y) :
    x.display = y.display :=
  String.append_right_inj _ |>.mp h

theorem display_eq_of_walk {path : String} {before before' lines : List String} {x y : Value}
    (ha : walk a (some path) e before = .ok (x, lines))
    (hb : walk b (some path) e before' = .ok (y, lines)) :
    before = before' ∧
      ∀ text ∈ e.operands, (Operand.value a text).display = (Operand.value b text).display := by
  induction e generalizing path before before' lines x y with
  | operand text =>
    simp only [walk, note, pure, Except.pure, Except.ok.injEq, Prod.mk.injEq] at ha hb
    obtain ⟨-, rfl⟩ := ha
    obtain ⟨-, hlines⟩ := hb
    obtain ⟨hline, rfl⟩ := List.cons.inj hlines
    refine ⟨rfl, fun t ht => ?_⟩
    obtain rfl := List.mem_singleton.mp ht
    exact (traceLine_inj hline).symm
  | binary op left right ihl ihr =>
    obtain ⟨_, between, _, after, hla, hra, -, rfl⟩ := walk_binary_iff.mp ha
    obtain ⟨_, between', _, after', hlb, hrb, -, hlines⟩ := walk_binary_iff.mp hb
    obtain ⟨-, rfl⟩ := List.cons.inj hlines
    obtain ⟨rfl, hr⟩ := ihr hra hrb
    obtain ⟨rfl, hl⟩ := ihl hla hlb
    refine ⟨rfl, fun t ht => ?_⟩
    rcases List.mem_append.mp ht with ht | ht
    · exact hl t ht
    · exact hr t ht

end Rulebook.Expression
