import Mathlib.Data.List.Nodup
import Rulebook.Proofs.Evaluability

/-! # Traces

Whether a walk keeps a trace makes no difference to its value or its fault. The trace goes through
the nodes in the order in which they get their values, and the line for a node shows the way from
the root and the value that the node has when it is evaluated on its own.
-/

namespace Rulebook.Expression

open List (Forall₂)

inductive Side
  | left
  | right
deriving DecidableEq

def Side.suffix : Side → String
  | left => ".left"
  | right => ".right"

def pathFrom (path : String) (steps : List Side) : String :=
  steps.foldl (fun path side => path ++ side.suffix) path

def at? : Expression → List Side → Option Expression
  | e, [] => some e
  | binary _ left _, .left :: steps => left.at? steps
  | binary _ _ right, .right :: steps => right.at? steps
  | operand _, _ :: _ => none

/-- The steps to every node, left before right and both before the node above them. -/
def ways : Expression → List (List Side)
  | operand _ => [[]]
  | binary _ left right => left.ways.map (.left :: ·) ++ right.ways.map (.right :: ·) ++ [[]]

/-- The line shows the node at the end of the steps, with the value that it has on its own. -/
def Shows (e : Expression) (record : Record) (path : String) (line : String) (steps : List Side) :
    Prop :=
  ∃ node v, e.at? steps = some node ∧ node.evaluate record = .ok v ∧
    line = pathFrom path steps ++ ": " ++ node.render ++ " => " ++ v.display

variable {record : Record} {e : Expression}

section Ways

theorem pathFrom_cons (path : String) (side : Side) (steps : List Side) :
    pathFrom path (side :: steps) = pathFrom (path ++ side.suffix) steps := rfl

theorem at?_nil (e : Expression) : e.at? [] = some e := by
  cases e <;> rfl

theorem map_at?_ways (e : Expression) : e.ways.map e.at? = e.nodes.map some := by
  induction e with
  | operand text => rfl
  | binary op left right ihl ihr =>
    simp only [ways, nodes, List.map_append, List.map_map, ← ihl, ← ihr]
    rfl

theorem length_ways (e : Expression) : e.ways.length = e.nodeCount := by
  induction e with
  | operand text => rfl
  | binary op left right ihl ihr =>
    simp only [ways, nodeCount, List.length_append, List.length_map, List.length_singleton, ihl,
      ihr]
    omega

theorem nodup_ways (e : Expression) : e.ways.Nodup := by
  have hinj (side : Side) : Function.Injective (side :: · : List Side → List Side) :=
    fun _ _ h => (List.cons.inj h).2
  induction e with
  | operand text => exact List.nodup_singleton _
  | binary op left right ihl ihr =>
    rw [ways, List.nodup_append', List.nodup_append']
    refine ⟨⟨ihl.map (hinj _), ihr.map (hinj _), ?_⟩, List.nodup_singleton _, ?_⟩
    · intro steps hl hr
      obtain ⟨_, -, rfl⟩ := List.mem_map.mp hl
      obtain ⟨_, -, h⟩ := List.mem_map.mp hr
      exact nomatch h
    · intro steps h hnil
      obtain rfl := List.mem_singleton.mp hnil
      simp at h

theorem toList_pathFrom (path : String) (steps : List Side) :
    (pathFrom path steps).toList = path.toList ++ steps.flatMap (·.suffix.toList) := by
  induction steps generalizing path with
  | nil => exact (List.append_nil _).symm
  | cons side steps ih =>
    rw [pathFrom_cons, ih, String.toList_append, List.append_assoc, List.flatMap_cons]

theorem flatMap_suffix_inj {steps others : List Side}
    (h : steps.flatMap (·.suffix.toList) = others.flatMap (·.suffix.toList)) : steps = others := by
  induction steps generalizing others with
  | nil =>
    rcases others with _ | ⟨_ | _, _⟩
    · rfl
    · exact nomatch h
    · exact nomatch h
  | cons side steps ih =>
    rcases others with _ | ⟨other, others⟩
    · cases side <;> exact nomatch h
    · rw [List.flatMap_cons, List.flatMap_cons] at h
      cases side <;> cases other
      · rw [ih (List.append_cancel_left h)]
      · exact nomatch h
      · exact nomatch h
      · rw [ih (List.append_cancel_left h)]

theorem pathFrom_injective (path : String) : Function.Injective (pathFrom path) := by
  intro steps others h
  have hlist := congrArg String.toList h
  rw [toList_pathFrom, toList_pathFrom] at hlist
  exact flatMap_suffix_inj (List.append_cancel_left hlist)

end Ways

section Walks

variable {path : String} {before lines : List String} {v : Value}

theorem evaluate_of_walk {path : Option String} (h : walk record path e before = .ok (v, lines)) :
    e.evaluate record = .ok v := by
  rw [← walk_value path e before, h]
  rfl

theorem walk_none (h : walk record none e before = .ok (v, lines)) : lines = before := by
  induction e generalizing before lines v with
  | operand text =>
    cases h
    rfl
  | binary op left right ihl ihr =>
    obtain ⟨x, between, y, after, hl, hr, -, rfl⟩ := walk_binary_iff.mp h
    exact (ihr hr).trans (ihl hl)

theorem head?_of_walk (h : walk record (some path) e before = .ok (v, lines)) :
    lines.head? = some (traceLine path e v) := by
  cases e with
  | operand text =>
    cases h
    rfl
  | binary op left right =>
    obtain ⟨x, between, y, after, -, -, -, rfl⟩ := walk_binary_iff.mp h
    rfl

theorem Shows.of_left {op : Operator} {left right : Expression} {line : String} {steps : List Side}
    (h : left.Shows record (path ++ ".left") line steps) :
    (binary op left right).Shows record path line (.left :: steps) := h

theorem Shows.of_right {op : Operator} {left right : Expression} {line : String}
    {steps : List Side} (h : right.Shows record (path ++ ".right") line steps) :
    (binary op left right).Shows record path line (.right :: steps) := h

theorem shows_root (h : e.evaluate record = .ok v) :
    e.Shows record path (traceLine path e v) [] := ⟨e, v, at?_nil e, h, rfl⟩

/-- A walk adds one line for each node of its tree. -/
theorem exists_lines_of_walk (h : walk record (some path) e before = .ok (v, lines)) :
    ∃ added, lines = added.reverse ++ before ∧ Forall₂ (e.Shows record path) added e.ways := by
  have hroot : e.Shows record path (traceLine path e v) [] := shows_root (evaluate_of_walk h)
  induction e generalizing path before lines v with
  | operand text =>
    cases h
    exact ⟨[_], rfl, .cons hroot .nil⟩
  | binary op left right ihl ihr =>
    obtain ⟨x, between, y, after, hl, hr, -, rfl⟩ := walk_binary_iff.mp h
    obtain ⟨lefts, rfl, hlefts⟩ := ihl hl (shows_root (evaluate_of_walk hl))
    obtain ⟨rights, rfl, hrights⟩ := ihr hr (shows_root (evaluate_of_walk hr))
    refine ⟨lefts ++ rights ++ [traceLine path (binary op left right) v], ?_, ?_⟩
    · simp [note]
    · refine List.rel_append (List.rel_append ?_ ?_) (.cons hroot .nil)
      · exact List.forall₂_map_right_iff.mpr (hlefts.imp fun _ _ => Shows.of_left)
      · exact List.forall₂_map_right_iff.mpr (hrights.imp fun _ _ => Shows.of_right)

theorem exists_walk_of_execute {tracing : Bool} {outcome : Outcome}
    (h : execute tracing record e = .ok outcome) :
    ∃ lines, walk record (if tracing then some "root" else none) e [] = .ok (outcome.value, lines) ∧
      outcome.trace = lines.reverse := by
  obtain ⟨⟨v, lines⟩, hw, h⟩ := bind_eq_ok_iff.mp h
  cases h
  exact ⟨lines, hw, rfl⟩

theorem execute_value (tracing : Bool) (record : Record) (e : Expression) :
    (execute tracing record e).map (·.value) = e.evaluate record := by
  cases hv : e.evaluate record with
  | error fault =>
    rw [execute_of_fault hv]
    rfl
  | ok v =>
    obtain ⟨lines, hw⟩ := exists_walk_of_evaluate hv (if tracing then some "root" else none)
    rw [execute_of_walk hw]
    rfl

end Walks

/-- A trace changes no outcome and has one line for each node, in post-order. -/
theorem trace_accounts_for_nodes (e : Expression) (record : Record) :
    (∀ tracing, (execute tracing record e).map (·.value) = e.evaluate record) ∧
    (∀ outcome, execute false record e = .ok outcome → outcome.trace = []) ∧
    ∀ outcome, execute true record e = .ok outcome →
      Forall₂ (e.Shows record "root") outcome.trace e.ways ∧
      e.ways.map e.at? = e.nodes.map some ∧
      outcome.trace.length = e.nodeCount ∧
      (e.ways.map (pathFrom "root")).Nodup ∧
      outcome.trace.getLast? = some ("root: " ++ e.render ++ " => " ++ outcome.value.display) := by
  refine ⟨fun tracing => execute_value tracing record e, fun outcome h => ?_, fun outcome h => ?_⟩
  · obtain ⟨lines, hw, htrace⟩ := exists_walk_of_execute h
    obtain rfl := walk_none hw
    exact htrace
  · obtain ⟨lines, hw, htrace⟩ := exists_walk_of_execute h
    obtain ⟨added, rfl, hshows⟩ := exists_lines_of_walk hw
    have hhead := head?_of_walk hw
    rw [List.append_nil] at hhead htrace
    rw [List.reverse_reverse] at htrace
    rw [htrace]
    refine ⟨hshows, map_at?_ways e, hshows.length_eq.trans (length_ways e),
      (nodup_ways e).map (pathFrom_injective _), ?_⟩
    rw [← List.head?_reverse]
    exact hhead

theorem trace_accounts_for_nodes_senior :
    let e := binary (.connective .and)
      (binary (.relation .equal) (operand "dept") (operand "'Sales'")) (operand "senior")
    let record : Record := ⟨[("dept", .text "Sales"), ("senior", .bool true)]⟩
    let lines := ["root.left.left: dept => Sales", "root.left.right: 'Sales' => Sales",
      "root.left: dept == 'Sales' => true", "root.right: senior => true",
      "root: (dept == 'Sales') AND senior => true"]
    execute true record e = .ok ⟨.bool true, lines⟩ ∧ execute false record e = .ok ⟨.bool true, []⟩ ∧
      Forall₂ (e.Shows record "root") lines e.ways := by
  intro e record lines
  have htrue : execute true record e = .ok ⟨.bool true, lines⟩ := by rfl
  have hfalse : execute false record e = .ok ⟨.bool true, []⟩ := by rfl
  exact ⟨htrue, hfalse, ((trace_accounts_for_nodes e record).2.2 _ htrue).1⟩

end Rulebook.Expression
