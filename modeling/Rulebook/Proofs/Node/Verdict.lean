import Rulebook.Proofs.Ingestion
import Rulebook.Proofs.Node.Chains
import Rulebook.Proofs.Node.Shape

/-! # The verdict on a value

Every value is either read as an expression or refused, and what decides is found in the value
itself: a chain of children that is too long, something that stands for a node and has not the
shape of one, or else the first node at fault.
-/

namespace Rulebook

namespace Json

def content (json : Json) : Json := ((json.field? .value).bind reread?).getD .null

def operandText? : Json → Option String
  | .text t => some t
  | .number n => some (Json.number n).print
  | _ => none

def operator? : Json → Option Operator
  | .text symbol => Operator.ofSymbol? symbol
  | _ => none

def plain : Json → String
  | .text t => t
  | json => json.print

/-- What is wrong with a node at a depth, apart from its children. -/
def fault? (depth : Nat) (json : Json) : Option Fault :=
  if 100 < depth then some (.treeTooDeep 100)
  else match json.kind? with
    | some .operand =>
      if (json.part? .left).isSome ∨ (json.part? .right).isSome then
        some (.malformed .operandWithChildren)
      else if json.content.operandText? = none then some (.invalidOperand json.content.print)
      else none
    | some .operator => match json.content.operator? with
      | none => some (.unknownOperator json.content.plain)
      | some op =>
        if json.part? .left = none ∨ json.part? .right = none then
          some (.malformed (.missingChildren op))
        else none
    | none => none

/-- The fault is that of the first node with one. -/
def FirstFaultAt (depth : Nat) (json : Json) : Fault → Prop :=
  FirstFault (fun p fault => p.2.fault? p.1 = some fault) (json.preorder depth)

/-- The nodes of the value are those of the expression. -/
inductive HasTree : Json → Expression → Prop
  | operand {json : Json} {text : String} :
      json.kind? = some .operand → json.part? .left = none → json.part? .right = none →
      json.content.operandText? = some text → HasTree json (.operand text)
  | operator {json left right : Json} {op : Operator} {l r : Expression} :
      json.kind? = some .operator → json.content.operator? = some op →
      json.part? .left = some left → json.part? .right = some right →
      HasTree left l → HasTree right r → HasTree json (.binary op l r)

/-- What becomes of a node at a depth: an expression, or the first fault in it. -/
def Verdict (depth : Nat) (json : Json) : Except Fault Expression → Prop
  | .ok e => json.HasTree e ∧ ∀ fault, ¬ json.FirstFaultAt depth fault
  | .error fault => json.FirstFaultAt depth fault

/-- The raw depth comes first, then the shape of all nodes, then the first node at fault. -/
structure Decided (json : Json) (result : Except Fault Expression) : Prop where
  tooDeep : json.DescendsPast 100 → result = .error (.treeTooDeep 100)
  misshapen : ¬ json.DescendsPast 100 → ¬ json.Everywhere IsShaped → result = .error (.json .shape)
  faulty : ¬ json.DescendsPast 100 → json.Everywhere IsShaped →
    ∀ fault, json.FirstFaultAt 1 fault → result = .error fault
  faultless : ¬ json.DescendsPast 100 → json.Everywhere IsShaped →
    (∀ p ∈ json.preorder 1, p.2.fault? p.1 = none) →
    ∃ e, result = .ok e ∧ json.HasTree e ∧ e.depth ≤ 100

theorem firstFaultAt_iff {depth : Nat} {json : Json} {fault : Fault} :
    json.FirstFaultAt depth fault ↔ json.fault? depth = some fault ∨ json.fault? depth = none ∧
      FirstFault (fun p fault => p.2.fault? p.1 = some fault)
        ((json.part? .left).elim [] (preorder (depth + 1)) ++
          (json.part? .right).elim [] (preorder (depth + 1))) fault := by
  rw [FirstFaultAt, preorder_eq, firstFault_cons]
  simp only [← Option.eq_none_iff_forall_ne_some]

theorem FirstFaultAt.self {depth : Nat} {json : Json} {fault : Fault}
    (h : json.fault? depth = some fault) : json.FirstFaultAt depth fault :=
  firstFaultAt_iff.mpr (.inl h)

theorem not_firstFaultAt_iff {depth : Nat} {json : Json} :
    (∀ fault, ¬ json.FirstFaultAt depth fault) ↔
      ∀ p ∈ json.preorder depth, ∀ fault, ¬ p.2.fault? p.1 = some fault :=
  not_firstFault_iff

theorem firstFaultAt_children {depth : Nat} {json left right : Json} {fault : Fault}
    (hown : json.fault? depth = none) (hl : json.part? .left = some left)
    (hr : json.part? .right = some right) :
    json.FirstFaultAt depth fault ↔ left.FirstFaultAt (depth + 1) fault ∨
      (∀ other, ¬ left.FirstFaultAt (depth + 1) other) ∧
        right.FirstFaultAt (depth + 1) fault := by
  rw [firstFaultAt_iff, hown, hl, hr, Option.elim_some, Option.elim_some, firstFault_append,
    ← not_firstFaultAt_iff]
  simp [FirstFaultAt]

end Json

namespace Node

open Json (Field)

variable {json : Json} {node : Node} {depth : Nat}

theorem present_content {value : Option (Option Json)}
    (h : ((json.field? .value).mapM fun value : Json => value.reread?.map present) = some value) :
    present json.content = value.getD none := by
  rw [Json.content]
  cases hfield : json.field? .value with
  | none =>
    rw [hfield] at h
    cases h
    rfl
  | some field =>
    rw [hfield, Option.mapM_some] at h
    cases hr : field.reread? with
    | none =>
      rw [hr] at h
      cases h
    | some json =>
      rw [hr] at h
      cases h
      rw [Option.bind_some, hr]
      rfl

theorem exists_parts_of_ofJson? (hn : json.keys.Nodup) (h : ofJson? json = some node) :
    ∃ kind left right, node = .node kind (present json.content) left right ∧
      json.kind? = some kind ∧ (json.part? .left).mapM ofJson? = some left ∧
      (json.part? .right).mapM ofJson? = some right := by
  rw [ofJson?_eq hn] at h
  split at h
  · simp only [Option.bind_eq_bind, Option.bind_eq_some_iff, Option.pure_def,
      Option.some.injEq] at h
    obtain ⟨kind, hkind, value, hvalue, left, hleft, right, hright, rfl⟩ := h
    exact ⟨kind, left, right, by rw [present_content hvalue], hkind, hleft, hright⟩
  · cases h

theorem operandText_present (json : Json) :
    operandText (present json) = match json.operandText? with
      | some text => .ok text
      | none => .error (.invalidOperand json.print) := by
  cases json <;> rfl

theorem operatorOf_present (json : Json) :
    operatorOf (present json) = match json.operator? with
      | some op => .ok op
      | none => .error (.unknownOperator json.plain) := by
  cases json with
  | text symbol =>
    change (match Operator.ofSymbol? symbol with
      | some op => Except.ok op
      | none => .error (Fault.unknownOperator symbol)) = _
    rfl
  | _ => rfl

section Within

variable {kind : Kind} {value : Option Json} {left right : Option Node}

theorem toExpressionAt_operand (hd : ¬ 100 < depth) :
    toExpressionAt depth (.node .operand value left right) =
      if left.isSome ∨ right.isSome then .error (.malformed .operandWithChildren)
      else do return .operand (← operandText value) := by
  rw [toExpressionAt, if_neg (show ¬ Expression.depthLimit < depth from hd)]
  cases left <;> cases right <;> rfl

theorem toExpressionAt_operator (hd : ¬ 100 < depth) :
    toExpressionAt depth (.node .operator value left right) = (do
      let op ← operatorOf value
      match left, right with
      | some left, some right =>
        return .binary op (← left.toExpressionAt (depth + 1)) (← right.toExpressionAt (depth + 1))
      | _, _ => .error (.malformed (.missingChildren op))) := by
  rw [toExpressionAt.eq_def]
  dsimp only
  rw [if_neg (show ¬ Expression.depthLimit < depth from hd)]
  rfl

theorem verdict_operand (hd : ¬ 100 < depth) (hkind : json.kind? = some .operand)
    (hl : (json.part? .left).mapM ofJson? = some left)
    (hr : (json.part? .right).mapM ofJson? = some right) :
    json.Verdict depth (toExpressionAt depth
      (.node .operand (present json.content) left right)) := by
  rw [toExpressionAt_operand hd, isSome_of_mapM hl, isSome_of_mapM hr, operandText_present]
  by_cases hparts : (json.part? .left).isSome ∨ (json.part? .right).isSome
  · rw [if_pos hparts]
    exact .self (by rw [Json.fault?, if_neg hd, hkind]; exact if_pos hparts)
  · rw [if_neg hparts]
    have hown : json.fault? depth = if json.content.operandText? = none then
        some (.invalidOperand json.content.print) else none := by
      rw [Json.fault?, if_neg hd, hkind]
      exact if_neg hparts
    cases htext : json.content.operandText? with
    | none => exact .self (by rw [hown, if_pos htext])
    | some text =>
      rw [not_or, Option.not_isSome_iff_eq_none, Option.not_isSome_iff_eq_none] at hparts
      refine ⟨.operand hkind hparts.1 hparts.2 htext, fun fault => ?_⟩
      rw [Json.firstFaultAt_iff, hown, htext, hparts.1, hparts.2]
      simp

theorem verdict_children {l r : Json} {left right : Node} {op : Operator}
    (hkind : json.kind? = some .operator) (hop : json.content.operator? = some op)
    (hl : json.part? .left = some l) (hr : json.part? .right = some r)
    (hown : json.fault? depth = none)
    (hleft : l.Verdict (depth + 1) (left.toExpressionAt (depth + 1)))
    (hright : r.Verdict (depth + 1) (right.toExpressionAt (depth + 1))) :
    json.Verdict depth (do
      return .binary op (← left.toExpressionAt (depth + 1))
        (← right.toExpressionAt (depth + 1))) := by
  cases hlr : left.toExpressionAt (depth + 1) with
  | error fault =>
    rw [hlr] at hleft
    exact (Json.firstFaultAt_children hown hl hr).mpr (.inl hleft)
  | ok left =>
    rw [hlr] at hleft
    obtain ⟨hltree, hlnone⟩ := hleft
    cases hrr : right.toExpressionAt (depth + 1) with
    | error fault =>
      rw [hrr] at hright
      exact (Json.firstFaultAt_children hown hl hr).mpr (.inr ⟨hlnone, hright⟩)
    | ok right =>
      rw [hrr] at hright
      obtain ⟨hrtree, hrnone⟩ := hright
      refine ⟨.operator hkind hop hl hr hltree hrtree, fun fault h => ?_⟩
      rcases (Json.firstFaultAt_children hown hl hr).mp h with h | ⟨-, h⟩
      · exact hlnone fault h
      · exact hrnone fault h

theorem verdict_operator (hd : ¬ 100 < depth) (hkind : json.kind? = some .operator)
    (hl : (json.part? .left).mapM ofJson? = some left)
    (hr : (json.part? .right).mapM ofJson? = some right)
    (ih : ∀ field child node, (field = .left ∨ field = .right) → json.part? field = some child →
      ofJson? child = some node → child.Verdict (depth + 1) (node.toExpressionAt (depth + 1))) :
    json.Verdict depth (toExpressionAt depth
      (.node .operator (present json.content) left right)) := by
  rw [toExpressionAt_operator hd, operatorOf_present]
  cases hop : json.content.operator? with
  | none => exact .self (by rw [Json.fault?, if_neg hd, hkind, hop])
  | some op =>
    have hown : json.fault? depth =
        if json.part? .left = none ∨ json.part? .right = none then
          some (.malformed (.missingChildren op))
        else none := by
      rw [Json.fault?, if_neg hd, hkind, hop]
    cases hpl : json.part? .left with
    | none =>
      rw [hpl] at hl
      cases hl
      exact .self (by rw [hown, if_pos (.inl hpl)])
    | some l =>
      rw [hpl, Option.mapM_some] at hl
      obtain ⟨leftNode, hlnode, rfl⟩ := Option.map_eq_some_iff.mp hl
      cases hpr : json.part? .right with
      | none =>
        rw [hpr] at hr
        cases hr
        exact .self (by rw [hown, if_pos (.inr hpr)])
      | some r =>
        rw [hpr, Option.mapM_some] at hr
        obtain ⟨rightNode, hrnode, rfl⟩ := Option.map_eq_some_iff.mp hr
        exact verdict_children hkind hop hpl hpr (by rw [hown, if_neg (by simp [hpl, hpr])])
          (ih .left l leftNode (.inl rfl) hpl hlnode) (ih .right r rightNode (.inr rfl) hpr hrnode)

end Within

/-- The node of a value is an expression just if nothing is wrong in it, or has the first fault. -/
theorem verdict_toExpressionAt (hd : json.NodesDistinct) (h : ofJson? json = some node) :
    json.Verdict depth (node.toExpressionAt depth) := by
  induction json using Json.part_induction generalizing depth node with
  | step json ih =>
    by_cases hdeep : 100 < depth
    · rw [toExpressionAt_of_lt hdeep]
      exact .self (if_pos hdeep)
    · obtain ⟨kind, left, right, rfl, hkind, hl, hr⟩ :=
        exists_parts_of_ofJson? (Json.everywhere_iff.mp hd).1 h
      cases kind with
      | operand => exact verdict_operand hdeep hkind hl hr
      | operator =>
        refine verdict_operator hdeep hkind hl hr fun field child node hside hc hnode => ?_
        exact ih field child hc (hd.part hside hc) hnode

end Node

namespace Json

inductive Inside (inner : Json) : Json → Prop
  | self : Inside inner inner
  | item {item : Json} {items : List Json} :
      item ∈ items → Inside inner item → Inside inner (.array items)
  | member {member : String × Json} {members : List (String × Json)} :
      member ∈ members → Inside inner member.2 → Inside inner (.object members)

/-- No object in the value has the key that makes it stand for a text. -/
def Unreserved (json : Json) : Prop :=
  ∀ inner, Inside inner json → Document.embeddedKey ∉ inner.keys

theorem reread?_of_unreserved (json : Json) (h : json.Unreserved) : json.reread? = some json := by
  induction hw : weight json using Nat.strong_induction_on generalizing json with
  | _ n ih =>
    subst hw
    cases json with
    | array items =>
      have hitems : ∀ item ∈ items, item.reread? = some item := by
        intro item hi
        have hlt := weight_le_weightItems hi
        refine ih _ ?_ item (fun inner hinner => h inner (.item hi hinner)) rfl
        rw [weight]
        omega
      rw [reread?, rereadItems?_of_forall hitems]
      rfl
    | object members =>
      refine reread?_object (h _ .self) fun member hm => ?_
      have hlt := weight_le_weightMembers hm
      refine ih _ ?_ member.2 (fun inner hinner => h inner (.member hm hinner)) rfl
      rw [weight]
      omega
    | _ => simp [reread?]

end Json

namespace Expression

variable {json : Json}

theorem decided_of_verdict (hdeep : ¬ json.DescendsPast 100)
    (hshape : json.Everywhere Json.IsShaped) (hverdict : json.Verdict 1 (ofJson json)) :
    json.Decided (ofJson json) := by
  refine ⟨fun h => absurd h hdeep, fun _ h => absurd hshape h, fun _ _ fault hfirst => ?_,
    fun _ _ hnone => ?_⟩
  · cases hj : ofJson json with
    | ok e =>
      rw [hj] at hverdict
      exact absurd hfirst (hverdict.2 fault)
    | error other =>
      rw [hj] at hverdict
      have hunique : other = fault := hverdict.unique
        (fun p _ _ h h' => Option.some.inj (h.symm.trans h')) hfirst
      rw [hunique]
  · have hfirst (fault : Fault) : ¬ json.FirstFaultAt 1 fault := by
      refine Json.not_firstFaultAt_iff.mpr (fun p hp fault h => ?_) fault
      rw [hnone p hp] at h
      cases h
    cases hj : ofJson json with
    | ok e =>
      rw [hj] at hverdict
      exact ⟨e, rfl, hverdict.1, (denotes_of_ofJson hj).2⟩
    | error fault =>
      rw [hj] at hverdict
      exact absurd hverdict (hfirst fault)

/-- Every value whose objects hold each key once is decided by its depth, shapes and contents. -/
theorem ofJson_decides (hd : json.NodesDistinct) :
    json.Decided (ofJson json) ∧ ∀ value : Json, value.Unreserved → value.reread? = some value := by
  refine ⟨?_, Json.reread?_of_unreserved⟩
  by_cases hdeep : json.DescendsPast 100
  · have hj : ofJson json = .error (.treeTooDeep 100) := if_pos (Json.exceedsDepth_iff.mpr hdeep)
    exact ⟨fun _ => hj, fun h => absurd hdeep h, fun h => absurd hdeep h, fun h => absurd hdeep h⟩
  · have hbound : ¬ json.exceedsDepth depthLimit = true := mt Json.exceedsDepth_iff.mp hdeep
    cases hnode : Node.ofJson? json with
    | none =>
      have hshape : ¬ json.Everywhere Json.IsShaped := by
        rw [← Node.isSome_ofJson?_iff hd, hnode]
        exact Bool.false_ne_true
      have hj : ofJson json = .error (.json .shape) := by
        rw [ofJson, if_neg hbound, hnode]
        rfl
      exact ⟨fun h => absurd h hdeep, fun _ _ => hj, fun _ h => absurd h hshape,
        fun _ h => absurd h hshape⟩
    | some node =>
      have hshape : json.Everywhere Json.IsShaped := by
        rw [← Node.isSome_ofJson?_iff hd, hnode]
        rfl
      have hj : ofJson json = node.toExpression := by rw [ofJson, if_neg hbound, hnode]
      exact decided_of_verdict hdeep hshape (hj ▸ Node.verdict_toExpressionAt hd hnode)

section Values

def faultyValue : Json :=
  .object [("left", .array [.text "operand"]),
    ("right", .object [("left", .array [.text "operand", .text "y"]), ("type", .text "operand"),
      ("value", .text "x")]),
    ("type", .text "operator"), ("value", .text "AND")]

theorem preorder_faultyValue : faultyValue.preorder 1 =
    [(1, faultyValue), (2, .array [.text "operand"]),
      (2, .object [("left", .array [.text "operand", .text "y"]), ("type", .text "operand"),
        ("value", .text "x")]),
      (3, .array [.text "operand", .text "y"])] := by
  simp [faultyValue, Json.preorder_eq, Json.part?, Json.field?, Json.Field.name, Json.Field.place,
    Json.lookup, Json.isNull, Option.filter]

theorem ofJson_decides_leftFirst :
    faultyValue.NodesDistinct ∧ ofJson faultyValue = .error (.invalidOperand "null") := by
  have hdistinct : faultyValue.NodesDistinct := by
    rw [Json.NodesDistinct, Json.Everywhere, preorder_faultyValue]
    decide
  have hdeep : ¬ faultyValue.DescendsPast 100 := by
    rw [← Json.exceedsDepth_iff]
    simp [faultyValue, Json.exceedsDepth, Json.anyExceeds, Json.children, Json.childAt,
      Json.member?, Json.lookup, Json.isNull]
  have hshape : faultyValue.Everywhere Json.IsShaped := by
    rw [Json.Everywhere, preorder_faultyValue]
    simp only [List.forall_mem_cons]
    refine ⟨⟨rfl, rfl, ?_⟩, ⟨rfl, rfl, ?_⟩, ⟨rfl, rfl, ?_⟩, ⟨rfl, rfl, ?_⟩, by simp⟩
    all_goals
      intro value h
      cases h
      try rfl
  have hfirst : faultyValue.FirstFaultAt 1 (.invalidOperand "null") := by
    rw [Json.FirstFaultAt, preorder_faultyValue, firstFault_cons, firstFault_cons]
    refine .inr ⟨?_, .inl rfl⟩
    intro other h
    cases h
  exact ⟨hdistinct, (ofJson_decides hdistinct).1.faulty hdeep hshape _ hfirst⟩

def halfEmbedded : Json :=
  .object [(Json.Document.embeddedKey, .text "5"), ("a", .number (.integer 1))]

def halfEmbeddedNode : Json := .object [("type", .text "operand"), ("value", halfEmbedded)]

/-- An operand whose value is such an object is refused as misshapen, not for its value. -/
theorem ofJson_halfEmbeddedNode :
    ¬ halfEmbeddedNode.DescendsPast 100 ∧ halfEmbeddedNode.preorder 1 = [(1, halfEmbeddedNode)] ∧
      halfEmbeddedNode.kind? = some .operand ∧
      halfEmbeddedNode.field? .value = some halfEmbedded ∧ halfEmbedded.operandText? = none ∧
      ofJson halfEmbeddedNode = .error (.json .shape) ∧
      ofJson halfEmbeddedNode ≠ .error (.invalidOperand halfEmbedded.print) := by
  have hdeep : ¬ halfEmbeddedNode.DescendsPast 100 := by
    rw [← Json.exceedsDepth_iff]
    simp [halfEmbeddedNode, Json.exceedsDepth, Json.anyExceeds, Json.children, Json.childAt,
      Json.member?, Json.lookup]
  have hfault : ofJson halfEmbeddedNode = .error (.json .shape) :=
    if_neg (mt Json.exceedsDepth_iff.mp hdeep)
  refine ⟨hdeep, ?_, rfl, rfl, rfl, hfault, ?_⟩
  · rw [Json.preorder_eq]
    rfl
  · rw [hfault]
    intro h
    cases h

end Values

end Expression

end Rulebook
