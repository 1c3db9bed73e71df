import Rulebook.Proofs.Node.Chains
import Rulebook.Proofs.Nodes
import Rulebook.Proofs.Transport

/-! # Reading a text in two ways

A text can be read as an expression by way of its value, whose raw depth is bounded first, or
straight as a node. The bound never refuses what the node's own check accepts: along `left` and
`right` an accepted value does not go deeper than its nodes do.
-/

namespace Rulebook

open Json (Document)
open Json.Document (KeysDistinct NodesKeyed Unreserved scan scan_of_runWithin isEnd toJson?)

namespace Node

variable {n : Node} {depth : Nat} {e : Expression}

theorem toExpressionAt_cases (h : n.toExpressionAt depth = .ok e) :
    depth ≤ Expression.depthLimit ∧
      ((∃ value text, n = .node .operand value none none ∧ operandText value = .ok text ∧
        e = .operand text) ∨
      ∃ value op left right l r, n = .node .operator value (some left) (some right) ∧
        operatorOf value = .ok op ∧ left.toExpressionAt (depth + 1) = .ok l ∧
        right.toExpressionAt (depth + 1) = .ok r ∧ e = .binary op l r) := by
  obtain ⟨kind, value, left, right⟩ := n
  by_cases hd : Expression.depthLimit < depth
  · rw [toExpressionAt_of_lt hd] at h
    cases h
  · refine ⟨Nat.le_of_not_lt hd, ?_⟩
    rw [toExpressionAt.eq_def] at h
    dsimp only at h
    rw [if_neg hd] at h
    cases kind with
    | operand =>
      cases left <;> cases right
      any_goals cases h
      obtain ⟨text, hvalue, h⟩ := bind_eq_ok_iff.mp h
      cases h
      exact .inl ⟨value, text, rfl, hvalue, rfl⟩
    | operator =>
      obtain ⟨op, hop, h⟩ := bind_eq_ok_iff.mp h
      cases left <;> cases right
      any_goals cases h
      obtain ⟨l, hl, h⟩ := bind_eq_ok_iff.mp h
      obtain ⟨r, hr, h⟩ := bind_eq_ok_iff.mp h
      cases h
      exact .inr ⟨value, op, _, _, l, r, rfl, hop, hl, hr, rfl⟩

theorem exists_of_toExpressionAt {kind : Kind} {value : Option Json} {left right : Option Node}
    (h : (node kind value left right).toExpressionAt depth = .ok e) :
    ∀ child, left = some child ∨ right = some child →
      ∃ e, child.toExpressionAt (depth + 1) = .ok e := by
  obtain ⟨-, ⟨_, _, hn, -, -⟩ | ⟨_, _, _, _, l, r, hn, -, hl, hr, -⟩⟩ := toExpressionAt_cases h
  · cases hn
    rintro child (hc | hc) <;> cases hc
  · cases hn
    rintro child (hc | hc)
    · cases hc
      exact ⟨l, hl⟩
    · cases hc
      exact ⟨r, hr⟩

theorem denotes_of_toExpressionAt (h : n.toExpressionAt depth = .ok e) : n.Denotes e := by
  induction e generalizing n depth with
  | operand text =>
    obtain ⟨-, ⟨_, _, rfl, hvalue, he⟩ | ⟨_, _, _, _, _, _, -, -, -, -, he⟩⟩ :=
      toExpressionAt_cases h
    · cases he
      exact .operand hvalue
    · cases he
  | binary op l r ihl ihr =>
    obtain ⟨-, ⟨_, _, -, -, he⟩ | ⟨_, _, _, _, _, _, rfl, hop, hl, hr, he⟩⟩ :=
      toExpressionAt_cases h
    · cases he
    · cases he
      exact .operator hop (ihl hl) (ihr hr)

end Node

namespace Json

def Accepted (json : Json) (depth : Nat) : Prop :=
  ∃ node e, Node.ofJson? json = some node ∧ node.toExpressionAt depth = .ok e

def Denotes (json : Json) (e : Expression) : Prop :=
  ∃ node, Node.ofJson? json = some node ∧ node.Denotes e

theorem denotes_of_carries {json : Json} {e : Expression} (h : json.Carries e) : json.Denotes e :=
  ⟨e.node, Expression.ofJson?_of_carries h, Expression.denotes_node e⟩

theorem Denotes.not_null {json : Json} {e : Expression} (h : json.Denotes e) :
    json.isNull = false := by
  obtain ⟨node, hnode, -⟩ := h
  cases json with
  | null => cases hnode
  | _ => rfl

theorem exists_of_mem_children {json child : Json} (h : child ∈ json.children) :
    child.isNull = false ∧ ∃ side members, (side = "left" ∨ side = "right") ∧
      json = .object members ∧ lookup side members = some child := by
  obtain ⟨hside, hnull⟩ := mem_children_iff.mp h
  refine ⟨hnull, ?_⟩
  cases json with
  | object members =>
    rcases hside with hl | hl
    · exact ⟨"left", members, .inl rfl, rfl, hl⟩
    · exact ⟨"right", members, .inr rfl, rfl, hl⟩
  | _ => rcases hside with hl | hl <;> cases hl

theorem exists_of_ofJson? {json child : Json} {kind : Kind} {value : Option Json}
    {left right : Option Node} (h : Node.ofJson? json = some (.node kind value left right))
    (hc : child ∈ json.children) :
    ∃ node, Node.ofJson? child = some node ∧ (left = some node ∨ right = some node) := by
  obtain ⟨hnull, side, members, hs, rfl, hl⟩ := exists_of_mem_children hc
  rw [Node.ofJson?] at h
  obtain ⟨parts, hparts, h⟩ := Option.bind_eq_some_iff.mp h
  obtain ⟨part, hpart, hread⟩ := Node.child?_of_lookup hs hparts hl
  rw [Node.child, hnull, if_neg Bool.false_ne_true] at hread
  obtain ⟨node, hnode, rfl⟩ := Option.map_eq_some_iff.mp hread
  obtain ⟨_, -, h⟩ := Option.map_eq_some_iff.mp h
  cases h
  refine ⟨node, hnode, ?_⟩
  rcases hs with rfl | rfl
  · exact .inl (congrArg (Option.getD · none) hpart)
  · exact .inr (congrArg (Option.getD · none) hpart)

theorem Accepted.children {json : Json} {depth : Nat} (h : json.Accepted depth) :
    depth ≤ Expression.depthLimit ∧ ∀ child ∈ json.children, child.Accepted (depth + 1) := by
  obtain ⟨⟨kind, value, left, right⟩, e, hj, he⟩ := h
  refine ⟨(Node.toExpressionAt_cases he).1, fun child hc => ?_⟩
  obtain ⟨node, hnode, hside⟩ := exists_of_ofJson? hj hc
  obtain ⟨e, he⟩ := Node.exists_of_toExpressionAt he node hside
  exact ⟨node, e, hnode, he⟩

/-- Of pending values that are all accepted at their depth none lies too deep. -/
theorem anyExceeds_of_accepted {pending : List (Json × Nat)}
    (h : ∀ p ∈ pending, p.1.Accepted p.2) : anyExceeds Expression.depthLimit pending = false := by
  fun_induction anyExceeds Expression.depthLimit pending with
  | case1 => rfl
  | case2 json depth pending hd =>
    have hle := (h _ List.mem_cons_self).children.1
    exact absurd hd (Nat.not_lt_of_le hle)
  | case3 json depth pending hd ih =>
    rw [List.forall_mem_cons] at h
    refine ih fun p hp => ?_
    rcases List.mem_append.mp hp with hp | hp
    · obtain ⟨child, hc, rfl⟩ := List.mem_map.mp hp
      exact h.1.children.2 child hc
    · exact h.2 p hp

theorem exceedsDepth_of_accepted {json : Json} (h : json.Accepted 1) :
    json.exceedsDepth Expression.depthLimit = false :=
  anyExceeds_of_accepted (List.forall_mem_singleton.mpr h)

variable {text : String} {document : Document} {rest : List Symbol}

theorem parse_of_scan (hs : scan (symbols text) = .ok (document, rest)) (he : isEnd rest)
    (hu : document.Unreserved) : parse text = document.toJsonWith parse maxNesting := by
  rw [parse, parseWithin]
  simp only [hs, he, if_true]
  rw [Document.toJsonWith_congr hu]
  exact bind_pure _

end Json

namespace Expression

variable {json : Json} {node : Node} {e : Expression} {text : String} {document : Document}
  {rest : List Json.Symbol}

theorem ofJson_ne_ok (h : Node.ofJson? json = none) (e : Expression) : ofJson json ≠ .ok e := by
  intro hj
  rw [ofJson, h] at hj
  split at hj <;> cases hj

theorem ofJson_eq_ok_iff (h : Node.ofJson? json = some node) (e : Expression) :
    ofJson json = .ok e ↔ node.toExpression = .ok e := by
  rw [ofJson, h]
  constructor
  · intro hj
    split at hj
    · cases hj
    · exact hj
  · intro he
    rw [Json.exceedsDepth_of_accepted ⟨node, e, h, he⟩]
    exact he

theorem ofJson_of_error {fault : Fault} (h : Node.ofJson? json = some node)
    (hf : node.toExpression = .error fault) :
    ofJson json = .error fault ∨ ofJson json = .error (.treeTooDeep depthLimit) := by
  rw [ofJson, h]
  split
  · exact .inr rfl
  · exact .inl hf

/-- A value is read as what it denotes, unless that is too deep. -/
theorem ofJson_of_denotes (h : json.Denotes e) :
    ofJson json = if e.depth ≤ depthLimit then .ok e else .error (.treeTooDeep depthLimit) := by
  obtain ⟨node, hnode, hdenotes⟩ := h
  have hread := hdenotes.toExpression
  by_cases hd : e.depth ≤ depthLimit
  · rw [if_pos hd] at hread ⊢
    exact (ofJson_eq_ok_iff hnode e).mpr hread
  · rw [if_neg hd] at hread ⊢
    exact (ofJson_of_error hnode hread).elim id id

theorem denotes_of_ofJson (h : ofJson json = .ok e) : json.Denotes e ∧ e.depth ≤ depthLimit := by
  cases hnode : Node.ofJson? json with
  | none => exact absurd h (ofJson_ne_ok hnode e)
  | some node =>
    have hread := (ofJson_eq_ok_iff hnode e).mp h
    have hdenotes := Node.denotes_of_toExpressionAt hread
    refine ⟨⟨node, hnode, hdenotes⟩, ?_⟩
    rw [hdenotes.toExpression] at hread
    split at hread
    · assumption
    · cases hread

/-- A text that is read straight as a node is checked as the node of its document. -/
theorem read_of_scan (hs : Json.Document.scan (Json.symbols text) = .ok (document, rest))
    (he : isEnd rest) :
    read text = match Node.ofDocument? Json.maxNesting document with
      | some node => node.toExpression.mapError .rejected
      | none => .error .unreadable := by
  rw [read, hs]
  dsimp only
  cases Node.ofDocument? Json.maxNesting document with
  | none => rfl
  | some node =>
    dsimp only
    cases node.toExpression with
    | error fault => rfl
    | ok e =>
      dsimp only
      rw [if_pos he]
      rfl

/-- Both ways of reading a text give the same expressions, and the same faults within the depth. -/
def ReadsAlike (text : String) : Prop :=
  (∀ e, parse text = .ok e ↔ read text = .ok e) ∧
  ∀ fault, read text = .error (.rejected fault) →
    parse text = .error fault ∨ parse text = .error (.treeTooDeep 100)

section Texts

open Json.Document

def mixedText : String :=
  "[\"operator\",\">\",\x7b\"value\":\"age\",\"type\":\"operand\"\x7d,[\"operand\",\"30\"]]"

def mixedDocument : Document :=
  .array [.text (Json.symbols "operator"), .text (Json.symbols ">"),
    .object [(Json.symbols "value", .text (Json.symbols "age")),
      (Json.symbols "type", .text (Json.symbols "operand"))],
    .array [.text (Json.symbols "operand"), .text (Json.symbols "30")]]

theorem scan_mixedText : scan (Json.symbols mixedText) = .ok (mixedDocument, []) :=
  scan_of_runWithin rfl

theorem everyObject_mixedDocument {p : List String → Prop} (h : p ["value", "type"]) :
    EveryObject p mixedDocument := by
  simp [mixedDocument, everyObject_array, everyObject_object, everyObject_text, keys,
    string?_symbols, h]

theorem nodesKeyed_mixedDocument : mixedDocument.NodesKeyed := by
  refine nodesKeyed_quadruple.mpr ⟨?_, nodesKeyed_pair _ _⟩
  simp [nodesKeyed_object, string?_symbols]

def embeddedText : String :=
  "\x7b\"type\":\x7b\"$serde_json::private::RawValue\":\"\\\"operand\\\"\"\x7d,\"value\":\"x\"\x7d"

def embeddedDocument : Document :=
  .object [(Json.symbols "type",
      .object [(Json.symbols embeddedKey, .text (Json.symbols "\"operand\""))]),
    (Json.symbols "value", .text (Json.symbols "x"))]

theorem scan_embeddedText : scan (Json.symbols embeddedText) = .ok (embeddedDocument, []) :=
  scan_of_runWithin rfl

theorem parseWithin_print_text (levels : Nat) (text : String) :
    Json.parseWithin (levels + 1) (Json.text text).print = .ok (.text text) := by
  rw [Json.parseWithin]
  simp only [Json.Document.scan_print (spells_text text), toJsonWith_text]
  rfl

theorem toJsonWith_embedded (readText : String → Except JsonFault Json) (depth : Nat)
    (text : String) :
    toJsonWith readText (depth + 1)
      (.object [(Json.symbols embeddedKey, .text (Json.symbols text))]) = readText text := by
  rw [toJsonWith, embedded?, string?_symbols, if_pos rfl]
  dsimp only
  rw [toText, string?_symbols]
  change (readText text >>= pure) = readText text
  rw [bind_pure]

theorem parse_embeddedText : parse embeddedText = .ok (.operand "x") := by
  have hlength : embeddedText.length = 68 + 1 := by rfl
  have hprint : "\"operand\"" = (Json.text "operand").print := by rfl
  have hinner : Json.parseWithin embeddedText.length "\"operand\"" = .ok (.text "operand") := by
    rw [hlength, hprint]
    exact parseWithin_print_text _ _
  have hjson : Json.parse embeddedText =
      .ok (.object [("type", .text "operand"), ("value", .text "x")]) := by
    rw [Json.parse, Json.parseWithin]
    simp only [scan_embeddedText]
    rw [embeddedDocument, Json.maxNesting, toJsonWith, embedded?_symbols (by decide)]
    simp only [membersToJsonWith_cons, membersToJsonWith_nil, toJsonWith_embedded, toJsonWith_text,
      hinner]
    rfl
  have hnode : Node.ofJson? (.object [("type", .text "operand"), ("value", .text "x")]) =
      some (operand "x").node := by rfl
  rw [parse, hjson]
  exact (ofJson_eq_ok_iff hnode _).mpr rfl

/-- Texts without repeated, reserved or foreign keys are read alike in both ways. -/
theorem parse_agrees_with_read (hs : scan (Json.symbols text) = .ok (document, rest))
    (he : isEnd rest) (hd : document.KeysDistinct) (hn : document.NodesKeyed)
    (hu : document.Unreserved) : ReadsAlike text := by
  have hnode : Node.ofDocument? Json.maxNesting document = _ := Node.ofDocument?_eq hd hu hn
  rw [ReadsAlike, parse, Json.parse_of_scan hs he hu, read_of_scan hs he, hnode, toJson?]
  cases document.toJsonWith Json.parse Json.maxNesting with
  | error fault =>
    refine ⟨fun e => ⟨fun h => ?_, fun h => ?_⟩, fun fault h => ?_⟩
    all_goals cases h
  | ok json =>
    dsimp only [Except.toOption, Option.bind_some]
    cases h : Node.ofJson? json with
    | none =>
      refine ⟨fun e => ⟨fun hj => absurd hj (ofJson_ne_ok h e), fun hr => ?_⟩, fun fault hr => ?_⟩
      all_goals cases hr
    | some node =>
      dsimp only
      refine ⟨fun e => (ofJson_eq_ok_iff h e).trans ?_, fun fault hf => ?_⟩
      · cases node.toExpression <;> simp [Except.mapError]
      · cases hx : node.toExpression with
        | error fault' =>
          rw [hx] at hf
          cases hf
          exact ofJson_of_error h hx
        | ok e =>
          rw [hx] at hf
          cases hf

theorem parse_agrees_with_read_mixed :
    scan (Json.symbols mixedText) = .ok (mixedDocument, []) ∧ isEnd [] ∧
      mixedDocument.KeysDistinct ∧ mixedDocument.NodesKeyed ∧ mixedDocument.Unreserved ∧
      ReadsAlike mixedText ∧
      read mixedText = .ok (.binary (.relation .greater) (.operand "age") (.operand "30")) :=
  have hd : mixedDocument.KeysDistinct := everyObject_mixedDocument (by decide)
  have hu : mixedDocument.Unreserved := everyObject_mixedDocument (by decide)
  ⟨scan_mixedText, rfl, hd, nodesKeyed_mixedDocument, hu,
    parse_agrees_with_read scan_mixedText rfl hd nodesKeyed_mixedDocument hu,
    (read_of_scan scan_mixedText rfl).trans rfl⟩

theorem parse_differs_from_read_embedded :
    scan (Json.symbols embeddedText) = .ok (embeddedDocument, []) ∧ isEnd [] ∧
      embeddedDocument.KeysDistinct ∧ embeddedDocument.NodesKeyed ∧
      parse embeddedText = .ok (.operand "x") ∧ read embeddedText = .error .unreadable ∧
      ¬ ReadsAlike embeddedText := by
  have hread : read embeddedText = .error .unreadable :=
    (read_of_scan scan_embeddedText rfl).trans rfl
  refine ⟨scan_embeddedText, rfl, ?_, ?_, parse_embeddedText, hread, ?_⟩
  · simp [KeysDistinct, embeddedDocument, everyObject_object, everyObject_text, keys,
      string?_symbols]
  · simp [embeddedDocument, nodesKeyed_object, string?_symbols]
  · intro h
    have hok := (h.1 _).mp parse_embeddedText
    rw [hread] at hok
    cases hok

end Texts

end Expression

end Rulebook
