import Rulebook.Proofs.Json.Reading
import Rulebook.Proofs.Json.Spelling
import Rulebook.Proofs.Rendering
import Rulebook.Rule.Ingest

/-! # Trees as JSON

A tree that is written as JSON, as a value or as a text, is read back unchanged as long as it is
within the depth limit. A deeper tree is refused for its depth, until its text nests deeper than
texts may nest at all.
-/

namespace Rulebook

namespace Json

mutual

def sorted : Json → Json
  | array items => array (sortedItems items)
  | object members => object (sortMembers (sortedMembers members))
  | json => json

def sortedItems : List Json → List Json
  | [] => []
  | item :: items => sorted item :: sortedItems items

def sortedMembers : List (String × Json) → List (String × Json)
  | [] => []
  | (key, value) :: members => (key, sorted value) :: sortedMembers members

end

def HasParts (json kind value left right : Json) : Prop :=
  json = .object [("type", kind), ("value", value), ("left", left), ("right", right)] ∨
    json = .object [("left", left), ("right", right), ("type", kind), ("value", value)]

/-- The value has the form of the expression, each node in one order or the other. -/
inductive Carries : Json → Expression → Prop
  | operand {json : Json} {text : String} :
      HasParts json (.text "operand") (.text text) .null .null → Carries json (.operand text)
  | binary {json left right : Json} {op : Operator} {l r : Expression} :
      HasParts json (.text "operator") (.text op.symbol) left right →
      Carries left l → Carries right r → Carries json (.binary op l r)

variable {json kind value left right : Json} {e : Expression}

theorem carries_toJson (e : Expression) : Carries e.toJson e := by
  induction e with
  | operand text => exact .operand (.inl rfl)
  | binary op l r ihl ihr => exact .binary (.inl rfl) ihl ihr

theorem sorted_parts (kind value left right : Json) :
    (object [("type", kind), ("value", value), ("left", left), ("right", right)]).sorted =
      .object [("left", left.sorted), ("right", right.sorted), ("type", kind.sorted),
        ("value", value.sorted)] := rfl

theorem carries_sorted (e : Expression) : Carries e.toJson.sorted e := by
  induction e with
  | operand text => exact .operand (.inr rfl)
  | binary op l r ihl ihr => exact .binary (.inr (sorted_parts ..)) ihl ihr

theorem Carries.not_null (h : Carries json e) : json.isNull = false := by
  cases h with
  | operand h => rcases h with rfl | rfl <;> rfl
  | binary h => rcases h with rfl | rfl <;> rfl

theorem HasParts.children_eq (h : HasParts json kind value left right) :
    children json =
      (if right.isNull then [] else [right]) ++ if left.isNull then [] else [left] := by
  rcases h with rfl | rfl <;> rfl

/-- A tree that does not end within the bound is found, and after any other the rest decides. -/
theorem anyExceeds_of_carries (h : Carries json e) (max depth : Nat)
    (pending : List (Json × Nat)) :
    anyExceeds max ((json, depth) :: pending) =
      (decide (max + 1 < depth + e.depth) || anyExceeds max pending) := by
  induction h generalizing depth pending with
  | @operand json text h =>
    rw [anyExceeds, h.children_eq]
    by_cases hd : max < depth
    · rw [if_pos hd, decide_eq_true (by simp only [Expression.depth]; omega), Bool.true_or]
    · rw [if_neg hd, decide_eq_false (by simp only [Expression.depth]; omega), Bool.false_or]
      rfl
  | @binary json left right op l r h hl hr ihl ihr =>
    rw [anyExceeds, h.children_eq, hl.not_null, hr.not_null]
    by_cases hd : max < depth
    · rw [if_pos hd, decide_eq_true (by simp only [Expression.depth]; omega), Bool.true_or]
    · rw [if_neg hd]
      change anyExceeds max ((right, depth + 1) :: (left, depth + 1) :: pending) = _
      rw [ihr, ihl, ← Bool.or_assoc, ← Bool.decide_or]
      congr 2
      simp only [Expression.depth, eq_iff_iff]
      omega

theorem exceedsDepth_of_carries (h : Carries json e) (max : Nat) :
    json.exceedsDepth max = decide (max < e.depth) := by
  rw [exceedsDepth, anyExceeds_of_carries h, anyExceeds, Bool.or_false]
  congr 1
  simp only [eq_iff_iff]
  omega

end Json

namespace Node

inductive Denotes : Node → Expression → Prop
  | operand {value : Option Json} {text : String} :
      operandText value = .ok text → Denotes (.node .operand value none none) (.operand text)
  | operator {value : Option Json} {op : Operator} {left right : Node} {l r : Expression} :
      operatorOf value = .ok op → Denotes left l → Denotes right r →
      Denotes (.node .operator value (some left) (some right)) (.binary op l r)

theorem toExpressionAt_of_lt {depth : Nat} (h : Expression.depthLimit < depth) (n : Node) :
    n.toExpressionAt depth = .error (.treeTooDeep Expression.depthLimit) := by
  cases n
  rw [toExpressionAt.eq_def]
  dsimp only
  rw [if_pos h]
  rfl

variable {n : Node} {e : Expression}

theorem Denotes.toExpressionAt (h : n.Denotes e) (depth : Nat) :
    n.toExpressionAt depth =
      if depth + e.depth ≤ Expression.depthLimit + 1 then .ok e
      else .error (.treeTooDeep Expression.depthLimit) := by
  induction h generalizing depth with
  | @operand value text hvalue =>
    have hdepth : (Expression.operand text).depth = 1 := rfl
    by_cases hd : Expression.depthLimit < depth
    · rw [toExpressionAt_of_lt hd, if_neg (by omega)]
    · rw [if_pos (by omega), Node.toExpressionAt, if_neg hd, hvalue]
      rfl
  | @operator value op left right l r hop _ _ ihl ihr =>
    have hdepth : (Expression.binary op l r).depth = 1 + max l.depth r.depth := rfl
    by_cases hd : Expression.depthLimit < depth
    · rw [toExpressionAt_of_lt hd, if_neg (by omega)]
    · rw [Node.toExpressionAt, if_neg hd, hop]
      simp only [ok_bind, ihl, ihr]
      refine (ite_bind_ite l r _ _).trans ?_
      exact if_congr (by omega) rfl rfl

theorem Denotes.toExpression (h : n.Denotes e) :
    n.toExpression =
      if e.depth ≤ Expression.depthLimit then .ok e
      else .error (.treeTooDeep Expression.depthLimit) := by
  rw [Node.toExpression, h.toExpressionAt]
  exact if_congr (by omega) rfl rfl

end Node

namespace Expression

def node : Expression → Node
  | operand text => .node .operand (some (.text text)) none none
  | binary op left right =>
    .node .operator (some (.text op.symbol)) (some left.node) (some right.node)

theorem ofJson?_of_carries {json : Json} {e : Expression} (h : json.Carries e) :
    Node.ofJson? json = some e.node := by
  induction h with
  | operand h =>
    rcases h with rfl | rfl <;> rfl
  | @binary json left right op l r h hl hr ihl ihr =>
    have hleft : Node.child left (Node.ofJson? left) = some (some l.node) := by
      rw [Node.child, hl.not_null, ihl]
      rfl
    have hright : Node.child right (Node.ofJson? right) = some (some r.node) := by
      rw [Node.child, hr.not_null, ihr]
      rfl
    have hvalue : (Json.text op.symbol).reread? = some (.text op.symbol) := rfl
    rcases h with rfl | rfl <;>
      simp [Node.ofJson?, Node.partsOfJson?, Node.Parts.toNode?, Node.present, Kind.ofJson?,
        Kind.ofName?, Json.isNull, hvalue, hleft, hright, node]

theorem operatorOf_symbol (op : Operator) : Node.operatorOf (some (.text op.symbol)) = .ok op := by
  rcases op with (_ | _) | (_ | _ | _) <;> rfl

theorem denotes_node (e : Expression) : e.node.Denotes e := by
  induction e with
  | operand text => exact .operand rfl
  | binary op left right ihl ihr => exact .operator (operatorOf_symbol op) ihl ihr

theorem toExpression_node (e : Expression) :
    e.node.toExpression =
      if e.depth ≤ depthLimit then .ok e else .error (.treeTooDeep depthLimit) := by
  exact (denotes_node e).toExpression

theorem ofJson_of_carries {json : Json} {e : Expression} (h : json.Carries e) :
    ofJson json = if e.depth ≤ depthLimit then .ok e else .error (.treeTooDeep depthLimit) := by
  rw [ofJson, Json.exceedsDepth_of_carries h, ofJson?_of_carries h]
  by_cases hd : e.depth ≤ depthLimit
  · rw [if_neg (by simpa using hd), if_pos hd]
    exact (toExpression_node e).trans (if_pos hd)
  · rw [if_pos (by simpa using hd), if_neg hd]
    rfl

section Text

open Json.Document (Spells spells_null spells_object spells_text string? string?_symbols toJsonWith
  toJsonWith_text toJson?_symbols membersToJsonWith membersToJsonWith_nil membersToJsonWith_cons
  embedded?_symbols)

def document : Expression → Json.Document
  | .operand text => .object
      [(Json.symbols "type", .text (Json.symbols "operand")),
        (Json.symbols "value", .text (Json.symbols text)),
        (Json.symbols "left", .null), (Json.symbols "right", .null)]
  | .binary op left right => .object
      [(Json.symbols "type", .text (Json.symbols "operator")),
        (Json.symbols "value", .text (Json.symbols op.symbol)),
        (Json.symbols "left", left.document), (Json.symbols "right", right.document)]

theorem spells_toJson (e : Expression) : Spells e.toJson e.document := by
  induction e with
  | operand text =>
    refine spells_object ?_
    exact .cons ⟨rfl, spells_text _⟩ (.cons ⟨rfl, spells_text _⟩
      (.cons ⟨rfl, spells_null⟩ (.cons ⟨rfl, spells_null⟩ .nil)))
  | binary op left right ihl ihr =>
    refine spells_object ?_
    exact .cons ⟨rfl, spells_text _⟩ (.cons ⟨rfl, spells_text _⟩
      (.cons ⟨rfl, ihl⟩ (.cons ⟨rfl, ihr⟩ .nil)))

theorem toJsonWith_operand (readText : String → Except JsonFault Json) (depth : Nat)
    (text : String) :
    toJsonWith readText (depth + 1) (document (.operand text)) =
      .ok (toJson (.operand text)).sorted := by
  rw [document, toJsonWith, embedded?_symbols (by decide)]
  simp only [membersToJsonWith_cons, membersToJsonWith_nil, toJsonWith_text]
  rw [toJsonWith]
  rfl

theorem toJsonWith_binary (readText : String → Except JsonFault Json) (depth : Nat)
    (op : Operator) (left right : Expression) :
    toJsonWith readText (depth + 1) (document (.binary op left right)) = (do
      let l ← toJsonWith readText depth left.document
      let r ← toJsonWith readText depth right.document
      return .object [("left", l), ("right", r), ("type", .text "operator"),
        ("value", .text op.symbol)]) := by
  rw [document, toJsonWith, embedded?_symbols (by decide)]
  simp only [membersToJsonWith_cons, membersToJsonWith_nil, toJsonWith_text, bind_assoc, ok_bind,
    pure_bind]
  rfl

/-- Within a limit on nesting a text is read as its tree's value, and beyond it not at all. -/
theorem toJsonWith_document (readText : String → Except JsonFault Json) (depth : Nat)
    (e : Expression) :
    toJsonWith readText depth e.document =
      if e.depth ≤ depth then .ok e.toJson.sorted else .error .syntactic := by
  induction e generalizing depth with
  | operand text =>
    have hdepth : (operand text).depth = 1 := rfl
    cases depth with
    | zero => rfl
    | succ depth => rw [toJsonWith_operand, if_pos (by omega)]
  | binary op left right ihl ihr =>
    have hdepth : (binary op left right).depth = 1 + max left.depth right.depth := rfl
    cases depth with
    | zero =>
      rw [if_neg (by omega)]
      rfl
    | succ depth =>
      rw [toJsonWith_binary, ihl, ihr, ite_bind_ite]
      exact if_congr (by omega) rfl rfl

theorem ofDocument?_parts (depth : Nat) {name : String} {kind : Kind}
    (hk : Kind.ofName? name = some kind) (text : String) (left right : Json.Document) :
    Node.ofDocument? (depth + 1) (.object
        [(Json.symbols "type", .text (Json.symbols name)),
          (Json.symbols "value", .text (Json.symbols text)),
          (Json.symbols "left", left), (Json.symbols "right", right)]) = (do
      let r ← Node.documentChild right (Node.ofDocument? depth right)
      let l ← Node.documentChild left (Node.ofDocument? depth left)
      return .node kind (some (.text text)) l r) := by
  rw [Node.ofDocument?]
  simp only [Node.partsOfDocument?, string?_symbols, Json.Document.name?, Option.pure_def,
    Option.bind_eq_bind, Option.bind_some, String.reduceEq, ↓reduceIte, Option.isSome_none,
    Bool.false_eq_true, toJson?_symbols, hk]
  cases Node.documentChild right (Node.ofDocument? depth right) with
  | none => rfl
  | some r =>
    cases Node.documentChild left (Node.ofDocument? depth left) with
    | none => rfl
    | some l => rfl

theorem documentChild_document (e : Expression) (node : Option Node) :
    Node.documentChild e.document node = node.map some := by
  cases e <;> rfl

theorem ofDocument?_document (depth : Nat) (e : Expression) :
    Node.ofDocument? depth e.document = if e.depth ≤ depth then some e.node else none := by
  induction e generalizing depth with
  | operand text =>
    have hdepth : (operand text).depth = 1 := rfl
    cases depth with
    | zero => rfl
    | succ depth =>
      rw [document, ofDocument?_parts depth rfl, if_pos (by omega)]
      rfl
  | binary op left right ihl ihr =>
    have hdepth : (binary op left right).depth = 1 + max left.depth right.depth := rfl
    cases depth with
    | zero =>
      rw [if_neg (by omega)]
      rfl
    | succ depth =>
      rw [document, ofDocument?_parts depth rfl, documentChild_document, documentChild_document,
        ihl, ihr]
      by_cases hr : right.depth ≤ depth
      · by_cases hl : left.depth ≤ depth
        · rw [if_pos hl, if_pos hr, if_pos (by omega)]
          rfl
        · rw [if_neg hl, if_pos hr, if_neg (by omega)]
          rfl
      · rw [if_neg hr, if_neg (show ¬ (binary op left right).depth ≤ _ by omega)]
        rfl

theorem scan_print (e : Expression) :
    Json.Document.scan (Json.symbols e.toJson.print) = .ok (e.document, []) :=
  Json.Document.scan_print (spells_toJson e)

theorem parse_print (e : Expression) :
    parse e.toJson.print =
      if e.depth ≤ Json.maxNesting then ofJson e.toJson.sorted else .error (.json .syntactic) := by
  have hjson : Json.parse e.toJson.print =
      if e.depth ≤ Json.maxNesting then .ok e.toJson.sorted else .error .syntactic := by
    rw [Json.parse, Json.parseWithin]
    simp only [scan_print, toJsonWith_document]
    split <;> rfl
  rw [parse, hjson]
  by_cases hd : e.depth ≤ Json.maxNesting
  · rw [if_pos hd, if_pos hd]
  · rw [if_neg hd, if_neg hd]
    rfl

theorem read_print (e : Expression) :
    read e.toJson.print =
      if e.depth ≤ Json.maxNesting then
        if e.depth ≤ depthLimit then .ok e else .error (.rejected (.treeTooDeep depthLimit))
      else .error .unreadable := by
  rw [read, scan_print]
  dsimp only
  rw [ofDocument?_document]
  by_cases hn : e.depth ≤ Json.maxNesting
  · rw [if_pos hn, if_pos hn]
    dsimp only
    rw [toExpression_node]
    by_cases hd : e.depth ≤ depthLimit
    · rw [if_pos hd, if_pos hd]
      rfl
    · rw [if_neg hd, if_neg hd]
      rfl
  · rw [if_neg hn, if_neg hn]
    rfl

end Text

/-- The value of a tree, its text, and the text read directly all come back as the tree. -/
def ReadsBack (e : Expression) : Prop :=
  ofJson e.toJson = .ok e ∧ ofJson e.toJson.sorted = .ok e ∧
    parse e.toJson.print = .ok e ∧ read e.toJson.print = .ok e

/-- The text is read as a value and as a node under just the limits that its nesting does not
exceed. -/
def NestsTo (text : String) (nesting : Nat) : Prop :=
  ∃ document, Json.Document.scan (Json.symbols text) = .ok (document, []) ∧
    ∀ limit, ((document.toJson? limit).isSome ↔ nesting ≤ limit) ∧
      ((Node.ofDocument? limit document).isSome ↔ nesting ≤ limit)

theorem nestsTo_depth (e : Expression) : NestsTo e.toJson.print e.depth := by
  refine ⟨e.document, scan_print e, fun limit => ?_⟩
  rw [Json.Document.toJson?, toJsonWith_document, ofDocument?_document]
  by_cases hd : e.depth ≤ limit
  · simp [hd, Except.toOption]
  · simp [hd, Except.toOption]

theorem readsBack_of_depth {e : Expression} (h : e.depth ≤ 100) : e.ReadsBack := by
  have hd : e.depth ≤ depthLimit := h
  have hn : e.depth ≤ Json.maxNesting := Nat.le_trans h (by decide)
  have hjson {json : Json} (hc : json.Carries e) : ofJson json = .ok e :=
    (ofJson_of_carries hc).trans (if_pos hd)
  refine ⟨hjson (Json.carries_toJson e), hjson (Json.carries_sorted e), ?_, ?_⟩
  · rw [parse_print, if_pos hn, hjson (Json.carries_sorted e)]
  · rw [read_print, if_pos hn, if_pos hd]

/-- A tree comes back from JSON within the depth limit, and is refused for its depth beyond it. -/
theorem json_round_trip :
    (∀ e : Expression, e.depth ≤ 100 → e.ReadsBack) ∧
    (∀ e : Expression, 100 < e.depth →
      ofJson e.toJson = .error (.treeTooDeep 100) ∧
      ofJson e.toJson.sorted = .error (.treeTooDeep 100) ∧
      (e.depth ≤ 127 → parse e.toJson.print = .error (.treeTooDeep 100) ∧
        read e.toJson.print = .error (.rejected (.treeTooDeep 100))) ∧
      (127 < e.depth → parse e.toJson.print = .error (.json .syntactic) ∧
        read e.toJson.print = .error .unreadable)) ∧
    (∀ e : Expression, NestsTo e.toJson.print e.depth) ∧
    ∀ (c : Compiler) (r : Rule), ((∃ rule, c.compile rule = .ok r) ∨
      ∃ op rules, c.combine op rules = .ok r) → r.root.ReadsBack := by
  refine ⟨fun e => readsBack_of_depth, ?_, nestsTo_depth, ?_⟩
  · intro e h
    have hd : ¬ e.depth ≤ depthLimit := Nat.not_le_of_lt h
    have hjson {json : Json} (hc : json.Carries e) : ofJson json = .error (.treeTooDeep 100) :=
      (ofJson_of_carries hc).trans (if_neg hd)
    refine ⟨hjson (Json.carries_toJson e), hjson (Json.carries_sorted e), ?_, ?_⟩
    · intro hn
      have hn : e.depth ≤ Json.maxNesting := hn
      rw [parse_print, read_print, if_pos hn, if_pos hn, if_neg hd]
      exact ⟨hjson (Json.carries_sorted e), rfl⟩
    · intro hn
      have hn : ¬ e.depth ≤ Json.maxNesting := Nat.not_le_of_lt hn
      rw [parse_print, read_print, if_neg hn, if_neg hn]
      exact ⟨rfl, rfl⟩
  · rintro c r (⟨rule, h⟩ | ⟨op, rules, h⟩)
    · exact readsBack_of_depth (Compiler.admits_of_compile h).isWritten.1
    · exact readsBack_of_depth (Compiler.admits_of_combine h).isWritten.1

def chain (text : String) : Nat → Expression
  | 0 => operand text
  | n + 1 => binary (.connective .and) (chain text n) (operand text)

theorem depth_chain (text : String) (n : Nat) : (chain text n).depth = n + 1 := by
  induction n with
  | zero => rfl
  | succ n ih =>
    have hdepth : (chain text (n + 1)).depth = 1 + max (chain text n).depth 1 := rfl
    omega

theorem json_round_trip_chain :
    let e := chain "\"OR\x00é"
    (e 99).depth = 100 ∧ (e 99).ReadsBack ∧
    (e 100).depth = 101 ∧ ofJson (e 100).toJson.sorted = .error (.treeTooDeep 100) ∧
    (e 126).depth = 127 ∧ read (e 126).toJson.print = .error (.rejected (.treeTooDeep 100)) ∧
    (e 127).depth = 128 ∧ parse (e 127).toJson.print = .error (.json .syntactic) := by
  intro e
  obtain ⟨back, deep, -, -⟩ := json_round_trip
  have hdepth (n : Nat) : (e n).depth = n + 1 := depth_chain _ n
  have h₁ := hdepth 99
  have h₂ := hdepth 100
  have h₃ := hdepth 126
  have h₄ := hdepth 127
  exact ⟨h₁, back _ (by omega), h₂, (deep _ (by omega)).2.1, h₃,
    ((deep _ (by omega)).2.2.1 (by omega)).2, h₄, ((deep _ (by omega)).2.2.2 (by omega)).1⟩

end Expression

end Rulebook
