import Rulebook.Proofs.Node.Verdict
import Rulebook.Proofs.Numeral.Writing
import Rulebook.Rule.Evaluation

/-! # Numbers as operands

A number in the place of an operand is kept as the text that JSON writes for it, which is not
looked at again before the leaf is evaluated. Nothing is lost on the way: the text is a literal of
the double that the number stands for.
-/

namespace Rulebook

namespace Json

variable {json : Json} {e : Expression}

theorem toList_print_number (n : Json.Number) : (Json.number n).print.toList = n.write := by
  rw [print, write, List.append_nil, String.toList_ofList]

theorem literal?_print (n : Json.Number) :
    Numeral.literal? (Json.number n).print = some n.toBinary64 := by
  apply Numeral.literal?_of_denotes
  rw [toList_print_number]
  exact Numeral.denotes_write n

def operandContents (json : Json) : List Json :=
  (((json.preorder 1).map (·.2)).filter (·.kind? = some .operand)).map content

theorem operandContents_eq (json : Json) :
    json.operandContents = (if json.kind? = some .operand then [json.content] else []) ++
      ((json.part? .left).elim [] operandContents ++
        (json.part? .right).elim [] operandContents) := by
  have hpart (field : Field) : ((((json.part? field).elim [] (preorder 2)).map (·.2)).filter
      (·.kind? = some .operand)).map content = (json.part? field).elim [] operandContents := by
    cases json.part? field with
    | none => rfl
    | some child =>
      rw [Option.elim_some, Option.elim_some, map_snd_preorder 2 1]
      rfl
  rw [operandContents, preorder_eq, List.map_cons, List.map_append, List.filter_cons]
  simp only [List.filter_append, decide_eq_true_eq]
  split <;> simp [hpart]

/-- The leaves of a tree are the texts of what stands in the operands, one by one. -/
theorem HasTree.forall₂_operands (h : json.HasTree e) :
    List.Forall₂ (fun content text => content.operandText? = some text)
      json.operandContents e.operands := by
  induction h with
  | operand hkind hl hr htext =>
    rw [operandContents_eq, if_pos hkind, hl, hr]
    exact .cons htext .nil
  | operator hkind hop hl hr _ _ ihl ihr =>
    rw [operandContents_eq, hkind, if_neg (by decide), hl, hr]
    exact List.rel_append ihl ihr

end Json

namespace Expression

variable {json : Json} {e : Expression}

theorem hasTree_of_ofJson (hd : json.NodesDistinct) (h : ofJson json = .ok e) : json.HasTree e := by
  cases hnode : Node.ofJson? json with
  | none => exact absurd h (ofJson_ne_ok hnode e)
  | some node =>
    have hverdict : json.Verdict 1 (node.toExpressionAt 1) :=
      Node.verdict_toExpressionAt hd hnode
    have hread : node.toExpressionAt 1 = .ok e := (ofJson_eq_ok_iff hnode e).mp h
    rw [hread] at hverdict
    exact hverdict.1

theorem ofJson_operand {text : String} (hd : json.NodesDistinct) (hshape : json.IsShaped)
    (hkind : json.kind? = some .operand) (hl : json.part? .left = none)
    (hr : json.part? .right = none) (htext : json.content.operandText? = some text) :
    ofJson json = .ok (.operand text) := by
  have hevery : json.Everywhere Json.IsShaped := by
    rw [Json.everywhere_iff, hl, hr]
    exact ⟨hshape, nofun, nofun⟩
  obtain ⟨node, hnode⟩ := Option.isSome_iff_exists.mp ((Node.isSome_ofJson?_iff hd).mpr hevery)
  obtain ⟨kind, left, right, rfl, hkind', hleft, hright⟩ :=
    Node.exists_parts_of_ofJson? (Json.everywhere_iff.mp hd).1 hnode
  rw [hkind] at hkind'
  rw [hl] at hleft
  rw [hr] at hright
  cases hkind'
  cases hleft
  cases hright
  have hvalue : Node.operandText (Node.present json.content) = .ok text := by
    rw [Node.operandText_present, htext]
  have hdenotes : json.Denotes (.operand text) := ⟨_, hnode, .operand hvalue⟩
  rw [ofJson_of_denotes hdenotes]
  exact if_pos (show 1 ≤ 100 by decide)

end Expression

namespace Operand

/-- The text looks for no field and has the value of a field with the number. -/
structure StandsFor (text : String) (n : Json.Number) : Prop where
  fieldName : fieldName? text = none
  resolve : ∀ record : Record, resolve record text = .number n.toBinary64
  field : ∀ (record : Record) (name : String), Numeral.literal? name = none →
    record.field? (stripQuotes name) = some (.number n) → value record name = value record text

theorem standsFor_of_literal? {text : String} {n : Json.Number}
    (h : Numeral.literal? text = some n.toBinary64) : StandsFor text n := by
  have hresolve (record : Record) : resolve record text = .number n.toBinary64 := by
    rw [resolve, h]
  refine ⟨?_, hresolve, fun record name hname hfield => ?_⟩
  · rw [fieldName?, h]
  · rw [value, value, hresolve, resolve, hname]
    dsimp only
    rw [hfield]
    rfl

/-- A number in an operand becomes a leaf with its text, which stands for the number. -/
theorem number_keeps_value (n : Json.Number) :
    StandsFor (Json.number n).print n ∧
    (∀ json : Json, json.NodesDistinct → json.IsShaped → json.kind? = some .operand →
      json.part? .left = none → json.part? .right = none → json.content = .number n →
      Expression.ofJson json = .ok (.operand (Json.number n).print)) ∧
    (∀ (json : Json) (e : Expression), json.NodesDistinct → Expression.ofJson json = .ok e →
      json.operandContents.length = e.operands.length ∧
      ∀ i : Nat, json.operandContents[i]? = some (Json.number n) →
        e.operands[i]? = some (Json.number n).print) ∧
    ∀ depth ≤ 100,
      (Node.node .operand (some (Json.number n)) none none).toExpressionAt depth =
        .ok (.operand (Json.number n).print) := by
  refine ⟨standsFor_of_literal? (Json.literal?_print n), ?_, ?_, ?_⟩
  · intro json hd hshape hkind hl hr hcontent
    exact Expression.ofJson_operand hd hshape hkind hl hr (congrArg Json.operandText? hcontent)
  · intro json e hd he
    obtain ⟨hlength, htexts⟩ :=
      List.forall₂_iff_get.mp (Expression.hasTree_of_ofJson hd he).forall₂_operands
    refine ⟨hlength, fun i hi => ?_⟩
    obtain ⟨hlt, hget⟩ := List.getElem?_eq_some_iff.mp hi
    have htext := htexts i hlt (hlength ▸ hlt)
    rw [List.get_eq_getElem, List.get_eq_getElem, hget] at htext
    rw [List.getElem?_eq_getElem (hlength ▸ hlt)]
    exact htext.symm
  · intro depth hd
    rw [Node.toExpressionAt_operand (Nat.not_lt.mpr hd)]
    rfl

def largeNumber : Json.Number := .integer 18446744073709551615

def negativeZero : Json.Number := .double ⟨.signed true .zero, rfl⟩

def comparedNumbers : Json :=
  .object [("left", .object [("type", .text "operand"), ("value", .number largeNumber)]),
    ("right", .array [.text "operand", .number negativeZero]),
    ("type", .text "operator"), ("value", .text "==")]

theorem preorder_comparedNumbers : comparedNumbers.preorder 1 =
    [(1, comparedNumbers),
      (2, .object [("type", .text "operand"), ("value", .number largeNumber)]),
      (2, .array [.text "operand", .number negativeZero])] := by
  simp [comparedNumbers, Json.preorder_eq, Json.part?, Json.field?, Json.Field.name,
    Json.Field.place, Json.lookup, Json.isNull, Option.filter]

theorem number_keeps_value_compared :
    let e : Expression :=
      .binary (.relation .equal) (.operand "18446744073709551615") (.operand "-0.0")
    comparedNumbers.NodesDistinct ∧ Expression.ofJson comparedNumbers = .ok e ∧
      comparedNumbers.operandContents = [.number largeNumber, .number negativeZero] ∧
      e.operands[1]? = some (Json.number negativeZero).print ∧
      StandsFor "18446744073709551615" largeNumber ∧ StandsFor "-0.0" negativeZero ∧
      largeNumber.toBinary64 = .ofInt (2 ^ 64) ∧ negativeZero.toBinary64 = .signed true .zero := by
  intro e
  have hdistinct : comparedNumbers.NodesDistinct := by
    rw [Json.NodesDistinct, Json.Everywhere, preorder_comparedNumbers]
    decide
  have hcontents : comparedNumbers.operandContents =
      [.number largeNumber, .number negativeZero] := by
    rw [Json.operandContents, preorder_comparedNumbers]
    rfl
  have hlarge : (Json.number largeNumber).print = "18446744073709551615" := by decide
  have hzero : (Json.number negativeZero).print = "-0.0" := by decide
  have hnode : Node.ofJson? comparedNumbers = some (.node .operator (some (.text "=="))
      (some (.node .operand (some (.number largeNumber)) none none))
      (some (.node .operand (some (.number negativeZero)) none none))) := by rfl
  have hread : Expression.ofJson comparedNumbers = .ok e :=
    (Expression.ofJson_eq_ok_iff hnode e).mpr rfl
  obtain ⟨hstands, -⟩ := number_keeps_value largeNumber
  obtain ⟨hstands', -, htree, -⟩ := number_keeps_value negativeZero
  rw [hlarge] at hstands
  have hsecond := (htree comparedNumbers e hdistinct hread).2 1 (by rw [hcontents]; rfl)
  refine ⟨hdistinct, hread, hcontents, hsecond, hstands, hzero ▸ hstands', ?_, rfl⟩
  decide +kernel

end Operand

end Rulebook
