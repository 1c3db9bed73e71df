import Rulebook.Proofs.Numeral.Prefixes
import Rulebook.Proofs.Refusal

/-! # Normal values

Whatever an expression evaluates to is in normal form: a scalar of a record is a value of its own
kind and not data, and no number is NaN, however it was written. So a comparison is refused only
for the kind of a side, or for a text that begins with no number.
-/

namespace Rulebook

theorem Json.Number.exists_signed (n : Json.Number) : ∃ s m, n.toBinary64 = .signed s m := by
  cases n with
  | integer n => exact ⟨_, _, rfl⟩
  | double x =>
    obtain ⟨x, hx⟩ := x
    cases x with
    | nan => cases hx
    | signed s m => exact ⟨s, m, rfl⟩

namespace Value

variable {x y v : Value}

/-- No number is NaN, and data is `null`, an array or an object. -/
inductive IsNormal : Value → Prop
  | bool (b : Bool) : IsNormal (.bool b)
  | number (negative : Bool) (m : Magnitude) : IsNormal (.number (.signed negative m))
  | text (t : String) : IsNormal (.text t)
  | null : IsNormal (.data .null)
  | array (items : List Json) : IsNormal (.data (.array items))
  | object (members : List (String × Json)) : IsNormal (.data (.object members))

/-- A truth value, data, or a text that begins with no number. -/
inductive IsIncomparable : Value → Prop
  | bool (b : Bool) : IsIncomparable (.bool b)
  | data (json : Json) : IsIncomparable (.data json)
  | text {t : String} :
      (¬ ∃ p x, p <+: Text.dropBlanks t.toList ∧ Numeral.Denotes p x) → IsIncomparable (.text t)

theorem isNormal_ofJson (json : Json) : (ofJson json).IsNormal := by
  cases json with
  | null => exact .null
  | bool b => exact .bool b
  | number n =>
    obtain ⟨s, m, hn⟩ := n.exists_signed
    rw [ofJson, hn]
    exact .number s m
  | text t => exact .text t
  | array items => exact .array items
  | object members => exact .object members

theorem IsNormal.toNumber?_eq_none_iff (h : x.IsNormal) :
    x.toNumber? = none ↔ x.IsIncomparable := by
  cases h with
  | bool b => exact iff_of_true rfl (.bool b)
  | number s m => exact iff_of_false nofun nofun
  | text t =>
    rw [toNumber?, Numeral.leading?_eq_none_iff]
    constructor
    · exact .text
    · rintro ⟨⟩
      assumption
  | null | array _ | object _ => exact iff_of_true rfl (.data _)

end Value

theorem Operand.isNormal_value (record : Record) (text : String) :
    (value record text).IsNormal := by
  rw [value, resolve]
  cases hliteral : Numeral.literal? text with
  | some x =>
    obtain ⟨s, m, rfl⟩ := Numeral.signed_of_literal hliteral
    exact .number s m
  | none =>
    dsimp only
    cases record.field? (stripQuotes text) with
    | some json => exact Value.isNormal_ofJson json
    | none => exact .text _

theorem Operator.isNormal_of_apply {op : Operator} {x y v : Value} (h : op.apply x y = .ok v) :
    v.IsNormal := by
  obtain ⟨b, rfl⟩ := Operator.eq_bool_of_apply h
  exact .bool b

theorem Relation.refuses_iff {r : Relation} {x y : Value} (hx : x.IsNormal) (hy : y.IsNormal) :
    r.Refuses x y ↔ (x.IsIncomparable ∨ y.IsIncomparable) ∧
      ¬ (r = .equal ∧ ∃ s t, x = .text s ∧ y = .text t) := by
  rw [Refuses, hx.toNumber?_eq_none_iff, hy.toNumber?_eq_none_iff]

namespace Expression

variable {record : Record} {e left right : Expression} {r : Relation} {x y v : Value}

theorem isNormal_of_evaluate (h : e.evaluate record = .ok v) : v.IsNormal := by
  cases e with
  | operand text =>
    cases h
    exact Operand.isNormal_value record text
  | binary op left right =>
    obtain ⟨x, y, -, -, happly⟩ := evaluate_binary_eq_ok_iff.mp h
    exact Operator.isNormal_of_apply happly

theorem exists_fault_iff (hx : left.evaluate record = .ok x) (hy : right.evaluate record = .ok y) :
    (∃ fault, (binary (.relation r) left right).evaluate record = .error fault) ↔
      r.Refuses x y := by
  have happly : (binary (.relation r) left right).evaluate record = r.apply x y := by
    rw [evaluate, hx, ok_bind, hy, ok_bind]
    rfl
  simp only [happly, Relation.apply_eq_error_iff, exists_and_left, exists_eq, and_true]

/-- Every node has a normal value if any, and comparisons refuse just incomparable ones. -/
theorem values_are_normal (e : Expression) (record : Record) :
    (∀ node ∈ e.nodes, ∀ v, node.evaluate record = .ok v →
      v.IsNormal ∧ (¬ node.isOperand → ∃ b, v = .bool b)) ∧
    ∀ r left right x y, binary (.relation r) left right ∈ e.nodes →
      left.evaluate record = .ok x → right.evaluate record = .ok y →
      ((∃ fault, (binary (.relation r) left right).evaluate record = .error fault) ↔
        (x.IsIncomparable ∨ y.IsIncomparable) ∧
          ¬ (r = .equal ∧ ∃ s t, x = .text s ∧ y = .text t)) := by
  constructor
  · intro node _ v hv
    exact ⟨isNormal_of_evaluate hv, fun hbinary => eq_bool_of_evaluate hbinary hv⟩
  · intro r left right x y _ hx hy
    rw [exists_fault_iff hx hy]
    exact Relation.refuses_iff (isNormal_of_evaluate hx) (isNormal_of_evaluate hy)

theorem values_are_normal_overflow :
    let record : Record := ⟨[("tags", .array [])]⟩
    let below (text : String) := binary (.relation .less) (operand "-1e999") (operand text)
    let e := binary (.connective .or) (below "1") (below "tags")
    (operand "-1e999" ∈ e.nodes ∧ (Value.number (.infinity true)).IsNormal) ∧
    (below "1" ∈ e.nodes ∧ ∃ v, (below "1").evaluate record = .ok v ∧ ∃ b, v = .bool b) ∧
    below "tags" ∈ e.nodes ∧ ∃ fault, (below "tags").evaluate record = .error fault := by
  intro record below e
  obtain ⟨hnormal, hrefused⟩ := values_are_normal e record
  have hnumber : (operand "-1e999").evaluate record = .ok (.number (.infinity true)) := rfl
  have hdata : (operand "tags").evaluate record = .ok (.data (.array [])) := rfl
  have hbelow : (below "1").evaluate record = .ok (.bool true) := rfl
  have hleaf : operand "-1e999" ∈ e.nodes := by decide
  have hone : below "1" ∈ e.nodes := by decide
  have htags : below "tags" ∈ e.nodes := by decide
  refine ⟨⟨hleaf, (hnormal _ hleaf _ hnumber).1⟩,
    ⟨hone, _, hbelow, (hnormal _ hone _ hbelow).2 (by decide)⟩, htags, ?_⟩
  exact (hrefused _ _ _ _ _ htags hnumber hdata).mpr ⟨.inr (.data _), fun h => nomatch h.1⟩

end Expression

end Rulebook
