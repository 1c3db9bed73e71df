import Mathlib.Data.String.Basic
import Rulebook.Proofs.Dependence

/-! # Which rules have a value

An operator yields a truth value, and relations refuse truth values. So no record gives a value to
a tree that compares what an operator yields. Any other tree has a value on the record that holds
a number under every name that its leaves look for.
-/

namespace Rulebook

namespace Json

variable {key name : String} {value : Json} {members : List (String × Json)}

def KeysSorted (members : List (String × Json)) : Prop :=
  members.Pairwise (·.1 < ·.1)

theorem keysSorted_insertMember (h : KeysSorted members) :
    KeysSorted (insertMember key value members) := by
  induction members with
  | nil => exact List.pairwise_singleton _ _
  | cons member members ih =>
    obtain ⟨hfirst, hrest⟩ := List.pairwise_cons.mp h
    rw [insertMember]
    split
    · next hlt =>
      refine List.pairwise_cons.mpr ⟨fun m hm => ?_, h⟩
      rcases List.mem_cons.mp hm with rfl | hm
      · exact hlt
      · exact hlt.trans (hfirst m hm)
    · next hlt =>
      split
      · next heq => exact List.pairwise_cons.mpr ⟨fun m hm => heq ▸ hfirst m hm, hrest⟩
      · next hne =>
        refine List.pairwise_cons.mpr ⟨fun m hm => ?_, ih hrest⟩
        rcases mem_insertMember hm with rfl | hm
        · exact lt_of_le_of_ne (not_lt.mp hlt) (Ne.symm hne)
        · exact hfirst m hm

def uniform (value : Json) (keys : List String) : List (String × Json) :=
  keys.foldr (fun key members => insertMember key value members) []

theorem keysSorted_uniform (value : Json) (keys : List String) :
    KeysSorted (uniform value keys) := by
  induction keys with
  | nil => exact List.Pairwise.nil
  | cons key keys ih => exact keysSorted_insertMember ih

theorem lookup_uniform {keys : List String} (h : name ∈ keys) :
    lookup name (uniform value keys) = some value := by
  induction keys with
  | nil => cases h
  | cons key keys ih =>
    change lookup name (insertMember key value (uniform value keys)) = _
    rw [lookup_insertMember]
    by_cases hkey : key = name
    · rw [if_pos hkey]
    · rw [if_neg hkey]
      exact ih ((List.mem_cons.mp h).resolve_left (Ne.symm hkey))

end Json

/-- The members of the record are sorted by name, each name occurring once. -/
def Record.IsSorted (record : Record) : Prop := Json.KeysSorted record.members

section Operators

variable {op : Operator} {x y v : Value}

theorem Operator.eq_bool_of_apply (h : op.apply x y = .ok v) : ∃ b, v = .bool b := by
  rcases op with (_ | _) | r
  · cases h
    exact ⟨_, rfl⟩
  · cases h
    exact ⟨_, rfl⟩
  · change r.apply x y = .ok v at h
    unfold Relation.apply Relation.compareNumbers at h
    split at h
    · cases h
      exact ⟨_, rfl⟩
    · split at h
      · cases h
        exact ⟨_, rfl⟩
      · cases h

theorem Relation.apply_bool_left (r : Relation) (b : Bool) (y : Value) :
    r.apply (.bool b) y = .error (.invalidComparison (Value.bool b).display y.display) := by
  cases r <;> rfl

theorem Relation.apply_bool_right (r : Relation) (x : Value) (b : Bool) :
    r.apply x (.bool b) = .error (.invalidComparison x.display (Value.bool b).display) := by
  have hnumbers : r.apply x (.bool b) = r.compareNumbers x (.bool b) := by
    cases r <;> cases x <;> rfl
  rw [hnumbers, Relation.compareNumbers]
  cases x.toNumber? <;> rfl

theorem Relation.apply_signed (r : Relation) (s t : Bool) (m n : Magnitude) :
    r.apply (.number (.signed s m)) (.number (.signed t n)) =
      .ok (.bool (r.holds (.signed s m) (.signed t n))) := by
  cases r <;> rfl

end Operators

theorem Numeral.signed_of_literal {text : String} {x : Binary64} (h : literal? text = some x) :
    ∃ s m, x = .signed s m := by
  unfold literal? at h
  dsimp only at h
  split at h
  · cases h
    exact ⟨_, _, rfl⟩
  · split at h
    · cases h
      exact ⟨_, _, rfl⟩
    · split at h
      · next hscan =>
        cases h
        rw [scan] at hscan
        obtain ⟨⟨m, rest⟩, -, hx⟩ := Option.map_eq_some_iff.mp hscan
        exact ⟨_, m, (Prod.mk.inj hx).1.symm⟩
      · cases h

theorem Operand.value_of_field {record : Record} {text : String} {n : Int}
    (h : record.field? (stripQuotes text) = some (.integer n)) :
    ∃ s m, value record text = .number (.signed s m) := by
  rw [value, resolve]
  cases hliteral : Numeral.literal? text with
  | some x =>
    obtain ⟨s, m, rfl⟩ := Numeral.signed_of_literal hliteral
    exact ⟨s, m, rfl⟩
  | none =>
    simp only [h]
    exact ⟨_, _, rfl⟩

namespace Expression

variable {record : Record} {op : Operator} {left right e : Expression} {v : Value}

/-- All nodes of a tree, each after those below it. -/
def nodes : Expression → List Expression
  | e@(operand _) => [e]
  | e@(binary _ left right) => left.nodes ++ right.nodes ++ [e]

/-- Relations stand between leaves only. -/
def ComparesLeaves (e : Expression) : Prop :=
  ∀ r left right, binary (.relation r) left right ∈ e.nodes → left.isOperand ∧ right.isOperand

theorem comparesLeaves_operand (text : String) : (operand text).ComparesLeaves := by
  intro r left right h
  exact nomatch List.mem_singleton.mp h

theorem comparesLeaves_binary_iff :
    (binary op left right).ComparesLeaves ↔
      left.ComparesLeaves ∧ right.ComparesLeaves ∧
        ∀ r, op = .relation r → left.isOperand ∧ right.isOperand := by
  simp only [ComparesLeaves, nodes, List.mem_append, List.mem_singleton]
  constructor
  · intro h
    exact ⟨fun r a b hm => h r a b (.inl (.inl hm)), fun r a b hm => h r a b (.inl (.inr hm)),
      fun r hop => h r left right (.inr (hop ▸ rfl))⟩
  · rintro ⟨hl, hr, hself⟩ r a b ((hm | hm) | hm)
    · exact hl r a b hm
    · exact hr r a b hm
    · obtain ⟨hop, rfl, rfl⟩ := binary.inj hm
      exact hself r hop.symm

theorem eq_bool_of_evaluate (hbinary : ¬ e.isOperand) (h : e.evaluate record = .ok v) :
    ∃ b, v = .bool b := by
  cases e with
  | operand text => exact absurd rfl hbinary
  | binary op left right =>
    obtain ⟨x, y, -, -, happly⟩ := evaluate_binary_eq_ok_iff.mp h
    exact Operator.eq_bool_of_apply happly

theorem comparesLeaves_of_evaluate (h : e.evaluate record = .ok v) : e.ComparesLeaves := by
  induction e generalizing v with
  | operand text => exact comparesLeaves_operand text
  | binary op left right ihl ihr =>
    obtain ⟨x, y, hx, hy, happly⟩ := evaluate_binary_eq_ok_iff.mp h
    refine comparesLeaves_binary_iff.mpr ⟨ihl hx, ihr hy, ?_⟩
    -- A side that is no leaf has a truth value, which no relation takes.
    rintro r rfl
    change r.apply x y = .ok v at happly
    constructor
    · by_contra hleft
      obtain ⟨b, rfl⟩ := eq_bool_of_evaluate hleft hx
      rw [r.apply_bool_left] at happly
      exact nomatch happly
    · by_contra hright
      obtain ⟨b, rfl⟩ := eq_bool_of_evaluate hright hy
      rw [r.apply_bool_right] at happly
      exact nomatch happly

/-- Where all leaves are numbers, relations between leaves never refuse. -/
theorem exists_evaluate (h : e.ComparesLeaves)
    (hnumber : ∀ text ∈ e.operands, ∃ s m, Operand.value record text = .number (.signed s m)) :
    ∃ v, e.evaluate record = .ok v := by
  induction e with
  | operand text => exact ⟨_, rfl⟩
  | binary op left right ihl ihr =>
    obtain ⟨hl, hr, hself⟩ := comparesLeaves_binary_iff.mp h
    have hleft : ∀ text ∈ left.operands, ∃ s m, Operand.value record text = .number (.signed s m) :=
      fun text ht => hnumber text (List.mem_append_left _ ht)
    have hright : ∀ text ∈ right.operands, ∃ s m,
        Operand.value record text = .number (.signed s m) :=
      fun text ht => hnumber text (List.mem_append_right _ ht)
    obtain ⟨x, hx⟩ := ihl hl hleft
    obtain ⟨y, hy⟩ := ihr hr hright
    cases op with
    | connective c => exact ⟨_, evaluate_binary_eq_ok_iff.mpr ⟨x, y, hx, hy, rfl⟩⟩
    | relation r =>
      obtain ⟨hlleaf, hrleaf⟩ := hself r rfl
      cases left with
      | binary _ _ _ => exact nomatch hlleaf
      | operand a =>
        cases right with
        | binary _ _ _ => exact nomatch hrleaf
        | operand b =>
          obtain ⟨s, m, ha⟩ := hleft a (List.mem_singleton_self a)
          obtain ⟨t, n, hb⟩ := hright b (List.mem_singleton_self b)
          have happly : (Operator.relation r).apply (Operand.value record a)
              (Operand.value record b) = .ok (.bool (r.holds (.signed s m) (.signed t n))) := by
            rw [ha, hb]
            exact r.apply_signed s t m n
          exact ⟨_, evaluate_binary_eq_ok_iff.mpr ⟨_, _, rfl, rfl, happly⟩⟩

def numberRecord (e : Expression) : Record :=
  ⟨Json.uniform (.integer 0) (e.operands.map Operand.stripQuotes)⟩

theorem value_numberRecord {text : String} (h : text ∈ e.operands) :
    ∃ s m, Operand.value e.numberRecord text = .number (.signed s m) :=
  Operand.value_of_field (Json.lookup_uniform (List.mem_map_of_mem h))

/-- Some record gives a tree a value just if relations stand between leaves only. -/
theorem exists_value_iff_comparesLeaves (e : Expression) :
    ((∃ record : Record, record.IsSorted ∧ ∃ v, e.evaluate record = .ok v) ↔ e.ComparesLeaves) ∧
    ((∀ record, ∃ fault, e.evaluate record = .error fault) ↔ ¬ e.ComparesLeaves) := by
  have hvalue (h : e.ComparesLeaves) : ∃ v, e.evaluate e.numberRecord = .ok v :=
    exists_evaluate h fun text => value_numberRecord
  refine ⟨⟨?_, fun h => ?_⟩, fun hfault h => ?_, fun h record => ?_⟩
  · rintro ⟨record, -, v, hv⟩
    exact comparesLeaves_of_evaluate hv
  · exact ⟨e.numberRecord, Json.keysSorted_uniform _ _, hvalue h⟩
  · obtain ⟨v, hv⟩ := hvalue h
    obtain ⟨fault, hfault⟩ := hfault e.numberRecord
    exact nomatch hv.symm.trans hfault
  · cases hv : e.evaluate record with
    | ok v => exact absurd (comparesLeaves_of_evaluate hv) h
    | error fault => exact ⟨fault, rfl⟩

end Expression

end Rulebook
