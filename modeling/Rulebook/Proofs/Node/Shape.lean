import Rulebook.Proofs.Nodes
import Rulebook.Rule.Ingest

/-! # The shape of nodes

A value that may be a node has up to four fields, by name if it is an object and by place if it is
an array. A value is read as a node just if it has the shape of one and so has every value below it
that stands for a child.
-/

namespace Rulebook

namespace Json

inductive Field
  | type
  | value
  | left
  | right
deriving DecidableEq

namespace Field

def name : Field → String
  | type => "type"
  | value => "value"
  | left => "left"
  | right => "right"

def place : Field → Nat
  | type => 0
  | value => 1
  | left => 2
  | right => 3

end Field

def field? (field : Field) : Json → Option Json
  | object members => lookup field.name members
  | array items => items[field.place]?
  | _ => none

def part? (json : Json) (field : Field) : Option Json := (json.field? field).filter (!·.isNull)

def holdsFields : Json → Bool
  | object _ => true
  | array items => items.length ≤ 4
  | _ => false

def kind? (json : Json) : Option Kind := (json.field? .type).bind Kind.ofJson?

/-- The value says which kind of node it is, and no text in its `value` is broken. -/
structure IsShaped (json : Json) : Prop where
  holdsFields : json.holdsFields
  kind : json.kind?.isSome
  value : ∀ value, json.field? .value = some value → value.reread?.isSome

def keys : Json → List String
  | object members => members.map (·.1)
  | _ => []

section Weight

variable {json child : Json} {field : Field}

theorem weight_le_weightItems {items : List Json} (h : json ∈ items) :
    weight json ≤ weightItems items := by
  induction items with
  | nil => cases h
  | cons item items ih =>
    rw [weightItems]
    rcases List.mem_cons.mp h with rfl | h
    · omega
    · have := ih h
      omega

theorem weight_le_weightMembers {member : String × Json} {members : List (String × Json)}
    (h : member ∈ members) : weight member.2 ≤ weightMembers members := by
  induction members with
  | nil => cases h
  | cons other members ih =>
    rw [weightMembers]
    rcases List.mem_cons.mp h with rfl | h
    · omega
    · have := ih h
      omega

theorem weight_lt_of_part? (h : json.part? field = some child) : weight child < weight json := by
  obtain ⟨hfield, -⟩ := Option.filter_eq_some_iff.mp h
  cases json with
  | object members =>
    have := weight_le_of_lookup hfield
    rw [weight]
    omega
  | array items =>
    have := weight_le_weightItems (List.mem_of_getElem? hfield)
    rw [weight]
    omega
  | _ => cases hfield

/-- What holds of a value if it holds of its parts holds of every value. -/
theorem part_induction {motive : Json → Prop}
    (step : ∀ json, (∀ field child, json.part? field = some child → motive child) → motive json)
    (json : Json) : motive json :=
  step json fun _ child _ => part_induction step child
termination_by weight json
decreasing_by exact weight_lt_of_part? ‹_›

end Weight

/-- The value and all that stand for nodes below it in pre-order, each with its depth. -/
def preorder (depth : Nat) (json : Json) : List (Nat × Json) :=
  (depth, json) ::
    ((match h : json.part? .left with
      | some left => preorder (depth + 1) left
      | none => []) ++
    match h : json.part? .right with
      | some right => preorder (depth + 1) right
      | none => [])
termination_by weight json
decreasing_by all_goals exact weight_lt_of_part? h

theorem preorder_eq (depth : Nat) (json : Json) :
    json.preorder depth = (depth, json) ::
      ((json.part? .left).elim [] (preorder (depth + 1)) ++
        (json.part? .right).elim [] (preorder (depth + 1))) := by
  rw [preorder]
  congr 2
  · split <;> simp [*]
  · split <;> simp [*]

theorem map_snd_preorder (depth other : Nat) (json : Json) :
    (json.preorder depth).map (·.2) = (json.preorder other).map (·.2) := by
  induction json using part_induction generalizing depth other with
  | step json ih =>
    have hside (field : Field) :
        ((json.part? field).elim [] (preorder (depth + 1))).map (·.2) =
          ((json.part? field).elim [] (preorder (other + 1))).map (·.2) := by
      cases hpart : json.part? field with
      | none => rfl
      | some child => exact ih field child hpart _ _
    rw [preorder_eq depth, preorder_eq other]
    simp only [List.map_cons, List.map_append, hside]

/-- The property holds of the value and of every value that stands for a node below it. -/
def Everywhere (P : Json → Prop) (json : Json) : Prop := ∀ p ∈ json.preorder 1, P p.2

theorem everywhere_iff {P : Json → Prop} {json : Json} :
    json.Everywhere P ↔ P json ∧ (∀ child, json.part? .left = some child → child.Everywhere P) ∧
      ∀ child, json.part? .right = some child → child.Everywhere P := by
  have hdepth (depth : Nat) (json : Json) :
      (∀ p ∈ json.preorder depth, P p.2) ↔ json.Everywhere P := by
    have hvalues (depth : Nat) : (∀ p ∈ json.preorder depth, P p.2) ↔
        ∀ value ∈ (json.preorder depth).map (·.2), P value := List.forall_mem_map.symm
    rw [Everywhere, hvalues, hvalues 1, map_snd_preorder]
  rw [Everywhere, preorder_eq]
  simp only [List.forall_mem_cons, List.forall_mem_append]
  refine and_congr_right fun _ => and_congr ?_ ?_
  · cases json.part? .left with
    | none => simp
    | some left => simpa using hdepth 2 left
  · cases json.part? .right with
    | none => simp
    | some right => simpa using hdepth 2 right

/-- No object that stands for a node repeats a key. -/
def NodesDistinct (json : Json) : Prop := json.Everywhere (·.keys.Nodup)

theorem NodesDistinct.part {json child : Json} (h : json.NodesDistinct) {side : Field}
    (hside : side = .left ∨ side = .right) (hc : json.part? side = some child) :
    child.NodesDistinct := by
  obtain ⟨-, hleft, hright⟩ := everywhere_iff.mp h
  rcases hside with rfl | rfl
  · exact hleft child hc
  · exact hright child hc

theorem lookup_eq_none {key : String} {members : List (String × Json)}
    (h : key ∉ members.map (·.1)) : lookup key members = none := by
  induction members with
  | nil => rfl
  | cons member members ih =>
    rw [List.map_cons, List.mem_cons, not_or] at h
    rw [lookup, if_neg (Ne.symm h.1), ih h.2]

end Json

namespace Node

open Json (Field)

variable {json : Json}

theorem partsOfJson?_eq {members : List (String × Json)} (hn : (members.map (·.1)).Nodup) :
    partsOfJson? members = (do
      let kind ← (Json.lookup "type" members).mapM Kind.ofJson?
      let value ← (Json.lookup "value" members).mapM fun json => json.reread?.map present
      let left ← (Json.lookup "left" members).mapM fun json => child json (ofJson? json)
      let right ← (Json.lookup "right" members).mapM fun json => child json (ofJson? json)
      return ⟨kind, value, left, right⟩) := by
  induction members with
  | nil => rfl
  | cons member members ih =>
    obtain ⟨key, json⟩ := member
    rw [List.map_cons, List.nodup_cons] at hn
    have hnone : Json.lookup key members = none := Json.lookup_eq_none hn.1
    rw [partsOfJson?_cons, ih hn.2]
    simp only [Json.lookup, Parts.update, apply_ite (Option.mapM _)]
    generalize hk : (Json.lookup "type" members).mapM Kind.ofJson? = kinds
    generalize hv : (Json.lookup "value" members).mapM
      (fun json => json.reread?.map present) = values
    generalize hl : (Json.lookup "left" members).mapM
      (fun json => child json (ofJson? json)) = lefts
    generalize hr : (Json.lookup "right" members).mapM
      (fun json => child json (ofJson? json)) = rights
    simp only [Option.mapM_some]
    generalize Kind.ofJson? json = kind, json.reread?.map present = value,
      child json (ofJson? json) = child
    -- the member sets the part of its own name, which no later member sets
    by_cases htype : key = "type"
    · subst htype
      rw [hnone] at hk
      cases hk
      cases kind <;> cases values <;> cases lefts <;> cases rights <;> rfl
    by_cases hvalue : key = "value"
    · subst hvalue
      rw [hnone] at hv
      cases hv
      cases kinds <;> cases value <;> cases lefts <;> cases rights <;> rfl
    by_cases hleft : key = "left"
    · subst hleft
      rw [hnone] at hl
      cases hl
      cases kinds <;> cases values <;> cases child <;> cases rights <;> rfl
    by_cases hright : key = "right"
    · subst hright
      rw [hnone] at hr
      cases hr
      cases kinds <;> cases values <;> cases lefts <;> cases child <;> rfl
    rw [if_neg htype, if_neg hvalue, if_neg hleft, if_neg hright, if_neg htype, if_neg hvalue,
      if_neg hleft, if_neg hright]
    cases kinds <;> cases values <;> cases lefts <;> cases rights <;> rfl

theorem child_getD (field : Option Json) :
    (field.mapM fun json => child json (ofJson? json)).map (·.getD none) =
      (field.filter (!·.isNull)).mapM ofJson? := by
  cases field with
  | none => rfl
  | some json =>
    cases hnull : json.isNull with
    | true => simp [Option.filter, child, hnull]
    | false =>
      simp only [Option.filter, hnull, child, Bool.not_false, if_true, Option.mapM_some]
      cases ofJson? json <;> rfl

theorem ofJson?_eq (hn : json.keys.Nodup) :
    ofJson? json = if json.holdsFields then (do
        let kind ← json.kind?
        let value ← (json.field? .value).mapM fun value => value.reread?.map present
        let left ← (json.part? .left).mapM ofJson?
        let right ← (json.part? .right).mapM ofJson?
        return .node kind (value.getD none) left right)
      else none := by
  cases json with
  | object members =>
    rw [ofJson?, partsOfJson?_eq hn, Json.part?, Json.part?, ← child_getD, ← child_getD, Json.kind?]
    simp only [Json.holdsFields, if_true, Json.field?, Field.name]
    generalize (Json.lookup "value" members).mapM (fun json => json.reread?.map present) = values,
      (Json.lookup "left" members).mapM (fun json => child json (ofJson? json)) = lefts,
      (Json.lookup "right" members).mapM (fun json => child json (ofJson? json)) = rights
    cases Json.lookup "type" members with
    | none => cases values <;> cases lefts <;> cases rights <;> rfl
    | some json =>
      rw [Option.mapM_some, Option.bind_some]
      cases Kind.ofJson? json <;> cases values <;> cases lefts <;> cases rights <;> rfl
  | array items =>
    rw [Json.part?, Json.part?, ← child_getD, ← child_getD, Json.kind?]
    simp only [Json.holdsFields, Json.field?, Field.place]
    -- an item for each field, and none beyond the fourth
    rcases items with _ | ⟨kind, _ | ⟨value, _ | ⟨left, _ | ⟨right, _ | ⟨more, items⟩⟩⟩⟩⟩
    · rfl
    · simp only [ofJson?, List.getElem?_cons_zero, List.getElem?_cons_succ, List.getElem?_nil,
        Option.bind_some]
      cases Kind.ofJson? kind <;> rfl
    · simp only [ofJson?, List.getElem?_cons_zero, List.getElem?_cons_succ, List.getElem?_nil,
        Option.bind_some, Option.mapM_some]
      cases Kind.ofJson? kind <;> cases value.reread? <;> rfl
    · simp only [ofJson?, List.getElem?_cons_zero, List.getElem?_cons_succ, List.getElem?_nil,
        Option.bind_some, Option.mapM_some]
      cases Kind.ofJson? kind <;> cases value.reread? <;> cases child left (ofJson? left) <;> rfl
    · simp only [ofJson?, List.getElem?_cons_zero, List.getElem?_cons_succ, Option.bind_some,
        Option.mapM_some]
      cases Kind.ofJson? kind <;> cases value.reread? <;> cases child left (ofJson? left) <;>
        cases child right (ofJson? right) <;> rfl
    · simp [ofJson?]
  | _ => rfl

/-- A value is read as a node if everything that stands for a node in it has the shape of one. -/
theorem isSome_ofJson?_iff (hd : json.NodesDistinct) :
    (ofJson? json).isSome ↔ json.Everywhere Json.IsShaped := by
  induction json using Json.part_induction with
  | step json ih =>
    have hleft (child : Json) (hc : json.part? .left = some child) :
        (ofJson? child).isSome ↔ child.Everywhere Json.IsShaped :=
      ih .left child hc (hd.part (.inl rfl) hc)
    have hright (child : Json) (hc : json.part? .right = some child) :
        (ofJson? child).isSome ↔ child.Everywhere Json.IsShaped :=
      ih .right child hc (hd.part (.inr rfl) hc)
    have hvalue :
        ((json.field? .value).mapM fun value : Json => value.reread?.map present).isSome ↔
        ∀ value, json.field? .value = some value → value.reread?.isSome := by
      simp [isSome_mapM_iff]
    have hshaped : json.IsShaped ↔ json.holdsFields ∧ json.kind?.isSome ∧
        ∀ value, json.field? .value = some value → value.reread?.isSome :=
      ⟨fun h => ⟨h.1, h.2, h.3⟩, fun h => ⟨h.1, h.2.1, h.2.2⟩⟩
    rw [ofJson?_eq (Json.everywhere_iff.mp hd).1, Json.everywhere_iff, hshaped, ← hvalue]
    simp only [← forall₂_congr hleft, ← forall₂_congr hright, ← isSome_mapM_iff]
    cases json.holdsFields
    · simp
    · generalize (json.field? .value).mapM (fun value : Json => value.reread?.map present) = values,
        (json.part? .left).mapM ofJson? = lefts, (json.part? .right).mapM ofJson? = rights
      cases json.kind? <;> cases values <;> cases lefts <;> cases rights <;> simp

end Node

end Rulebook
