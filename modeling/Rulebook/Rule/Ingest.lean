import Rulebook.Rule.Node

/-! # Reading expressions

A JSON value is read as an expression in three steps: its raw depth along `left` and `right` is
bounded first, without recursion on the nodes; then its shape is read, and then the nodes are
checked. A text may also be read directly, without the first step.
-/

namespace Rulebook

namespace Json

mutual

def weight : Json → Nat
  | array items => 1 + weightItems items
  | object members => 1 + weightMembers members
  | _ => 1

def weightItems : List Json → Nat
  | [] => 0
  | item :: items => weight item + weightItems items

def weightMembers : List (String × Json) → Nat
  | [] => 0
  | (_, value) :: members => weight value + weightMembers members

end

def childAt (side : String) (json : Json) : List Json :=
  match json.member? side with
  | some child => if child.isNull then [] else [child]
  | none => []

/-- The children of a value along `left` and `right`, the last one first. -/
def children (json : Json) : List Json := childAt "right" json ++ childAt "left" json

theorem weightItems_append (items more : List Json) :
    weightItems (items ++ more) = weightItems items + weightItems more := by
  induction items with
  | nil => simp [weightItems]
  | cons item items ih =>
    simp only [List.cons_append, weightItems, ih]
    omega

theorem weight_le_of_lookup {key : String} {json : Json} {members : List (String × Json)}
    (h : lookup key members = some json) : weight json ≤ weightMembers members := by
  induction members with
  | nil => simp [lookup] at h
  | cons m members ih =>
    obtain ⟨k, v⟩ := m
    simp only [lookup] at h
    simp only [weightMembers]
    split at h
    · cases h
      omega
    · have := ih h
      omega

theorem weight_add_le_of_lookup {k₁ k₂ : String} {v₁ v₂ : Json} {members : List (String × Json)}
    (hk : k₁ ≠ k₂) (h₁ : lookup k₁ members = some v₁) (h₂ : lookup k₂ members = some v₂) :
    weight v₁ + weight v₂ ≤ weightMembers members := by
  induction members with
  | nil => simp [lookup] at h₁
  | cons m members ih =>
    obtain ⟨k, v⟩ := m
    simp only [lookup] at h₁ h₂
    simp only [weightMembers]
    split at h₁ <;> split at h₂
    · simp_all
    · cases h₁
      have := weight_le_of_lookup h₂
      omega
    · cases h₂
      have := weight_le_of_lookup h₁
      omega
    · have := ih h₁ h₂
      omega

theorem weight_pos (json : Json) : 0 < weight json := by
  cases json <;> simp only [weight] <;> omega

theorem weightItems_childAt_le {side : String} {json v : Json}
    (h : json.member? side = some v) : weightItems (childAt side json) ≤ weight v := by
  simp only [childAt, h]
  split <;> simp [weightItems]

theorem weightItems_children_lt (json : Json) : weightItems (children json) < weight json := by
  have happend : weightItems (children json) =
      weightItems (childAt "right" json) + weightItems (childAt "left" json) :=
    weightItems_append _ _
  have hnone {side : String} (h : json.member? side = none) :
      weightItems (childAt side json) = 0 := by
    simp [childAt, h, weightItems]
  have hpos := weight_pos json
  cases hr : json.member? "right" with
  | none =>
    cases hl : json.member? "left" with
    | none =>
      have := hnone hr
      have := hnone hl
      omega
    | some l =>
      have := hnone hr
      have := weightItems_childAt_le hl
      cases json with
      | object members =>
        have hw : weight l ≤ weightMembers members := weight_le_of_lookup hl
        simp only [weight] at *
        omega
      | _ => simp [member?] at hl
  | some r =>
    have hr' := weightItems_childAt_le hr
    cases json with
    | object members =>
      cases hl : (object members).member? "left" with
      | none =>
        have := hnone hl
        have hw : weight r ≤ weightMembers members := weight_le_of_lookup hr
        simp only [weight] at *
        omega
      | some l =>
        have := weightItems_childAt_le hl
        have hw : weight r + weight l ≤ weightMembers members :=
          weight_add_le_of_lookup (by decide) hr hl
        simp only [weight] at *
        omega
    | _ => simp [member?] at hr

/-- Whether one of the pending values, or a value below it, lies deeper than `max`. -/
def anyExceeds (max : Nat) : List (Json × Nat) → Bool
  | [] => false
  | (json, depth) :: pending =>
    if max < depth then true
    -- The pending values are a stack: children go on top.
    else anyExceeds max ((children json).map (·, depth + 1) ++ pending)
termination_by pending => weightItems (pending.map (·.1))
decreasing_by
  have := weightItems_children_lt json
  simp only [List.map_cons, List.map_append, List.map_map, Function.comp_def, List.map_id',
    weightItems_append, weightItems] at *
  omega

/-- Whether a chain of children that starts at a value has more than `max` members. -/
def exceedsDepth (json : Json) (max : Nat) : Bool := anyExceeds max [(json, 1)]

end Json

/-- Why a text cannot be read directly: it spells no node, or a node that is no expression. -/
inductive ReadingFault
  | unreadable
  | rejected (fault : Fault)
deriving DecidableEq

namespace Expression

def ofJson (json : Json) : Except Fault Expression :=
  if json.exceedsDepth depthLimit then throw (.treeTooDeep depthLimit)
  else match Node.ofJson? json with
    | some node => node.toExpression
    | none => throw (.json .shape)

def parse (text : String) : Except Fault Expression :=
  match Json.parse text with
  | .ok json => ofJson json
  | .error fault => throw (.json fault)

/-- The expression at the front of a text, read directly. -/
def read (text : String) : Except ReadingFault Expression := do
  let .ok (document, rest) := Json.Document.scan (Json.symbols text) | throw .unreadable
  let some node := Node.ofDocument? Json.maxNesting document | throw .unreadable
  -- The node is checked before the end of the text is.
  match node.toExpression with
  | .error fault => throw (.rejected fault)
  | .ok e => if Json.Document.isEnd rest then return e else throw .unreadable

end Expression

end Rulebook
