import Rulebook.Proofs.Json.Reading
import Rulebook.Rule.Node

/-! # Nodes of documents and of values

A node can be read straight from a document, or from the value that the document is read as. The
two agree where no object repeats a key, nodes have no other keys than those of their parts, and
no text is embedded: then the order of the members does not matter, so sorting them is harmless.
-/

namespace Rulebook

namespace Json.Document

/-- The first document is the second one, or stands where a child is read below it. -/
inductive NodePart (part : Document) : Document → Prop
  | self : NodePart part part
  | member {member : List Symbol × Document} {members : List (List Symbol × Document)} :
      member ∈ members → string? member.1 = some "left" ∨ string? member.1 = some "right" →
      NodePart part member.2 → NodePart part (.object members)
  | leftItem {kind value left : Document} {right : List Document} :
      right.length ≤ 1 → NodePart part left →
      NodePart part (.array (kind :: value :: left :: right))
  | rightItem {kind value left right : Document} :
      NodePart part right → NodePart part (.array [kind, value, left, right])

/-- No object that stands for a node has other keys than those of its parts. -/
def NodesKeyed (document : Document) : Prop :=
  ∀ members, NodePart (.object members) document → ∀ member ∈ members,
    ∃ name ∈ ["type", "value", "left", "right"], string? member.1 = some name

theorem nodesKeyed_object {members : List (List Symbol × Document)} :
    NodesKeyed (.object members) ↔ ∀ member ∈ members,
      (∃ name ∈ ["type", "value", "left", "right"], string? member.1 = some name) ∧
      (string? member.1 = some "left" ∨ string? member.1 = some "right" →
        NodesKeyed member.2) := by
  constructor
  · intro h member hm
    exact ⟨h _ .self member hm, fun hk _ hn => h _ (.member hm hk hn)⟩
  · intro h inner hn
    cases hn with
    | self => exact fun member hm => (h member hm).1
    | member hm hk hn => exact (h _ hm).2 hk inner hn

theorem nodesKeyed_pair (kind value : Document) : NodesKeyed (.array [kind, value]) :=
  fun _ hn => nomatch hn

theorem nodesKeyed_triple {kind value left : Document} :
    NodesKeyed (.array [kind, value, left]) ↔ NodesKeyed left := by
  constructor
  · intro h _ hn
    exact h _ (.leftItem (Nat.zero_le 1) hn)
  · intro h inner hn
    cases hn with
    | leftItem _ hn => exact h inner hn

theorem nodesKeyed_quadruple {kind value left right : Document} :
    NodesKeyed (.array [kind, value, left, right]) ↔ NodesKeyed left ∧ NodesKeyed right := by
  constructor
  · intro h
    exact ⟨fun _ hn => h _ (.leftItem (Nat.le_refl 1) hn), fun _ hn => h _ (.rightItem hn)⟩
  · rintro ⟨hl, hr⟩ inner hn
    cases hn with
    | leftItem _ hn => exact hl inner hn
    | rightItem hn => exact hr inner hn

end Json.Document

namespace Node

open Json (Document Symbol)
open Json.Document (string? toJson? readMember? keys KeysDistinct Unreserved NodesKeyed
  nodesKeyed_object nodesKeyed_triple nodesKeyed_quadruple)

namespace Parts

def update (key : String) (kind : Option Kind) (value : Option (Option Json))
    (child : Option (Option Node)) : Option (Parts → Parts) :=
  if key = "type" then kind.map fun kind parts => { parts with kind := some kind }
  else if key = "value" then value.map fun value parts => { parts with value := some value }
  else if key = "left" then child.map fun child parts => { parts with left := some child }
  else if key = "right" then child.map fun child parts => { parts with right := some child }
  else some id

def has (parts : Parts) (key : String) : Bool :=
  if key = "type" then parts.kind.isSome
  else if key = "value" then parts.value.isSome
  else if key = "left" then parts.left.isSome
  else if key = "right" then parts.right.isSome
  else false

def child? (parts : Parts) (side : String) : Option (Option Node) :=
  if side = "left" then parts.left else if side = "right" then parts.right else none

variable {key key' side : String} {kind kind' : Option Kind} {value value' : Option (Option Json)}
  {child child' : Option (Option Node)} {parts : Parts} {f g : Parts → Parts}

theorem update_eq_some (h : update key kind value child = some f) :
    (key = "type" ∧ ∃ kind, f = fun parts => { parts with kind := some kind }) ∨
    (key = "value" ∧ ∃ value, f = fun parts => { parts with value := some value }) ∨
    (key = "left" ∧ ∃ child, f = fun parts => { parts with left := some child }) ∨
    (key = "right" ∧ ∃ child, f = fun parts => { parts with right := some child }) ∨
    f = fun parts => parts := by
  unfold update at h
  split_ifs at h with ht hv hl hr
  · obtain ⟨kind, -, rfl⟩ := Option.map_eq_some_iff.mp h
    exact .inl ⟨ht, kind, rfl⟩
  · obtain ⟨value, -, rfl⟩ := Option.map_eq_some_iff.mp h
    exact .inr (.inl ⟨hv, value, rfl⟩)
  · obtain ⟨child, -, rfl⟩ := Option.map_eq_some_iff.mp h
    exact .inr (.inr (.inl ⟨hl, child, rfl⟩))
  · obtain ⟨child, -, rfl⟩ := Option.map_eq_some_iff.mp h
    exact .inr (.inr (.inr (.inl ⟨hr, child, rfl⟩)))
  · exact .inr (.inr (.inr (.inr (Option.some.inj h).symm)))

theorem update_comm (h : key ≠ key') (hf : update key kind value child = some f)
    (hg : update key' kind' value' child' = some g) (parts : Parts) :
    f (g parts) = g (f parts) := by
  rcases update_eq_some hf with ⟨rfl, _, rfl⟩ | ⟨rfl, _, rfl⟩ | ⟨rfl, _, rfl⟩ | ⟨rfl, _, rfl⟩ | rfl
  all_goals
    rcases update_eq_some hg with
      ⟨rfl, _, rfl⟩ | ⟨rfl, _, rfl⟩ | ⟨rfl, _, rfl⟩ | ⟨rfl, _, rfl⟩ | rfl
  all_goals first | rfl | exact absurd rfl h

theorem has_of_update (hf : update key kind value child = some f) {name : String}
    (hn : (f parts).has name) : name = key ∨ parts.has name := by
  rcases update_eq_some hf with ⟨rfl, _, rfl⟩ | ⟨rfl, _, rfl⟩ | ⟨rfl, _, rfl⟩ | ⟨rfl, _, rfl⟩ | rfl
  all_goals grind [has]

theorem child?_of_update_self (hs : side = "left" ∨ side = "right")
    (hf : update side kind value child = some f) :
    ∃ node, (f parts).child? side = some node ∧ child = some node := by
  rcases hs with rfl | rfl
  all_goals
    obtain ⟨node, hnode, rfl⟩ := Option.map_eq_some_iff.mp hf
    exact ⟨node, rfl, hnode⟩

theorem child?_of_update_ne (hne : key ≠ side) (hf : update key kind value child = some f) :
    (f parts).child? side = parts.child? side := by
  rcases update_eq_some hf with ⟨rfl, _, rfl⟩ | ⟨rfl, _, rfl⟩ | ⟨rfl, _, rfl⟩ | ⟨rfl, _, rfl⟩ | rfl
  all_goals grind [child?]

end Parts

theorem partsOfJson?_cons (key : String) (json : Json) (members : List (String × Json)) :
    partsOfJson? ((key, json) :: members) = (do
      let parts ← partsOfJson? members
      let f ← Parts.update key (Kind.ofJson? json) (json.reread?.map present)
        (child json (ofJson? json))
      return f parts) := by
  rw [partsOfJson?]
  cases partsOfJson? members with
  | none => rfl
  | some parts =>
    generalize Kind.ofJson? json = kind, json.reread? = value, child json (ofJson? json) = child
    simp only [Option.bind_eq_bind, Option.bind_some, Parts.update]
    cases kind <;> cases value <;> cases child <;> split_ifs <;> rfl

theorem child?_of_lookup {members : List (String × Json)} {parts : Parts} {side : String}
    {json : Json} (hs : side = "left" ∨ side = "right") (h : partsOfJson? members = some parts)
    (hl : Json.lookup side members = some json) :
    ∃ node, parts.child? side = some node ∧ child json (ofJson? json) = some node := by
  induction members generalizing parts with
  | nil => cases hl
  | cons member members ih =>
    obtain ⟨key, value⟩ := member
    rw [partsOfJson?_cons] at h
    simp only [Option.bind_eq_bind, Option.bind_eq_some_iff, Option.pure_def,
      Option.some.injEq] at h
    obtain ⟨parts, hparts, f, hf, rfl⟩ := h
    rw [Json.lookup] at hl
    split at hl
    · next hkey =>
      subst hkey
      cases hl
      exact Parts.child?_of_update_self hs hf
    · next hkey =>
      rw [Parts.child?_of_update_ne hkey hf]
      exact ih hparts hl

theorem partsOfDocument?_cons (depth : Nat) (member : List Symbol × Document)
    (members : List (List Symbol × Document)) :
    partsOfDocument? depth (member :: members) = (do
      let parts ← partsOfDocument? depth members
      let key ← string? member.1
      let f ← Parts.update key ((member.2.name? depth).bind Kind.ofName?)
        ((toJson? depth member.2).map present)
        (documentChild member.2 (ofDocument? depth member.2))
      if parts.has key then none else return f parts) := by
  rw [partsOfDocument?]
  cases partsOfDocument? depth members with
  | none => rfl
  | some parts =>
    cases string? member.1 with
    | none => rfl
    | some key =>
      generalize (member.2.name? depth).bind Kind.ofName? = kind, toJson? depth member.2 = value,
        documentChild member.2 (ofDocument? depth member.2) = child
      simp only [Option.bind_eq_bind, Option.bind_some, Parts.update, Parts.has]
      cases kind <;> cases value <;> cases child <;> split_ifs <;> first | rfl | contradiction

section Agreement

variable {depth : Nat} {document : Document} {json : Json}

theorem isNull_of_toJson? (hu : document.Unreserved) (h : toJson? depth document = some json) :
    json.isNull = isNull document := by
  cases document with
  | array items =>
    cases depth with
    | zero => simp at h
    | succ depth =>
      rw [Document.toJson?_array, Option.map_eq_some_iff] at h
      obtain ⟨_, -, rfl⟩ := h
      rfl
  | object members =>
    cases depth with
    | zero => simp at h
    | succ depth =>
      rw [Document.toJson?_object hu.embedded?, Option.map_eq_some_iff] at h
      obtain ⟨_, -, rfl⟩ := h
      rfl
  | _ => simp at h <;> grind [Json.isNull, isNull]

theorem isNull_of_toJson?_eq_none (h : toJson? depth document = none) :
    isNull document = false := by
  cases document with
  | null => simp at h
  | _ => rfl

theorem name?_text (t : List Symbol) : Document.name? depth (.text t) = string? t := by
  cases depth <;> rfl

theorem name?_one (key : List Symbol) :
    Document.name? (depth + 1) (.object [(key, document)]) =
      if isNull document then string? key else none := by
  cases document <;> rfl

theorem ofJson?_one (name : String) (json : Json) :
    Kind.ofJson? (.object [(name, json)]) = if json.isNull then Kind.ofName? name else none := by
  cases json <;> rfl

theorem ofJson?_of_length {jsons : List (String × Json)} (h : 2 ≤ jsons.length) :
    Kind.ofJson? (.object jsons) = none := by
  match jsons, h with
  | _ :: _ :: _, _ => simp [Kind.ofJson?]

theorem kind_agrees_object {members : List (List Symbol × Document)}
    (hd : (Document.object members).KeysDistinct) (hu : (Document.object members).Unreserved) :
    ((Document.object members).name? (depth + 1)).bind Kind.ofName? =
      (toJson? (depth + 1) (.object members)).bind Kind.ofJson? := by
  match members with
  | [] =>
    rw [Document.toJson?_object hu.embedded?]
    rfl
  | [(key, document)] =>
    rw [name?_one, Document.toJson?_object hu.embedded?, List.mapM_cons, List.mapM_nil, readMember?]
    cases hj : toJson? depth document with
    | none =>
      rw [isNull_of_toJson?_eq_none hj]
      cases string? key <;> rfl
    | some json =>
      rw [← isNull_of_toJson? (hu.member List.mem_cons_self) hj]
      cases string? key with
      | none => cases json.isNull <;> rfl
      | some name =>
        exact (apply_ite (Option.bind · Kind.ofName?) _ _ _).trans (ofJson?_one name json).symm
  | m :: m' :: members =>
    have hname : Document.name? (depth + 1) (.object (m :: m' :: members)) = none := by
      simp [Document.name?]
    rw [hname]
    cases hj : toJson? (depth + 1) (.object (m :: m' :: members)) with
    | none => rfl
    | some json =>
      rw [Document.toJson?_object hu.embedded?, Option.map_eq_some_iff] at hj
      obtain ⟨jsons, hj, rfl⟩ := hj
      have hkeys := Document.map_fst_of_readMembers hj
      have hperm : (Json.sortMembers jsons).Perm jsons := Json.sortMembers_perm (hkeys ▸ hd _ .self)
      refine (ofJson?_of_length ?_).symm
      rw [hperm.length_eq, ← (forall₂_of_mapM hj).length_eq]
      exact Nat.le_add_left 2 _

theorem kind_agrees (hd : document.KeysDistinct) (hu : document.Unreserved) :
    (document.name? depth).bind Kind.ofName? = (toJson? depth document).bind Kind.ofJson? := by
  cases document with
  | array items =>
    cases depth with
    | zero => rfl
    | succ depth =>
      rw [Document.toJson?_array]
      cases items.mapM (toJson? depth) <;> rfl
  | object members =>
    cases depth with
    | zero => simp [Document.name?]
    | succ depth => exact kind_agrees_object hd hu
  | text t =>
    rw [Document.toJson?_text, name?_text]
    cases string? t <;> rfl
  | number n =>
    rw [Document.toJson?_number]
    cases depth <;> cases n.value? <;> rfl
  | _ => cases depth <;> rfl

theorem value_agrees (hd : document.KeysDistinct) (hu : document.Unreserved) :
    (toJson? depth document).map present =
      (toJson? depth document).bind fun json => json.reread?.map present := by
  cases h : toJson? depth document with
  | none => rfl
  | some json =>
    rw [Option.bind_some, Document.reread?_of_toJson? hd hu h, Option.map_some]

theorem child_agrees (hu : document.Unreserved)
    (h : ofDocument? depth document = (toJson? depth document).bind ofJson?) :
    documentChild document (ofDocument? depth document) =
      (toJson? depth document).bind fun json => child json (ofJson? json) := by
  rw [h, documentChild]
  cases hj : toJson? depth document with
  | none =>
    rw [Option.bind_none, Option.bind_none, isNull_of_toJson?_eq_none hj]
    rfl
  | some json =>
    rw [Option.bind_some, Option.bind_some, child, isNull_of_toJson? hu hj]

/-- A member is read as the same part from its document and from the value of it. -/
theorem update_agrees {key : String} (hk : key ∈ ["type", "value", "left", "right"])
    (hd : document.KeysDistinct) (hu : document.Unreserved)
    (hchild : key = "left" ∨ key = "right" →
      ofDocument? depth document = (toJson? depth document).bind ofJson?) :
    Parts.update key ((document.name? depth).bind Kind.ofName?)
        ((toJson? depth document).map present)
        (documentChild document (ofDocument? depth document)) =
      (toJson? depth document).bind fun json => Parts.update key (Kind.ofJson? json)
        (json.reread?.map present) (child json (ofJson? json)) := by
  simp only [List.mem_cons, List.not_mem_nil, or_false] at hk
  rcases hk with rfl | rfl | rfl | rfl
  · rw [kind_agrees hd hu]
    exact Option.map_bind
  · rw [value_agrees hd hu]
    exact Option.map_bind
  · rw [child_agrees hu (hchild (.inl rfl))]
    exact Option.map_bind
  · rw [child_agrees hu (hchild (.inr rfl))]
    exact Option.map_bind

end Agreement

section Members

variable {depth : Nat} {members : List (List Symbol × Document)}

theorem partsOfJson?_perm {jsons jsons' : List (String × Json)} (hp : jsons.Perm jsons')
    (hd : (jsons.map (·.1)).Nodup) : partsOfJson? jsons = partsOfJson? jsons' := by
  induction hp with
  | nil => rfl
  | cons m _ ih => rw [partsOfJson?_cons, partsOfJson?_cons, ih (List.nodup_cons.mp hd).2]
  | swap m m' jsons =>
    rw [List.map_cons, List.map_cons, List.nodup_cons] at hd
    have hne : m'.1 ≠ m.1 := fun h => hd.1 (h ▸ List.mem_cons_self)
    rw [partsOfJson?_cons, partsOfJson?_cons, partsOfJson?_cons, partsOfJson?_cons]
    cases partsOfJson? jsons with
    | none => rfl
    | some parts =>
      cases hf : Parts.update m.1 (Kind.ofJson? m.2) (m.2.reread?.map present)
          (child m.2 (ofJson? m.2)) with
      | none => cases Parts.update m'.1 _ _ _ <;> rfl
      | some f =>
        cases hg : Parts.update m'.1 (Kind.ofJson? m'.2) (m'.2.reread?.map present)
            (child m'.2 (ofJson? m'.2)) with
        | none => rfl
        | some g => exact congrArg some (Parts.update_comm hne hg hf parts)
  | trans hp _ ih ih' => exact (ih hd).trans (ih' ((hp.map _).nodup_iff.mp hd))

theorem mem_keys_of_has {parts : Parts} (h : partsOfDocument? depth members = some parts)
    {name : String} (hn : parts.has name) : name ∈ keys members := by
  induction members generalizing parts with
  | nil =>
    cases h
    simp [Parts.has] at hn
  | cons member members ih =>
    rw [partsOfDocument?_cons] at h
    simp only [Option.bind_eq_bind, Option.bind_eq_some_iff] at h
    obtain ⟨parts, hparts, key, hk, f, hf, h⟩ := h
    rw [Document.keys_cons hk]
    split at h
    · cases h
    · cases h
      rcases Parts.has_of_update hf hn with rfl | hn
      · exact List.mem_cons_self
      · exact List.mem_cons_of_mem _ (ih hparts hn)

theorem partsOfDocument?_eq (hk : (keys members).Nodup)
    (hm : ∀ m ∈ members, m.2.KeysDistinct ∧ m.2.Unreserved ∧
      ∃ key ∈ ["type", "value", "left", "right"], string? m.1 = some key ∧
        (key = "left" ∨ key = "right" → ofDocument? depth m.2 = (toJson? depth m.2).bind ofJson?)) :
    partsOfDocument? depth members = (members.mapM (readMember? depth)).bind partsOfJson? := by
  induction members with
  | nil => rfl
  | cons member members ih =>
    rw [List.forall_mem_cons] at hm
    obtain ⟨⟨hd, hu, key, hmem, hkey, hchild⟩, hm⟩ := hm
    rw [Document.keys_cons hkey, List.nodup_cons] at hk
    have ih := ih hk.2 hm
    rw [partsOfDocument?_cons, List.mapM_cons, readMember?, hkey]
    cases hparts : partsOfDocument? depth members with
    | none =>
      rw [hparts] at ih
      cases toJson? depth member.2 with
      | none => rfl
      | some json =>
        cases hj : members.mapM (readMember? depth) with
        | none => rfl
        | some jsons =>
          rw [hj, Option.bind_some] at ih
          simp [partsOfJson?_cons, ← ih]
    | some parts =>
      -- only a repeated key could meet a part that is there already
      have hfresh : parts.has key = false :=
        Bool.eq_false_iff.mpr fun hn => hk.1 (mem_keys_of_has hparts hn)
      obtain ⟨jsons, hj, hp⟩ := Option.bind_eq_some_iff.mp (ih.symm.trans hparts)
      simp only [Option.bind_eq_bind, Option.bind_some, hfresh, Bool.false_eq_true, if_false,
        update_agrees hmem hd hu hchild, hj]
      cases toJson? depth member.2 with
      | none => rfl
      | some json => simp [partsOfJson?_cons, hp]

end Members

theorem ofDocument?_scalar {depth : Nat} {document : Document}
    (ha : ∀ items, document ≠ .array items) (ho : ∀ members, document ≠ .object members) :
    ofDocument? depth document = (toJson? depth document).bind ofJson? := by
  cases document with
  | array items => exact absurd rfl (ha items)
  | object members => exact absurd rfl (ho members)
  | number n =>
    rw [Document.toJson?_number]
    cases depth <;> cases n.value? <;> rfl
  | text t =>
    rw [Document.toJson?_text]
    cases depth <;> cases string? t <;> rfl
  | _ => cases depth <;> rfl

theorem ofDocument?_object {depth : Nat} {members : List (List Symbol × Document)}
    (hd : (Document.object members).KeysDistinct) (hu : (Document.object members).Unreserved)
    (hn : (Document.object members).NodesKeyed)
    (ih : ∀ document : Document, document.KeysDistinct → document.Unreserved →
      document.NodesKeyed → ofDocument? depth document = (toJson? depth document).bind ofJson?) :
    ofDocument? (depth + 1) (.object members) =
      (toJson? (depth + 1) (.object members)).bind ofJson? := by
  have hparts : partsOfDocument? depth members =
      (members.mapM (readMember? depth)).bind partsOfJson? := by
    refine partsOfDocument?_eq (hd _ .self) fun m hm => ?_
    obtain ⟨⟨key, hmem, hkey⟩, hinner⟩ := nodesKeyed_object.mp hn m hm
    refine ⟨hd.member hm, hu.member hm, key, hmem, hkey, fun hchild => ?_⟩
    exact ih _ (hd.member hm) (hu.member hm) (hinner (by simpa [hkey] using hchild))
  rw [ofDocument?, hparts, Document.toJson?_object hu.embedded?]
  cases hj : members.mapM (readMember? depth) with
  | none => rfl
  | some jsons =>
    have hkeys := Document.map_fst_of_readMembers hj
    have hd : (jsons.map (·.1)).Nodup := hkeys ▸ hd _ .self
    rw [Option.bind_some, Option.map_some, Option.bind_some, ofJson?,
      partsOfJson?_perm (Json.sortMembers_perm hd).symm hd]

theorem ofDocument?_array {depth : Nat} {items : List Document}
    (hd : (Document.array items).KeysDistinct) (hu : (Document.array items).Unreserved)
    (hn : (Document.array items).NodesKeyed)
    (ih : ∀ document : Document, document.KeysDistinct → document.Unreserved →
      document.NodesKeyed → ofDocument? depth document = (toJson? depth document).bind ofJson?) :
    ofDocument? (depth + 1) (.array items) = (toJson? (depth + 1) (.array items)).bind ofJson? := by
  have hkind {kind : Document} (hm : kind ∈ items) :
      (kind.name? depth).bind Kind.ofName? = (toJson? depth kind).bind Kind.ofJson? :=
    kind_agrees (hd.item hm) (hu.item hm)
  have hvalue {value : Document} {json : Json} (hm : value ∈ items)
      (hj : toJson? depth value = some json) : json.reread? = some json :=
    Document.reread?_of_toJson? (hd.item hm) (hu.item hm) hj
  have hchild {document : Document} (hm : document ∈ items) (hc : document.NodesKeyed) :
      documentChild document (ofDocument? depth document) =
        (toJson? depth document).bind fun json => child json (ofJson? json) :=
    child_agrees (hu.item hm) (ih _ (hd.item hm) (hu.item hm) hc)
  rw [Document.toJson?_array]
  -- of five items or more there is no node, of fewer each has its own part
  match items with
  | [] => rfl
  | [kind] =>
    rw [ofDocument?, hkind (by simp)]
    simp only [List.mapM_cons, List.mapM_nil]
    cases toJson? depth kind with
    | none => rfl
    | some json =>
      change (Kind.ofJson? json).bind _ = (Kind.ofJson? json).map _
      cases Kind.ofJson? json <;> rfl
  | [kind, value] =>
    rw [ofDocument?, hkind (by simp)]
    simp only [List.mapM_cons, List.mapM_nil]
    cases hv : toJson? depth value with
    | none => cases toJson? depth kind <;> simp
    | some jv => cases toJson? depth kind <;> simp [ofJson?, hvalue (by simp) hv]
  | [kind, value, left] =>
    rw [ofDocument?, hkind (by simp), hchild (by simp) (nodesKeyed_triple.mp hn)]
    simp only [List.mapM_cons, List.mapM_nil]
    cases hv : toJson? depth value with
    | none => cases toJson? depth kind <;> simp
    | some jv =>
      cases toJson? depth kind <;> cases toJson? depth left <;>
        simp [ofJson?, hvalue (by simp) hv]
  | [kind, value, left, right] =>
    obtain ⟨hl, hr⟩ := nodesKeyed_quadruple.mp hn
    rw [ofDocument?, hkind (by simp), hchild (by simp) hl, hchild (by simp) hr]
    simp only [List.mapM_cons, List.mapM_nil]
    cases hv : toJson? depth value with
    | none => cases toJson? depth kind <;> simp
    | some jv =>
      cases toJson? depth kind <;> cases toJson? depth left <;> cases toJson? depth right <;>
        simp [ofJson?, hvalue (by simp) hv]
  | kind :: value :: left :: right :: more :: items =>
    cases hj : (kind :: value :: left :: right :: more :: items).mapM (toJson? depth) with
    | none => simp [ofDocument?]
    | some jsons =>
      have := (forall₂_of_mapM hj).length_eq
      match jsons with
      | [] | [_] | [_, _] | [_, _, _] | [_, _, _, _] => simp at this
      | _ :: _ :: _ :: _ :: _ :: _ => simp [ofDocument?, ofJson?]

/-- A node that is read straight from a document is the node of the value that the document is
read as. -/
theorem ofDocument?_eq {depth : Nat} {document : Document} (hd : document.KeysDistinct)
    (hu : document.Unreserved) (hn : document.NodesKeyed) :
    ofDocument? depth document = (toJson? depth document).bind ofJson? := by
  induction depth generalizing document with
  | zero =>
    cases document with
    | array items => rfl
    | object members => rfl
    | _ => exact ofDocument?_scalar (by simp) (by simp)
  | succ depth ih =>
    cases document with
    | array items => exact ofDocument?_array hd hu hn fun _ => ih
    | object members => exact ofDocument?_object hd hu hn fun _ => ih
    | _ => exact ofDocument?_scalar (by simp) (by simp)

end Node
end Rulebook
