import Rulebook.Json.Document
import Rulebook.Proofs.Json.Members
import Rulebook.Proofs.Sequencing

/-! # Reading documents as values

An object is read member by member and then sorted. A limit on nesting does not matter as long as
a document does not exceed it. Where no object of a document stands for an embedded text, the
document has a value exactly if its numbers are in range and its strings have no gaps; and where no
object has the key of embedded texts at all, the value stays the same when it is read anew.
-/

namespace Rulebook.Json

namespace Document

/-- The first document is part of the second one, which may be itself. -/
inductive Part (part : Document) : Document → Prop
  | self : Part part part
  | item {item : Document} {items : List Document} :
      item ∈ items → Part part item → Part part (.array items)
  | member {member : List Symbol × Document} {members : List (List Symbol × Document)} :
      member ∈ members → Part part member.2 → Part part (.object members)

def keys (members : List (List Symbol × Document)) : List String :=
  members.filterMap fun member => string? member.1

/-- Every object in the document satisfies a condition on its keys. -/
def EveryObject (p : List String → Prop) (document : Document) : Prop :=
  ∀ members, Part (.object members) document → p (keys members)

/-- No object in the document repeats a key. -/
def KeysDistinct : Document → Prop := EveryObject List.Nodup

/-- No object in the document has the key that makes it stand for a text. -/
def Unreserved : Document → Prop := EveryObject (embeddedKey ∉ ·)

/-- No object in the document starts with the key that makes it stand for a text. -/
def Unmarked : Document → Prop := EveryObject (·.head? ≠ some embeddedKey)

variable {p : List String → Prop} {document : Document} {items : List Document}
  {members : List (List Symbol × Document)} {depth : Nat}

theorem everyObject_array : EveryObject p (.array items) ↔ ∀ item ∈ items, EveryObject p item := by
  constructor
  · intro h item hi members hpart
    exact h members (.item hi hpart)
  · intro h members hpart
    cases hpart with
    | item hi hpart => exact h _ hi members hpart

theorem everyObject_object : EveryObject p (.object members) ↔
    p (keys members) ∧ ∀ member ∈ members, EveryObject p member.2 := by
  constructor
  · intro h
    exact ⟨h members .self, fun member hm inner hpart => h inner (.member hm hpart)⟩
  · rintro ⟨hp, h⟩ inner hpart
    cases hpart with
    | self => exact hp
    | member hm hpart => exact h _ hm inner hpart

theorem everyObject_bool (b : Bool) : EveryObject p (.bool b) := fun _ hpart => nomatch hpart

theorem everyObject_number (n : Numeral) : EveryObject p (.number n) := fun _ hpart => nomatch hpart

theorem everyObject_text (t : List Symbol) : EveryObject p (.text t) := fun _ hpart => nomatch hpart

theorem EveryObject.item {item : Document} (h : EveryObject p (.array items))
    (hi : item ∈ items) : EveryObject p item := everyObject_array.mp h item hi

theorem EveryObject.member {member : List Symbol × Document}
    (h : EveryObject p (.object members)) (hm : member ∈ members) : EveryObject p member.2 :=
  (everyObject_object.mp h).2 member hm

theorem mem_keys {member : List Symbol × Document} {key : String} (hm : member ∈ members)
    (hk : string? member.1 = some key) : key ∈ keys members :=
  List.mem_filterMap.mpr ⟨member, hm, hk⟩

theorem keys_cons {member : List Symbol × Document} {key : String}
    (hk : string? member.1 = some key) : keys (member :: members) = key :: keys members :=
  List.filterMap_cons_some hk

theorem Unreserved.embedded? (h : (Document.object members).Unreserved) :
    embedded? members = none := by
  cases members with
  | nil => rfl
  | cons member members =>
    exact if_neg fun hk => h _ .self (mem_keys List.mem_cons_self hk)

theorem Unmarked.embedded? (h : (Document.object members).Unmarked) :
    embedded? members = none := by
  cases members with
  | nil => rfl
  | cons member members =>
    refine if_neg fun hk => h _ .self ?_
    rw [keys_cons hk, List.head?_cons]

section Symbols

theorem mapM_id_map_some (cs : List Char) : (cs.map some).mapM id = some cs := by
  induction cs with
  | nil => rfl
  | cons c cs ih =>
    rw [List.map_cons, List.mapM_cons, ih]
    rfl

theorem string?_symbols (text : String) : string? (symbols text) = some text := by
  rw [string?, symbols, mapM_id_map_some, Option.map_some, String.ofList_toList]

variable (readText : String → Except JsonFault Json) (depth : Nat)

theorem toJsonWith_text (text : String) :
    toJsonWith readText depth (.text (symbols text)) = .ok (.text text) := by
  rw [toJsonWith, string?_symbols]
  rfl

theorem membersToJsonWith_nil : membersToJsonWith readText depth [] = .ok [] := by
  rw [membersToJsonWith]
  rfl

theorem membersToJsonWith_cons (key : String) (value : Document)
    (members : List (List Symbol × Document)) :
    membersToJsonWith readText depth ((symbols key, value) :: members) = (do
      let json ← toJsonWith readText depth value
      return (key, json) :: (← membersToJsonWith readText depth members)) := by
  rw [membersToJsonWith, string?_symbols]
  rfl

theorem embedded?_symbols {key : String} (h : key ≠ embeddedKey) (value : Document)
    (members : List (List Symbol × Document)) :
    embedded? ((symbols key, value) :: members) = none := by
  rw [embedded?, string?_symbols, if_neg fun hk => h (Option.some.inj hk)]

end Symbols

mutual

def nesting : Document → Nat
  | array items => itemsNesting items + 1
  | object members => membersNesting members + 1
  | _ => 0

def itemsNesting : List Document → Nat
  | [] => 0
  | item :: items => max (nesting item) (itemsNesting items)

def membersNesting : List (List Symbol × Document) → Nat
  | [] => 0
  | (_, document) :: members => max (nesting document) (membersNesting members)

end

theorem nesting_le_itemsNesting {item : Document} (h : item ∈ items) :
    item.nesting ≤ itemsNesting items := by
  induction h with
  | head items => exact Nat.le_max_left _ _
  | tail _ _ ih => exact Nat.le_trans ih (Nat.le_max_right _ _)

theorem nesting_le_membersNesting {member : List Symbol × Document} (h : member ∈ members) :
    member.2.nesting ≤ membersNesting members := by
  induction h with
  | head members => exact Nat.le_max_left _ _
  | tail _ _ ih => exact Nat.le_trans ih (Nat.le_max_right _ _)

section Congruence

variable {readText readText' : String → Except JsonFault Json} {depth depth' : Nat}

theorem itemsToJsonWith_congr
    (h : ∀ item ∈ items, toJsonWith readText depth item = toJsonWith readText' depth' item) :
    itemsToJsonWith readText depth items = itemsToJsonWith readText' depth' items := by
  induction items with
  | nil => rfl
  | cons item items ih =>
    rw [List.forall_mem_cons] at h
    rw [itemsToJsonWith, itemsToJsonWith, h.1, ih h.2]

theorem membersToJsonWith_congr
    (h : ∀ m ∈ members, toJsonWith readText depth m.2 = toJsonWith readText' depth' m.2) :
    membersToJsonWith readText depth members = membersToJsonWith readText' depth' members := by
  induction members with
  | nil => rfl
  | cons member members ih =>
    rw [List.forall_mem_cons] at h
    rw [membersToJsonWith, membersToJsonWith, h.1, ih h.2]

theorem toJsonWith_congr (h : document.Unreserved) :
    toJsonWith readText depth document = toJsonWith readText' depth document := by
  induction depth generalizing document with
  | zero => cases document <;> simp only [toJsonWith]
  | succ depth ih =>
    cases document with
    | array items =>
      rw [toJsonWith, toJsonWith, itemsToJsonWith_congr fun item hi => ih (h.item hi)]
    | object members =>
      rw [toJsonWith, toJsonWith, h.embedded?,
        membersToJsonWith_congr fun m hm => ih (h.member hm)]
    | _ => simp only [toJsonWith]

/-- Limits on nesting that a document does not exceed all come to the same. -/
theorem toJsonWith_of_nesting (h : document.nesting ≤ depth) (h' : document.nesting ≤ depth') :
    toJsonWith readText depth document = toJsonWith readText depth' document := by
  induction depth generalizing document depth' with
  | zero =>
    cases document with
    | array items => exact absurd h (Nat.not_succ_le_zero _)
    | object members => exact absurd h (Nat.not_succ_le_zero _)
    | _ => simp only [toJsonWith]
  | succ depth ih =>
    cases document with
    | array items =>
      obtain ⟨depth', rfl⟩ := Nat.exists_eq_succ_of_ne_zero (Nat.ne_zero_of_lt h')
      rw [toJsonWith, toJsonWith, itemsToJsonWith_congr fun item hi => ?_]
      have hi := nesting_le_itemsNesting hi
      exact ih (Nat.le_trans hi (Nat.le_of_succ_le_succ h))
        (Nat.le_trans hi (Nat.le_of_succ_le_succ h'))
    | object members =>
      obtain ⟨depth', rfl⟩ := Nat.exists_eq_succ_of_ne_zero (Nat.ne_zero_of_lt h')
      rw [toJsonWith, toJsonWith, membersToJsonWith_congr fun m hm => ?_]
      have hm := nesting_le_membersNesting hm
      exact ih (Nat.le_trans hm (Nat.le_of_succ_le_succ h))
        (Nat.le_trans hm (Nat.le_of_succ_le_succ h'))
    | _ => simp only [toJsonWith]

end Congruence

def readMember? (depth : Nat) (member : List Symbol × Document) : Option (String × Json) := do
  return (← string? member.1, ← toJson? depth member.2)

theorem toOption_spelled {α : Type} (a : Option α) : (spelled a).toOption = a := by
  cases a <;> rfl

theorem itemsToJsonWith_toOption (depth : Nat) (items : List Document) :
    (itemsToJsonWith parse depth items).toOption = items.mapM (toJson? depth) := by
  induction items with
  | nil => rfl
  | cons item items ih =>
    rw [itemsToJsonWith, List.mapM_cons, toOption_bind]
    simp only [toOption_bind, ih]
    rfl

theorem membersToJsonWith_toOption (depth : Nat) (members : List (List Symbol × Document)) :
    (membersToJsonWith parse depth members).toOption = members.mapM (readMember? depth) := by
  induction members with
  | nil => rfl
  | cons member members ih =>
    rw [membersToJsonWith, List.mapM_cons, toOption_bind, toOption_spelled, readMember?, toJson?]
    simp only [toOption_bind, ih]
    cases string? member.1 <;> cases toJsonWith parse depth member.2 <;> rfl

@[simp] theorem toJson?_null : toJson? depth .null = some .null := by
  simp [toJson?, toJsonWith, Except.toOption, pure, Except.pure]

@[simp] theorem toJson?_bool (b : Bool) : toJson? depth (.bool b) = some (.bool b) := by
  simp [toJson?, toJsonWith, Except.toOption, pure, Except.pure]

@[simp] theorem toJson?_number (n : Numeral) :
    toJson? depth (.number n) = n.value?.map .number := by
  rw [toJson?, toJsonWith, toOption_bind, toOption_spelled, Option.map_eq_bind]
  rfl

@[simp] theorem toJson?_text (t : List Symbol) :
    toJson? depth (.text t) = (string? t).map .text := by
  rw [toJson?, toJsonWith, toOption_bind, toOption_spelled, Option.map_eq_bind]
  rfl

theorem toJson?_symbols (depth : Nat) (text : String) :
    toJson? depth (.text (symbols text)) = some (.text text) := by
  rw [toJson?_text, string?_symbols]
  rfl

@[simp] theorem toJson?_broken : toJson? depth .broken = none := by
  cases depth <;> rfl

@[simp] theorem toJson?_zero_array (items : List Document) :
    toJson? 0 (.array items) = none := by
  rw [toJson?, toJsonWith]
  rfl

@[simp] theorem toJson?_zero_object (members : List (List Symbol × Document)) :
    toJson? 0 (.object members) = none := by
  rw [toJson?, toJsonWith]
  rfl

theorem toJson?_array (depth : Nat) (items : List Document) :
    toJson? (depth + 1) (.array items) = (items.mapM (toJson? depth)).map .array := by
  rw [toJson?, toJsonWith, toOption_bind, itemsToJsonWith_toOption, Option.map_eq_bind]
  rfl

theorem toJson?_object (h : embedded? members = none) (depth : Nat) :
    toJson? (depth + 1) (.object members) =
      (members.mapM (readMember? depth)).map fun jsons => .object (sortMembers jsons) := by
  rw [toJson?, toJsonWith, h, toOption_bind, membersToJsonWith_toOption, Option.map_eq_bind]
  rfl

theorem readMember?_eq_some_iff {member : List Symbol × Document} {key : String} {json : Json} :
    readMember? depth member = some (key, json) ↔
      string? member.1 = some key ∧ toJson? depth member.2 = some json := by
  cases hk : string? member.1 <;> cases hj : toJson? depth member.2 <;> simp [readMember?, hk, hj]

theorem map_fst_of_readMembers {jsons : List (String × Json)}
    (h : members.mapM (readMember? depth) = some jsons) : jsons.map (·.1) = keys members := by
  replace h := forall₂_of_mapM h
  induction h with
  | nil => rfl
  | cons hm _ ih =>
    rw [List.map_cons, ih, keys_cons (readMember?_eq_some_iff.mp hm).1]

section Readability

/-- The document can be read: its numbers are in range, and its strings have no gaps. -/
inductive Readable : Document → Prop
  | null : Readable .null
  | bool (b : Bool) : Readable (.bool b)
  | number {n : Numeral} : n.value?.isSome → Readable (.number n)
  | text {content : List Symbol} : none ∉ content → Readable (.text content)
  | array {items : List Document} : (∀ item ∈ items, Readable item) → Readable (.array items)
  | object {members : List (List Symbol × Document)} :
      (∀ m ∈ members, none ∉ m.1) → (∀ m ∈ members, Readable m.2) → Readable (.object members)

theorem isSome_string?_iff {content : List Symbol} : (string? content).isSome ↔ none ∉ content := by
  rw [string?, Option.isSome_map, isSome_list_mapM_iff]
  constructor
  · intro h hnone
    exact Bool.false_ne_true (h none hnone)
  · intro h symbol hs
    exact Option.isSome_iff_ne_none.mpr fun hnone => h (hnone ▸ hs)

theorem isSome_readMember?_iff {member : List Symbol × Document} :
    (readMember? depth member).isSome ↔ none ∉ member.1 ∧ (toJson? depth member.2).isSome := by
  rw [← isSome_string?_iff]
  cases hk : string? member.1 <;> cases hj : toJson? depth member.2 <;> simp [readMember?, hk, hj]

theorem isSome_toJson?_array_iff : (toJson? (depth + 1) (.array items)).isSome ↔
    ∀ item ∈ items, (toJson? depth item).isSome := by
  rw [toJson?_array, Option.isSome_map, isSome_list_mapM_iff]

theorem isSome_toJson?_object_iff (h : (Document.object members).Unmarked) :
    (toJson? (depth + 1) (.object members)).isSome ↔
      ∀ m ∈ members, none ∉ m.1 ∧ (toJson? depth m.2).isSome := by
  rw [toJson?_object h.embedded?, Option.isSome_map, isSome_list_mapM_iff]
  simp only [isSome_readMember?_iff]

/-- A document that can be read has a value, unless it nests more than is allowed. -/
theorem Readable.isSome_toJson? (h : document.Readable) (hu : document.Unmarked)
    (hn : document.nesting ≤ depth) : (toJson? depth document).isSome := by
  induction h generalizing depth with
  | null => simp
  | bool b => simp
  | number hv => simpa using hv
  | text hc => simpa using isSome_string?_iff.mpr hc
  | array _ ih =>
    obtain ⟨depth, rfl⟩ := Nat.exists_eq_succ_of_ne_zero (Nat.ne_zero_of_lt hn)
    refine isSome_toJson?_array_iff.mpr fun item hi => ih item hi (hu.item hi) ?_
    exact Nat.le_trans (nesting_le_itemsNesting hi) (Nat.le_of_succ_le_succ hn)
  | object hk _ ih =>
    obtain ⟨depth, rfl⟩ := Nat.exists_eq_succ_of_ne_zero (Nat.ne_zero_of_lt hn)
    refine (isSome_toJson?_object_iff hu).mpr fun m hm => ⟨hk m hm, ih m hm (hu.member hm) ?_⟩
    exact Nat.le_trans (nesting_le_membersNesting hm) (Nat.le_of_succ_le_succ hn)

theorem readable_of_isSome_toJson? {depth : Nat} {document : Document} (hu : document.Unmarked)
    (h : (toJson? depth document).isSome) : document.Readable :=
  match depth, document with
  | _, .null => .null
  | _, .bool b => .bool b
  | _, .number n => .number (by simpa using h)
  | _, .text content => .text (isSome_string?_iff.mp (by simpa using h))
  | depth + 1, .array items =>
    .array fun item hi =>
      readable_of_isSome_toJson? (hu.item hi) (isSome_toJson?_array_iff.mp h item hi)
  | depth + 1, .object members =>
    have hm := (isSome_toJson?_object_iff hu).mp h
    .object (fun m hmem => (hm m hmem).1) fun m hmem =>
      readable_of_isSome_toJson? (hu.member hmem) (hm m hmem).2
  | 0, .array _ => nomatch h
  | 0, .object _ => nomatch h
  | _, .broken => by simp at h

end Readability

end Document

section Rereading

theorem rereadItems?_of_forall {items : List Json} (h : ∀ item ∈ items, item.reread? = some item) :
    rereadItems? items = some items := by
  induction items with
  | nil => rfl
  | cons item items ih =>
    rw [List.forall_mem_cons] at h
    rw [rereadItems?, h.1, ih h.2]
    rfl

theorem rereadMembers?_of_forall {members : List (String × Json)}
    (h : ∀ m ∈ members, m.2.reread? = some m.2) : rereadMembers? members = some members := by
  induction members with
  | nil => rfl
  | cons member members ih =>
    rw [List.forall_mem_cons] at h
    rw [rereadMembers?, h.1, ih h.2]
    rfl

theorem reread?_object {members : List (String × Json)}
    (hk : Document.embeddedKey ∉ members.map (·.1)) (h : ∀ m ∈ members, m.2.reread? = some m.2) :
    (object members).reread? = some (object members) := by
  cases members with
  | nil => rfl
  | cons member members =>
    rw [List.map_cons, List.mem_cons, not_or] at hk
    rw [List.forall_mem_cons] at h
    rw [reread?.eq_def]
    dsimp only
    rw [if_neg (Ne.symm hk.1), h.1, rereadMembers?_of_forall h.2]
    rfl

/-- A value that was read from a document without embedded texts is read anew as itself. -/
theorem Document.reread?_of_toJson? {document : Document} {depth : Nat} {json : Json}
    (hd : document.KeysDistinct) (hu : document.Unreserved)
    (h : document.toJson? depth = some json) : json.reread? = some json := by
  induction depth generalizing document json with
  | zero => cases document <;> simp at h <;> grind [reread?]
  | succ depth ih =>
    cases document with
    | array items =>
      rw [toJson?_array, Option.map_eq_some_iff] at h
      obtain ⟨jsons, hj, rfl⟩ := h
      have hitems : ∀ json ∈ jsons, json.reread? = some json := by
        intro json hmem
        obtain ⟨item, hi, hjson⟩ := exists_of_mem_of_mapM hj hmem
        exact ih (hd.item hi) (hu.item hi) hjson
      rw [reread?, rereadItems?_of_forall hitems]
      rfl
    | object members =>
      rw [toJson?_object hu.embedded?, Option.map_eq_some_iff] at h
      obtain ⟨jsons, hj, rfl⟩ := h
      have hkeys := map_fst_of_readMembers hj
      have hperm : (sortMembers jsons).Perm jsons := sortMembers_perm (hkeys ▸ hd _ .self)
      refine reread?_object ?_ fun json hmem => ?_
      · rw [(hperm.map _).mem_iff, hkeys]
        exact hu _ .self
      · obtain ⟨member, hm, hjson⟩ := exists_of_mem_of_mapM hj (hperm.mem_iff.mp hmem)
        exact ih (hd.member hm) (hu.member hm) (readMember?_eq_some_iff.mp hjson).2
    | _ => simp at h <;> grind [reread?]

end Rereading

end Rulebook.Json
