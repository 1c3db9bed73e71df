import Mathlib.Data.List.Perm.Basic
import Rulebook.Json.Value

/-! # Members of an object

Putting a member into an object finds its place by the key. Where no key occurs twice, sorting the
members only changes their order.
-/

namespace Rulebook.Json

variable {key name : String} {value : Json} {members : List (String × Json)}

theorem lookup_insertMember :
    lookup name (insertMember key value members) =
      if key = name then some value else lookup name members := by
  induction members with
  | nil => rfl
  | cons member members ih =>
    obtain ⟨k, v⟩ := member
    rw [insertMember]
    split
    · rfl
    · split
      · next hk =>
        subst hk
        rw [lookup, lookup]
        split <;> rfl
      · next hk =>
        rw [lookup, lookup, ih]
        split
        · next hname => rw [if_neg fun h => hk (h.trans hname.symm)]
        · rfl

theorem mem_insertMember {m : String × Json} (h : m ∈ insertMember key value members) :
    m = (key, value) ∨ m ∈ members := by
  induction members with
  | nil => exact .inl (List.mem_singleton.mp h)
  | cons member members ih =>
    rw [insertMember] at h
    split at h
    · exact List.mem_cons.mp h
    · split at h
      · exact (List.mem_cons.mp h).imp_right (List.mem_cons_of_mem _)
      · rcases List.mem_cons.mp h with rfl | h
        · exact .inr List.mem_cons_self
        · exact (ih h).imp_right (List.mem_cons_of_mem _)

theorem insertMember_perm (h : key ∉ members.map (·.1)) :
    (insertMember key value members).Perm ((key, value) :: members) := by
  induction members with
  | nil => exact .refl _
  | cons member members ih =>
    rw [List.map_cons, List.mem_cons, not_or] at h
    rw [insertMember]
    split
    · exact .refl _
    · rw [if_neg h.1]
      exact ((ih h.2).cons _).trans (.swap _ _ _)

theorem foldl_insertMember_perm (sorted : List (String × Json))
    (h : ((sorted ++ members).map (·.1)).Nodup) :
    (members.foldl (fun sorted (k, v) => insertMember k v sorted) sorted).Perm
      (sorted ++ members) := by
  induction members generalizing sorted with
  | nil =>
    rw [List.append_nil]
    exact .refl _
  | cons member members ih =>
    obtain ⟨k, v⟩ := member
    have hmiddle : (sorted ++ (k, v) :: members).Perm ((k, v) :: (sorted ++ members)) :=
      List.perm_middle
    have hcons : (((k, v) :: (sorted ++ members)).map (·.1)).Nodup :=
      (hmiddle.map _).nodup_iff.mp h
    have hfresh : k ∉ sorted.map (·.1) := by
      rw [List.map_cons, List.nodup_cons, List.map_append, List.mem_append, not_or] at hcons
      exact hcons.1.1
    have hinsert : (insertMember k v sorted ++ members).Perm ((k, v) :: (sorted ++ members)) :=
      (insertMember_perm hfresh).append_right members
    exact (ih _ ((hinsert.map _).nodup_iff.mpr hcons)).trans (hinsert.trans hmiddle.symm)

theorem sortMembers_perm (h : (members.map (·.1)).Nodup) : (sortMembers members).Perm members :=
  foldl_insertMember_perm [] h

end Rulebook.Json
