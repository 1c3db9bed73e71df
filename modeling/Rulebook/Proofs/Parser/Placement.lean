import Mathlib.Data.List.Chain
import Rulebook.Proofs.Parser.Arrangement

/-! # Placement

In a phrase every operator stands between two atoms, no atom follows another one directly and no
parentheses are empty. This can be told from neighbours alone, and it is all that an arrangement
may lack to be a phrase.
-/

namespace Rulebook.Grammar

def StartsAtom (token : String) : Prop := token = "(" ∨ token ∉ symbols

def EndsAtom (token : String) : Prop := token = ")" ∨ token ∉ symbols

/-- The end of an atom is followed by no atom, and everything else is followed by one. -/
def Fits (token next : String) : Prop := EndsAtom token ↔ ¬ StartsAtom next

/-- All neighbours fit, the whole being in parentheses. -/
def InPlace (tokens : List String) : Prop := List.IsChain Fits ("(" :: (tokens ++ [")"]))

instance : DecidablePred StartsAtom := fun _ => inferInstanceAs (Decidable (_ ∨ _))

instance : DecidablePred EndsAtom := fun _ => inferInstanceAs (Decidable (_ ∨ _))

instance : DecidableRel Fits := fun _ _ => inferInstanceAs (Decidable (_ ↔ _))

instance : DecidablePred InPlace := fun _ => inferInstanceAs (Decidable (List.IsChain _ _))

variable {x y token : String} {tokens lefts rights : List String} {signs : List Sign}

theorem isChain_congr_head (h : EndsAtom x ↔ EndsAtom y) :
    List.IsChain Fits (x :: tokens) ↔ List.IsChain Fits (y :: tokens) := by
  rw [List.isChain_cons, List.isChain_cons]
  simp only [Fits, h]

theorem isChain_congr_last (h : StartsAtom x ↔ StartsAtom y) :
    List.IsChain Fits (tokens ++ [x]) ↔ List.IsChain Fits (tokens ++ [y]) := by
  rw [List.isChain_append, List.isChain_append]
  simp [Fits, h]

theorem not_inPlace_nil : ¬ InPlace [] := by
  decide

theorem inPlace_operand (h : token ∉ symbols) : InPlace [token] := by
  have hleft : ¬ EndsAtom "(" := by decide
  have hright : ¬ StartsAtom ")" := by decide
  have hstarts : StartsAtom token := .inr h
  have hends : EndsAtom token := .inr h
  simp [InPlace, Fits, hleft, hright, hstarts, hends]

theorem inPlace_group_iff : InPlace ("(" :: tokens ++ [")"]) ↔ InPlace tokens := by
  have hleft : Fits "(" "(" := by decide
  have hright : Fits ")" ")" := by decide
  change List.IsChain Fits ("(" :: "(" :: (tokens ++ [")"] ++ [")"])) ↔ _
  rw [List.append_assoc, List.isChain_cons_cons, List.singleton_append,
    List.isChain_cons_append_cons_cons]
  simp only [hleft, hright, List.isChain_singleton, and_true, true_and]
  rfl

theorem inPlace_joined_iff {level : Level} {op : Operator} (hj : Joins level token op) :
    InPlace (lefts ++ token :: rights) ↔ InPlace lefts ∧ InPlace rights := by
  have hstarts : StartsAtom token ↔ StartsAtom ")" := by cases hj <;> decide
  have hends : EndsAtom token ↔ EndsAtom "(" := by cases hj <;> decide
  rw [InPlace, List.append_assoc, List.cons_append, List.isChain_cons_split,
    isChain_congr_head hends, ← List.cons_append, isChain_congr_last hstarts]
  rfl

theorem Phrase.inPlace {level : Level} {e : Expression} (h : Phrase level tokens e) :
    InPlace tokens := by
  induction h with
  | operand h => exact inPlace_operand h
  | group _ ih => exact inPlace_group_iff.mpr ih
  | single _ ih => exact ih
  | chain hj _ _ ihl ihr => exact (inPlace_joined_iff hj).mpr ⟨ihl, ihr⟩

theorem Arranges.ends (h : Arranges .atom tokens signs) :
    (∀ x ∈ tokens.head?, StartsAtom x) ∧ ∀ x ∈ tokens.getLast?, EndsAtom x := by
  generalize hlevel : Level.atom = level at h
  induction h with
  | nothing => simp
  | operand h => simp [StartsAtom, EndsAtom, h]
  | group _ _ =>
    rw [List.getLast?_concat]
    simp [StartsAtom, EndsAtom]
  | @beside lefts rights _ _ _ _ ihl ihr =>
    obtain ⟨hl, hl'⟩ := ihl rfl
    obtain ⟨hr, hr'⟩ := ihr rfl
    refine ⟨fun x hx => ?_, fun x hx => ?_⟩
    · rw [List.head?_append, Option.mem_def, Option.or_eq_some_iff] at hx
      rcases hx with hx | ⟨-, hx⟩
      · exact hl x hx
      · exact hr x hx
    · rw [List.getLast?_append, Option.mem_def, Option.or_eq_some_iff] at hx
      rcases hx with hx | ⟨-, hx⟩
      · exact hr' x hx
      · exact hl' x hx
  | single _ ih =>
    subst hlevel
    exact ih rfl
  | chain hj _ _ _ _ =>
    subst hlevel
    cases hj

/-- Where all neighbours fit, no two atoms stand side by side. -/
theorem Arranges.eq_nil_or_eq_nil {more : List Sign} (hl : Arranges .atom lefts signs)
    (hr : Arranges .atom rights more) (h : InPlace (lefts ++ rights)) :
    lefts = [] ∨ rights = [] := by
  by_contra hne
  obtain ⟨hlefts, hrights⟩ := not_or.mp hne
  have hx := List.getLast?_eq_some_getLast hlefts
  have hy := List.head?_eq_some_head hrights
  have hends := hl.ends.2 _ hx
  have hstarts := hr.ends.1 _ hy
  have hchain : List.IsChain Fits (("(" :: lefts) ++ (rights ++ [")"])) := by
    simpa only [InPlace, List.append_assoc, List.cons_append] using h
  have hfits := (List.isChain_append.mp hchain).2.2 (lefts.getLast hlefts)
    (by simp [List.getLast?_cons, hx]) (rights.head hrights) (by simp [hy])
  exact hfits.mp hends hstarts

theorem Arranges.phrase_of_inPlace {level : Level} (h : Arranges level tokens signs)
    (hp : InPlace tokens) : ∃ e, Phrase level tokens e := by
  induction h with
  | nothing => exact absurd hp not_inPlace_nil
  | operand h => exact ⟨_, .operand h⟩
  | group _ ih =>
    obtain ⟨e, h⟩ := ih (inPlace_group_iff.mp hp)
    exact ⟨e, .group h⟩
  | beside hl hr ihl ihr =>
    rcases hl.eq_nil_or_eq_nil hr hp with rfl | rfl
    · exact ihr hp
    · rw [List.append_nil] at hp ⊢
      exact ihl hp
  | single _ ih =>
    obtain ⟨e, h⟩ := ih hp
    exact ⟨e, .single h⟩
  | chain hj _ _ ihl ihr =>
    obtain ⟨hl, hr⟩ := (inPlace_joined_iff hj).mp hp
    obtain ⟨left, hleft⟩ := ihl hl
    obtain ⟨right, hright⟩ := ihr hr
    exact ⟨_, .chain hj hleft hright⟩

end Rulebook.Grammar
