import Rulebook.Proofs.Mirroring
import Rulebook.Proofs.Numeral.Literals

/-! # Numbers as texts in comparisons

A text that is a number from end to end also begins with that number, and with no longer one,
since what surrounds it is blank. A comparison therefore makes no difference between the text and
the number, unless both sides are texts whose equality is asked for.
-/

namespace Rulebook

namespace Numeral

variable {t : List Char} {c : Char} {x : Binary64} {text : String}

/-- A zero, the letter of a radix and at least one of its digits. -/
def IsRadixForm (t : List Char) : Prop :=
  ∃ (radix : Radix) (letter : Char) (ds : List Char), t = '0' :: letter :: ds ∧
    letter ∈ radix.letters ∧ ds ≠ [] ∧ ∀ c ∈ ds, c ∈ radix.digits

theorem longestNumber_append {blanks : List Char} (h : Denotes t x)
    (hblanks : ∀ c ∈ blanks, Text.isBlank c = true) : LongestNumber (t ++ blanks) t x := by
  refine ⟨List.prefix_append _ _, h, fun q y hq hy => ?_⟩
  by_contra hlonger
  obtain ⟨more, rfl⟩ : t <+: q :=
    List.prefix_of_prefix_length_le (List.prefix_append _ _) hq (Nat.le_of_not_le hlonger)
  obtain ⟨c, more, rfl⟩ := List.exists_cons_of_ne_nil (l := more) (by rintro rfl; simp at hlonger)
  have hmore : c :: more <+: blanks := (List.prefix_append_right_inj t).mp hq
  have hblank := hblanks c (hmore.subset List.mem_cons_self)
  have hnot := hy.not_blank c (by simp)
  exact Bool.false_ne_true (hnot.symm.trans hblank)

theorem denotes_of_literal? (h : literal? text = some x) (hblank : Text.trim text.toList ≠ [])
    (hradix : ¬ IsRadixForm (Text.trim text.toList)) : Denotes (Text.trim text.toList) x := by
  have hliteral := literal?_eq_some_iff.mp h
  generalize Text.trim text.toList = t at *
  cases hliteral with
  | blank => exact absurd rfl hblank
  | radix hletter hne hdigits => exact absurd ⟨_, _, _, rfl, hletter, hne, hdigits⟩ hradix
  | number hx => exact hx

theorem leading?_of_denotes (h : Denotes (Text.trim text.toList) x) : leading? text = some x := by
  obtain ⟨blanks, hdrop, hblanks⟩ := Text.exists_dropBlanks_eq text.toList
  refine leading?_eq_some_iff.mpr ⟨Text.trim text.toList, ?_⟩
  rw [hdrop]
  exact longestNumber_append h hblanks

end Numeral

namespace Relation

/-- Both comparisons give the same truth value, or both are refused. -/
inductive Agree : Except Fault Value → Except Fault Value → Prop
  | holds (b : Bool) : Agree (.ok (.bool b)) (.ok (.bool b))
  | refused (fault other : Fault) : Agree (.error fault) (.error other)

variable {relation : Relation} {l l' r r' : Value}

theorem compareNumbers_agree (hl : l.toNumber? = l'.toNumber?) (hr : r.toNumber? = r'.toNumber?) :
    Agree (relation.compareNumbers l r) (relation.compareNumbers l' r') := by
  unfold compareNumbers
  rw [hl, hr]
  cases l'.toNumber? with
  | none => exact .refused _ _
  | some x =>
    cases r'.toNumber? with
    | none => exact .refused _ _
    | some y => exact .holds _

/-- A text is compared as the number it counts as, but for its equality with another text. -/
theorem apply_agree {text : String} {x : Binary64} (hx : (Value.text text).toNumber? = some x)
    (hne : x ≠ .nan) {v : Value} (hv : relation ≠ .equal ∨ ∀ t, v ≠ .text t) :
    Agree (relation.apply (.text text) v) (relation.apply (.number x) v) ∧
      Agree (relation.apply v (.text text)) (relation.apply v (.number x)) := by
  have hnumber : (Value.text text).toNumber? = (Value.number x).toNumber? := by
    cases x with
    | nan => exact absurd rfl hne
    | signed negative m => exact hx
  constructor
  · have htext : relation ≠ .equal ∨ ∀ s t, Value.text text = .text s → v ≠ .text t :=
      hv.imp_right fun h _ t _ => h t
    have hother : relation ≠ .equal ∨ ∀ s t, Value.number x = .text s → v ≠ .text t :=
      .inr fun _ _ h => nomatch h
    rw [apply_eq_compareNumbers htext, apply_eq_compareNumbers hother]
    exact compareNumbers_agree hnumber rfl
  · have htext : relation ≠ .equal ∨ ∀ s t, v = .text s → Value.text text ≠ .text t :=
      hv.imp_right fun h s _ hs => absurd hs (h s)
    have hother : relation ≠ .equal ∨ ∀ s t, v = .text s → Value.number x ≠ .text t :=
      .inr fun _ _ _ h => nomatch h
    rw [apply_eq_compareNumbers htext, apply_eq_compareNumbers hother]
    exact compareNumbers_agree rfl hnumber

/-- A text that is a decimal literal begins with that number, and compares as it does. -/
theorem text_compares_as_number {text : String} {x : Binary64}
    (h : Numeral.literal? text = some x) (hblank : Text.trim text.toList ≠ [])
    (hradix : ¬ Numeral.IsRadixForm (Text.trim text.toList)) :
    Numeral.leading? text = some x ∧
    Numeral.filteredLiteral text = some (some x) ∧
    Numeral.leadingInBytes text = some (some x) ∧
    ∀ (relation : Relation) (v : Value), (relation ≠ .equal ∨ ∀ t, v ≠ .text t) →
      Agree (relation.apply (.text text) v) (relation.apply (.number x) v) ∧
        Agree (relation.apply v (.text text)) (relation.apply v (.number x)) := by
  have hdenotes := Numeral.denotes_of_literal? h hblank hradix
  have hleading := Numeral.leading?_of_denotes hdenotes
  refine ⟨hleading, h ▸ Numeral.filteredLiteral_eq text,
    hleading ▸ Numeral.leadingInBytes_eq text, fun relation v => apply_agree hleading ?_⟩
  obtain ⟨negative, m, rfl⟩ := hdenotes.exists_signed
  exact Binary64.noConfusion

theorem text_compares_as_number_spaced :
    let text := "\u3000-.5e1 "
    let x := Binary64.signed true (.ofDecimal 5 0)
    Numeral.literal? text = some x ∧ Text.trim text.toList ≠ [] ∧
      ¬ Numeral.IsRadixForm (Text.trim text.toList) ∧ Numeral.leading? text = some x ∧
      Agree (less.apply (.text text) (.text "3 km")) (less.apply (.number x) (.text "3 km")) ∧
      Agree (equal.apply (.bool true) (.text text)) (equal.apply (.bool true) (.number x)) := by
  intro text x
  have hliteral : Numeral.literal? "\u3000-.5e1 " = some (.signed true (.ofDecimal 5 0)) := rfl
  have htrim : Text.trim "\u3000-.5e1 ".toList = "-.5e1".toList := by decide
  have hradix : ¬ Numeral.IsRadixForm (Text.trim text.toList) := by
    rw [htrim]
    rintro ⟨_, _, _, h, -⟩
    exact absurd (List.cons.inj h).1 (by decide)
  have hblank : Text.trim text.toList ≠ [] := by
    rw [htrim]
    decide
  obtain ⟨hleading, -, -, hagree⟩ := text_compares_as_number hliteral hblank hradix
  exact ⟨hliteral, hblank, hradix, hleading, (hagree less _ (.inl Relation.noConfusion)).1,
    (hagree equal (.bool true) (.inr fun _ h => nomatch h)).2⟩

/-- A blank text is zero but begins with no number, and of another radix only the zero is read. -/
example : Numeral.literal? " " = some .zero ∧ Numeral.leading? " " = none ∧
    Numeral.leading? "0x1F" = some .zero := ⟨rfl, rfl, rfl⟩

end Relation

end Rulebook
