import Rulebook.Proofs.Numeral.Writing
import Rulebook.Proofs.Rendering
import Rulebook.Proofs.SafeIntegers
import Rulebook.Rule.Evaluation

/-! # Numbers as they are displayed

A number is displayed as `Infinity`, as an integer without a point, or by its shortest digits in
positional notation. Each of these is a literal of the number, so that a number which has been shown
can be put into a rule as it is.
-/

namespace Rulebook

open Binary64 (maxSafe)

namespace Numeral

variable {text : String} {x : Binary64}

theorem isPlain_of_denotes (h : Denotes text.toList x) : Operand.IsPlain text := by
  have hother (c : Char) (hc : ¬ (isDecimalChar c = true ∨ c ∈ "Infinity".toList)) :
      c ∉ text.toList := mt (h.forall_char c) hc
  refine ⟨?_, fun c hc => ⟨h.not_blank c hc, ?_, ?_⟩, ?_⟩
  · rintro rfl
    exact not_denotes_nil h
  · rintro rfl
    exact hother '(' (by decide) hc
  · rintro rfl
    exact hother ')' (by decide) hc
  · simp only [List.mem_cons, List.not_mem_nil, or_false]
    rintro (rfl | rfl | rfl | rfl | rfl)
    · exact hother 'A' (by decide) (by decide)
    · exact hother 'O' (by decide) (by decide)
    · exact hother '>' (by decide) (by decide)
    · exact hother '<' (by decide) (by decide)
    · exact hother '=' (by decide) (by decide)

end Numeral

namespace Value

open Numeral (minus sign_minus)

variable {x : Binary64}

/-- A number is displayed as infinity, as a safe integer or by its shortest digits. -/
inductive Displays : Binary64 → List Char → Prop
  | infinity (negative : Bool) :
      Displays (.infinity negative) (minus negative ++ "Infinity".toList)
  | integer {x : Binary64} {k : Int} : k.natAbs ≤ maxSafe → (Binary64.ofInt k).eq x = true →
      Displays x (Json.writeInteger k)
  | positional {negative : Bool} {m : Magnitude} : m.isFinite = true →
      (∀ k : Int, k.natAbs ≤ maxSafe → (Binary64.ofInt k).eq (.signed negative m) = false) →
      Displays (.signed negative m) (minus negative ++
        Decimal.positional (Decimal.digits (Decimal.shortest .up m).coefficient)
          (Decimal.shortest .up m).exponent)

theorem toList_sign (negative : Bool) :
    (if negative then "-" else "").toList = minus negative := by
  cases negative <;> rfl

theorem displays_displayNumber (hx : x ≠ .nan) : Displays x (displayNumber x).toList := by
  cases x with
  | nan => exact absurd rfl hx
  | signed negative m =>
    rw [displayNumber]
    dsimp only
    cases hfinite : m.isFinite with
    | false =>
      rw [Bool.not_false, if_pos rfl, String.toList_append, toList_sign,
        Magnitude.isFinite_eq_false_iff.mp hfinite]
      exact .infinity negative
    | true =>
      rw [Bool.not_true, if_neg Bool.false_ne_true]
      cases hsafe : (Binary64.signed negative m).safeInt? with
      | some k =>
        obtain ⟨hk, heq⟩ := Binary64.safeInt?_eq_some_iff.mp hsafe
        dsimp only
        rw [String.toList_ofList]
        exact .integer hk heq
      | none =>
        dsimp only
        rw [String.toList_append, toList_sign, String.toList_ofList]
        refine .positional hfinite fun k hk => ?_
        rw [← Bool.not_eq_true]
        intro heq
        exact nomatch hsafe.symm.trans (Binary64.safeInt?_eq_some_iff.mpr ⟨hk, heq⟩)

/-- Every form is that of a number, the one that is displayed, but with the only zero positive. -/
theorem denotes_of_displays {cs : List Char} (h : Displays x cs) :
    Numeral.Denotes cs x.dropZeroSign := by
  cases h with
  | infinity negative => exact .signed (sign_minus negative) .infinity
  | integer hk heq =>
    rw [← Binary64.ofInt_of_safeInt? (Binary64.safeInt?_eq_some_iff.mpr ⟨hk, heq⟩)]
    exact Numeral.denotes_writeInteger _
  | @positional negative m hfinite hlarge =>
    have hzero : (Binary64.signed negative m).isZero = false := by
      rw [← Bool.not_eq_true]
      intro hm
      have heq := Binary64.ofInt_zero_eq_of_isZero hm
      exact Bool.false_ne_true ((hlarge 0 (Nat.zero_le _)).symm.trans heq)
    rw [Binary64.dropZeroSign, hzero, if_neg Bool.false_ne_true]
    have hvalue := Decimal.toMagnitude_shortest .up m
    generalize Decimal.shortest .up m = d at hvalue ⊢
    have hdecimal := Numeral.denotes_positional (Numeral.digits_ne_nil d.coefficient)
      (Numeral.allDigits_digits d.coefficient) d.exponent
    rw [Numeral.digitsValue_digits] at hdecimal
    exact .signed (sign_minus negative) (.decimal (hvalue ▸ hdecimal))

/-- What is displayed for a number is a literal of it that a rule can hold, zero being positive. -/
theorem displayed_number_reads_back (x : Binary64) (hx : x ≠ .nan) :
    Displays x (displayNumber x).toList ∧
    Numeral.literal? (displayNumber x) = some x.dropZeroSign ∧ x.dropZeroSign.eq x = true ∧
    Operand.IsPlain (displayNumber x) ∧
    compileRule (displayNumber x) = .ok (.operand (displayNumber x)) ∧
    ∀ record : Record, (Expression.operand (displayNumber x)).evaluate record =
      .ok (.number x.dropZeroSign) := by
  have hdisplays := displays_displayNumber hx
  have hdenotes := denotes_of_displays hdisplays
  generalize displayNumber x = text at hdisplays hdenotes ⊢
  have hliteral := Numeral.literal?_of_denotes hdenotes
  have hplain := Numeral.isPlain_of_denotes hdenotes
  have hcompile : compileRule (Expression.operand text).render = .ok (.operand text) :=
    compileRule_render_iff.mpr ⟨show 1 ≤ 100 by decide, List.forall_mem_singleton.mpr hplain⟩
  rw [Expression.render] at hcompile
  refine ⟨hdisplays, hliteral, Binary64.dropZeroSign_eq hx, hplain, hcompile, fun record => ?_⟩
  rw [Expression.evaluate, Operand.value, Operand.resolve, hliteral]
  rfl

theorem displayed_number_reads_back_extremes :
    let least := Binary64.signed false (.ofRank 1)
    let text := "0." ++ String.ofList (List.replicate 323 '0') ++ "5"
    let largeInteger := Binary64.signed true (.ofNat (2 ^ 53))
    Numeral.literal? text = some least ∧ compileRule text = .ok (.operand text) ∧
      Numeral.literal? "-9007199254740992" = some largeInteger ∧
      Numeral.literal? "0" = some .zero ∧ Binary64.zero.eq (.signed true .zero) = true := by
  intro least text largeInteger
  have htext : displayNumber least = text := by decide +kernel
  have hinteger : displayNumber largeInteger = "-9007199254740992" := by decide +kernel
  have hzero : displayNumber (.signed true .zero) = "0" := by decide +kernel
  obtain ⟨-, hleast, -, -, hcompile, -⟩ :=
    displayed_number_reads_back least Binary64.noConfusion
  obtain ⟨-, hliteral, -⟩ := displayed_number_reads_back largeInteger Binary64.noConfusion
  obtain ⟨-, hzero', heq, -⟩ :=
    displayed_number_reads_back (.signed true .zero) Binary64.noConfusion
  have hleast' : least.dropZeroSign = least := by decide +kernel
  have hinteger' : largeInteger.dropZeroSign = largeInteger := by decide +kernel
  rw [htext, hleast'] at hleast
  rw [htext] at hcompile
  rw [hinteger, hinteger'] at hliteral
  rw [hzero] at hzero'
  exact ⟨hleast, hcompile, hliteral, hzero', heq⟩

end Value

end Rulebook
