import Rulebook.Proofs.Lexing

/-! # Spacing

How a rule is spaced does not matter beyond where its tokens end. Its tokens are its own text but
for the blanks, and with single spaces between them they are its tokens again. The scan also comes
to what is left between blanks once every parenthesis stands between two of them.
-/

namespace Rulebook.Token

variable {c : Char} {cs word : List Char} {text : String} {tokens : List String}

def IsToken (text : String) : Prop := text = "(" ∨ text = ")" ∨ IsWord text

section Concatenation

@[simp] theorem flatMap_flush (word : List Char) :
    (flush word).flatMap String.toList = word.reverse := by
  cases word <;> simp [flush]

theorem flatMap_scan (word cs : List Char) :
    (scan word cs).flatMap String.toList = word.reverse ++ cs.filter (!Text.isBlank ·) := by
  fun_induction scan word cs with
  | case1 word => simp
  | case2 word c cs hb ih => simp [ih, hb]
  | case3 word c cs hb hp ih => simp [ih, hb]
  | case4 word c cs hb hp ih => simp [ih, hb]

theorem join_tokenize (rule : String) :
    String.join (tokenize rule) = String.ofList (rule.toList.filter (!Text.isBlank ·)) := by
  rw [← String.toList_inj, String.toList_join, String.toList_ofList]
  exact flatMap_scan [] rule.toList

end Concatenation

section Joining

theorem tokenize_token (h : IsToken text) : tokenize text = [text] := by
  rcases h with rfl | rfl | hw
  · rfl
  · rfl
  · exact tokenize_word hw

/-- Tokens that are joined by single spaces come apart again. -/
theorem tokenize_intercalate (h : ∀ text ∈ tokens, IsToken text) :
    tokenize (" ".intercalate tokens) = tokens := by
  induction tokens with
  | nil => rfl
  | cons first rest ih =>
    rw [List.forall_mem_cons] at h
    cases rest with
    | nil => rw [String.intercalate_singleton, tokenize_token h.1]
    | cons second rest =>
      have hspace : Text.isBlank ' ' = true := rfl
      have happend := tokenize_append_blank first (" ".intercalate (second :: rest)) hspace
      rw [String.intercalate_cons_cons]
      exact happend.trans (by rw [tokenize_token h.1, ih h.2]; rfl)

end Joining

section Padding

def padded (cs : List Char) : List Char :=
  cs.flatMap fun c => if isParenthesis c then [' ', c, ' '] else [c]

def words (cs : List Char) : List String :=
  ((cs.splitOnP Text.isBlank).filter (!·.isEmpty)).map String.ofList

theorem not_parenthesis_of_blank (h : Text.isBlank c = true) : isParenthesis c = false := by
  cases hp : isParenthesis c with
  | false => rfl
  | true => exact absurd h (by simp [not_blank_of_parenthesis hp])

theorem padded_parenthesis (h : isParenthesis c = true) :
    padded (c :: cs) = ' ' :: c :: ' ' :: padded cs := by
  simp [padded, h]

theorem padded_cons (h : isParenthesis c = false) : padded (c :: cs) = c :: padded cs := by
  simp [padded, h]

theorem flush_append (word : List Char) (rest : List (List Char)) :
    flush word ++ (rest.filter (!·.isEmpty)).map String.ofList =
      ((word.reverse :: rest).filter (!·.isEmpty)).map String.ofList := by
  cases word <;> simp [flush]

theorem scan_eq_words (word cs : List Char) : scan word cs =
    ((List.splitOnPPrepend Text.isBlank (padded cs) word).filter (!·.isEmpty)).map
      String.ofList := by
  have hspace : Text.isBlank ' ' = true := rfl
  fun_induction scan word cs with
  | case1 word => simpa [padded] using flush_append word []
  | case2 word c cs hb ih =>
    rw [padded_cons (not_parenthesis_of_blank hb), List.splitOnPPrepend_cons_pos hb, ih,
      ← flush_append]
    rfl
  | case3 word c cs hb hp ih =>
    have hc : Text.isBlank c = false := by simpa using hb
    rw [padded_parenthesis hp, List.splitOnPPrepend_cons_pos hspace,
      List.splitOnP_eq_splitOnPPrepend, List.splitOnPPrepend_cons_neg hc,
      List.splitOnPPrepend_cons_pos hspace, ih, ← flush_append]
    rfl
  | case4 word c cs hb hp ih =>
    rw [padded_cons (by simpa using hp), List.splitOnPPrepend_cons_neg (by simpa using hb), ih]

/-- The scan in one pass comes to the same as padding and then splitting. -/
theorem tokenize_eq_words (rule : String) : tokenize rule = words (padded rule.toList) :=
  scan_eq_words [] rule.toList

end Padding

/-- Tokens are parentheses and words, and blanks around them do not matter. -/
theorem tokens_are_canonical :
    (∀ (a b : String) (c : Char), Text.isBlank c = true →
      tokenize (a ++ String.singleton c ++ b) = tokenize a ++ tokenize b) ∧
    (∀ (a b : String) (c : Char), isParenthesis c = true →
      tokenize (a ++ String.singleton c ++ b) =
        tokenize a ++ [String.singleton c] ++ tokenize b) ∧
    (∀ rule, ∀ text ∈ tokenize rule, IsToken text) ∧
    (∀ rule, String.join (tokenize rule) =
      String.ofList (rule.toList.filter (!Text.isBlank ·))) ∧
    (∀ tokens, (∀ text ∈ tokens, IsToken text) → tokenize (" ".intercalate tokens) = tokens) ∧
    (∀ rule, tokenize (" ".intercalate (tokenize rule)) = tokenize rule) ∧
    ∀ rule, tokenize rule = words (padded rule.toList) := by
  refine ⟨fun a b c => tokenize_append_blank a b, fun a b c h => ?_,
    fun rule text => parenthesis_or_isWord, join_tokenize, fun tokens => tokenize_intercalate,
    fun rule => tokenize_intercalate fun text => parenthesis_or_isWord, tokenize_eq_words⟩
  rw [tokenize_append_parenthesis a b h, List.append_assoc, List.singleton_append]

theorem tokens_are_canonical_quoted :
    tokenize ("('New" ++ String.singleton '\u3000' ++ "York')") =
      tokenize "('New" ++ tokenize "York')" ∧
    tokenize ("((age>30" ++ String.singleton ')' ++ "OR x)") =
      tokenize "((age>30" ++ [")"] ++ tokenize "OR x)" ∧
    IsToken "York'" ∧
    tokenize (" ".intercalate ["(", "'New", "York'", ")"]) = ["(", "'New", "York'", ")"] := by
  obtain ⟨hblank, hparenthesis, htoken, -, hjoined, -⟩ := tokens_are_canonical
  have htokens : tokenize "('New York')" = ["(", "'New", "York'", ")"] := by decide
  refine ⟨hblank _ _ _ rfl, hparenthesis _ _ _ rfl, ?_, hjoined _ ?_⟩
  · exact htoken "('New York')" _ (by simp [htokens])
  · exact htokens ▸ htoken "('New York')"

end Rulebook.Token
