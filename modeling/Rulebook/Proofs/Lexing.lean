import Mathlib.Data.List.TakeWhile
import Rulebook.Text.Basic
import Rulebook.Rule.Parser

/-! # Splitting into tokens

Of the characters of ASCII the visible ones are no blanks. Nothing is trimmed off a text without
blanks, and what is trimmed off the end of any other one is blank.

A blank or a parenthesis ends the word before it, whatever that is, so a text may be split at
any of them and its parts read on their own. What comes out are parentheses and words, and a
word on its own is one token.
-/

namespace Rulebook.Text

variable {c : Char} {cs : List Char}

theorem not_blank_of_le (hlo : '!' ≤ c) (hhi : c ≤ '~') : isBlank c = false := by
  have hlo : 0x21 ≤ c.toNat := hlo
  have hhi : c.toNat ≤ 0x7e := hhi
  simp only [isBlank, blankRanges, List.any_cons, List.any_nil, Bool.or_eq_false_iff,
    Bool.and_eq_false_iff, decide_eq_false_iff_not, and_true]
  omega

theorem dropBlanks_of_not_blank (h : ∀ c ∈ cs, isBlank c = false) : dropBlanks cs = cs := by
  cases cs with
  | nil => rfl
  | cons c cs => exact List.dropWhile_cons_of_neg (by simp [h c])

theorem trim_of_not_blank (h : ∀ c ∈ cs, isBlank c = false) : trim cs = cs := by
  have hreverse : dropBlanks cs.reverse = cs.reverse :=
    dropBlanks_of_not_blank fun c hc => h c (List.mem_reverse.mp hc)
  rw [trim, dropBlanks_of_not_blank h, hreverse, List.reverse_reverse]

theorem exists_dropBlanks_eq (cs : List Char) :
    ∃ blanks, dropBlanks cs = trim cs ++ blanks ∧ ∀ c ∈ blanks, isBlank c = true := by
  let back := (dropBlanks cs).reverse
  refine ⟨(back.takeWhile isBlank).reverse, ?_, fun c hc => ?_⟩
  · have h := congrArg List.reverse (List.takeWhile_append_dropWhile (p := isBlank) (l := back))
    rw [List.reverse_append, List.reverse_reverse] at h
    exact h.symm
  · exact List.mem_takeWhile_imp (List.mem_reverse.mp hc)

end Rulebook.Text

namespace Rulebook.Token

def isInner (c : Char) : Bool := !Text.isBlank c && !isParenthesis c

def EndsWord : List Char → Prop
  | [] => True
  | c :: _ => isInner c = false

def IsWord (text : String) : Prop := text ≠ "" ∧ ∀ c ∈ text.toList, isInner c = true

variable {c : Char} {cs rest word : List Char} {text : String}

theorem isBlank_of_not_inner (h : isInner c = false) (hp : isParenthesis c = false) :
    Text.isBlank c = true := by
  simpa [isInner, hp] using h

theorem scan_blank (h : Text.isBlank c = true) :
    scan word (c :: cs) = flush word ++ scan [] cs := by
  rw [scan, if_pos h]

theorem scan_parenthesis (hb : Text.isBlank c = false) (h : isParenthesis c = true) :
    scan word (c :: cs) = flush word ++ String.singleton c :: scan [] cs := by
  rw [scan, if_neg (by simp [hb]), if_pos h]

theorem scan_inner (h : isInner c = true) : scan word (c :: cs) = scan (c :: word) cs := by
  simp only [isInner, Bool.and_eq_true, Bool.not_eq_true'] at h
  rw [scan, if_neg (by simp [h.1]), if_neg (by simp [h.2])]

theorem not_blank_of_parenthesis (h : isParenthesis c = true) : Text.isBlank c = false := by
  simp only [isParenthesis, Bool.or_eq_true, decide_eq_true_eq] at h
  rcases h with rfl | rfl <;> decide

theorem scan_of_endsWord (h : EndsWord rest) : scan word rest = flush word ++ scan [] rest := by
  rcases rest with _ | ⟨c, cs⟩
  · simp [scan, flush]
  cases hp : isParenthesis c with
  | true =>
    have hb := not_blank_of_parenthesis hp
    rw [scan_parenthesis hb hp, scan_parenthesis hb hp]
    rfl
  | false =>
    have hb := isBlank_of_not_inner h hp
    rw [scan_blank hb, scan_blank hb]
    rfl

/-- A text may be split before anything that ends a word. -/
theorem scan_append (h : EndsWord rest) :
    scan word (cs ++ rest) = scan word cs ++ scan [] rest := by
  fun_induction scan word cs with
  | case1 word => exact scan_of_endsWord h
  | case2 word c cs hb ih => rw [List.cons_append, scan_blank hb, ih, List.append_assoc]
  | case3 word c cs hb hp ih =>
    rw [List.cons_append, scan_parenthesis (by simpa using hb) hp, ih, List.append_assoc]
    rfl
  | case4 word c cs hb hp ih =>
    rw [List.cons_append, scan_inner (by simp [isInner, hb, hp]), ih]

theorem tokenize_append_blank (a b : String) (h : Text.isBlank c = true) :
    tokenize (a ++ String.singleton c ++ b) = tokenize a ++ tokenize b := by
  simp only [tokenize, String.toList_append, String.toList_singleton, List.append_assoc,
    List.singleton_append]
  rw [scan_append (by simp [EndsWord, isInner, h]), scan_blank h]
  rfl

theorem tokenize_append_parenthesis (a b : String) (h : isParenthesis c = true) :
    tokenize (a ++ String.singleton c ++ b) = tokenize a ++ String.singleton c :: tokenize b := by
  simp only [tokenize, String.toList_append, String.toList_singleton, List.append_assoc,
    List.singleton_append]
  rw [scan_append (by simp [EndsWord, isInner, h]), scan_parenthesis (not_blank_of_parenthesis h) h]
  rfl

theorem scan_word (h : ∀ c ∈ cs, isInner c = true) : scan word cs = flush (cs.reverse ++ word) := by
  induction cs generalizing word with
  | nil => rfl
  | cons c cs ih =>
    rw [List.forall_mem_cons] at h
    rw [scan_inner h.1, ih h.2, List.reverse_cons, List.append_assoc]
    rfl

theorem tokenize_word (h : IsWord text) : tokenize text = [text] := by
  rw [tokenize, scan_word h.2, List.append_nil, flush, if_neg]
  · simp
  · simpa using h.1

theorem isWord_of_mem_flush (hw : ∀ c ∈ word, isInner c = true) (h : text ∈ flush word) :
    IsWord text := by
  unfold flush at h
  split at h
  · cases h
  · rename_i hne
    rw [List.mem_singleton.mp h]
    refine ⟨?_, fun c hc => hw c (by simpa using hc)⟩
    simpa using hne

theorem parenthesis_or_isWord_of_mem_scan (hw : ∀ c ∈ word, isInner c = true)
    (h : text ∈ scan word cs) : text = "(" ∨ text = ")" ∨ IsWord text := by
  fun_induction scan word cs with
  | case1 word => exact .inr (.inr (isWord_of_mem_flush hw h))
  | case2 word c cs hb ih =>
    rcases List.mem_append.mp h with h | h
    · exact .inr (.inr (isWord_of_mem_flush hw h))
    · exact ih (by simp) h
  | case3 word c cs hb hp ih =>
    rcases List.mem_append.mp h with h | h
    · exact .inr (.inr (isWord_of_mem_flush hw h))
    rcases List.mem_cons.mp h with rfl | h
    · simp only [isParenthesis, Bool.or_eq_true, decide_eq_true_eq] at hp
      rcases hp with rfl | rfl
      · exact .inl rfl
      · exact .inr (.inl rfl)
    · exact ih (by simp) h
  | case4 word c cs hb hp ih =>
    refine ih ?_ h
    rw [List.forall_mem_cons]
    exact ⟨by simp [isInner, hb, hp], hw⟩

theorem parenthesis_or_isWord {rule : String} (h : text ∈ tokenize rule) :
    text = "(" ∨ text = ")" ∨ IsWord text :=
  parenthesis_or_isWord_of_mem_scan (by simp) h

end Rulebook.Token
