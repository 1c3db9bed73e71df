import Rulebook.Proofs.Parser.Conservation
import Rulebook.Proofs.Parser.Waiting

/-! # Faults of parsing

A parser that finds a sequence malformed tells why, and what it tells is true of the sequence: the
position is that of the parenthesis without partner or of the operator that it names, and a count
is the number of parts that the operators leave unconnected.
-/

namespace Rulebook

namespace Grammar

/-- The parentheses at two positions belong together: what stands between them is balanced. -/
def Matches (tokens : List String) (left right : Nat) : Prop :=
  ∃ before inner after, tokens = before ++ "(" :: (inner ++ ")" :: after) ∧ Balanced inner ∧
    left = before.length ∧ right = before.length + inner.length + 1

structure IsFirstUnmatched (tokens : List String) (right : Nat) : Prop where
  token : tokens[right]? = some ")"
  unmatched : ∀ left, ¬ Matches tokens left right
  first : ∀ other < right, tokens[other]? = some ")" → ∃ left, Matches tokens left other

/-- The last left parenthesis that no right one belongs to. -/
structure IsLastUnclosed (tokens : List String) (left : Nat) : Prop where
  token : tokens[left]? = some "("
  unclosed : ∀ right, ¬ Matches tokens left right
  last : ∀ other > left, tokens[other]? = some "(" → ∃ right, Matches tokens other right

section Partners

variable {token : String} {tokens before inner after : List String} {position : Nat}

theorem exists_append_of_getElem? (h : tokens[position]? = some token) :
    ∃ before after, tokens = before ++ token :: after ∧ before.length = position := by
  obtain ⟨hlt, rfl⟩ := List.getElem?_eq_some_iff.mp h
  refine ⟨tokens.take position, tokens.drop (position + 1), ?_, by simp; omega⟩
  rw [List.getElem_cons_drop, List.take_append_drop]

theorem Begun.count_le (h : Begun tokens) : tokens.count ")" ≤ tokens.count "(" := by
  induction h with
  | closed h => exact h.conserves.balanced.closed.le
  | opened _ h ih =>
    have hclosed := h.conserves.balanced.closed
    simp
    omega

theorem Balanced.not_right (h : Balanced (before ++ ")" :: after)) : ¬ Balanced before := by
  intro hb
  have hmatched := h.matched (before ++ [")"]) (by simp)
  have hclosed := hb.closed
  simp at hmatched
  omega

theorem Balanced.exists_left (h : Balanced (before ++ ")" :: after)) :
    ∃ outer inner, before = outer ++ "(" :: inner ∧ Balanced inner := by
  -- The partner is the last parenthesis that is still open where the right one stands.
  rcases begun_or_unmatched before with hb | ⟨start, rest, signs, rfl, hb⟩
  · cases hb with
    | closed hb => exact absurd hb.conserves.balanced h.not_right
    | opened _ hi => exact ⟨_, _, rfl, hi.conserves.balanced⟩
  · rw [List.append_assoc, List.cons_append] at h
    exact absurd hb.conserves.balanced h.not_right

theorem Balanced.exists_right (h : Balanced (before ++ "(" :: after)) :
    ∃ inner outer, after = inner ++ ")" :: outer ∧ Balanced inner := by
  rcases begun_or_unmatched after with ha | ⟨inner, outer, signs, rfl, hi⟩
  · have hle := ha.count_le
    have hmatched := h.matched before (List.prefix_append _ _)
    have hclosed := h.closed
    simp at hclosed
    omega
  · exact ⟨inner, outer, rfl, hi.conserves.balanced⟩

theorem isFirstUnmatched_of_balanced (h : Balanced before) (after : List String) :
    IsFirstUnmatched (before ++ ")" :: after) before.length where
  token := by simp
  unmatched := by
    rintro left ⟨outer, inner, rest, heq, hi, -, hlength⟩
    have hsplit : before ++ ")" :: after = (outer ++ "(" :: inner) ++ ")" :: rest := by
      simpa using heq
    obtain ⟨rfl, -⟩ := List.append_inj hsplit (by simp; omega)
    have hmatched := h.matched outer (List.prefix_append _ _)
    have hclosed := h.closed
    have hinner := hi.closed
    simp at hclosed
    omega
  first := by
    intro other hlt hother
    rw [List.getElem?_append_left hlt] at hother
    obtain ⟨start, rest, rfl, rfl⟩ := exists_append_of_getElem? hother
    obtain ⟨outer, inner, rfl, hi⟩ := h.exists_left
    exact ⟨outer.length, outer, inner, rest ++ ")" :: after, by simp, hi, rfl, by simp; omega⟩

theorem isLastUnclosed_of_balanced (h : Balanced after) (before : List String) :
    IsLastUnclosed (before ++ "(" :: after) before.length where
  token := by simp
  unclosed := by
    rintro right ⟨outer, inner, rest, heq, hi, hlength, -⟩
    obtain ⟨rfl, htail⟩ := List.append_inj heq hlength
    obtain rfl := (List.cons.inj htail).2
    exact h.not_right hi
  last := by
    intro other hlt hother
    obtain ⟨more, rfl⟩ := Nat.exists_eq_add_of_lt hlt
    rw [List.getElem?_append_right (by omega)] at hother
    have hother : after[more]? = some "(" := by simpa [Nat.add_assoc] using hother
    obtain ⟨start, rest, rfl, rfl⟩ := exists_append_of_getElem? hother
    obtain ⟨inner, outer, rfl, hi⟩ := h.exists_right
    exact ⟨_, before ++ "(" :: start, inner, outer, by simp, hi, by simp; omega, rfl⟩

end Partners

end Grammar

namespace Parser

open Grammar

variable {limit floor position p : Nat} {op : Operator} {m : Malformation} {token : String}
  {tokens more : List String} {signs : List Sign} {steps : List (Sign × Nat)} {s : Stacks}
  {pending : List Entry} {output : List Built}

/-- An operator finds no operand. -/
def LacksOperand (m : Malformation) : Prop := ∃ p op, m = .missingOperand p op

section Operators

theorem eq_missingOperand_of_reduce (h : reduce limit op p output = .error (.malformed m)) :
    m = .missingOperand p op := by
  rcases output with _ | ⟨right, _ | ⟨left, output⟩⟩
  · cases h
    rfl
  · cases h
    rfl
  · simp only [reduce] at h
    split at h <;> cases h

theorem mem_pending_of_settle (h : settle limit floor pending output = .error (.malformed m)) :
    ∃ op p, m = .missingOperand p op ∧ .operator op p ∈ pending := by
  fun_induction settle limit floor pending output with
  | case1 => cases h
  | case2 op p pending output hge ih =>
    rcases bind_eq_error_iff.mp h with h | ⟨reduced, -, h⟩
    · exact ⟨op, p, eq_missingOperand_of_reduce h, List.mem_cons_self⟩
    · obtain ⟨op, p, hm, hmem⟩ := ih reduced h
      exact ⟨op, p, hm, List.mem_cons_of_mem _ hmem⟩
  | case3 => cases h

theorem mem_pending_of_push (h : push limit s token position = .error (.malformed m)) :
    m = .unmatchedRight position ∨
      ∃ op p, m = .missingOperand p op ∧ .operator op p ∈ s.pending := by
  unfold push at h
  split at h
  · cases h
  split at h
  · rw [closeParenthesis_eq_settle] at h
    rcases bind_eq_error_iff.mp h with h | ⟨t, -, h⟩
    · exact .inr (mem_pending_of_settle h)
    · split at h
      · cases h
      · cases h
        exact .inl rfl
  split at h
  · rw [pushOperator_eq_settle] at h
    rcases bind_eq_error_iff.mp h with h | ⟨t, -, h⟩
    · exact .inr (mem_pending_of_settle h)
    · cases h
  · cases h

theorem getElem?_of_pushAll (hs : Waiting tokens s.pending)
    (h : pushAll limit s tokens.length more = .error (.malformed (.missingOperand p op))) :
    (tokens ++ more)[p]? = some op.symbol := by
  induction more generalizing tokens s with
  | nil => cases h
  | cons token more ih =>
    rw [pushAll] at h
    rcases bind_eq_error_iff.mp h with h | ⟨t, ht, h⟩
    · rcases mem_pending_of_push h with h | ⟨op, p, hm, hmem⟩
      · cases h
      · cases hm
        exact (hs.append (token :: more)).spelled _ hmem
    · have ht := push_waiting hs ht
      simpa using ih ht (by simpa using h)

theorem mem_pending_of_finish
    (h : finish limit s = .error (.malformed (.missingOperand p op))) :
    .operator op p ∈ s.pending := by
  rw [finish, drain_eq_settle] at h
  rcases bind_eq_error_iff.mp h with h | ⟨output, -, h⟩
  · rcases bind_eq_error_iff.mp h with h | ⟨t, -, h⟩
    · obtain ⟨op, p, hm, hmem⟩ := mem_pending_of_settle h
      cases hm
      exact hmem
    · split at h <;> cases h
  · split at h <;> cases h

theorem getElem?_of_missingOperand
    (h : parse limit tokens = .error (.malformed (.missingOperand p op))) :
    tokens[p]? = some op.symbol := by
  have hempty : Waiting [] Stacks.empty.pending := waiting_nil
  rcases bind_eq_error_iff.mp h with h | ⟨s, hs, h⟩
  · exact getElem?_of_pushAll hempty h
  · exact (pushAll_waiting hempty hs).spelled _ (mem_pending_of_finish h)

end Operators

section Parts

theorem length_spelled (output : List Built) :
    ((spelled output).filterMap Sign.text?).length =
      ((spelled output).filterMap Sign.operator?).length + output.length := by
  induction output with
  | nil => rfl
  | cons built output ih =>
    have hoperators := congrArg Multiset.card built.tree.filterMap_operator?_polish
    rw [Multiset.coe_card] at hoperators
    simp only [spelled, List.filterMap_append, List.length_append, List.length_cons,
      built.tree.filterMap_text?_polish, built.tree.length_operands]
    omega

theorem length_of_conserves (h : Conserves tokens (spelled output)) :
    (tokens.filter (· ∉ symbols)).length =
      (tokens.filterMap Operator.ofSymbol?).length + output.length := by
  have hoperators := congrArg Multiset.card h.operators
  simp only [Multiset.coe_card] at hoperators
  rw [← h.operands, length_spelled, hoperators]

theorem parenthesis_of_conserves (h : Conserves tokens []) :
    ∀ token ∈ tokens, token = "(" ∨ token = ")" := by
  intro token ht
  have hzero := List.countP_eq_zero.mp h.length.symm token ht
  simp only [decide_eq_true_eq] at hzero
  tauto

end Parts

section Reading

theorem lacksOperand_of_run (h : run limit steps output = .error (.malformed m)) :
    LacksOperand m := by
  fun_induction run limit steps output with
  | case1 => cases h
  | case2 text position steps output ih => exact ih h
  | case3 op position steps output ih =>
    rcases bind_eq_error_iff.mp h with h | ⟨reduced, -, h⟩
    · exact ⟨position, op, eq_missingOperand_of_reduce h⟩
    · exact ih reduced h

theorem lacksOperand_of_arranges (ha : Arranges .disjunction tokens signs) (s : Stacks)
    (hs : Settled Level.disjunction.rank s.pending)
    (h : pushAll limit s position tokens = .error (.malformed m)) :
    LacksOperand m := by
  obtain ⟨steps, -, hp⟩ := exists_performs ha position
  have hread := hp limit s hs
  rw [h, error_bind] at hread
  rcases bind_eq_error_iff.mp hread.symm with hrun | ⟨output, -, hrun⟩
  · exact lacksOperand_of_run hrun
  · cases hrun

/-- While no right parenthesis lacks its left one, only operands can be missing. -/
theorem lacksOperand_of_begun (hb : Begun tokens)
    (h : pushAll limit .empty 0 tokens = .error (.malformed m)) :
    LacksOperand m := by
  induction hb with
  | closed ha => exact lacksOperand_of_arranges ha .empty trivial h
  | @opened before tokens signs _ ha ih =>
    rw [pushAll_append] at h
    rcases bind_eq_error_iff.mp h with h | ⟨s, -, h⟩
    · exact ih h
    · let opened : Stacks := ⟨.leftParenthesis (0 + before.length) :: s.pending, s.output⟩
      exact lacksOperand_of_arranges ha opened trivial h

end Reading

section Faults

variable {before after inner : List String}

theorem malformation_unmatched (ha : Arranges .disjunction before signs)
    (h : parse limit (before ++ ")" :: after) = .error (.malformed m)) :
    LacksOperand m ∨ m = .unmatchedRight before.length := by
  obtain ⟨steps, heq⟩ := exists_parse_unmatched_eq ha after
  rw [heq limit] at h
  rcases bind_eq_error_iff.mp h with h | ⟨output, -, h⟩
  · exact .inl (lacksOperand_of_run h)
  · cases h
    exact .inr rfl

theorem malformation_unclosed (hb : Begun before) (ha : Arranges .disjunction inner signs)
    (h : parse limit (before ++ "(" :: inner) = .error (.malformed m)) :
    LacksOperand m ∨ m = .unclosedLeft before.length := by
  obtain ⟨steps, heq⟩ := exists_parse_unclosed_eq before ha
  rw [heq limit] at h
  rcases bind_eq_error_iff.mp h with h | ⟨s, -, h⟩
  · exact .inl (lacksOperand_of_begun hb h)
  rcases bind_eq_error_iff.mp h with h | ⟨output, -, h⟩
  · exact .inl (lacksOperand_of_run h)
  · cases h
    exact .inr rfl

theorem malformation_arranged (ha : Arranges .disjunction tokens signs)
    (h : parse limit tokens = .error (.malformed m)) :
    LacksOperand m ∨ (m = .empty ∧ signs = []) ∨
      ∃ output, m = .unconnected output.length ∧ 2 ≤ output.length ∧ signs = spelled output := by
  obtain ⟨steps, rfl, heq⟩ := exists_parse_arranged_eq ha
  rw [heq limit] at h
  rcases bind_eq_error_iff.mp h with h | ⟨output, hrun, h⟩
  · exact .inl (lacksOperand_of_run h)
  have hspelled : steps.map (·.1) = spelled output := spelled_of_run hrun
  rcases output with _ | ⟨built, _ | ⟨below, output⟩⟩
  · cases h
    exact .inr (.inl ⟨rfl, hspelled⟩)
  · cases h
  · cases h
    exact .inr (.inr ⟨built :: below :: output, rfl, by simp, hspelled⟩)

/-- What a malformation tells of the tokens; those of nodes come from no tokens. -/
def Describes (tokens : List String) : Malformation → Prop
  | .unmatchedRight p => IsFirstUnmatched tokens p
  | .unclosedLeft p => IsLastUnclosed tokens p
  | .missingOperand p op => tokens[p]? = some op.symbol
  | .empty => Balanced tokens ∧ ∀ token ∈ tokens, token = "(" ∨ token = ")"
  | .unconnected n => 2 ≤ n ∧
    (tokens.filter (· ∉ symbols)).length = (tokens.filterMap Operator.ofSymbol?).length + n
  | .operandWithChildren => False
  | .missingChildren _ => False
  | .stated _ => False

/-- What the parser tells of malformed tokens is true of them, for each kind of malformation. -/
theorem malformation_describes_tokens (h : parse limit tokens = .error (.malformed m)) :
    Describes tokens m := by
  have hlacks (hm : LacksOperand m) : Describes tokens m := by
    obtain ⟨p, op, rfl⟩ := hm
    exact getElem?_of_missingOperand h
  -- The parentheses decide how far the parser gets, unless an operator stops it before.
  rcases begun_or_unmatched tokens with hb | ⟨before, after, signs, rfl, ha⟩
  · cases hb with
    | closed ha =>
      have hc := ha.conserves
      rcases malformation_arranged ha h with hm | ⟨rfl, rfl⟩ | ⟨output, rfl, hle, rfl⟩
      · exact hlacks hm
      · exact ⟨hc.balanced, parenthesis_of_conserves hc⟩
      · exact ⟨hle, length_of_conserves hc⟩
    | @opened before inner _ hb ha =>
      rcases malformation_unclosed hb ha h with hm | rfl
      · exact hlacks hm
      · exact isLastUnclosed_of_balanced ha.conserves.balanced before
  · rcases malformation_unmatched ha h with hm | rfl
    · exact hlacks hm
    · exact isFirstUnmatched_of_balanced ha.conserves.balanced after

theorem malformation_describes_tokens_each :
    let stray := ["(", "a", "OR", "b", ")", ")", "AND"]
    let dangling := ["a", ">", "(", "b", ")", "AND"]
    let unclosed := ["(", "a", "(", "b", ")"]
    let hollow := ["(", ")", "(", "(", ")", ")"]
    let loose := ["a", "b", "c", ">"]
    (parse 100 stray = .error (.malformed (.unmatchedRight 5)) ∧ IsFirstUnmatched stray 5) ∧
    (parse 100 dangling = .error (.malformed (.missingOperand 5 (.connective .and))) ∧
      dangling[5]? = some "AND") ∧
    (parse 100 unclosed = .error (.malformed (.unclosedLeft 0)) ∧ IsLastUnclosed unclosed 0) ∧
    (parse 100 hollow = .error (.malformed .empty) ∧ Balanced hollow) ∧
    (parse 100 loose = .error (.malformed (.unconnected 2)) ∧
      (loose.filter (· ∉ symbols)).length = (loose.filterMap Operator.ofSymbol?).length + 2) := by
  intro stray dangling unclosed hollow loose
  have hstray : parse 100 stray = .error (.malformed (.unmatchedRight 5)) := rfl
  have hdangling : parse 100 dangling =
      .error (.malformed (.missingOperand 5 (.connective .and))) := rfl
  have hunclosed : parse 100 unclosed = .error (.malformed (.unclosedLeft 0)) := rfl
  have hhollow : parse 100 hollow = .error (.malformed .empty) := rfl
  have hloose : parse 100 loose = .error (.malformed (.unconnected 2)) := rfl
  exact ⟨⟨hstray, malformation_describes_tokens hstray⟩,
    ⟨hdangling, malformation_describes_tokens hdangling⟩,
    ⟨hunclosed, malformation_describes_tokens hunclosed⟩,
    ⟨hhollow, (malformation_describes_tokens hhollow).1⟩,
    ⟨hloose, (malformation_describes_tokens hloose).2⟩⟩

end Faults

end Parser

end Rulebook
