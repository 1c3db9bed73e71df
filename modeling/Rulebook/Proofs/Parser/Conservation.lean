import Mathlib.Data.Multiset.AddSub
import Rulebook.Proofs.Parser.Soundness

/-! # What parsing keeps

Parsing only moves operators behind what they join and drops parentheses that match. So a tree
that is returned has the operand tokens as its leaves, in their order, and the operator tokens at
its inner nodes, whether or not the tokens are a phrase of the grammar.
-/

namespace Rulebook

namespace Sign

def text? : Sign → Option String
  | operand text => some text
  | operator _ => none

def operator? : Sign → Option Operator
  | operand _ => none
  | operator op => some op

end Sign

namespace Expression

def operators : Expression → Multiset Operator
  | operand _ => 0
  | binary op left right => op ::ₘ (left.operators + right.operators)

theorem filterMap_text?_polish (e : Expression) : e.polish.filterMap Sign.text? = e.operands := by
  induction e with
  | operand text => rfl
  | binary op left right ihl ihr =>
    simp [polish, operands, ihl, ihr, Sign.text?]

theorem filterMap_operator?_polish (e : Expression) :
    (e.polish.filterMap Sign.operator? : Multiset Operator) = e.operators := by
  induction e with
  | operand text => rfl
  | binary op left right ihl ihr =>
    simp only [polish, List.filterMap_append, ← Multiset.coe_add, ihl, ihr]
    exact Multiset.add_comm _ _

theorem length_polish (e : Expression) : e.polish.length = e.nodeCount := by
  induction e with
  | operand text => rfl
  | binary op left right ihl ihr =>
    simp only [polish, nodeCount, List.length_append, List.length_singleton, ihl, ihr]
    omega

theorem length_operands (e : Expression) :
    e.operands.length = Multiset.card e.operators + 1 := by
  induction e with
  | operand text => rfl
  | binary op left right ihl ihr =>
    simp [operands, operators, ihl, ihr]
    omega

end Expression

namespace Grammar

/-- Every right parenthesis has a left one before it, and none is left open. -/
structure Balanced (tokens : List String) : Prop where
  matched : ∀ before, before <+: tokens → before.count ")" ≤ before.count "("
  closed : tokens.count ")" = tokens.count "("

section Balanced

variable {token : String} {tokens lefts rights : List String}

theorem balanced_nil : Balanced [] where
  matched := by
    intro before h
    obtain rfl := List.prefix_nil.mp h
    exact Nat.le_refl _
  closed := rfl

theorem balanced_singleton (hl : token ≠ "(") (hr : token ≠ ")") : Balanced [token] where
  matched := by
    intro before h
    rcases List.prefix_cons_iff.mp h with rfl | ⟨after, rfl, ha⟩
    · exact Nat.le_refl _
    · obtain rfl := List.prefix_nil.mp ha
      simp [hl, hr]
  closed := by simp [hl, hr]

theorem Balanced.append (hl : Balanced lefts) (hr : Balanced rights) :
    Balanced (lefts ++ rights) where
  matched := by
    intro before h
    rcases List.prefix_or_prefix_of_prefix h (List.prefix_append lefts rights) with h' | ⟨t, rfl⟩
    · exact hl.matched before h'
    · have ht := hr.matched t ((List.prefix_append_right_inj lefts).mp h)
      have hclosed := hl.closed
      simp only [List.count_append]
      omega
  closed := by simp only [List.count_append, hl.closed, hr.closed]

theorem Balanced.group (h : Balanced tokens) : Balanced ("(" :: tokens ++ [")"]) where
  matched := by
    intro before hb
    rcases List.prefix_concat_iff.mp hb with rfl | hb
    · simp [h.closed]
    · rcases List.prefix_cons_iff.mp hb with rfl | ⟨inner, rfl, hinner⟩
      · exact Nat.le_refl _
      · have hmatched := h.matched inner hinner
        simp
        omega
  closed := by simp [h.closed]

end Balanced

/-- The signs have the operands in order and the operators in some order; parentheses match. -/
structure Conserves (tokens : List String) (signs : List Sign) : Prop where
  operands : signs.filterMap Sign.text? = tokens.filter (· ∉ symbols)
  operators : (signs.filterMap Sign.operator? : Multiset Operator) =
    tokens.filterMap Operator.ofSymbol?
  length : signs.length = tokens.countP fun token => token ≠ "(" ∧ token ≠ ")"
  balanced : Balanced tokens

section Conserves

variable {token : String} {tokens lefts rights : List String} {signs more : List Sign}

theorem conserves_nil : Conserves [] [] := ⟨rfl, rfl, rfl, balanced_nil⟩

theorem conserves_operand (h : token ∉ symbols) : Conserves [token] [.operand token] := by
  obtain ⟨hl, hr, hop⟩ := not_mem_symbols_iff.mp h
  refine ⟨?_, ?_, ?_, balanced_singleton hl hr⟩
  · simp [Sign.text?, h]
  · simp [Sign.operator?, hop]
  · simp [hl, hr]

theorem Conserves.append (hl : Conserves lefts signs) (hr : Conserves rights more) :
    Conserves (lefts ++ rights) (signs ++ more) := by
  refine ⟨?_, ?_, ?_, hl.balanced.append hr.balanced⟩
  · rw [List.filterMap_append, List.filter_append, hl.operands, hr.operands]
  · simp only [List.filterMap_append, ← Multiset.coe_add, hl.operators, hr.operators]
  · rw [List.length_append, List.countP_append, hl.length, hr.length]

theorem Conserves.group (h : Conserves tokens signs) :
    Conserves ("(" :: tokens ++ [")"]) signs := by
  have hleft : Operator.ofSymbol? "(" = none := by decide
  have hright : Operator.ofSymbol? ")" = none := by decide
  refine ⟨?_, ?_, ?_, h.balanced.group⟩
  · simp [h.operands, symbols]
  · simp [h.operators, hleft, hright]
  · simp [h.length]

/-- An operator keeps its place among the tokens and goes behind both sides in the signs. -/
theorem Conserves.join {level : Level} {op : Operator} (hj : Joins level token op)
    (hl : Conserves lefts signs) (hr : Conserves rights more) :
    Conserves (lefts ++ token :: rights) (signs ++ more ++ [.operator op]) := by
  obtain ⟨hleft, hright⟩ := hj.ne_parentheses
  have hsymbol : token ∈ symbols := by cases hj <;> decide
  have hboth := hl.append hr
  refine ⟨?_, ?_, ?_, hl.balanced.append ((balanced_singleton hleft hright).append hr.balanced)⟩
  · rw [List.filterMap_append, hboth.operands]
    simp [Sign.text?, hsymbol]
  · rw [List.filterMap_append, ← Multiset.coe_add, hboth.operators, Multiset.coe_add,
      Multiset.coe_eq_coe]
    simp only [List.filterMap_append, List.filterMap_cons, hj.ofSymbol?_eq, Sign.operator?,
      List.filterMap_nil]
    exact (List.perm_append_singleton op _).trans List.perm_middle.symm
  · rw [List.length_append, hboth.length]
    simp [hleft, hright]
    omega

theorem Arranges.conserves {level : Level} (h : Arranges level tokens signs) :
    Conserves tokens signs := by
  induction h with
  | nothing => exact conserves_nil
  | operand ht => exact conserves_operand ht
  | group _ ih => exact ih.group
  | beside _ _ ihl ihr => exact ihl.append ihr
  | single _ ih => exact ih
  | chain hj _ _ ihl ihr => exact .join hj ihl ihr

end Conserves

end Grammar

namespace Parser

open Grammar

/-- A parsed tree has just the operands of the tokens in order and their operators. -/
theorem parse_conserves {limit : Nat} {tokens : List String} {e : Expression}
    (h : parse limit tokens = .ok e) :
    e.operands = tokens.filter (· ∉ symbols) ∧
      e.operators = (tokens.filterMap Operator.ofSymbol? : Multiset Operator) ∧
      (e.nodeCount = tokens.countP fun token => token ≠ "(" ∧ token ≠ ")") ∧
      Balanced tokens ∧ e.depth ≤ max 1 (min limit 100) := by
  have hc := (arranges_of_parse h).conserves
  refine ⟨?_, ?_, ?_, hc.balanced, (parse_eq_ok_iff.mp h).2⟩
  · rw [← e.filterMap_text?_polish, hc.operands]
  · rw [← e.filterMap_operator?_polish, hc.operators]
  · rw [← e.length_polish, hc.length]

theorem parse_conserves_misplaced :
    let tokens := ["(", "a", ")", "b", "AND", "(", ")", ">", "c"]
    let e := Expression.binary (.connective .and) (.operand "a")
      (.binary (.relation .greater) (.operand "b") (.operand "c"))
    parse 3 tokens = .ok e ∧ ["a", "b", "c"] = tokens.filter (· ∉ symbols) ∧
      e.operators = {.connective .and, .relation .greater} ∧ e.nodeCount = 5 ∧
      Balanced tokens ∧ e.depth ≤ 3 := by
  intro tokens e
  have h : parse 3 tokens = .ok e := by rfl
  obtain ⟨hoperands, hoperators, hcount, hbalanced, hdepth⟩ := parse_conserves h
  exact ⟨h, hoperands, hoperators, hcount, hbalanced, hdepth⟩

end Parser

end Rulebook
