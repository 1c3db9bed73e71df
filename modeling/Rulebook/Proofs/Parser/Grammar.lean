import Rulebook.Rule.Expression

/-! # The grammar of rules

A disjunction is a chain of conjunctions, a conjunction is one of comparisons and a comparison
is one of atoms: operands, and disjunctions in parentheses. Every chain groups from the left. The
grammar spells its tokens itself, so it can be held against the parser.
-/

namespace Rulebook.Grammar

inductive Level
  | disjunction
  | conjunction
  | comparison
  | atom
deriving DecidableEq

namespace Level

def link : Level → Level
  | disjunction => conjunction
  | conjunction => comparison
  | comparison => atom
  | atom => atom

def rank : Level → Nat
  | disjunction => 1
  | conjunction => 2
  | comparison => 3
  | atom => 4

theorem rank_le_link (level : Level) : level.rank ≤ level.link.rank := by
  cases level <;> decide

end Level

def symbols : List String := ["(", ")", "AND", "OR", ">", "<", "=="]

inductive Joins : Level → String → Operator → Prop
  | or : Joins .disjunction "OR" (.connective .or)
  | and : Joins .conjunction "AND" (.connective .and)
  | greater : Joins .comparison ">" (.relation .greater)
  | less : Joins .comparison "<" (.relation .less)
  | equal : Joins .comparison "==" (.relation .equal)

/-- The tokens are a phrase of a level, with the tree of the phrase. -/
inductive Phrase : Level → List String → Expression → Prop
  | operand {token : String} : token ∉ symbols → Phrase .atom [token] (.operand token)
  | group {tokens : List String} {e : Expression} :
      Phrase .disjunction tokens e → Phrase .atom ("(" :: tokens ++ [")"]) e
  | single {level : Level} {tokens : List String} {e : Expression} :
      Phrase level.link tokens e → Phrase level tokens e
  | chain {level : Level} {lefts rights : List String} {token : String} {op : Operator}
      {left right : Expression} :
      Joins level token op → Phrase level lefts left → Phrase level.link rights right →
      Phrase level (lefts ++ token :: rights) (.binary op left right)

section Joins

variable {level : Level} {token : String} {op : Operator}

theorem Joins.precedence_eq (h : Joins level token op) : op.precedence = level.rank := by
  cases h <;> rfl

theorem Joins.rank_lt_link (h : Joins level token op) : level.rank < level.link.rank := by
  cases h <;> decide

theorem Joins.ofSymbol?_eq (h : Joins level token op) : Operator.ofSymbol? token = some op := by
  cases h <;> decide

theorem Joins.ne_parentheses (h : Joins level token op) : token ≠ "(" ∧ token ≠ ")" := by
  cases h <;> decide

theorem exists_joins (op : Operator) : ∃ level, Joins level op.symbol op := by
  rcases op with (_ | _) | (_ | _ | _)
  · exact ⟨_, .and⟩
  · exact ⟨_, .or⟩
  · exact ⟨_, .greater⟩
  · exact ⟨_, .less⟩
  · exact ⟨_, .equal⟩

end Joins

theorem not_mem_symbols_iff {token : String} :
    token ∉ symbols ↔ token ≠ "(" ∧ token ≠ ")" ∧ Operator.ofSymbol? token = none := by
  simp only [symbols, Operator.ofSymbol?, Connective.ofSymbol?, Relation.ofSymbol?,
    List.mem_cons, List.not_mem_nil, or_false, not_or]
  grind

section Phrase

variable {tokens : List String} {e : Expression}

theorem Phrase.of_atom (h : Phrase .atom tokens e) : ∀ level : Level, Phrase level tokens e
  | .atom => h
  | .comparison => .single h
  | .conjunction => .single (.single h)
  | .disjunction => .single (.single (.single h))

theorem Phrase.toDisjunction : ∀ {level : Level}, Phrase level tokens e →
    Phrase .disjunction tokens e
  | .disjunction, h => h
  | .conjunction, h => .single h
  | .comparison, h => .single (.single h)
  | .atom, h => h.of_atom .disjunction

end Phrase

end Rulebook.Grammar
