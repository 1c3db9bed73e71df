import Rulebook.Rule.Operand
import Rulebook.Rule.Parser

/-! # Compiling

A compiler carries limits only. It turns the text of one rule into an expression, or joins
several rules by a connective, from left to right.
-/

namespace Rulebook

/-- A rule that has been compiled: its text, or the rendered text of a combination, and its tree. -/
structure Rule where
  source : String
  root : Expression
deriving DecidableEq

def Rule.fields (rule : Rule) : List String := rule.root.fields

/-- Limits on the bytes of a rule, the rules of a combination and the depth of trees. -/
structure Compiler where
  ruleLength : Option Nat := none
  ruleCount : Option Nat := none
  depth : Nat := Expression.depthLimit
  depth_le : depth ≤ Expression.depthLimit := by exact Nat.le_refl _

namespace Compiler

instance : Inhabited Compiler := ⟨{}⟩

def withRuleLength (c : Compiler) (max : Nat) : Compiler := { c with ruleLength := some max }

def withRuleCount (c : Compiler) (max : Nat) : Compiler := { c with ruleCount := some max }

/-- No depth beyond `Expression.depthLimit` can be allowed. -/
def withDepth (c : Compiler) (max : Nat) : Compiler :=
  { c with depth := min max Expression.depthLimit, depth_le := Nat.min_le_right _ _ }

def checkLength (c : Compiler) (rule : String) : Except Fault Unit :=
  match c.ruleLength with
  | some max =>
    if max < rule.utf8ByteSize then throw (.ruleTooLong rule.utf8ByteSize max) else return ()
  | none => return ()

def checkCount (c : Compiler) (rules : List String) : Except Fault Unit :=
  match c.ruleCount with
  | some max => if max < rules.length then throw (.tooManyRules rules.length max) else return ()
  | none => return ()

def parse (c : Compiler) (rule : String) : Except Fault Expression := do
  c.checkLength rule
  Parser.parse c.depth (Token.tokenize rule)

def compile (c : Compiler) (rule : String) : Except Fault Rule := do
  return ⟨rule, ← c.parse rule⟩

/-- The combination so far becomes the left child and the next rule the right one. -/
def extend (c : Compiler) (op : Connective) (tree : Expression) (rule : String) :
    Except Fault Expression := do
  let next ← c.parse rule
  let joined := Expression.binary (.connective op) tree next
  if c.depth < joined.depth then throw (.treeTooDeep c.depth) else return joined

def join (c : Compiler) (op : Connective) : List String → Except Fault Expression
  | [] => throw .emptyInput
  | rule :: rules => do
    rules.foldlM (c.extend op) (← c.parse rule)

/-- Combines rules. A single rule keeps its own text as the source. -/
def combine (c : Compiler) (op : Connective) (rules : List String) : Except Fault Rule := do
  c.checkCount rules
  let root ← c.join op rules
  return ⟨match rules with | [rule] => rule | _ => root.render, root⟩

end Compiler

end Rulebook
