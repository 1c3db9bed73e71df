import Rulebook.Text.Basic
import Rulebook.Rule.Expression
import Rulebook.Rule.Fault

/-! # Parsing

Blanks separate tokens and a parenthesis is a token of its own. Quotes do not hold a text together.

Tokens are parsed by operator precedence with two stacks. Operands go to the stack of trees; an
operator waits on the other stack until one that binds no tighter, a right parenthesis or the end
follows, and then takes the last two trees. The depth of a tree is checked when it is built.
-/

namespace Rulebook.Token

def isParenthesis (c : Char) : Bool := c = '(' || c = ')'

/-- The word that has been read, latest character first, unless it is empty. -/
def flush (word : List Char) : List String :=
  if word.isEmpty then [] else [String.ofList word.reverse]

/-- The tokens of a text that follows the unfinished word. -/
def scan (word : List Char) : List Char → List String
  | [] => flush word
  | c :: cs =>
    if Text.isBlank c then flush word ++ scan [] cs
    else if isParenthesis c then flush word ++ String.singleton c :: scan [] cs
    else scan (c :: word) cs

def tokenize (rule : String) : List String := scan [] rule.toList

end Rulebook.Token

namespace Rulebook.Parser

/-- What waits on the operator stack, with its position in the token sequence. -/
inductive Entry
  | leftParenthesis (position : Nat)
  | operator (op : Operator) (position : Nat)
deriving DecidableEq

structure Built where
  tree : Expression
  depth : Nat
deriving DecidableEq

structure Stacks where
  pending : List Entry
  output : List Built
deriving DecidableEq

def Stacks.empty : Stacks := ⟨[], []⟩

/-- Joins the last two trees by an operator: the last one is its right child. -/
def reduce (limit : Nat) (op : Operator) (position : Nat) :
    List Built → Except Fault (List Built)
  | right :: left :: output =>
    let depth := 1 + max left.depth right.depth
    if limit < depth then throw (.treeTooDeep limit)
    else return ⟨.binary op left.tree right.tree, depth⟩ :: output
  | _ => throw (.malformed (.missingOperand position op))

/-- Reduces back to the last left parenthesis and drops it. -/
def closeParenthesis (limit position : Nat) : List Entry → List Built → Except Fault Stacks
  | [], _ => throw (.malformed (.unmatchedRight position))
  | .leftParenthesis _ :: pending, output => return ⟨pending, output⟩
  | .operator op p :: pending, output => do
    closeParenthesis limit position pending (← reduce limit op p output)

/-- Reduces the operators on top that bind at least as tightly, then lets the new one wait. -/
def pushOperator (limit : Nat) (op : Operator) (position : Nat) :
    List Entry → List Built → Except Fault Stacks
  | .operator top p :: pending, output =>
    if top.precedence < op.precedence then
      return ⟨.operator op position :: .operator top p :: pending, output⟩
    else do
      pushOperator limit op position pending (← reduce limit top p output)
  | pending, output => return ⟨.operator op position :: pending, output⟩

def push (limit : Nat) (s : Stacks) (token : String) (position : Nat) :
    Except Fault Stacks :=
  if token = "(" then
    return ⟨.leftParenthesis position :: s.pending, s.output⟩
  else if token = ")" then
    closeParenthesis limit position s.pending s.output
  else match Operator.ofSymbol? token with
    | some op => pushOperator limit op position s.pending s.output
    | none => return ⟨s.pending, ⟨.operand token, 1⟩ :: s.output⟩

def pushAll (limit : Nat) : Stacks → Nat → List String → Except Fault Stacks
  | s, _, [] => return s
  | s, position, token :: tokens => do
    pushAll limit (← push limit s token position) (position + 1) tokens

def drain (limit : Nat) : List Entry → List Built → Except Fault (List Built)
  | [], output => return output
  | .leftParenthesis p :: _, _ => throw (.malformed (.unclosedLeft p))
  | .operator op p :: pending, output => do
    drain limit pending (← reduce limit op p output)

def finish (limit : Nat) (s : Stacks) : Except Fault Expression := do
  match ← drain limit s.pending s.output with
  | [] => throw (.malformed .empty)
  | [built] => return built.tree
  | output => throw (.malformed (.unconnected output.length))

/-- The expression of a token sequence. No limit above `Expression.depthLimit` takes effect. -/
def parse (limit : Nat) (tokens : List String) : Except Fault Expression := do
  let limit := min limit Expression.depthLimit
  finish limit (← pushAll limit .empty 0 tokens)

end Rulebook.Parser
