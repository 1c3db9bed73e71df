import Rulebook.Json.Value

/-! # Expressions

Every operator is binary and associates to the left. Connectives join truth values, relations
compare numbers or texts. A rule is a binary tree over them. Its leaves keep the text of the operand
as it was written; what a leaf means is decided when the rule is evaluated.
-/

namespace Rulebook

inductive Connective
  | and
  | or
deriving DecidableEq

inductive Relation
  | greater
  | less
  | equal
deriving DecidableEq

inductive Operator
  | connective (c : Connective)
  | relation (r : Relation)
deriving DecidableEq

namespace Connective

def symbol : Connective → String
  | and => "AND"
  | or => "OR"

def name : Connective → String
  | and => "And"
  | or => "Or"

def ofSymbol? (token : String) : Option Connective :=
  if token = "AND" then some .and else if token = "OR" then some .or else none

end Connective

namespace Relation

def symbol : Relation → String
  | greater => ">"
  | less => "<"
  | equal => "=="

def ofSymbol? (token : String) : Option Relation :=
  if token = ">" then some .greater
  else if token = "<" then some .less
  else if token = "==" then some .equal
  else none

end Relation

namespace Operator

def symbol : Operator → String
  | connective c => c.symbol
  | relation r => r.symbol

/-- The operator that a token is, case being significant. -/
def ofSymbol? (token : String) : Option Operator :=
  match Connective.ofSymbol? token with
  | some c => some (.connective c)
  | none => (Relation.ofSymbol? token).map .relation

def precedence : Operator → Nat
  | connective .or => 1
  | connective .and => 2
  | relation _ => 3

def isLogical : Operator → Bool
  | connective _ => true
  | relation _ => false

end Operator

inductive Expression
  | operand (text : String)
  | binary (operator : Operator) (left right : Expression)
deriving DecidableEq

namespace Expression

instance : Inhabited Expression := ⟨operand ""⟩

/-- The greatest depth of a tree that is accepted from outside; a leaf has depth 1. -/
def depthLimit : Nat := 100

def isOperand : Expression → Bool
  | operand _ => true
  | binary .. => false

def operands : Expression → List String
  | operand text => [text]
  | binary _ left right => left.operands ++ right.operands

def depth : Expression → Nat
  | operand _ => 1
  | binary _ left right => 1 + max left.depth right.depth

def nodeCount : Expression → Nat
  | operand _ => 1
  | binary _ left right => 1 + left.nodeCount + right.nodeCount

/-- A child's text, in parentheses unless the child is a leaf. -/
def enclose (child : Expression) (text : String) : String :=
  if child.isOperand then text else "(" ++ text ++ ")"

def render : Expression → String
  | operand text => text
  | binary op left right =>
    left.enclose left.render ++ " " ++ op.symbol ++ " " ++ right.enclose right.render

def kindName : Expression → String
  | operand _ => "operand"
  | binary .. => "operator"

/-- The JSON form of an expression: kind, text or symbol, and both children, `null` for a leaf. -/
def toJson : Expression → Json
  | e@(operand text) => .object
      [("type", .text e.kindName), ("value", .text text), ("left", .null), ("right", .null)]
  | e@(binary op left right) => .object
      [("type", .text e.kindName), ("value", .text op.symbol), ("left", left.toJson),
        ("right", right.toJson)]

end Expression

end Rulebook
