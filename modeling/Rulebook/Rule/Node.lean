import Rulebook.Json.Value
import Rulebook.Json.Document
import Rulebook.Rule.Expression
import Rulebook.Rule.Fault

/-! # Nodes

An expression arrives from outside as JSON: a node has a kind, a value and two children, either
as an object or as an array in this order. A node of the right shape need not be an expression
yet; making one of it checks depth, operators and children. Nodes are read from a JSON value or
straight from a document, where a repeated key is refused and the limit on nesting applies.
-/

namespace Rulebook

inductive Kind
  | operator
  | operand
deriving DecidableEq

/-- A node of the right shape; absent and `null` parts are `none`. -/
inductive Node
  | node (kind : Kind) (value : Option Json) (left right : Option Node)

namespace Kind

def ofName? (name : String) : Option Kind :=
  if name = "operator" then some .operator
  else if name = "operand" then some .operand
  else none

/-- A kind is its name, or an object whose only member has that name and no value. -/
def ofJson? : Json → Option Kind
  | .text name => ofName? name
  | .object [(name, .null)] => ofName? name
  | _ => none

end Kind

namespace Node

structure Parts where
  kind : Option Kind := none
  value : Option (Option Json) := none
  left : Option (Option Node) := none
  right : Option (Option Node) := none

def Parts.toNode? (parts : Parts) : Option Node :=
  parts.kind.map fun kind =>
    .node kind (parts.value.getD none) (parts.left.getD none) (parts.right.getD none)

def present (json : Json) : Option Json := if json.isNull then none else some json

def child (json : Json) (node : Option Node) : Option (Option Node) :=
  if json.isNull then some none else node.map some

mutual

def ofJson? : Json → Option Node
  | .object members => (partsOfJson? members).bind Parts.toNode?
  | .array [kind] => (Kind.ofJson? kind).map (.node · none none none)
  | .array [kind, value] => do
    return .node (← Kind.ofJson? kind) (present (← value.reread?)) none none
  | .array [kind, value, left] => do
    return .node (← Kind.ofJson? kind) (present (← value.reread?))
      (← child left (ofJson? left)) none
  | .array [kind, value, left, right] => do
    return .node (← Kind.ofJson? kind) (present (← value.reread?))
      (← child left (ofJson? left)) (← child right (ofJson? right))
  | _ => none

/-- The parts among the members of an object; other members are passed over. -/
def partsOfJson? : List (String × Json) → Option Parts
  | [] => some {}
  | (key, json) :: members => do
    let parts ← partsOfJson? members
    if key = "type" then return { parts with kind := some (← Kind.ofJson? json) }
    else if key = "value" then return { parts with value := some (present (← json.reread?)) }
    else if key = "left" then return { parts with left := some (← child json (ofJson? json)) }
    else if key = "right" then return { parts with right := some (← child json (ofJson? json)) }
    else return parts

end

def isNull : Json.Document → Bool
  | .null => true
  | _ => false

def documentChild (document : Json.Document) (node : Option Node) : Option (Option Node) :=
  if isNull document then some none else node.map some

mutual

/-- The node of a document that nests at most `depth` containers. -/
def ofDocument? : Nat → Json.Document → Option Node
  | depth + 1, .object members => (partsOfDocument? depth members).bind Parts.toNode?
  | depth + 1, .array [kind] => do
    return .node (← (kind.name? depth).bind Kind.ofName?) none none none
  | depth + 1, .array [kind, value] => do
    return .node (← (kind.name? depth).bind Kind.ofName?) (present (← value.toJson? depth))
      none none
  | depth + 1, .array [kind, value, left] => do
    return .node (← (kind.name? depth).bind Kind.ofName?) (present (← value.toJson? depth))
      (← documentChild left (ofDocument? depth left)) none
  | depth + 1, .array [kind, value, left, right] => do
    return .node (← (kind.name? depth).bind Kind.ofName?) (present (← value.toJson? depth))
      (← documentChild left (ofDocument? depth left))
      (← documentChild right (ofDocument? depth right))
  | _, _ => none

/-- The parts among the members of an object, each at most once; other members are passed over. -/
def partsOfDocument? : Nat → List (List Json.Symbol × Json.Document) → Option Parts
  | _, [] => some {}
  | depth, (key, document) :: members => do
    let parts ← partsOfDocument? depth members
    let key ← Json.Document.string? key
    if key = "type" then
      let kind ← (document.name? depth).bind Kind.ofName?
      if parts.kind.isSome then none else return { parts with kind := some kind }
    else if key = "value" then
      let json ← document.toJson? depth
      if parts.value.isSome then none else return { parts with value := some (present json) }
    else if key = "left" then
      let node ← documentChild document (ofDocument? depth document)
      if parts.left.isSome then none else return { parts with left := some node }
    else if key = "right" then
      let node ← documentChild document (ofDocument? depth document)
      if parts.right.isSome then none else return { parts with right := some node }
    else return parts

end

/-- The text of an operand node: a string as it is, a number as JSON writes it. -/
def operandText : Option Json → Except Fault String
  | some (.text text) => return text
  | some (.number n) => return (Json.number n).print
  | some json => throw (.invalidOperand json.print)
  | none => throw (.invalidOperand "null")

def operatorOf : Option Json → Except Fault Operator
  | some (.text symbol) => match Operator.ofSymbol? symbol with
    | some op => return op
    | none => throw (.unknownOperator symbol)
  | some json => throw (.unknownOperator json.print)
  | none => throw (.unknownOperator "null")

def toExpressionAt : Nat → Node → Except Fault Expression
  | depth, .node kind value left right => do
    if Expression.depthLimit < depth then throw (.treeTooDeep Expression.depthLimit)
    match kind with
    | .operand =>
      if left.isSome || right.isSome then throw (.malformed .operandWithChildren)
      return .operand (← operandText value)
    | .operator =>
      let op ← operatorOf value
      match left, right with
      | some left, some right =>
        return .binary op (← toExpressionAt (depth + 1) left) (← toExpressionAt (depth + 1) right)
      | _, _ => throw (.malformed (.missingChildren op))

def toExpression (node : Node) : Except Fault Expression := node.toExpressionAt 1

end Node

end Rulebook
