import Rulebook.Rule.Operand
import Rulebook.Rule.Value

/-! # Evaluation

An expression is evaluated from the leaves up, the left side before the right one, and both
sides always. A trace has one line per node, in the order in which the nodes get their values.
-/

namespace Rulebook

inductive Resolved
  | number (value : Binary64)
  | text (value : String)
  | field (value : Json)

namespace Resolved

def toValue : Resolved → Value
  | number x => .number x
  | text t => .text t
  | field json => .ofJson json

end Resolved

namespace Operand

/-- A numeric literal is its number; any other text is a field, or itself if there is none. -/
def resolve (record : Record) (text : String) : Resolved :=
  match Numeral.literal? text with
  | some x => .number x
  | none =>
    let name := stripQuotes text
    match record.field? name with
    | some json => .field json
    | none => .text name

def value (record : Record) (text : String) : Value := (resolve record text).toValue

end Operand

structure Outcome where
  value : Value
  trace : List String

namespace Expression

def evaluate (record : Record) : Expression → Except Fault Value
  | operand text => return Operand.value record text
  | binary op left right => do
    let x ← left.evaluate record
    let y ← right.evaluate record
    op.apply x y

def traceLine (path : String) (e : Expression) (value : Value) : String :=
  path ++ ": " ++ e.render ++ " => " ++ value.display

def note (path : Option String) (e : Expression) (value : Value) (trace : List String) :
    List String :=
  match path with
  | some path => traceLine path e value :: trace
  | none => trace

/-- Evaluates and lengthens a trace, which is kept latest first; without a path there is none. -/
def walk (record : Record) : Option String → Expression → List String →
    Except Fault (Value × List String)
  | path, e@(operand text), trace =>
    let value := Operand.value record text
    return (value, note path e value trace)
  | path, e@(binary op left right), trace => do
    let (x, trace) ← walk record (path.map (· ++ ".left")) left trace
    let (y, trace) ← walk record (path.map (· ++ ".right")) right trace
    let value ← op.apply x y
    return (value, note path e value trace)

/-- Evaluates an expression with its trace, or with an empty one. -/
def execute (tracing : Bool) (record : Record) (e : Expression) : Except Fault Outcome := do
  let (value, trace) ← walk record (if tracing then some "root" else none) e []
  return ⟨value, trace.reverse⟩

end Expression

end Rulebook
