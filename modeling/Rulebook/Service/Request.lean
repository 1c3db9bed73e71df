import Rulebook.Json.Document
import Rulebook.Rule.Expression

/-! # Requests

What the service is asked for, as a JSON structure. A request that can be read may still break
a constraint on one of its fields.

The media type has to be JSON: a type and a subtype with optional parameters, where the type is
`application`, and the subtype or its last suffix is `json`, in any case.
-/

namespace Rulebook.MediaType

def isTokenChar (c : Char) : Bool := c.isAlphanum || "!#$%&'*+-.^_\x60|~".toList.contains c

def isQuotable (c : Char) : Bool := 0x1f < c.toNat && c.toNat < 0x7f

def scanToken (cs : List Char) : Option (List Char × List Char) :=
  let token := cs.takeWhile isTokenChar
  if token.isEmpty then none else some (token, cs.dropWhile isTokenChar)

inductive Place
  | start
  | name
  | valueStart
  | value
  | quoteStart
  | quoted
  | afterQuote
deriving DecidableEq

def advance : Place → Char → Option Place
  | .start, c => if c = ' ' then some .start else if isTokenChar c then some .name else none
  | .name, c => if c = '=' then some .valueStart else if isTokenChar c then some .name else none
  | .valueStart, c =>
    if c = '"' then some .quoteStart else if isTokenChar c then some .value else none
  | .value, c => if c = ';' then some .start else if isTokenChar c then some .value else none
  | .quoteStart, c => if isQuotable c then some .quoted else none
  | .quoted, c =>
    if c = '"' then some .afterQuote else if isQuotable c then some .quoted else none
  | .afterQuote, c => if c = ';' then some .start else if c = ' ' then some .afterQuote else none

def isFinal : Place → Bool
  | .start | .valueStart | .value | .afterQuote => true
  | .name | .quoteStart | .quoted => false

/-- Whether what follows the subtype is nothing or well-formed parameters. -/
def parametersOk : List Char → Bool
  | [] => true
  | ';' :: cs => ((cs.foldlM advance .start).map isFinal).getD false
  | _ => false

/-- The subtype without its last suffix, and the suffix. -/
def splitSuffix (subtype : List Char) : List Char × Option (List Char) :=
  let suffix := (subtype.reverse.takeWhile (· ≠ '+')).reverse
  let base := subtype.take (subtype.length - suffix.length - 1)
  if suffix.length < subtype.length ∧ ¬ base.isEmpty then (base, some suffix)
  else (subtype, none)

def equalsIgnoringCase (cs : List Char) (word : String) : Bool :=
  cs.map Char.toLower = word.toList

def isJson (text : String) : Bool :=
  match scanToken text.toList with
  | some (type, '/' :: rest) => match scanToken rest with
    | some (subtype, parameters) =>
      let (base, suffix) := splitSuffix subtype
      parametersOk parameters && equalsIgnoringCase type "application" &&
        (equalsIgnoringCase base "json" ||
          (suffix.map (equalsIgnoringCase · "json")).getD false)
    | none => false
  | _ => false

end Rulebook.MediaType

namespace Rulebook.Service

open Json (Document)

/-- How many containers a field may nest inside a request. -/
def fieldNesting : Nat := Json.maxNesting - 1

structure CompileRequest where
  rule : String
deriving DecidableEq

structure CombineRequest where
  rules : List String
  connective : Connective
deriving DecidableEq

/-- A request to evaluate an expression; without a trace flag the service decides. -/
structure EvaluateRequest where
  ast : Json
  userData : Json
  trace : Option Bool

/-- A connective by its symbol; `AND` if nothing is said. -/
def connective? : Option Document → Option Connective
  | none => some .and
  | some document => (document.name? fieldNesting).bind Connective.ofSymbol?

namespace CompileRequest

def ofDocument? (document : Document) : Option CompileRequest := do
  let [some rule] ← document.fields? ["ruleString"] | none
  return ⟨← rule.text?⟩

def violations (r : CompileRequest) : List String :=
  if r.rule.isEmpty then ["rule_string: ruleString 不能为空"] else []

end CompileRequest

namespace CombineRequest

def ofDocument? (document : Document) : Option CombineRequest := do
  let [some rules, connective] ← document.fields? ["ruleStrings", "operator"] | none
  return ⟨← rules.texts?, ← connective? connective⟩

def violations (r : CombineRequest) : List String :=
  if r.rules.any String.isEmpty then ["rule_strings: ruleStrings 不能包含空规则"] else []

end CombineRequest

namespace EvaluateRequest

def ofDocument? (document : Document) : Option EvaluateRequest := do
  let [some ast, some userData, trace] ← document.fields? ["ast", "userData", "trace"] | none
  let trace ← match trace with
    | some trace => trace.flag?
    | none => some none
  return ⟨← ast.toJson? fieldNesting, ← userData.toJson? fieldNesting, trace⟩

def violations (r : EvaluateRequest) : List String :=
  (if r.ast.isNull then ["ast: ast 不能为空"] else []) ++
  (match r.userData with
    | .object _ => []
    | _ => ["user_data: userData 必须是 JSON 对象"])

end EvaluateRequest

def violationText (violations : List String) : String := "\n".intercalate violations

end Rulebook.Service
