import Rulebook.Json.Value
import Rulebook.Json.Token

/-! # JSON documents

A document is what a text spells before anything is made of it: members keep their order and
their repetitions, numerals are not yet rounded and strings may hold gaps. Reading goes token
by token over a stack of open containers, so documents of any depth can be passed over; the
limits on depth, range and content apply where a part of a document is turned into a value.

A text that breaks off spells a document with a break in it. So the fault of such a text is that
of the first part that is wrong, and the break is only the last part that can be.

A text may stand inside another one: an object whose first key is `embeddedKey` stands for the
value that its string spells.

A structure is read from a document with a fixed list of fields. It is an object, in which other
members are passed over and no field may be repeated, or an array of its fields in order, from
which fields at the end may be missing.
-/

namespace Rulebook.Json

/-- A break is the last part of every container around it. -/
inductive Document
  | null
  | bool (value : Bool)
  | number (numeral : Numeral)
  | text (content : List Symbol)
  | array (items : List Document)
  | object (members : List (List Symbol × Document))
  | broken

namespace Document

instance : Inhabited Document := ⟨null⟩

/-- A container that is still open, with what it holds so far, the latest first. -/
inductive Frame
  | items (done : List Document)
  | members (done : List (List Symbol × Document))
  | member (done : List (List Symbol × Document)) (key : List Symbol)

/-- The place of the next token. Where a container has just been opened, it may also be closed. -/
inductive Place
  | value (closable : Bool)
  | key (closable : Bool)
  | colon
  | separator

inductive Progress
  | reading (stack : List Frame) (place : Place)
  | complete (document : Document)

/-- Puts a finished value into the innermost open container. -/
def Progress.finish (document : Document) : List Frame → Option Progress
  | [] => some (.complete document)
  | .items done :: stack => some (.reading (.items (document :: done) :: stack) .separator)
  | .member done key :: stack =>
    some (.reading (.members ((key, document) :: done) :: stack) .separator)
  | .members _ :: _ => none

open Progress in
def advance : List Frame → Place → Token → Option Progress
  | stack, .value _, .null => finish .null stack
  | stack, .value _, .bool b => finish (.bool b) stack
  | stack, .value _, .number n => finish (.number n) stack
  | stack, .value _, .text t => finish (.text t) stack
  | stack, .value _, .openBracket => some (.reading (.items [] :: stack) (.value true))
  | stack, .value _, .openBrace => some (.reading (.members [] :: stack) (.key true))
  | .items done :: stack, .value true, .closeBracket => finish (.array done.reverse) stack
  | .members done :: stack, .key _, .text key =>
    some (.reading (.member done key :: stack) .colon)
  | .members done :: stack, .key true, .closeBrace => finish (.object done.reverse) stack
  | stack, .colon, .colon => some (.reading stack (.value false))
  | .items done :: stack, .separator, .comma =>
    some (.reading (.items done :: stack) (.value false))
  | .items done :: stack, .separator, .closeBracket => finish (.array done.reverse) stack
  | .members done :: stack, .separator, .comma =>
    some (.reading (.members done :: stack) (.key false))
  | .members done :: stack, .separator, .closeBrace => finish (.object done.reverse) stack
  | _, _, _ => none

/-- An open container with one more part, after which it ends. -/
def enclose (document : Document) : Frame → Document
  | .items done => .array (document :: done).reverse
  | .members done => .object (([], document) :: done).reverse
  | .member done key => .object ((key, document) :: done).reverse

/-- What a text spells that breaks off inside open containers, the innermost first. -/
def abandon (stack : List Frame) : Document := stack.foldl enclose broken

/-- Reads on until the outermost value is complete, or to where the text breaks off. -/
def run (stack : List Frame) (place : Place) (cs : List Symbol) :
    Except Document (Document × List Symbol) :=
  match h : Token.next? cs with
  | none => throw (abandon stack)
  | some (token, rest) => match advance stack place token with
    | none => throw (abandon stack)
    | some (.complete document) => return (document, rest)
    | some (.reading stack place) =>
      have : rest.length < cs.length := Token.length_lt_of_next? h
      run stack place rest
termination_by cs.length

/-- The document at the front of a text, and the rest. -/
def scan (cs : List Symbol) : Except Document (Document × List Symbol) := run [] (.value false) cs

def isEnd (cs : List Symbol) : Bool := (skipSpace cs).isEmpty

def string? (content : List Symbol) : Option String := (content.mapM id).map String.ofList

/-- The part of a document that its text spells, if there is one. -/
def spelled {α : Type} : Option α → Except JsonFault α
  | some a => return a
  | none => throw .syntactic

/-- The first key of an object that stands for the value of a text. -/
def embeddedKey : String := "$serde_json::private::RawValue"

/-- What holds the text in an object that stands for the value of one, and the other members. -/
def embedded? : List (List Symbol × Document) → Option (Document × List (List Symbol × Document))
  | [] => none
  | (key, document) :: members =>
    if string? key = some embeddedKey then some (document, members) else none

/-- The string that a document must be. A container is seen to be none where it opens. -/
def toText : Document → Except JsonFault String
  | .text content => spelled (string? content)
  | .number n => do
    let _ ← spelled n.value?
    throw .shape
  | .broken => throw .syntactic
  | _ => throw .shape

mutual

/-- The value of a document within a limit on nesting; texts inside it are read by `readText`. -/
def toJsonWith (readText : String → Except JsonFault Json) :
    Nat → Document → Except JsonFault Json
  | _, .null => return .null
  | _, .bool b => return .bool b
  | _, .number n => return .number (← spelled n.value?)
  | _, .text t => return .text (← spelled (string? t))
  | depth + 1, .array items => return .array (← itemsToJsonWith readText depth items)
  | depth + 1, .object members => match embedded? members with
    | some (document, others) => do
      let json ← readText (← document.toText)
      if others.isEmpty then return json else throw .syntactic
    | none => return .object (sortMembers (← membersToJsonWith readText depth members))
  | 0, .array _ => throw .syntactic
  | 0, .object _ => throw .syntactic
  | _, .broken => throw .syntactic

def itemsToJsonWith (readText : String → Except JsonFault Json) :
    Nat → List Document → Except JsonFault (List Json)
  | _, [] => return []
  | depth, item :: items => do
    return (← toJsonWith readText depth item) :: (← itemsToJsonWith readText depth items)

def membersToJsonWith (readText : String → Except JsonFault Json) :
    Nat → List (List Symbol × Document) → Except JsonFault (List (String × Json))
  | _, [] => return []
  | depth, (key, value) :: members => do
    let key ← spelled (string? key)
    let json ← toJsonWith readText depth value
    return (key, json) :: (← membersToJsonWith readText depth members)

end

end Document

/-- How many containers a value may nest. A text inside another one counts anew. -/
def maxNesting : Nat := 127

/-- The value of a whole text with less than `levels` texts inside one another. -/
def parseWithin : Nat → String → Except JsonFault Json
  | 0, _ => throw .shape
  | levels + 1, source => do
    -- To the text around it, whatever is wrong with a text is a matter of shape.
    let readText inner := (parseWithin levels inner).mapError fun _ => JsonFault.shape
    match Document.scan (symbols source) with
    | .ok (document, rest) =>
      let json ← document.toJsonWith readText maxNesting
      if Document.isEnd rest then return json else throw .syntactic
    | .error document =>
      let _ ← document.toJsonWith readText maxNesting
      throw .syntactic

/-- The value that a text spells from end to end. -/
def parse (text : String) : Except JsonFault Json := parseWithin (text.length + 1) text

namespace Document

/-- The value of a document that nests at most `depth` containers. -/
def toJson? (depth : Nat) (document : Document) : Option Json :=
  (document.toJsonWith parse depth).toOption

/-- The members of an object, sorted by key. The first key may be any. -/
def members? : Nat → Document → Option (List (String × Json))
  | depth + 1, .object members => (membersToJsonWith parse depth members).toOption.map sortMembers
  | _, _ => none

end Document

mutual

/-- A value that is read anew, in which an object may stand for the value of a text. -/
def reread? : Json → Option Json
  | .array items => (rereadItems? items).map .array
  | .object [] => some (.object [])
  | .object ((key, value) :: members) =>
    if key = Document.embeddedKey then match value, members with
      | .text inner, [] => (parse inner).toOption
      | _, _ => none
    else do
      let json ← reread? value
      return .object ((key, json) :: (← rereadMembers? members))
  | json => some json

def rereadItems? : List Json → Option (List Json)
  | [] => some []
  | item :: items => do
    return (← reread? item) :: (← rereadItems? items)

def rereadMembers? : List (String × Json) → Option (List (String × Json))
  | [] => some []
  | (key, value) :: members => do
    let json ← reread? value
    return (key, json) :: (← rereadMembers? members)

end

end Rulebook.Json

namespace Rulebook.Json.Document

/-- The member with a name, if it occurs once, and nothing if it does not occur. -/
def field? (members : List (String × Document)) (name : String) : Option (Option Document) :=
  match members.filter (·.1 = name) with
  | [] => some none
  | [(_, document)] => some (some document)
  | _ => none

/-- The parts of a structure in the order of its field names. -/
def fields? (names : List String) : Document → Option (List (Option Document))
  | .object members => do
    let members ← members.mapM fun (key, document) => (string? key).map (·, document)
    names.mapM (field? members)
  | .array items =>
    if items.length ≤ names.length then some ((List.range names.length).map (items[·]?)) else none
  | _ => none

def text? : Document → Option String
  | .text content => string? content
  | _ => none

def texts? : Document → Option (List String)
  | .array items => items.mapM text?
  | _ => none

def flag? : Document → Option (Option Bool)
  | .null => some none
  | .bool b => some (some b)
  | _ => none

/-- A name, as a string or as an object whose only member has that name and no value. -/
def name? : Nat → Document → Option String
  | _, .text content => string? content
  | _ + 1, .object [(key, .null)] => string? key
  | _, _ => none

def read? {α : Type} (reader : Document → Option α) (cs : List Symbol) : Option α := do
  let (document, rest) ← (scan cs).toOption
  let a ← reader document
  if isEnd rest then some a else none

end Rulebook.Json.Document
