import Rulebook.Json.Number

/-! # JSON values

An object lists its members in the order in which they are written. Objects that are read from
a document are sorted by key, and each key occurs once, with the value that came last.

Values are printed compactly, without blanks. Each writer puts its text in front of the text
that follows, so that a whole document is built from its end.
-/

namespace Rulebook

inductive Json
  | null
  | bool (value : Bool)
  | number (value : Json.Number)
  | text (value : String)
  | array (items : List Json)
  | object (members : List (String × Json))

namespace Json

instance : Inhabited Json := ⟨null⟩

def isNull : Json → Bool
  | null => true
  | _ => false

def kindName : Json → String
  | null => "null"
  | bool _ => "boolean"
  | number _ => "number"
  | text _ => "string"
  | array _ => "array"
  | object _ => "object"

def lookup (key : String) : List (String × Json) → Option Json
  | [] => none
  | (k, v) :: rest => if k = key then some v else lookup key rest

/-- The member of an object; nothing else has members. -/
def member? (key : String) : Json → Option Json
  | object members => lookup key members
  | _ => none

/-- Puts a member into a sorted list, in place of an older one with the key. -/
def insertMember (key : String) (value : Json) : List (String × Json) → List (String × Json)
  | [] => [(key, value)]
  | (k, v) :: rest =>
    if key < k then (key, value) :: (k, v) :: rest
    else if key = k then (key, value) :: rest
    else (k, v) :: insertMember key value rest

def sortMembers (members : List (String × Json)) : List (String × Json) :=
  members.foldl (fun sorted (k, v) => insertMember k v sorted) []

def integer (n : Int) : Json := number (.integer n)

end Json

end Rulebook

namespace Rulebook.Json

def hexDigit (n : Nat) : Char := Nat.digitChar n

/-- Quotes, backslashes and the controls below U+0020 are escaped, the others stand for
themselves. -/
def escape (c : Char) : List Char :=
  if c = '"' then ['\\', '"']
  else if c = '\\' then ['\\', '\\']
  else if c = '\n' then ['\\', 'n']
  else if c = '\r' then ['\\', 'r']
  else if c = '\t' then ['\\', 't']
  else if c = '\x08' then ['\\', 'b']
  else if c = '\x0c' then ['\\', 'f']
  else if c.toNat < 0x20 then
    ['\\', 'u', '0', '0', hexDigit (c.toNat / 16), hexDigit (c.toNat % 16)]
  else [c]

def writeText (text : String) (rest : List Char) : List Char :=
  '"' :: text.toList.foldr (fun c after => escape c ++ after) ('"' :: rest)

mutual

def write : Json → List Char → List Char
  | null, rest => "null".toList ++ rest
  | bool true, rest => "true".toList ++ rest
  | bool false, rest => "false".toList ++ rest
  | number n, rest => n.write ++ rest
  | text t, rest => writeText t rest
  | array [], rest => '[' :: ']' :: rest
  | array (item :: items), rest => '[' :: write item (writeItems items rest)
  | object [], rest => '\x7b' :: '\x7d' :: rest
  | object ((key, value) :: members), rest =>
    '\x7b' :: writeText key (':' :: write value (writeMembers members rest))

/-- The items after the first and the closing bracket. -/
def writeItems : List Json → List Char → List Char
  | [], rest => ']' :: rest
  | item :: items, rest => ',' :: write item (writeItems items rest)

/-- The members after the first and the closing brace. -/
def writeMembers : List (String × Json) → List Char → List Char
  | [], rest => '\x7d' :: rest
  | (key, value) :: members, rest =>
    ',' :: writeText key (':' :: write value (writeMembers members rest))

end

def print (json : Json) : String := String.ofList (json.write [])

end Rulebook.Json

namespace Rulebook

/-- Whether a text is no JSON document, or a document of another shape than expected. -/
inductive JsonFault
  | syntactic
  | shape
deriving DecidableEq

/-- What stands in a message where the detail of a JSON fault is left out. -/
def JsonFault.detail : JsonFault → String
  | _ => "<text>"

end Rulebook
