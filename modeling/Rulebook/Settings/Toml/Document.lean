import Rulebook.Settings.Toml.Scalar
import Rulebook.Settings.Toml.Table
import Rulebook.Settings.Toml.Text

/-! # TOML documents

A document is a sequence of statements: headers, which open tables, and keys with values. Values
are strings, truth values, numbers, dates and times, lists in brackets and tables in braces.
-/

namespace Rulebook.Toml

def word? (cs : List Char) : Option Item :=
  if cs = "true".toList then some (.scalar (.bool true))
  else if cs = "false".toList then some (.scalar (.bool false))
  else match integer? cs with
    | some n => if Scalar.fitsWord n then some (.scalar (.integer n)) else none
    | none => match float? cs with
      | some x => some (.scalar (.float x))
      | none => (Moment.ofList? cs).map .moment

/-- Whether a character belongs to a value without quotes. -/
def isWordChar (c : Char) : Bool := !isSpace c && !"#,]\x7d\r\n".toList.contains c

/-- A value without quotes; one blank may stand between a date and a time of day. -/
def scanWord (cs : List Char) : Option (Item × List Char) :=
  let (word, rest) := cs.span isWordChar
  match rest with
  | ' ' :: c :: time =>
    if c.isDigit && (Date.scan word).any (·.2.isEmpty) then
      (word? (word ++ ' ' :: (c :: time).takeWhile isWordChar)).map
        (·, (c :: time).dropWhile isWordChar)
    else (word? word).map (·, rest)
  | _ => (word? word).map (·, rest)

/-- A key with its value, given what passes over all that may stand around the equals sign. -/
def scanPair (skip : List Char → Option (List Char))
    (scanValue : List Char → Option (Item × List Char)) (cs : List Char) :
    Option (List String × Item × List Char) := do
  let (path, rest) ← scanKey cs
  match ← skip rest with
  | '=' :: rest =>
    let (value, rest) ← scanValue (← skip rest)
    return (path, value, rest)
  | _ => none

/-- The items of a list up to its closing bracket; a comma may follow the last one. -/
def scanList (scanValue : List Char → Option (Item × List Char)) :
    Nat → List Char → Option (List Item × List Char)
  | 0, _ => none
  | fuel + 1, cs => do
    match ← skipGap false cs with
    | ']' :: rest => return ([], rest)
    | cs =>
      let (item, rest) ← scanValue cs
      match ← skipGap false rest with
      | ']' :: rest => return ([item], rest)
      | ',' :: rest =>
        let (items, rest) ← scanList scanValue fuel rest
        return (item :: items, rest)
      | _ => none

/-- The entries of a table up to its closing brace; a comma may follow the last one. -/
def scanTable (scanValue : List Char → Option (Item × List Char)) (done : Entries) :
    Nat → List Char → Option (Entries × List Char)
  | 0, _ => none
  | fuel + 1, cs => do
    match ← skipGap false cs with
    | '\x7d' :: rest => return (done, rest)
    | cs =>
      -- Comments and line breaks may stand between any two parts.
      let (path, value, rest) ← scanPair (skipGap false) scanValue cs
      let done ← done.setKey path value
      match ← skipGap false rest with
      | '\x7d' :: rest => return (done, rest)
      | ',' :: rest => scanTable scanValue done fuel rest
      | _ => none

def scanValue : Nat → List Char → Option (Item × List Char)
  | depth + 1, '[' :: cs =>
    (scanList (scanValue depth) (cs.length + 1) cs).map fun (items, rest) => (.list items, rest)
  | depth + 1, '\x7b' :: cs => (scanTable (scanValue depth) [] (cs.length + 1) cs).map
      fun (entries, rest) => (.table .inline entries, rest)
  | _, '"' :: cs => (scanString ('"' :: cs)).map fun (text, rest) => (.scalar (.text text), rest)
  | _, '\'' :: cs => (scanString ('\'' :: cs)).map fun (text, rest) => (.scalar (.text text), rest)
  | _, cs => scanWord cs

inductive Statement
  | header (path : List String)
  | nextHeader (path : List String)
  | pair (path : List String) (value : Item)

def scanStatement (cs : List Char) : Option (Statement × List Char) := do
  let (statement, rest) ← match cs with
    | '[' :: '[' :: cs =>
      let (path, ']' :: ']' :: rest) ← scanKey cs | none
      pure (Statement.nextHeader path, rest)
    | '[' :: cs =>
      let (path, ']' :: rest) ← scanKey cs | none
      pure (Statement.header path, rest)
    | cs =>
      let (path, value, rest) ← scanPair (fun cs => some (skipSpace cs)) (scanValue maxNesting) cs
      pure (Statement.pair path value, rest)
  if isLineEnd rest then some (statement, rest) else none

structure State where
  root : Entries := []
  current : List String := []

def State.step (s : State) : Statement → Option State
  | .header path => do return ⟨← s.root.openTable path, path⟩
  | .nextHeader path => do return ⟨← s.root.openNext path, path⟩
  | .pair path value => do return { s with root := ← s.root.setIn s.current path value }

/-- Follows the statements to the end; each takes up at least one character. -/
def run (s : State) : Nat → List Char → Option State
  | 0, _ => none
  | fuel + 1, cs => do
    match ← skipGap false cs with
    | [] => return s
    | cs =>
      let (statement, rest) ← scanStatement cs
      run (← s.step statement) fuel rest

/-- The characters behind a byte order mark, if there is one. -/
def dropMark : List Char → List Char
  | '\ufeff' :: cs => cs
  | cs => cs

def parse? (text : String) : Option (List (String × SettingTree)) :=
  let cs := dropMark text.toList
  (run {} (cs.length + 1) cs).bind fun s => Item.settings? s.root

end Rulebook.Toml
