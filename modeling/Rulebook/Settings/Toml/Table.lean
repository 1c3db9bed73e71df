import Rulebook.Settings.Toml.Scalar
import Rulebook.Settings.Tree

/-! # Tables in TOML

Tables grow by headers and by keys. How a table came about decides what may still be added to
it: a key is set once, a table is opened once, and a table in braces is closed for good.

A finished document becomes a setting tree. A table whose smallest key is `momentKey` then
stands for the moment that the text behind this key spells.
-/

namespace Rulebook.Toml

/-- A table has a header, leads to one, comes from a key with points, or is a value in braces. -/
inductive Origin
  | header
  | implied
  | dotted
  | inline
deriving DecidableEq

/-- Tables under headers in double brackets are kept with the latest one first. -/
inductive Item
  | scalar (value : Scalar)
  | moment (value : Moment)
  | list (items : List Item)
  | table (origin : Origin) (entries : List (String × Item))
  | tables (stack : List (List (String × Item)))

abbrev Entries := List (String × Item)

namespace Entries

/-- Changes the table that a path leads to; missing tables on the way are made. -/
def changeAt (byKey : Bool) (change : Origin → Entries → Option Entries) :
    Origin → List String → Entries → Option Entries
  | origin, [], entries => change origin entries
  | _, key :: path, entries => do
    let item ← match entries.lookup key with
      | none =>
        let origin := if byKey then .dotted else .implied
        return SettingTree.put key (.table origin (← changeAt byKey change origin path [])) entries
      | some (.table origin below) =>
        -- A table in braces is closed, and keys with points do not enter one that has a header.
        if origin = .inline || (byKey && origin = .header) then none
        else pure (Item.table origin (← changeAt byKey change origin path below))
      | some (.tables (latest :: older)) =>
        pure (Item.tables ((← changeAt byKey change .header path latest) :: older))
      | some _ => none
    return SettingTree.put key item entries

/-- The path without its last part, and the last part. -/
def splitLast : List String → Option (List String × String)
  | [] => none
  | [key] => some ([], key)
  | key :: path => (splitLast path).map fun (path, last) => (key :: path, last)

/-- Sets a key that is new. A key with points ends in a table made by such keys only. -/
def setKey (path : List String) (value : Item) (entries : Entries) : Option Entries := do
  let (path, key) ← splitLast path
  changeAt true (fun origin entries =>
    if (entries.lookup key).isSome || (origin = .dotted) = path.isEmpty then none
    else some (SettingTree.put key value entries)) .header path entries

/-- Opens a table, which is new or implied by other headers. -/
def openTable (path : List String) (entries : Entries) : Option Entries := do
  let (path, key) ← splitLast path
  changeAt false (fun _ entries => match entries.lookup key with
    | none => some (SettingTree.put key (.table .header []) entries)
    | some (.table .implied below) => some (SettingTree.put key (.table .header below) entries)
    | some _ => none) .header path entries

/-- Opens one more of the tables under a header in double brackets. -/
def openNext (path : List String) (entries : Entries) : Option Entries := do
  let (path, key) ← splitLast path
  changeAt false (fun _ entries => match entries.lookup key with
    | none => some (SettingTree.put key (.tables [[]]) entries)
    | some (.tables stack) => some (SettingTree.put key (.tables ([] :: stack)) entries)
    | some _ => none) .header path entries

def setIn (current path : List String) (value : Item) (entries : Entries) : Option Entries :=
  changeAt false (fun _ entries => setKey path value entries) .header current entries

end Entries

namespace Item

/-- The first key of a table that stands for a moment. -/
def momentKey : String := "$__toml_private_datetime"

def first? : Entries → Option (String × Item)
  | [] => none
  | entry :: entries => match first? entries with
    | some other => some (if other.1 < entry.1 then other else entry)
    | none => some entry

/-- What stands for a moment in a table whose smallest key is `momentKey`. -/
def embedded? (entries : Entries) : Option Item :=
  (first? entries).bind fun (key, item) => if key = momentKey then some item else none

def toMoment? : Item → Option Moment
  | scalar (.text text) => Moment.ofList? text.toList
  | _ => none

def ofMoment (m : Moment) : SettingTree := .scalar (.text m.text)

def tableTree? (entries : Entries) (below : Option (List (String × SettingTree))) :
    Option SettingTree :=
  match embedded? entries with
  | some item => item.toMoment?.map ofMoment
  | none => below.map .table

mutual

/-- The tree of an item, unless a table in it stands for a moment that there is not. -/
def toTree? : Item → Option SettingTree
  | scalar value => some (.scalar value)
  | moment value => some (ofMoment value)
  | list items => (toTrees? items).map .list
  | table _ entries => tableTree? entries (toEntries? entries)
  | tables stack => (toTables? stack).map (.list ·.reverse)

def toTrees? : List Item → Option (List SettingTree)
  | [] => some []
  | item :: items => do
    return (← toTree? item) :: (← toTrees? items)

def toEntries? : List (String × Item) → Option (List (String × SettingTree))
  | [] => some []
  | (key, item) :: rest => do
    let tree ← toTree? item
    return (key, tree) :: (← toEntries? rest)

def toTables? : List (List (String × Item)) → Option (List SettingTree)
  | [] => some []
  | entries :: rest => do
    return (← tableTree? entries (toEntries? entries)) :: (← toTables? rest)

end

/-- The settings of a document, which is a table that stands for itself. -/
def settings? (root : Entries) : Option (List (String × SettingTree)) :=
  if (embedded? root).isSome then none else toEntries? root

end Item

end Rulebook.Toml
