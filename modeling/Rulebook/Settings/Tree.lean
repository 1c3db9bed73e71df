import Rulebook.Settings.Scalar

/-! # Setting trees

A source states settings as a tree of sections. Sources are laid over one another key by key.

A path leads from the root of a tree to one of its settings, by keys and by positions in lists. It
is written as its keys with points in front of all but the first, and its positions in brackets.
-/

namespace Rulebook

/-- A step into a tree; positions are counted from zero, negative ones from the end. -/
inductive SettingStep
  | key (name : String)
  | position (index : Int)
deriving DecidableEq

namespace SettingStep

def isKeyChar (c : Char) : Bool := c.isAlphanum || c = '_' || c = '-'

def scanKey (cs : List Char) : Option (String × List Char) :=
  let key := cs.takeWhile isKeyChar
  if key.isEmpty then none else some (String.ofList key, cs.dropWhile isKeyChar)

def scanPosition (cs : List Char) : Option (Int × List Char) :=
  let isSpace c := c = ' ' || c = '\t'
  let inside := (cs.takeWhile (· ≠ ']')).dropWhile isSpace
  let number := (inside.reverse.dropWhile isSpace).reverse
  match Scalar.integer? (String.ofList number), cs.dropWhile (· ≠ ']') with
  | some n, _ :: rest => if number.head? = some '+' then none else some (n, rest)
  | _, _ => none

/-- The steps behind the first key; each takes up at least one character. -/
def scanRest : Nat → List Char → Option (List SettingStep)
  | _, [] => some []
  | fuel + 1, '.' :: cs => do
    let (name, rest) ← scanKey cs
    return key name :: (← scanRest fuel rest)
  | fuel + 1, '[' :: cs => do
    let (index, rest) ← scanPosition cs
    return position index :: (← scanRest fuel rest)
  | _, _ => none

/-- The path that a text states: keys with points between them, and positions in brackets. -/
def path? (text : String) : Option (List SettingStep) := do
  let (name, rest) ← scanKey text.toList
  return key name :: (← scanRest rest.length rest)

end SettingStep

inductive SettingTree
  | gap
  | scalar (value : Scalar)
  | list (items : List SettingTree)
  | table (entries : List (String × SettingTree))

namespace SettingTree

def empty : SettingTree := table []

instance : Inhabited SettingTree := ⟨empty⟩

def put {α : Type} (key : String) (value : α) : List (String × α) → List (String × α)
  | [] => [(key, value)]
  | (k, v) :: rest => if k = key then (k, value) :: rest else (k, v) :: put key value rest

def entries : SettingTree → List (String × SettingTree)
  | table entries => entries
  | _ => []

def items : SettingTree → List SettingTree
  | list items => items
  | _ => []

def child? (key : String) (tree : SettingTree) : Option SettingTree := tree.entries.lookup key

/-- Makes room for a position: the items with gaps as needed, and the position from the front. -/
def reserve (items : List SettingTree) (index : Int) : List SettingTree × Nat :=
  let fromFront := if index < 0 then items.length + index else index
  if fromFront < 0 then (List.replicate fromFront.natAbs gap ++ items, 0)
  else
    let n := fromFront.toNat
    (items ++ List.replicate (n + 1 - items.length) gap, n)

/-- Changes what a path leads to; whatever stands in the way becomes a table or a list. -/
def change (f : SettingTree → SettingTree) : List SettingStep → SettingTree → SettingTree
  | [], tree => f tree
  | .key name :: path, tree =>
    table (put name (change f path ((tree.child? name).getD gap)) tree.entries)
  | .position index :: path, tree =>
    let (items, n) := reserve tree.items index
    list (items.modify n (change f path))

mutual

/-- Lays the upper tree over the lower one; tables are merged, anything else is replaced. -/
def overlay (lower : SettingTree) : SettingTree → SettingTree
  | table upper => table (overlayEntries lower.entries upper)
  | tree => tree

def overlayEntries (lower : List (String × SettingTree)) :
    List (String × SettingTree) → List (String × SettingTree)
  | [] => lower
  | (key, tree) :: rest =>
    overlayEntries (put key (overlay ((lower.lookup key).getD gap) tree) lower) rest

end

/-- Lays a tree over what a text leads to; a text that is no path is a single key. -/
def overlayAt (lower : SettingTree) (text : String) (upper : SettingTree) : SettingTree :=
  lower.change (·.overlay upper) ((SettingStep.path? text).getD [.key text])

def overlaySource (lower : SettingTree) (source : List (String × SettingTree)) : SettingTree :=
  source.foldl (fun tree (text, upper) => tree.overlayAt text upper) lower

end SettingTree

end Rulebook
