/-! # Request targets

What a request asks for: a path, perhaps with a query and a fragment; an address, which is a path
behind a scheme and an authority; an authority alone; or an asterisk. Of all this the path matters.
-/

namespace Rulebook.Service.Target

def maxLength : Nat := 65534

def maxScheme : Nat := 64

/-- The most colons in a row of characters that ends in a bracket or an at sign. -/
def maxColons : Nat := 8

def isSchemeChar (c : Char) : Bool := c.isAlphanum || "+-.~".toList.contains c

def dropScheme? (cs : List Char) : Option (List Char) :=
  match cs.dropWhile isSchemeChar with
  | ':' :: '/' :: '/' :: rest => some rest
  | _ => none

/-- What has been seen of an authority; colons count from the last at sign or bracket. -/
structure Authority where
  colons : Nat := 0
  opened : Bool := false
  closed : Bool := false
  percent : Bool := false
  endsInAt : Bool := false

namespace Authority

def isAuthorityChar (c : Char) : Bool := c.isAlphanum || "!$&'()*+,-.;=_~".toList.contains c

def step (a : Authority) (c : Char) : Option Authority :=
  let a := { a with endsInAt := c = '@' }
  if c = ':' then if a.colons < maxColons then some { a with colons := a.colons + 1 } else none
  else if c = '[' then if a.percent || a.opened then none else some { a with opened := true }
  else if c = ']' then
    if !a.opened || a.closed then none
    else some { a with closed := true, colons := 0, percent := false }
  else if c = '@' then some { a with colons := 0, percent := false }
  else if c = '%' then some { a with percent := true }
  else if isAuthorityChar c then some a
  else none

/-- Whether an authority may end here. -/
def isComplete (a : Authority) : Bool :=
  -- One port at most, a host behind an at sign, and no percent sign in the host.
  (a.opened == a.closed) && a.colons ≤ 1 && !a.endsInAt && !a.percent

def drop? (a : Authority) : List Char → Option (List Char)
  | [] => if a.isComplete then some [] else none
  | c :: cs =>
    if c = '/' || c = '?' || c = '#' then if a.isComplete then some (c :: cs) else none
    else (a.step c).bind (drop? · cs)

end Authority

/-- A character of a path, be it one that should have been written with a percent sign. -/
def isPathChar (c : Char) : Bool :=
  let n := c.toNat
  n = 0x21 || (0x24 ≤ n && n ≤ 0x3b) || n = 0x3d || (0x40 ≤ n && n ≤ 0x5f) ||
    (0x61 ≤ n && n ≤ 0x7e) || 0x7f ≤ n || c = '"'

def isQueryChar (c : Char) : Bool :=
  let n := c.toNat
  n = 0x21 || (0x24 ≤ n && n ≤ 0x3b) || n = 0x3d || 0x3f ≤ n

def pathOf? (cs : List Char) : Option String :=
  let path := cs.takeWhile fun c => c ≠ '?' && c ≠ '#'
  let queryOk := match cs.drop path.length with
    | '?' :: query => (query.takeWhile (· ≠ '#')).all isQueryChar
    | _ => true
  if path.all isPathChar && queryOk then some (String.ofList path) else none

/-- The path of a target, or none if the target is malformed. -/
def path? (text : String) : Option String :=
  if text.isEmpty || maxLength < text.utf8ByteSize then none
  else if text = "*" then some text
  else match text.toList with
    | '/' :: cs => pathOf? ('/' :: cs)
    | cs => match dropScheme? cs with
      | none => if (Authority.drop? {} cs).any List.isEmpty then some "" else none
      | some rest =>
        if maxScheme < (cs.takeWhile isSchemeChar).length then none
        else do
          let behind ← Authority.drop? {} rest
          if behind.length = rest.length then none
          else
            let path ← pathOf? behind
            return if path.isEmpty then "/" else path

end Rulebook.Service.Target
