import Rulebook.Numeral

/-! # Texts in TOML

Blanks, comments, strings and keys. Strings are basic, with escapes, or literal, and either kind
may run over several lines when three quotes enclose it.
-/

namespace Rulebook.Toml

/-- Space and tab, which may stand between the parts of a line. -/
def isSpace (c : Char) : Bool := c = ' ' || c = '\t'

def skipSpace (cs : List Char) : List Char := cs.dropWhile isSpace

/-- A character of comments and strings: any but control characters, of which tab is let in. -/
def isTextChar (c : Char) : Bool := c = '\t' || (0x20 ≤ c.toNat && c.toNat ≠ 0x7f)

/-- How many characters a line break at the head takes up. -/
def lineBreak : List Char → Nat
  | '\n' :: _ => 1
  | '\r' :: '\n' :: _ => 2
  | _ => 0

def isLineEnd (cs : List Char) : Bool :=
  match skipSpace cs with
  | [] | '#' :: _ => true
  | cs => 0 < lineBreak cs

/-- What follows blanks, line breaks and comments, given whether a comment has begun. -/
def skipGap (comment : Bool) : List Char → Option (List Char)
  | [] => some []
  | '\n' :: cs => skipGap false cs
  | '\r' :: '\n' :: cs => skipGap false cs
  | c :: cs =>
    if comment then if isTextChar c then skipGap true cs else none
    else if isSpace c then skipGap false cs
    else if c = '#' then skipGap true cs
    else some (c :: cs)

def unicode? (ds : List Char) : Option Char := do
  let n ← ds.foldlM (fun n c => (Numeral.hexDigit? c).map (n * 16 + ·)) 0
  if h : n.isValidChar then some (Char.ofNatAux n h) else none

/-- The character that some hexadecimal digits at the head stand for, with their number. -/
def numbered? (width : Nat) (cs : List Char) : Option (Char × Nat) :=
  if cs.length < width then none else (unicode? (cs.take width)).map (·, width + 1)

/-- The character of an escape, given what is behind the backslash, and how many characters
spell it. -/
def unescape? : List Char → Option (Char × Nat)
  | 'b' :: _ => some ('\x08', 1)
  | 't' :: _ => some ('\t', 1)
  | 'n' :: _ => some ('\n', 1)
  | 'f' :: _ => some ('\x0c', 1)
  | 'r' :: _ => some ('\r', 1)
  | 'e' :: _ => some ('\x1b', 1)
  | '"' :: _ => some ('"', 1)
  | '\\' :: _ => some ('\\', 1)
  | 'x' :: cs => numbered? 2 cs
  | 'u' :: cs => numbered? 4 cs
  | 'U' :: cs => numbered? 8 cs
  | _ => none

/-- A piece of text, perhaps the last, and how many characters spell it. -/
structure Piece where
  text : List Char
  width : Nat
  isLast : Bool := false

namespace Piece

def plain? (c : Char) : Option Piece := if isTextChar c then some ⟨[c], 1, false⟩ else none

def escaped? (cs : List Char) : Option Piece :=
  (unescape? cs).map fun (c, width) => ⟨[c], width + 1, false⟩

def basic? : List Char → Option Piece
  | '"' :: _ => some ⟨[], 1, true⟩
  | '\\' :: cs => escaped? cs
  | c :: _ => plain? c
  | [] => none

def literal? : List Char → Option Piece
  | '\'' :: _ => some ⟨[], 1, true⟩
  | c :: _ => plain? c
  | [] => none

/-- Quotes inside a string that three of them close: up to two more belong to the string. -/
def ofQuotes (quote : Char) (n : Nat) : Piece :=
  if n < 3 then ⟨List.replicate n quote, n, false⟩
  else ⟨List.replicate (min n 5 - 3) quote, min n 5, true⟩

/-- The length of the longest head of blanks and line breaks. -/
def gapWidth : List Char → Nat
  | '\r' :: '\n' :: cs => gapWidth cs + 2
  | c :: cs => if isSpace c || c = '\n' then gapWidth cs + 1 else 0
  | [] => 0

/-- A piece of a string over several lines. -/
def multiline? (quote : Char) (cs : List Char) : Option Piece :=
  if 0 < lineBreak cs then some ⟨cs.take (lineBreak cs), lineBreak cs, false⟩
  else match cs with
    | [] => none
    | c :: rest =>
      if c = quote then some (ofQuotes quote (cs.takeWhile (· = quote)).length)
      -- In a basic string, a backslash at the end of a line takes away the gap behind it.
      else if c = '\\' && quote = '"' then
        if 0 < lineBreak (skipSpace rest) then some ⟨[], gapWidth rest + 1, false⟩
        else escaped? rest
      else plain? c

end Piece

/-- The text of a string up to its end; `skip` characters belong to the piece read last. -/
def scanPieces (piece? : List Char → Option Piece) (skip : Nat) (done : List Char) :
    List Char → Option (String × List Char)
  | [] => none
  | c :: cs =>
    if 0 < skip then scanPieces piece? (skip - 1) done cs
    else do
      let piece ← piece? (c :: cs)
      let done := piece.text.reverse ++ done
      if piece.isLast then some (String.ofList done.reverse, (c :: cs).drop piece.width)
      else scanPieces piece? (piece.width - 1) done cs

def scanLineString : List Char → Option (String × List Char)
  | '"' :: cs => scanPieces Piece.basic? 0 [] cs
  | '\'' :: cs => scanPieces Piece.literal? 0 [] cs
  | _ => none

/-- A string over several lines; a line break right behind the opening quotes does not count. -/
def scanMultiline (quote : Char) (cs : List Char) : Option (String × List Char) :=
  scanPieces (Piece.multiline? quote) 0 [] (cs.drop (lineBreak cs))

def scanString : List Char → Option (String × List Char)
  | '"' :: '"' :: '"' :: cs => scanMultiline '"' cs
  | '\'' :: '\'' :: '\'' :: cs => scanMultiline '\'' cs
  | cs => scanLineString cs

def isBareKeyChar (c : Char) : Bool := c.isAlphanum || c = '_' || c = '-'

def scanKeyPart (cs : List Char) : Option (String × List Char) :=
  let part := cs.takeWhile isBareKeyChar
  if part.isEmpty then scanLineString cs
  else some (String.ofList part, cs.dropWhile isBareKeyChar)

/-- The parts of a key that points separate, of which so many may follow the first. -/
def scanParts (more : Nat) (cs : List Char) : Option (List String × List Char) := do
  let (part, rest) ← scanKeyPart (skipSpace cs)
  match more, skipSpace rest with
  | more + 1, '.' :: rest =>
    let (parts, rest) ← scanParts more rest
    return (part :: parts, rest)
  | _, rest => return ([part], rest)

/-- How deep tables may nest by one key, and lists and tables in one value. -/
def maxNesting : Nat := 80

def scanKey (cs : List Char) : Option (List String × List Char) := scanParts (maxNesting - 1) cs

end Rulebook.Toml
