/-!
Positions in a YAML text.

A cursor is the text that is still unread, with the number of characters read, the line and the
column. A line ends at a line feed, a carriage return, both in that order, or one of the three Unicode
line ends; in the content of a scalar all of them but LINE and PARAGRAPH SEPARATOR become a line feed.
-/

namespace HookFlow.Yaml

/-- a space or a tab -/
def isBlank (c : Char) : Bool := c == ' ' || c == '\t'

/-- a character that ends a line -/
def isBreak (c : Char) : Bool :=
  c == '\r' || c == '\n' || c == '\x85' || c == '\u2028' || c == '\u2029'

/-- a character of an anchor, a directive or a tag handle -/
def isWord (c : Char) : Bool := c.isAlphanum || c == '_' || c == '-'

/-- the characters that a YAML text may hold -/
def isAllowed (c : Char) : Bool :=
  let n := c.toNat
  n == 9 || n == 10 || n == 13 || (0x20 ≤ n && n ≤ 0x7E) || n == 0x85 ||
    (0xA0 ≤ n && n ≤ 0xD7FF) || (0xE000 ≤ n && n ≤ 0xFFFD) || 0x10000 ≤ n

/-- a place in a text -/
structure Cursor where
  /-- what is still unread -/
  rest : List Char
  /-- how many characters are read -/
  index : Nat := 0
  line : Nat := 0
  column : Nat := 0

namespace Cursor

/-- the next character -/
def peek? (c : Cursor) : Option Char := c.rest.head?

/-- whether the next character is `x` -/
def isAt (c : Cursor) (x : Char) : Bool := c.rest.head? == some x

/-- whether the next character satisfies `p` -/
def sees (c : Cursor) (p : Char → Bool) : Bool := c.rest.head?.any p

/-- the end of the text -/
def atEnd (c : Cursor) : Bool := c.rest.isEmpty

/-- a line end or the end of the text -/
def atBreakOrEnd (c : Cursor) : Bool := c.atEnd || c.sees isBreak

/-- whether `n` characters ahead there is a blank, a line end or the end of the text -/
def gapAt (c : Cursor) (n : Nat) : Bool :=
  match (c.rest.drop n).head? with
  | none => true
  | some x => isBlank x || isBreak x

/-- the cursor behind `n` characters of the same line -/
def skip (c : Cursor) (n : Nat) : Cursor :=
  { c with rest := c.rest.drop n, index := c.index + n, column := c.column + n }

/-- the characters in front that satisfy `p`, none of which may end a line, and the cursor behind -/
def span (c : Cursor) (p : Char → Bool) : List Char × Cursor :=
  let read := c.rest.takeWhile p
  (read, c.skip read.length)

/-- the cursor behind the characters that satisfy `p`, none of which may end a line -/
def skipWhile (c : Cursor) (p : Char → Bool) : Cursor := (c.span p).2

/-- the line end in front as it counts in content, and the cursor on the next line -/
def line? (c : Cursor) : Option (Char × Cursor) :=
  let next (n : Nat) : Cursor :=
    { rest := c.rest.drop n, index := c.index + n, line := c.line + 1, column := 0 }
  match c.rest with
  | '\r' :: '\n' :: _ => some ('\n', next 2)
  | x :: _ =>
    if x = '\r' ∨ x = '\n' ∨ x = '\x85' then some ('\n', next 1)
    else if x = '\u2028' ∨ x = '\u2029' then some (x, next 1)
    else none
  | [] => none

/-- the cursor behind the line end in front, if there is one -/
def skipLine (c : Cursor) : Cursor :=
  match c.line? with
  | some (_, c) => c
  | none => c

/-- a marker of three characters in the first column with a gap behind it -/
def hasMarker (c : Cursor) (x : Char) : Bool :=
  c.column == 0 && c.rest.take 3 == [x, x, x] && c.gapAt 3

/-- the start or the end marker of a document -/
def atDocumentMarker (c : Cursor) : Bool :=
  c.hasMarker '-' || c.hasMarker '.'

/-- the cursor behind blanks and a comment; `none` if something else stands before the line end -/
def restOfLine? (c : Cursor) : Option Cursor :=
  let c := c.skipWhile isBlank
  let c := if c.isAt '#' then c.skipWhile (fun x => !isBreak x) else c
  if c.atBreakOrEnd then some c.skipLine else none

end Cursor

end HookFlow.Yaml
