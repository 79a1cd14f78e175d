import HookFlow.Yaml.Token.Scalar
import HookFlow.Yaml.Token.Tag
/-!
The token list of a YAML text.

A key is known as such only when its colon is met. So each place where a key may have begun is
remembered, one per nesting of flow collections, and the `key` token is put in later. Such a place
lapses at the end of its line and after 1024 characters.

A text that goes wrong somewhere still has tokens in front of the error, but those from the first
open place on are not settled and are withheld: `Scan.settled` counts the ones that are.
-/

namespace HookFlow.Yaml

/-- a place where a key may have begun -/
structure OpenKey where
  /-- how many tokens stand in front of it -/
  position : Nat
  /-- whether it has to be a key, since it stands where the block around it has its keys -/
  required : Bool
  index : Nat
  line : Nat
  column : Nat
  deriving Repr

/-- the state of reading tokens -/
structure Scan where
  cursor : Cursor
  /-- the tokens so far, in reverse -/
  tokens : List Token := []
  /-- how many tokens there are -/
  count : Nat := 0
  /-- the indentation of the current block, and of those around it -/
  indent : Int := -1
  indents : List Int := []
  /-- whether a key may begin here -/
  keyAllowed : Bool := true
  /-- the open places, innermost flow collection first -/
  keys : List (Option OpenKey) := [none]

namespace Scan

/-- how many flow collections are open -/
def flowLevel (s : Scan) : Nat := s.keys.length - 1

/-- whether a flow collection is open -/
def inFlow (s : Scan) : Bool := s.flowLevel != 0

/-- one more token at the end -/
def push (s : Scan) (t : Token) : Scan :=
  { s with tokens := t :: s.tokens, count := s.count + 1 }

/-- one more token in front of the token at `i` -/
def insert (s : Scan) (i : Nat) (t : Token) : Scan :=
  let behind := s.count - i
  { s with tokens := s.tokens.take behind ++ t :: s.tokens.drop behind, count := s.count + 1 }

/-- whether an open place has lapsed by now -/
def lapsed (s : Scan) (k : OpenKey) : Bool :=
  k.line < s.cursor.line || k.index + 1024 < s.cursor.index

/-- the state without lapsed places; `none` if one of them had to be a key -/
def dropLapsed? (s : Scan) : Option Scan :=
  if s.keys.any fun k => k.any fun k => s.lapsed k && k.required then none
  else some { s with keys := s.keys.map fun k => k.filter fun k => !s.lapsed k }

/-- how many tokens are settled -/
def settled (s : Scan) : Nat :=
  s.keys.foldl (fun n k => match k with | some k => min n k.position | none => n) s.count

/-- the first tokens, in order -/
def first (s : Scan) (n : Nat) : List Token := (s.tokens.drop (s.count - n)).reverse

/-- the state with no open place in the current collection; `none` if it had to be a key -/
def closeKey? (s : Scan) : Option Scan :=
  match s.keys with
  | some k :: rest => if k.required then none else some { s with keys := none :: rest }
  | _ => some s

/-- the state in which a key may have begun at the cursor, where keys are allowed -/
def openKey? (s : Scan) : Option Scan :=
  if s.keyAllowed then do
    let s ← s.closeKey?
    let k : OpenKey := {
      position := s.count
      required := !s.inFlow && s.indent == s.cursor.column
      index := s.cursor.index
      line := s.cursor.line
      column := s.cursor.column }
    return { s with keys := some k :: s.keys.drop 1 }
  else some s

/-- a deeper block that starts at a column, announced by `t` in front of the token at `i` -/
def indentTo (s : Scan) (column i : Nat) (t : Token) : Scan :=
  if !s.inFlow && s.indent < (column : Int) then
    let s := s.insert i t
    { s with indents := s.indent :: s.indents, indent := column }
  else s

/-- the blocks in `outer` that stay open at a column, and how many end there -/
def closing (column : Int) : Int → List Int → Nat × Int × List Int
  | indent, outer =>
    if column < indent then
      match outer with
      | next :: rest =>
        let (n, r) := closing column next rest
        (n + 1, r)
      | [] => (1, -1, [])
    else (0, indent, outer)
  termination_by _ outer => outer.length

/-- the end of all blocks that are deeper than a column -/
def dedentTo (s : Scan) (column : Int) : Scan :=
  if s.inFlow then s
  else
    let (n, indent, indents) := closing column s.indent s.indents
    { s with
      tokens := List.replicate n Token.blockEnd ++ s.tokens
      count := s.count + n
      indent := indent
      indents := indents }

/-- The state on the next token: behind blanks, comments and line ends. Tabs count as blanks inside
flow collections and where no key may begin, and a line may start with a byte order mark. -/
def skipToToken : Nat → Scan → Scan
  | 0, s => s
  | fuel + 1, s =>
    let tabs := s.inFlow || !s.keyAllowed
    let c := if s.cursor.column == 0 && s.cursor.isAt '\ufeff' then s.cursor.skip 1 else s.cursor
    let c := c.skipWhile fun x => x == ' ' || (tabs && x == '\t')
    let c := if c.isAt '#' then c.skipWhile (fun x => !isBreak x) else c
    match c.line? with
    | some (_, c) =>
      skipToToken fuel { s with cursor := c, keyAllowed := s.keyAllowed || !s.inFlow }
    | none => { s with cursor := c }

/-- a token of `n` characters, behind which keys are allowed or not -/
def indicator (s : Scan) (n : Nat) (t : Token) (keyAllowed : Bool) : Scan :=
  { (s.push t) with cursor := s.cursor.skip n, keyAllowed := keyAllowed }

/-- the start of a flow collection, which may itself be a key -/
def openFlow? (s : Scan) (t : Token) : Option Scan := do
  let s ← s.openKey?
  return { (s.indicator 1 t true) with keys := none :: s.keys }

/-- the end of a flow collection -/
def closeFlow? (s : Scan) (t : Token) : Option Scan := do
  let s ← s.closeKey?
  let keys := if s.inFlow then s.keys.drop 1 else s.keys
  return { (s.indicator 1 t false) with keys := keys }

/-- an entry of a block sequence -/
def blockEntry? (s : Scan) : Option Scan :=
  if !s.inFlow && !s.keyAllowed then none
  else do
    let s ← (s.indentTo s.cursor.column s.count .blockSequenceStart).closeKey?
    return s.indicator 1 .blockEntry true

/-- a key that is announced by a question mark -/
def explicitKey? (s : Scan) : Option Scan :=
  if !s.inFlow && !s.keyAllowed then none
  else do
    let s ← (s.indentTo s.cursor.column s.count .blockMappingStart).closeKey?
    return s.indicator 1 .key (!s.inFlow)

/-- a value; the open place in front of it, if there is one, turns out to be its key -/
def value? (s : Scan) : Option Scan :=
  match s.keys with
  | some k :: rest =>
    let s := (s.insert k.position .key).indentTo k.column k.position .blockMappingStart
    some ({ s with keys := none :: rest }.indicator 1 .value false)
  | _ =>
    if !s.inFlow && !s.keyAllowed then none
    else
      let s := s.indentTo s.cursor.column s.count .blockMappingStart
      some (s.indicator 1 .value (!s.inFlow))

/-- a token that is read as a whole and may be a key -/
def keyLike? (s : Scan) (read : Option (Token × Cursor)) : Option Scan := do
  let s ← s.openKey?
  let (t, c) ← read
  return { (s.push t) with cursor := c, keyAllowed := false }

/-- a block scalar -/
def blockScalar? (s : Scan) (folded : Bool) : Option Scan := do
  let s ← s.closeKey?
  let (text, c) ← block? folded s.indent (s.cursor.skip 1)
  let style := if folded then ScalarStyle.folded else ScalarStyle.literal
  return { (s.push (.scalar text style)) with cursor := c, keyAllowed := true }

/-- a plain scalar; behind a line end a key may begin -/
def plainScalar? (s : Scan) : Option Scan := do
  let s ← s.openKey?
  let (text, broken, c) ← plain? s.inFlow (s.indent + 1) s.cursor
  return { (s.push (.scalar text .plain)) with cursor := c, keyAllowed := broken }

/-- a quoted scalar -/
def quotedScalar? (s : Scan) (double : Bool) : Option Scan :=
  let style := if double then ScalarStyle.doubleQuoted else ScalarStyle.singleQuoted
  s.keyLike? ((quoted? double (s.cursor.skip 1)).map fun r => (.scalar r.1 style, r.2))

/-- whether a plain scalar may start at the cursor -/
def startsPlain (s : Scan) (x : Char) : Bool :=
  let c := s.cursor
  !("\t-?:,[]\x7b\x7d#&*!|>'\"%@`").toList.contains x ||
    (x == '-' && !(c.rest.drop 1).head?.any isBlank) ||
    (!s.inFlow && (x == '?' || x == ':') && !c.gapAt 1)

/-- the state behind the next token, with the cursor on the token's first character -/
def token? (s : Scan) (x : Char) : Option Scan :=
  let c := s.cursor
  let flow := s.inFlow
  if c.column == 0 && x == '%' then do
    let s ← (s.dedentTo (-1)).closeKey?
    let (t, c) ← directive? s.cursor
    return { (s.push t) with cursor := c, keyAllowed := false }
  else if c.hasMarker '-' then do
    let s ← (s.dedentTo (-1)).closeKey?
    return s.indicator 3 .documentStart false
  else if c.hasMarker '.' then do
    let s ← (s.dedentTo (-1)).closeKey?
    return s.indicator 3 .documentEnd false
  else if x == '[' then s.openFlow? .flowSequenceStart
  else if x == '\x7b' then s.openFlow? .flowMappingStart
  else if x == ']' then s.closeFlow? .flowSequenceEnd
  else if x == '\x7d' then s.closeFlow? .flowMappingEnd
  else if x == ',' then do
    let s ← s.closeKey?
    return s.indicator 1 .flowEntry true
  else if x == '-' && c.gapAt 1 then s.blockEntry?
  else if x == '?' && (flow || c.gapAt 1) then s.explicitKey?
  else if x == ':' && (flow || c.gapAt 1) then s.value?
  else if x == '*' then s.keyLike? ((anchorName? c).map fun r => (.alias r.1, r.2))
  else if x == '&' then s.keyLike? ((anchorName? c).map fun r => (.anchor r.1, r.2))
  else if x == '!' then s.keyLike? (tag? flow c)
  else if x == '|' && !flow then s.blockScalar? false
  else if x == '>' && !flow then s.blockScalar? true
  else if x == '\'' then s.quotedScalar? false
  else if x == '"' then s.quotedScalar? true
  else if s.startsPlain x then s.plainScalar?
  else none

/-- what comes of one more token: a further state, the end of the text, or an error -/
inductive Next where
  | more (s : Scan)
  | finished (s : Scan)
  | failed

/-- the state behind the next token, closing blocks that end in front of it -/
def next (s : Scan) : Next :=
  match (skipToToken (s.cursor.rest.length + 1) s).dropLapsed? with
  | none => .failed
  | some s =>
    let s := s.dedentTo s.cursor.column
    match s.cursor.peek? with
    | none =>
      if s.keys.any fun k => k.any (·.required) then .failed
      else .finished ((s.dedentTo (-1)).push .streamEnd)
    | some x =>
      match s.token? x with
      | some s => .more s
      | none => .failed

/-- All tokens from a state on, and whether the text was well formed up to its end. `settled` is how
many tokens were settled before the last one was asked for: those are what remains of a text that
goes wrong. -/
def run : Nat → Nat → Scan → List Token × Bool
  | 0, settled, s => (s.first settled, false)
  | fuel + 1, settled, s =>
    match s.dropLapsed? with
    | none => (s.first settled, false)
    | some s =>
      match s.next with
      | .failed => (s.first s.settled, false)
      | .finished s => (s.tokens.reverse, true)
      | .more t => run fuel s.settled t

end Scan

/-- The settled tokens of a text, and whether the text is well formed as far as tokens go. A text with
a character that YAML does not admit has none. -/
def Token.ofChars (cs : List Char) : List Token × Bool :=
  if cs.all isAllowed then
    Scan.run (cs.length + 2) 0 { cursor := { rest := cs } }
  else ([], false)

end HookFlow.Yaml
