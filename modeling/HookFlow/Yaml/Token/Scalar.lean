import HookFlow.Yaml.Token
import HookFlow.Text.Quoted
/-!
Reading scalars: plain ones, quoted ones, and block scalars.

Each reader starts behind the scalar's indicator, if it has one, and gives its content and the cursor
behind it, or nothing where the text is malformed. Their fuel is the number of unread characters:
every round of a reader takes at least one of them.
-/

namespace HookFlow.Yaml

open HookFlow.Text

/-! ## Quoted scalars -/

/-- the character that a one-letter escape stands for -/
def escaped? (c : Char) : Option Char :=
  if c = '0' then some '\x00'
  else if c = 'a' then some '\x07'
  else if c = 'b' then some '\x08'
  else if c = 't' ∨ c = '\t' then some '\t'
  else if c = 'n' then some '\n'
  else if c = 'v' then some '\x0b'
  else if c = 'f' then some '\x0c'
  else if c = 'r' then some '\r'
  else if c = 'e' then some '\x1b'
  else if c = ' ' then some ' '
  else if c = '"' then some '"'
  else if c = '/' then some '/'
  else if c = '\\' then some '\\'
  else if c = 'N' then some '\x85'
  else if c = '_' then some '\xa0'
  else if c = 'L' then some '\u2028'
  else if c = 'P' then some '\u2029'
  else none

/-- how many digits a numeric escape has -/
def escapeWidth? (c : Char) : Option Nat :=
  if c = 'x' then some 2 else if c = 'u' then some 4 else if c = 'U' then some 8 else none

/-- the character whose number is written by `width` hexadecimal digits -/
def numbered? (width : Nat) (cs : List Char) : Option Char :=
  let ds := cs.take width
  if ds.length < width then none
  else match ds.mapM hexValue? with
    | none => none
    | some vs =>
      let n := vs.foldl (fun n v => n * 16 + v) 0
      if (0xD800 ≤ n ∧ n ≤ 0xDFFF) ∨ 0x10FFFF < n then none else some (Char.ofNat n)

/-- the blanks and line ends in front, added to a gap, and the cursor behind them -/
def gapFrom : Nat → Gap → Cursor → Gap × Cursor
  | 0, g, c => (g, c)
  | fuel + 1, g, c =>
    match c.line? with
    | some (x, next) => gapFrom fuel (g.pushBreak x) next
    | none =>
      match c.peek? with
      | some x =>
        if isBlank x then
          gapFrom fuel (if g.broken then g else { g with blanks := x :: g.blanks }) (c.skip 1)
        else (g, c)
      | none => (g, c)

/-- the content of a quoted scalar behind `acc` (in reverse), up to its closing quote -/
def quotedFrom? (double : Bool) : Nat → List Char → Cursor → Option (List Char × Cursor)
  | 0, _, _ => none
  | fuel + 1, acc, c =>
    if c.atDocumentMarker then none
    else match c.rest with
    | [] => none
    | x :: rest =>
      if isBlank x || isBreak x then
        let (g, c) := gapFrom c.rest.length {} c
        quotedFrom? double fuel (g.text.reverse ++ acc) c
      else if double then
        if x = '"' then some (acc.reverse, c.skip 1)
        else if x = '\\' then
          match rest with
          | [] => none
          | e :: digits =>
            if isBreak e then
              let (g, c) := gapFrom c.rest.length { broken := true } (c.skip 1).skipLine
              quotedFrom? double fuel (g.text.reverse ++ acc) c
            else match escapeWidth? e with
              | some width =>
                match numbered? width digits with
                | some y => quotedFrom? double fuel (y :: acc) (c.skip (2 + width))
                | none => none
              | none =>
                match escaped? e with
                | some y => quotedFrom? double fuel (y :: acc) (c.skip 2)
                | none => none
        else quotedFrom? double fuel (x :: acc) (c.skip 1)
      else if x = '\'' then
        match rest with
        | '\'' :: _ => quotedFrom? double fuel ('\'' :: acc) (c.skip 2)
        | _ => some (acc.reverse, c.skip 1)
      else quotedFrom? double fuel (x :: acc) (c.skip 1)

/-- the content of a quoted scalar whose opening quote is read, and the cursor behind its closing
quote -/
def quoted? (double : Bool) (c : Cursor) : Option (List Char × Cursor) :=
  quotedFrom? double (c.rest.length + 1) [] c

/-! ## Plain scalars -/

/-- a character that ends a plain scalar inside a flow collection -/
def isFlowIndicator (c : Char) : Bool :=
  c == ',' || c == '[' || c == ']' || c == '\x7b' || c == '\x7d'

/-- The word of a plain scalar that starts at the cursor, up to a gap or an indicator. `none` where a
colon inside a flow collection stands against an indicator. -/
def plainWord? (flow : Bool) : Nat → List Char → Cursor → Option (List Char × Cursor)
  | 0, _, _ => none
  | fuel + 1, acc, c =>
    if c.gapAt 0 then some (acc.reverse, c)
    else match c.rest with
    | [] => some (acc.reverse, c)
    | x :: rest =>
      if flow && x == ':' && rest.head?.any (fun y => isFlowIndicator y || y == '?') then none
      else if (x == ':' && c.gapAt 1) || (flow && isFlowIndicator x) then some (acc.reverse, c)
      else plainWord? flow fuel (x :: acc) (c.skip 1)

/-- The gap behind a word of a plain scalar. A tab may not stand where the next line would have to be
indented further. -/
def plainGap? (indent : Int) : Nat → Gap → Cursor → Option (Gap × Cursor)
  | 0, g, c => some (g, c)
  | fuel + 1, g, c =>
    match c.line? with
    | some (x, next) => plainGap? indent fuel (g.pushBreak x) next
    | none =>
      match c.peek? with
      | some x =>
        if isBlank x then
          if g.broken && (c.column : Int) < indent && x == '\t' then none
          else plainGap? indent fuel (if g.broken then g else { g with blanks := x :: g.blanks })
            (c.skip 1)
        else some (g, c)
      | none => some (g, c)

/-- The content of a plain scalar behind `acc` (in reverse) and a gap: words with gaps between them,
while the lines stay indented by `indent`. The answer says too whether the last gap holds a line
end. -/
def plainFrom? (flow : Bool) (indent : Int) :
    Nat → List Char → Gap → Cursor → Option (List Char × Bool × Cursor)
  | 0, _, _, _ => none
  | fuel + 1, acc, g, c =>
    if c.atDocumentMarker || c.isAt '#' then some (acc.reverse, g.broken, c)
    else match plainWord? flow (c.rest.length + 1) [] c with
    | none => none
    | some ([], c) => some (acc.reverse, g.broken, c)
    | some (word, c) =>
      let acc := word.reverse ++ (g.text.reverse ++ acc)
      if !c.gapAt 0 || c.atEnd then some (acc.reverse, false, c)
      else match plainGap? indent c.rest.length {} c with
      | none => none
      | some (g, c) =>
        if !flow && (c.column : Int) < indent then some (acc.reverse, g.broken, c)
        else plainFrom? flow indent fuel acc g c

/-- the content of a plain scalar, whether a line end follows it, and the cursor behind -/
def plain? (flow : Bool) (indent : Int) (c : Cursor) : Option (List Char × Bool × Cursor) :=
  plainFrom? flow indent (c.rest.length + 1) [] {} c

/-! ## Block scalars -/

/-- what becomes of the line ends at the end of a block scalar -/
inductive Chomping where
  | strip
  | clip
  | keep
  deriving DecidableEq, Repr

/-- The empty lines in front of a line of content, with the indentation of the first one that is not
empty. `indent` zero means that the indentation is still to be found; `widest` is the largest one
seen. Tabs may not indent. -/
def blockBreaks? (indent : Nat) : Nat → Nat → List Char → Cursor → Option (List Char × Nat × Cursor)
  | 0, widest, acc, c => some (acc.reverse, widest, c)
  | fuel + 1, widest, acc, c =>
    let spaces := (c.rest.takeWhile (· == ' ')).length
    let c := c.skip (if indent = 0 then spaces else min spaces (indent - c.column))
    let widest := max widest c.column
    if (indent = 0 || c.column < indent) && c.isAt '\t' then none
    else match c.line? with
    | some (x, c) => blockBreaks? indent fuel widest (x :: acc) c
    | none => some (acc.reverse, widest, c)

/-- the state between the lines of a block scalar -/
structure BlockState where
  /-- the content so far, in reverse -/
  content : List Char := []
  /-- the line end of the last line -/
  leading : List Char := []
  /-- the line ends of the empty lines behind it -/
  trailing : List Char := []
  /-- whether the last line started with a blank -/
  leadingBlank : Bool := false

/-- the lines of a block scalar that stand at column `indent` -/
def blockLines? (folded : Bool) (indent : Nat) : Nat → BlockState → Cursor → Option (BlockState × Cursor)
  | 0, s, c => some (s, c)
  | fuel + 1, s, c =>
    if c.column ≠ indent || c.atEnd then some (s, c)
    else
      let blank := c.sees isBlank
      let fold := folded && s.leading.head? == some '\n' && !s.leadingBlank && !blank
      let joint :=
        (if fold then (if s.trailing.isEmpty then [' '] else []) else s.leading) ++ s.trailing
      let (text, c) := c.span (fun x => !isBreak x)
      let content := text.reverse ++ (joint.reverse ++ s.content)
      let (leading, c) := match c.line? with
        | some (x, c) => ([x], c)
        | none => ([], c)
      match blockBreaks? indent (c.rest.length + 1) 0 [] c with
      | none => none
      | some (trailing, _, c) => blockLines? folded indent fuel ⟨content, leading, trailing, blank⟩ c

/-- the chomping indicator in front, if there is one -/
def chomping? (c : Cursor) : Option (Chomping × Cursor) :=
  if c.isAt '+' then some (.keep, c.skip 1)
  else if c.isAt '-' then some (.strip, c.skip 1)
  else none

/-- the indentation indicator in front, zero if there is none; zero itself may not be written -/
def increment? (c : Cursor) : Option (Nat × Cursor) :=
  match c.peek? with
  | some x =>
    if '1' ≤ x ∧ x ≤ '9' then some (x.toNat - 48, c.skip 1)
    else if x = '0' then none
    else some (0, c)
  | none => some (0, c)

/-- the two indicators behind the sign of a block scalar, in either order -/
def blockHeader? (c : Cursor) : Option (Chomping × Nat × Cursor) :=
  match chomping? c with
  | some (chomp, c) => (increment? c).map fun r => (chomp, r.1, r.2)
  | none =>
    match increment? c with
    | none => none
    | some (0, c) => some (.clip, 0, c)
    | some (n, c) =>
      match chomping? c with
      | some (chomp, c) => some (chomp, n, c)
      | none => some (.clip, n, c)

/-- The content of a block scalar behind its sign, and the cursor behind it. `parent` is the
indentation of the block around it. -/
def block? (folded : Bool) (parent : Int) (c : Cursor) : Option (List Char × Cursor) := do
  let (chomp, increment, c) ← blockHeader? c
  let c ← c.restOfLine?
  let given := if increment = 0 then 0 else (max parent 0).toNat + increment
  let (trailing, widest, c) ← blockBreaks? given (c.rest.length + 1) 0 [] c
  let indent := if given = 0 then max (max widest (parent + 1).toNat) 1 else given
  let (s, c) ← blockLines? folded indent (c.rest.length + 1) { trailing } c
  let tail := match chomp with
    | .strip => []
    | .clip => s.leading
    | .keep => s.leading ++ s.trailing
  return (s.content.reverse ++ tail, c)

end HookFlow.Yaml
