import HookFlow.Yaml.Token
import HookFlow.Text.Quoted
/-!
Reading tags, anchors and directives.

A tag has a handle, which a directive may give a meaning, and a suffix. The suffix may hold percent
escapes, which have to spell whole characters.
-/

namespace HookFlow.Yaml

open HookFlow.Text

/-- a character of a tag that needs no escape; inside angle brackets three more are free -/
def isTagChar (verbatim : Bool) (c : Char) : Bool :=
  isWord c || (";/?:@&=+$.!~*'()").toList.contains c || (verbatim && ",[]".toList.contains c)

/-- how many bytes the character takes whose UTF-8 form starts with the byte `n` -/
def leadWidth? (n : Nat) : Option Nat :=
  if n < 0x80 then some 1
  else if n / 32 = 6 then some 2
  else if n / 16 = 14 then some 3
  else if n / 8 = 30 then some 4
  else none

/-- the value of the escape in front -/
def escapeByte? : List Char → Option Nat
  | '%' :: a :: b :: _ => do
    let x ← hexValue? a
    let y ← hexValue? b
    return x * 16 + y
  | _ => none

/-- the bits of `n` further bytes of a character, put behind `acc` -/
def trailingBytes? : Nat → Nat → List Char → Option (Nat × List Char)
  | 0, acc, cs => some (acc, cs)
  | n + 1, acc, cs => do
    let b ← escapeByte? cs
    if b / 64 = 2 then trailingBytes? n (acc * 64 + b % 64) (cs.drop 3) else none

/-- the character whose bytes are written by the escapes in front, and what follows them -/
def escapedChar? (cs : List Char) : Option (Char × List Char) := do
  let b ← escapeByte? cs
  let width ← leadWidth? b
  let bits := if width = 1 then b else b % Nat.pow 2 (7 - width)
  let (n, rest) ← trailingBytes? (width - 1) bits (cs.drop 3)
  return (Char.ofNat n, rest)

/-- the characters of a tag behind `acc` (in reverse), and what follows them -/
def tagChars? (verbatim : Bool) : Nat → List Char → List Char → Option (List Char × List Char)
  | 0, acc, cs => some (acc.reverse, cs)
  | fuel + 1, acc, cs =>
    match cs with
    | [] => some (acc.reverse, [])
    | c :: rest =>
      if c = '%' then
        match escapedChar? cs with
        | some (x, rest) => tagChars? verbatim fuel (x :: acc) rest
        | none => none
      else if isTagChar verbatim c then tagChars? verbatim fuel (c :: acc) rest
      else some (acc.reverse, cs)

/-- the characters of a tag, and the cursor behind them -/
def tagText? (verbatim : Bool) (c : Cursor) : Option (List Char × Cursor) :=
  (tagChars? verbatim c.rest.length [] c.rest).map fun r =>
    (r.1, c.skip (c.rest.length - r.2.length))

/-- a handle, `!`, `!!` or `!word!`, or an exclamation mark with the start of a suffix -/
def tagHandle? (c : Cursor) : Option (List Char × Cursor) :=
  if c.isAt '!' then
    let (word, c) := (c.skip 1).span isWord
    if c.isAt '!' then some ('!' :: (word ++ ['!']), c.skip 1) else some ('!' :: word, c)
  else none

/-- a tag, handle and suffix, and the cursor behind it; a gap has to follow, or a comma inside a flow
collection -/
def tag? (flow : Bool) (c : Cursor) : Option (Token × Cursor) := do
  let (handle, suffix, c) ←
    if c.rest.take 2 = ['!', '<'] then do
      let (text, c) ← tagText? true (c.skip 2)
      if text.isEmpty || !c.isAt '>' then none else some ([], text, c.skip 1)
    else do
      let (handle, c) ← tagHandle? c
      if 1 < handle.length && handle.getLast? = some '!' then
        let (text, c) ← tagText? false c
        if text.isEmpty then none else some (handle, text, c)
      else
        let (text, c) ← tagText? false c
        let suffix := handle.drop 1 ++ text
        if suffix.isEmpty then some ([], ['!'], c) else some (['!'], suffix, c)
  if c.gapAt 0 || (flow && c.isAt ',') then some (.tag handle suffix, c) else none

/-- the name of an anchor or an alias behind its sign, and the cursor behind it -/
def anchorName? (c : Cursor) : Option (List Char × Cursor) :=
  let (name, c) := (c.skip 1).span isWord
  if !name.isEmpty && (c.gapAt 0 || c.sees fun x => "?:,]\x7d%@`".toList.contains x) then
    some (name, c)
  else none

/-- a number of at most nine digits, and the cursor behind it -/
def versionNumber? (c : Cursor) : Option (Nat × Cursor) :=
  let (ds, c) := c.span Char.isDigit
  if ds.isEmpty || 9 < ds.length then none
  else some (ds.foldl (fun n d => n * 10 + (d.toNat - 48)) 0, c)

/-- a directive and the cursor behind its line -/
def directive? (c : Cursor) : Option (Token × Cursor) := do
  let (name, c) := (c.skip 1).span isWord
  if name.isEmpty || !c.gapAt 0 then none
  else
    let c := c.skipWhile isBlank
    let (token, c) ←
      if name = "YAML".toList then do
        let (major, c) ← versionNumber? c
        if c.isAt '.' then
          let (minor, c) ← versionNumber? (c.skip 1)
          some (Token.versionDirective major minor, c)
        else none
      else if name = "TAG".toList then do
        let (handle, c) ← tagHandle? c
        if handle = ['!'] || (1 < handle.length && handle.getLast? = some '!') then
          if c.sees isBlank then
            let (lead, c) ← tagText? true (c.skipWhile isBlank)
            if lead.isEmpty || !c.gapAt 0 then none else some (.tagDirective handle lead, c)
          else none
        else none
      else none
    let c ← c.restOfLine?
    return (token, c)

end HookFlow.Yaml
