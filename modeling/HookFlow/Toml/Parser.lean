import HookFlow.Toml.Scalar
/-!
TOML documents as they are written: lines of keys with values, and headers that open tables.
-/

namespace HookFlow.Toml

/-- how deep lists and tables in braces may nest, and how long dotted keys may be -/
def depthLimit : Nat := 80

/-! ## Blanks and keys -/

/-- the text behind a comment, if one starts here -/
def skipComment : List Char → List Char
  | '#' :: rest => rest.dropWhile isPrintable
  | cs => cs

/-- the text behind blanks, comments and line ends -/
def skipLines : Nat → List Char → List Char
  | 0, cs => cs
  | fuel + 1, cs =>
    let cs := skipComment (skipSpace cs)
    match lineEnd? cs with
    | some rest => skipLines fuel rest
    | none => cs

/-- a character of a key without quotes -/
def isBareKeyChar (c : Char) : Bool := c.isAlphanum || c == '_' || c == '-'

/-- one part of a key -/
def keyPart? (cs : List Char) : Option (String × List Char) :=
  match line? cs with
  | some r => some r
  | none =>
    let name := cs.takeWhile isBareKeyChar
    if name.isEmpty then none else some (String.ofList name, cs.drop name.length)

/-- the parts of a key with dots between them -/
def keyParts? : Nat → List Char → Option (List String × List Char)
  | 0, _ => none
  | fuel + 1, cs => do
    let (part, rest) ← keyPart? (skipSpace cs)
    match skipSpace rest with
    | '.' :: rest =>
      let (parts, rest) ← keyParts? fuel rest
      return (part :: parts, rest)
    | rest => return ([part], rest)

/-- a key: the path to its table and its last part -/
def key? (cs : List Char) : Option (List String × String × List Char) := do
  let (parts, rest) ← keyParts? (depthLimit - 1) cs
  let last ← parts.getLast?
  return (parts.dropLast, last, rest)

/-! ## Values -/

mutual

/-- a value in `depth` lists and tables -/
def value? : Nat → Nat → List Char → Option (Toml × List Char)
  | 0, _, _ => none
  | fuel + 1, depth, cs =>
    match cs with
    | '"' :: _ | '\'' :: _ => (text? cs).map fun r => (.text r.1, r.2)
    | '[' :: rest =>
      if depthLimit ≤ depth + 1 then none else items? fuel (depth + 1) [] rest
    | '\x7b' :: rest =>
      if depthLimit ≤ depth + 1 then none
      else match skipSpace rest with
        | '\x7d' :: rest => some (.inline false [], rest)
        | rest => members? fuel (depth + 1) [] rest
    | 't' :: 'r' :: 'u' :: 'e' :: rest => some (.bool true, rest)
    | 'f' :: 'a' :: 'l' :: 's' :: 'e' :: rest => some (.bool false, rest)
    | _ => (moment? cs).or (number? cs)

/-- the items of a list behind those in `acc` (in reverse), up to the closing bracket -/
def items? : Nat → Nat → List Toml → List Char → Option (Toml × List Char)
  | 0, _, _, _ => none
  | fuel + 1, depth, acc, cs =>
    match skipLines (cs.length + 1) cs with
    | ']' :: rest => some (.list acc.reverse, rest)
    | cs => do
      let (v, rest) ← value? fuel depth cs
      match skipLines (rest.length + 1) rest with
      | ',' :: rest => items? fuel depth (v :: acc) rest
      | ']' :: rest => return (.list (v :: acc).reverse, rest)
      | _ => none

/-- the members of a table in braces behind those in `acc`, up to the closing brace -/
def members? : Nat → Nat → Entries → List Char → Option (Toml × List Char)
  | 0, _, _, _ => none
  | fuel + 1, depth, acc, cs => do
    let (path, key, rest) ← key? cs
    let rest ← after? '=' rest
    let (v, rest) ← value? fuel depth (skipSpace rest)
    let acc ← addInline? key v path acc
    match skipSpace rest with
    | ',' :: rest => members? fuel depth acc rest
    | '\x7d' :: rest => return (.inline false acc, rest)
    | _ => none

end

/-! ## Documents -/

/-- a document that is being read -/
structure Draft where
  root : Entries := []
  /-- the path of the open table -/
  place : List String := []

namespace Draft

/-- the draft with a value under a key of the open table -/
def assign? (d : Draft) (path : List String) (key : String) (v : Toml) : Option Draft := do
  return { d with root := ← changeAt? (addDotted? key v path) d.place d.root }

/-- the draft with another table open -/
def openAt? (d : Draft) (f : String → Entries → Option Entries) (path : List String)
    (key : String) : Option Draft := do
  return { root := ← changeAt? (f key) path d.root, place := path ++ [key] }

end Draft

/-- one line of a document without what may follow it: a header, or a key with its value -/
def statement? (d : Draft) : List Char → Option (Draft × List Char)
  | '[' :: '[' :: rest => do
    let (path, key, rest) ← key? rest
    let rest ← after? ']' (← after? ']' rest)
    return (← d.openAt? openNext? path key, rest)
  | '[' :: rest => do
    let (path, key, rest) ← key? rest
    let rest ← after? ']' rest
    return (← d.openAt? openTable? path key, rest)
  | cs => do
    let (path, key, rest) ← key? cs
    let rest ← after? '=' rest
    let (v, rest) ← value? (2 * rest.length + 2) 0 (skipSpace rest)
    return (← d.assign? path key v, rest)

/-- the document from a line on -/
def document? : Nat → Draft → List Char → Option Entries
  | 0, _, _ => none
  | fuel + 1, d, cs =>
    match skipLines (cs.length + 1) cs with
    | [] => some d.root
    | cs => do
      let (d, rest) ← statement? d cs
      match skipComment (skipSpace rest) with
      | [] => return d.root
      | rest => document? fuel d (← lineEnd? rest)

/-- the entries of the table that a text writes -/
def parse? (s : String) : Option Entries :=
  let cs := match s.toList with
    | '\ufeff' :: rest => rest
    | cs => cs
  document? (cs.length + 1) {} cs

end HookFlow.Toml
