import HookFlow.Ordered
import HookFlow.Yaml.Node
import HookFlow.Yaml.Value
/-!
Reading a YAML document into data.

A reader walks the tree of a document in the order of the text and stops at the first fault. Aliases
are followed where they are read, but only so often that a small text cannot unfold into a huge value;
and what is read untyped may nest only so deep. Parts that nobody reads are skipped over: they must be
complete, and nothing else is asked of them.
-/

namespace HookFlow.Yaml

/-- why a document cannot be read -/
inductive Fault where
  /-- the text is no YAML, or not of the shape that is read -/
  | malformed
  /-- an input of a step is a collection or has a tag of its own -/
  | notScalar (input : String)
  deriving DecidableEq, Repr

/-- a reader; the state is how many aliases have been followed -/
abbrev Reader (α : Type) := StateT Nat (Except Fault) α

/-- how deep collections may nest where they are read -/
def depthLimit : Nat := 128

namespace Document

variable (d : Document)

/-- how many aliases may be followed -/
def aliasLimit : Nat := d.size * 100

/-- a node itself, or the node that an alias stands for -/
def follow (n : Node) : Reader Node := do
  match n with
  | .alias id =>
    let followed := (← get) + 1
    if d.aliasLimit < followed then throw .malformed
    set followed
    match d.anchored.lookup id with
    | some n => return n
    | none => throw .malformed
  | n => return n

/-- the text of a scalar, whatever it denotes -/
def text (n : Node) : Reader String := do
  match ← d.follow n with
  | .scalar _ cs _ => return String.ofList cs
  | _ => throw .malformed

/-- the entries of a mapping; nothing at all is an empty mapping -/
def entries (n : Node) : Reader (List (Node × Node)) := do
  match ← d.follow n with
  | .mapping _ entries => return entries
  | .scalar _ [] .plain => return []
  | _ => throw .malformed

/-- the items of a sequence; nothing at all is an empty sequence -/
def items (n : Node) : Reader (List Node) := do
  match ← d.follow n with
  | .sequence _ items => return items
  | .scalar _ [] .plain => return []
  | _ => throw .malformed

/-- a node that is not read -/
def skip (n : Node) : Reader Unit :=
  if n.isWhole then pure () else throw .malformed

/-- a sequence with every item read by `read` -/
def sequence {α : Type} (read : Node → Reader α) (n : Node) : Reader (List α) := do
  (← d.items n).mapM read

/-- a mapping with texts for keys, every value read by `read`; a repeated key keeps its first place
and gets the last value -/
def dictionary {α : Type} (read : Node → Reader α) (n : Node) : Reader (List (String × α)) := do
  let pairs ← (← d.entries n).mapM fun e => do return (← d.text e.1, ← read e.2)
  return Ordered.ofEntries pairs

/-- the entries of a record put into `a` one after another; `seen` are the fields given so far -/
def fieldsFrom {α : Type} (fields : List (String × (α → Node → Reader α))) (seen : List String)
    (a : α) : List (Node × Node) → Reader α
  | [] => return a
  | (k, v) :: rest => do
    let name ← d.text k
    match fields.lookup name with
    | none => do
      skip v
      fieldsFrom fields seen a rest
    | some read =>
      if seen.contains name then throw .malformed
      else do
        let a ← read a v
        fieldsFrom fields (name :: seen) a rest

/-- a mapping read as a record: each field that is given is put into the record, which starts out as
`default`. Other keys are skipped, and a field given twice is a fault. -/
def record {α : Type} (default : α) (fields : List (String × (α → Node → Reader α))) (n : Node) :
    Reader α := do
  d.fieldsFrom fields [] default (← d.entries n)

/-- a value under the private tag of its node, if the node has one -/
def withTag (tag : Option (List Char)) (v : Value) : Value :=
  match privateTag? tag with
  | some t => .tagged (String.ofList t) v
  | none => v

/-- the entries of an untyped mapping behind those in `acc`, which are in reverse -/
def distinctEntries (read : Node → Reader Value) (acc : List (Value × Value)) :
    List (Node × Node) → Reader (List (Value × Value))
  | [] => return acc.reverse
  | (k, v) :: rest => do
    let k ← read k
    if acc.any (·.1.same k) then throw .malformed
    let v ← read v
    distinctEntries read ((k, v) :: acc) rest

/-- an untyped value of at most `depth` nested collections -/
def value (depth : Nat) (n : Node) : Reader Value := do
  match ← d.follow n, depth with
  | .scalar tag cs style, _ =>
    match scalarValue tag cs style with
    | some v => return withTag tag v
    | none => throw .malformed
  | .sequence tag items, depth + 1 =>
    return withTag tag (.sequence (← items.mapM (value depth)))
  | .mapping tag entries, depth + 1 =>
    return withTag tag (.mapping (← distinctEntries (value depth) [] entries))
  | _, _ => throw .malformed

/-- whether a node stands for the lack of a value -/
def isAbsent (n : Node) : Reader Bool := do
  match n with
  | .scalar tag cs .plain =>
    match tag with
    | none => return cs.isEmpty || isNullWord cs
    | some t =>
      if t == standardTag "null" then
        if isNullWord cs then return true else throw .malformed
      else return false
  | _ => return false

/-- a mapping with texts for keys and untyped values, or no value at all -/
def optionalDictionary (depth : Nat) (n : Node) : Reader (List (String × Value)) := do
  let n ← d.follow n
  if ← isAbsent n then return []
  d.dictionary (d.value depth) n

/-- what a reader makes of the root of a document that is well formed and alone in its text -/
def read {α : Type} (reader : Node → Reader α) : Except Fault α := do
  let (a, _) ← (reader d.root).run 0
  if d.whole && d.alone then return a else throw .malformed

end Document

end HookFlow.Yaml
