import HookFlow.Text.Utf8
import HookFlow.Yaml.Token.Scan
import HookFlow.Yaml.Event
/-!
The nodes of a YAML document.

A document is a tree whose leaves are scalars and aliases. An alias refers to an anchored node by a
number: the count of distinct anchor names known when the node was anchored. A number that is given
twice belongs to the node that starts last.

A text that goes wrong has the tree of what was read up to there, with `broken` leaves where reading
would have to go on. So a reader of the tree can meet a fault of its own before it meets the end.
-/

namespace HookFlow.Yaml

/-- a node of a document -/
inductive Node where
  | scalar (tag : Option (List Char)) (text : List Char) (style : ScalarStyle)
  | sequence (tag : Option (List Char)) (items : List Node)
  | mapping (tag : Option (List Char)) (entries : List (Node × Node))
  | alias (id : Nat)
  | broken
  deriving Repr

namespace Node

/-- the node that stands where nothing is written -/
def empty : Node := .scalar none [] .plain

mutual

/-- whether no part of a node is missing -/
def isWhole : Node → Bool
  | .scalar _ _ _ => true
  | .sequence _ items => areWhole items
  | .mapping _ entries => entriesWhole entries
  | .alias _ => true
  | .broken => false

/-- whether no part of any item is missing -/
def areWhole : List Node → Bool
  | [] => true
  | n :: rest => n.isWhole && areWhole rest

/-- whether no part of any entry is missing -/
def entriesWhole : List (Node × Node) → Bool
  | [] => true
  | (k, v) :: rest => k.isWhole && v.isWhole && entriesWhole rest

end

end Node

/-- the first document of a text -/
structure Document where
  root : Node
  /-- the nodes that aliases stand for -/
  anchored : List (Nat × Node) := []
  /-- how many events the document has -/
  size : Nat := 0
  /-- whether the document is well formed -/
  whole : Bool
  /-- whether the text holds nothing behind the document -/
  alone : Bool

/-! ## Building a tree

Events are taken one by one. Collections that are still open lie on a stack, innermost first. -/

/-- an anchor with the place where its node starts -/
structure Anchor where
  id : Nat
  start : Nat

/-- an open collection, with its parts in reverse -/
inductive Frame where
  | sequence (anchor : Option Anchor) (tag : Option (List Char)) (items : List Node)
  | mapping (anchor : Option Anchor) (tag : Option (List Char)) (entries : List (Node × Node))
      (key : Option Node)

/-- a document that is being built -/
structure Composer where
  /-- how many events are taken -/
  count : Nat := 0
  /-- anchor names with their numbers -/
  names : List (List Char × Nat) := []
  /-- anchored nodes that are complete -/
  anchored : List (Anchor × Node) := []
  frames : List Frame := []
  root : Option Node := none

namespace Composer

/-- a complete node put where it belongs -/
def add (c : Composer) (anchor : Option Anchor) (n : Node) : Composer :=
  let c := match anchor with
    | some a => { c with anchored := (a, n) :: c.anchored }
    | none => c
  match c.frames with
  | [] => { c with root := some n }
  | .sequence a t items :: rest => { c with frames := .sequence a t (n :: items) :: rest }
  | .mapping a t entries none :: rest =>
    { c with frames := .mapping a t entries (some n) :: rest }
  | .mapping a t entries (some k) :: rest =>
    { c with frames := .mapping a t ((k, n) :: entries) none :: rest }

/-- the anchor of the event at hand, known by its name from here on -/
def anchor (c : Composer) : Option (List Char) → Option Anchor × Composer
  | none => (none, c)
  | some name =>
    let id := c.names.length
    let others := c.names.filter (·.1 != name)
    (some ⟨id, c.count⟩, { c with names := (name, id) :: others })

/-- the innermost collection closed -/
def close (c : Composer) : Composer :=
  match c.frames with
  | [] => c
  | .sequence a t items :: rest => { c with frames := rest }.add a (.sequence t items.reverse)
  | .mapping a t entries _ :: rest => { c with frames := rest }.add a (.mapping t entries.reverse)

/-- one more event; `none` if it is an alias of an unknown name -/
def take? (c : Composer) (e : Event) : Option Composer :=
  let counted (c : Composer) : Composer := { c with count := c.count + 1 }
  match e with
  | .documentStart | .documentEnd => some c
  | .alias name => (c.names.lookup name).map fun id => counted (c.add none (.alias id))
  | .scalar name tag text style =>
    let (a, c) := c.anchor name
    some (counted (c.add a (.scalar tag text style)))
  | .sequenceStart name tag =>
    let (a, c) := c.anchor name
    some (counted { c with frames := .sequence a tag [] :: c.frames })
  | .mappingStart name tag =>
    let (a, c) := c.anchor name
    some (counted { c with frames := .mapping a tag [] none :: c.frames })
  | .sequenceEnd | .mappingEnd => some (counted c.close)

/-- every open collection closed, with a `broken` part where it would go on -/
def abandon (c : Composer) : Composer :=
  c.frames.foldl (fun c f =>
    match f with
    | .mapping _ _ _ none => ((c.add none .broken).add none .broken).close
    | _ => (c.add none .broken).close) c

/-- the nodes that the anchor numbers belong to -/
def byId (anchored : List (Anchor × Node)) : List (Nat × Node) :=
  let latest := anchored.filter fun e =>
    !anchored.any fun f => f.1.id == e.1.id && e.1.start < f.1.start
  latest.map fun e => (e.1.id, e.2)

/-- the document of a composer that has taken all events -/
def document (c : Composer) (whole alone : Bool) : Document :=
  let c := if whole then c else c.abandon
  { root := c.root.getD .broken, anchored := byId c.anchored, size := c.count, whole, alone }

/-- the document from a state on; `fine` tells whether the text is well formed behind the events -/
def run (fine : Bool) (c : Composer) : List Event → Document
  | [] => c.document false true
  | .documentEnd :: rest => c.document true (fine && rest.isEmpty)
  | e :: rest =>
    match c.take? e with
    | some c => run fine c rest
    | none => c.document false true

end Composer

namespace Document

/-- The first document of a text, given its events and whether the text is well formed behind them.
A text without documents stands for an empty node. -/
def ofEvents (events : List Event) (fine : Bool) : Document :=
  if events.isEmpty && fine then { root := .empty, size := 1, whole := true, alone := true }
  else Composer.run fine {} events

/-- the first document of a text -/
def ofChars (cs : List Char) : Document :=
  let (tokens, _) := Token.ofChars cs
  let (events, fine) := Event.ofTokens tokens
  ofEvents events fine

/-- the first document of a text in UTF-8 -/
def ofBytes (bytes : Text.Bytes) : Document :=
  match Text.decode bytes with
  | .ok text => ofChars text.toList
  | .error _ => { root := .broken, whole := false, alone := true }

end Document

end HookFlow.Yaml
