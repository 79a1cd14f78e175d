/-!
TOML documents as trees.

A table knows how it came about, because that decides what may still be added to it: a table with a
header of its own cannot be opened again, one that only lies on the path of a header can, and one that
came from dotted keys grows by dotted keys alone. A table in braces is complete once it is closed.
-/

namespace HookFlow

/-- how a table came about -/
inductive Toml.Origin where
  /-- a header of its own -/
  | header
  /-- the path of another header -/
  | path
  /-- dotted keys -/
  | dotted
  deriving DecidableEq, Repr

/-- a value of a TOML document -/
inductive Toml where
  | text (s : String)
  | whole (n : Int)
  | double (x : Float)
  | bool (b : Bool)
  /-- a date, a time, or both -/
  | moment (written : String)
  | list (items : List Toml)
  /-- a table in braces, or one that dotted keys make inside of braces -/
  | inline (dotted : Bool) (entries : List (String × Toml))
  | table (origin : Toml.Origin) (entries : List (String × Toml))
  /-- the tables of a repeated header; the last one is open -/
  | tables (items : List (List (String × Toml)))
  deriving Repr, Inhabited

namespace Toml

/-- the entries of a table -/
abbrev Entries := List (String × Toml)

/-- the entries with `v` in place of what `key` has -/
def replace (key : String) (v : Toml) (entries : Entries) : Entries :=
  entries.map fun e => if e.1 = key then (key, v) else e

/-- the entries with one more; a key that is taken is refused -/
def add? (key : String) (v : Toml) (entries : Entries) : Option Entries :=
  if (entries.lookup key).isSome then none else some (entries ++ [(key, v)])

/-- The entries with `v` under a dotted key, whose last part is `key`. Tables on the way are made as
needed; the last of them must come from dotted keys. -/
def addDotted? (key : String) (v : Toml) : List String → Entries → Option Entries
  | [], entries => add? key v entries
  | p :: rest, entries =>
    match entries.lookup p with
    | none => do
      let below ← addDotted? key v rest []
      return entries ++ [(p, .table .dotted below)]
    | some (.table origin below) =>
      if origin = .header || (rest.isEmpty && origin ≠ .dotted) then none
      else do return replace p (.table origin (← addDotted? key v rest below)) entries
    | some (.tables items) =>
      if rest.isEmpty then none
      else match items.getLast? with
        | none => none
        | some last => do
          let last ← addDotted? key v rest last
          return replace p (.tables (items.dropLast ++ [last])) entries
    | some _ => none

/-- the entries of a table in braces with `v` under a dotted key -/
def addInline? (key : String) (v : Toml) : List String → Entries → Option Entries
  | [], entries => add? key v entries
  | p :: rest, entries =>
    match entries.lookup p with
    | none => do
      let below ← addInline? key v rest []
      return entries ++ [(p, .inline true below)]
    | some (.inline true below) => do
      return replace p (.inline true (← addInline? key v rest below)) entries
    | some _ => none

/-- the entries changed by `f` at the end of a header's path; tables on the way are made as needed, and
of the tables of a repeated header the last one counts -/
def changeAt? (f : Entries → Option Entries) : List String → Entries → Option Entries
  | [], entries => f entries
  | p :: rest, entries =>
    match entries.lookup p with
    | none => do
      return entries ++ [(p, .table .path (← changeAt? f rest []))]
    | some (.table origin below) => do
      return replace p (.table origin (← changeAt? f rest below)) entries
    | some (.tables items) =>
      match items.getLast? with
      | none => none
      | some last => do
        return replace p (.tables (items.dropLast ++ [← changeAt? f rest last])) entries
    | some _ => none

/-- the entries with an open table under the last part of a header -/
def openTable? (key : String) (entries : Entries) : Option Entries :=
  match entries.lookup key with
  | none => some (entries ++ [(key, .table .header [])])
  | some (.table .path below) => some (replace key (.table .header below) entries)
  | some _ => none

/-- the entries with one more open table under the last part of a repeated header -/
def openNext? (key : String) (entries : Entries) : Option Entries :=
  match entries.lookup key with
  | none => some (entries ++ [(key, .tables [[]])])
  | some (.tables items) => some (replace key (.tables (items ++ [[]])) entries)
  | some _ => none

end Toml

end HookFlow
