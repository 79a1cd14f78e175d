import HookFlow.Toml.Basic
/-!
Reading TOML values as records.

A record is a table, whose further keys are skipped, or a list that gives the fields by position. A
field that is left out has its default; in a list, a field without a default cannot be left out. A date
in place of a table names no field at all.
-/

namespace HookFlow.Toml

/-- what is given for a field -/
inductive Given where
  | value (v : Toml)
  /-- nothing, in a table -/
  | unset
  /-- nothing, as a list ends before the field -/
  | cutOff

/-- what is given for each of the named fields, in order -/
def record? (names : List String) : Toml → Option (List Given)
  | .table _ entries | .inline _ entries => some (named entries)
  | .list items => some (positional items)
  | .tables items => some (positional (items.map (.table .header)))
  | .moment _ => some (names.map fun _ => .unset)
  | _ => none
where
  /-- the fields by name -/
  named (entries : Entries) : List Given :=
    names.map fun n => ((entries.lookup n).map .value).getD .unset
  /-- the fields by position -/
  positional (items : List Toml) : List Given :=
    (items.take names.length).map .value ++
      List.replicate (names.length - items.length) .cutOff

/-- a field with a default -/
def withDefault {α : Type} (default : α) (read : Toml → Option α) : Given → Option α
  | .value v => read v
  | .unset => some default
  | .cutOff => some default

/-- a field that may be left out of a table, but not out of a list -/
def optional {α : Type} (read : Toml → Option α) : Given → Option (Option α)
  | .value v => (read v).map some
  | .unset => some none
  | .cutOff => none

/-- the text of a text -/
def asText? : Toml → Option String
  | .text s => some s
  | _ => none

/-- the truth value of one -/
def asBool? : Toml → Option Bool
  | .bool b => some b
  | _ => none

/-- the number of a whole number that is not negative -/
def asWord? : Toml → Option UInt64
  | .whole n => if 0 ≤ n then some (UInt64.ofNat n.toNat) else none
  | _ => none

/-- the texts of a list of texts -/
def asTexts? : Toml → Option (List String)
  | .list items => items.mapM asText?
  | _ => none

/-- whether a value holds nothing -/
def isVacant : Toml → Bool
  | .list [] | .inline _ [] | .table _ [] | .tables [] => true
  | _ => false

/-- One of some words: a text, or a table that has the word as its first key with nothing under it. A
table in braces has no further key. -/
def asChoice? (words : List String) (v : Toml) : Option String := do
  let word ← match v with
    | .text s => some s
    | .inline _ [(key, under)] => if under.isVacant then some key else none
    | .table _ ((key, under) :: _) => if under.isVacant then some key else none
    | _ => none
  if words.contains word then some word else none

end HookFlow.Toml
