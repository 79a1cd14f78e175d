import HookFlow.Ordered
/-!
JSON values.

Objects keep their members in the order of the text, repeated names included; what a repetition
means is for the reader of the object to say. A text can be well formed and still hold a part that
denotes no value: a string whose escapes name half of a surrogate pair, or a number past every
double. Such a part is kept as `garbled`, since it does no harm where it is skipped.
-/

namespace HookFlow

/-- a number: whole ones of up to 64 bits exactly, all others as doubles -/
inductive Json.Number where
  | whole (n : Int)
  | double (x : Float)
  deriving Repr

/-- a JSON value -/
inductive Json where
  | null
  | bool (b : Bool)
  | number (n : Json.Number)
  | text (s : String)
  | list (items : List Json)
  | object (members : List (String × Json))
  | garbled
  deriving Repr, Inhabited

namespace Json

/-- the members of an object read as a record: for each of `names`, in order, its value where it is
given. Other members are skipped; a name given twice is refused. A list is read by position, and may
stop early but not go on. -/
def record? (names : List String) : Json → Option (List (Option Json))
  | .object members =>
    names.mapM fun n =>
      match members.filter (fun m => m.1 = n) with
      | [] => some none
      | [m] => some (some m.2)
      | _ => none
  | .list items =>
    if items.length ≤ names.length then
      some (items.map some ++ List.replicate (names.length - items.length) none)
    else none
  | _ => none

/-- the text of a string -/
def text? : Json → Option String
  | .text s => some s
  | _ => none

/-- the items of a list -/
def list? : Json → Option (List Json)
  | .list items => some items
  | _ => none

/-- a value that may be `null` -/
def nullable? {α : Type} (read : Json → Option α) : Json → Option (Option α)
  | .null => some none
  | v => (read v).map some

/-- a member that must be there -/
def required {α : Type} (read : Json → Option α) : Option Json → Option α
  | some v => read v
  | none => none

/-- a member that has a default -/
def withDefault {α : Type} (default : α) (read : Json → Option α) : Option Json → Option α
  | some v => read v
  | none => some default

mutual

/-- A value as generic data, at most `depth` lists and objects deep: the members of an object sorted
by name, the last one of a repeated name, and nothing garbled anywhere. -/
def normal? : Nat → Json → Option Json
  | _, .garbled => none
  | 0, .list _ => none
  | 0, .object _ => none
  | depth + 1, .list items => (normalItems? depth items).map .list
  | depth + 1, .object members => (normalMembers? depth [] members).map .object
  | _, v => some v

/-- the items of a list as generic data -/
def normalItems? : Nat → List Json → Option (List Json)
  | _, [] => some []
  | depth, v :: rest => do
    let v ← normal? depth v
    let rest ← normalItems? depth rest
    return v :: rest

/-- the members of an object as generic data, put into the sorted list `acc` -/
def normalMembers? : Nat → List (String × Json) → List (String × Json) →
    Option (List (String × Json))
  | _, acc, [] => some acc
  | depth, acc, (n, v) :: rest => do
    let v ← normal? depth v
    normalMembers? depth (Ordered.putSorted n v acc) rest

end

/-- how deep generic data may nest -/
def depthLimit : Nat := 127

/-- a value as generic data -/
def generic? (v : Json) : Option Json :=
  normal? depthLimit v

end Json

end HookFlow
