import HookFlow.Decimal.Shortest
import HookFlow.Decimal.Literal
import HookFlow.Yaml.Token
/-!
Untyped YAML values, and what a scalar denotes.

A plain scalar without a tag is null, a truth value, a number or else a text, by its spelling alone;
a quoted or block scalar is a text. Whole numbers that need more than 64 bits, but not more than 128,
are refused; larger ones are read as doubles. Digits behind a leading zero are a text.
-/

namespace HookFlow.Yaml

/-- a number: whole ones of up to 64 bits exactly, all others as doubles -/
inductive Number where
  | whole (n : Int)
  | double (x : Float)
  deriving Repr

/-- an untyped value; the keys of a mapping are pairwise different and in the order of the text -/
inductive Value where
  | null
  | bool (b : Bool)
  | number (n : Number)
  | text (s : String)
  | sequence (items : List Value)
  | mapping (entries : List (Value × Value))
  | tagged (tag : String) (value : Value)
  deriving Repr

namespace Number

/-- whether two numbers are the same: a whole number is never a double, and a NaN is itself -/
def same : Number → Number → Bool
  | .whole a, .whole b => a == b
  | .double a, .double b => a == b || (a.isNaN && b.isNaN)
  | _, _ => false

/-- the written form of a number -/
def render : Number → String
  | .whole n => toString n
  | .double x =>
    if x.isNaN then ".nan"
    else if x.isInf then (if x < 0.0 then "-.inf" else ".inf")
    else Decimal.writeFloat x

end Number

namespace Value

mutual

/-- whether two values are the same; the entries of a mapping may come in any order -/
def same : Value → Value → Bool
  | .null, .null => true
  | .bool a, .bool b => a == b
  | .number a, .number b => a.same b
  | .text a, .text b => a == b
  | .sequence xs, .sequence ys => sameItems xs ys
  | .mapping xs, .mapping ys => xs.length == ys.length && entriesIn ys xs
  | .tagged s a, .tagged t b => s == t && a.same b
  | _, _ => false

/-- whether two lists have the same items in the same order -/
def sameItems : List Value → List Value → Bool
  | [], [] => true
  | x :: xs, y :: ys => x.same y && sameItems xs ys
  | _, _ => false

/-- whether each of some entries is among `ys` -/
def entriesIn (ys : List (Value × Value)) : List (Value × Value) → Bool
  | [] => true
  | (k, v) :: rest => ys.any (fun e => k.same e.1 && v.same e.2) && entriesIn ys rest

end

/-- the word for the kind of a value -/
def kind : Value → String
  | .null => "null"
  | .bool _ => "bool"
  | .number _ => "number"
  | .text _ => "string"
  | .sequence _ => "sequence"
  | .mapping _ => "mapping"
  | .tagged _ _ => "tagged value"

/-- a value without the tags around it -/
def bare : Value → Value
  | .tagged _ v => v.bare
  | v => v

/-- the text of a string, tags aside -/
def text? (v : Value) : Option String :=
  match v.bare with
  | .text s => some s
  | _ => none

/-- the entries of a mapping, tags aside -/
def entries? (v : Value) : Option (List (Value × Value)) :=
  match v.bare with
  | .mapping entries => some entries
  | _ => none

/-- whether a value is the plain string `s` -/
def isText (s : String) : Value → Bool
  | .text t => t == s
  | _ => false

end Value

/-! ## Scalars -/

/-- what a scalar denotes, or that it is refused -/
abbrev Denotation := Option Value

/-- the spellings of null other than nothing at all -/
def isNullWord (cs : List Char) : Bool :=
  cs == ['~'] || cs == "null".toList || cs == "Null".toList || cs == "NULL".toList

/-- the truth value that a text spells -/
def truth? (cs : List Char) : Option Bool :=
  if cs == "true".toList || cs == "True".toList || cs == "TRUE".toList then some true
  else if cs == "false".toList || cs == "False".toList || cs == "FALSE".toList then some false
  else none

/-- the digits of a number without its sign -/
def unsigned : List Char → List Char
  | '+' :: r => r
  | '-' :: r => r
  | r => r

/-- digits behind a leading zero, which write no number -/
def isZeroLed (cs : List Char) : Bool :=
  match unsigned cs with
  | '0' :: r => !r.isEmpty && r.all Decimal.isDigit
  | _ => false

/-- the value of a digit, which may be a small or a capital letter -/
def digitIn? (radix : Nat) (c : Char) : Option Nat :=
  let d :=
    if '0' ≤ c && c ≤ '9' then c.toNat - '0'.toNat
    else if 'a' ≤ c && c ≤ 'z' then c.toNat - 'a'.toNat + 10
    else if 'A' ≤ c && c ≤ 'Z' then c.toNat - 'A'.toNat + 10
    else radix
  if d < radix then some d else none

/-- the number that digits write -/
def natural? (radix : Nat) (cs : List Char) : Option Nat :=
  if cs.isEmpty then none
  else cs.foldlM (fun n c => (digitIn? radix c).map (n * radix + ·)) 0

/-- the number that digits write, with their radix in front unless it is ten -/
def magnitude? : List Char → Option Nat
  | '0' :: 'x' :: r => natural? 16 r
  | '0' :: 'o' :: r => natural? 8 r
  | '0' :: 'b' :: r => natural? 2 r
  | r => natural? 10 r

/-- the whole number that a text spells, of any size -/
def whole? (cs : List Char) : Option Int :=
  if isZeroLed cs then none
  else match cs with
    | '-' :: r => (magnitude? r).map fun n => -(n : Int)
    | '+' :: r => (magnitude? r).map fun n => (n : Int)
    | r => (magnitude? r).map fun n => (n : Int)

/-- whether a whole number needs at most 64 bits -/
def fitsWord (n : Int) : Bool := -0x8000000000000000 ≤ n && n < 0x10000000000000000

/-- whether a whole number needs at most 128 bits -/
def fitsLongWord (n : Int) : Bool :=
  -0x80000000000000000000000000000000 ≤ n && n < 0x100000000000000000000000000000000

/-- the double that a text spells; a finite spelling must denote a finite double -/
def double? (cs : List Char) : Option Float :=
  let infinite : List Char → Bool := fun r =>
    r == ".inf".toList || r == ".Inf".toList || r == ".INF".toList
  let body := match cs with
    | '+' :: r => if r.head?.any (fun c => c == '+' || c == '-') then cs else r
    | r => r
  if infinite body then some (1.0 / 0.0)
  else if cs.head? == some '-' && infinite (cs.drop 1) then some (-1.0 / 0.0)
  else if cs == ".nan".toList || cs == ".NaN".toList || cs == ".NAN".toList then
    some (0.0 / 0.0)
  else ((Decimal.Literal.ofChars? body).map Decimal.Literal.toFloat).filter Float.isFinite

/-- a plain scalar without a tag; `none` if it is a whole number that is refused -/
def plainValue (cs : List Char) : Denotation :=
  if cs.isEmpty || isNullWord cs then some .null
  else match truth? cs with
    | some b => some (.bool b)
    | none =>
      let other : Denotation :=
        match if isZeroLed cs then none else double? cs with
        | some x => some (.number (.double x))
        | none => some (.text (String.ofList cs))
      match whole? cs with
      | some n =>
        if fitsWord n then some (.number (.whole n))
        else if fitsLongWord n then none
        else other
      | none => other

/-- the tags of the standard types start like this -/
def standardTag (name : String) : List Char := ("tag:yaml.org,2002:" ++ name).toList

/-- A scalar with a tag that is not private. A standard tag asks for its type; any other makes the
scalar a text. -/
def taggedValue (tag cs : List Char) : Denotation :=
  if tag == standardTag "bool" then (truth? cs).map .bool
  else if tag == standardTag "int" then
    match whole? cs with
    | some n => if fitsWord n then some (.number (.whole n)) else none
    | none => none
  else if tag == standardTag "float" then (double? cs).map fun x => .number (.double x)
  else if tag == standardTag "null" then if isNullWord cs then some .null else none
  else some (.text (String.ofList cs))

/-- the private tag of a node, without its exclamation mark unless that is all of it -/
def privateTag? : Option (List Char) → Option (List Char)
  | some ['!'] => some ['!']
  | some ('!' :: r) => some r
  | _ => none

/-- what a scalar denotes, a private tag aside -/
def scalarValue (tag : Option (List Char)) (cs : List Char) (style : ScalarStyle) : Denotation :=
  match tag with
  | some t =>
    if (privateTag? tag).isSome then
      if style == .plain then plainValue cs else some (.text (String.ofList cs))
    else taggedValue t cs
  | none => if style == .plain then plainValue cs else some (.text (String.ofList cs))

end HookFlow.Yaml
