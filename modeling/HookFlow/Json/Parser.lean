import HookFlow.Json.Basic
import HookFlow.Text.Quoted
import HookFlow.Text.Utf8
import HookFlow.Decimal.Literal
/-!
Reading JSON texts.

`parse?` accepts a single value with blanks around it and nothing else. Numbers follow the strict
grammar: no leading zeros, at least one digit on each side of the point and in the exponent. The
reader goes down with the nesting of the text; its fuel is one more than the number of characters,
and each nested call has read at least one of them.
-/

namespace HookFlow.Json

open HookFlow.Text HookFlow.Decimal

/-- the four characters that may stand between the parts of a JSON text -/
def isSpace (c : Char) : Bool :=
  c == ' ' || c == '\t' || c == '\n' || c == '\r'

/-- the text behind its leading blanks -/
def skipSpace (cs : List Char) : List Char :=
  cs.dropWhile isSpace

/-- the text behind `word`, if it starts with it -/
def after? (word cs : List Char) : Option (List Char) :=
  if word.isPrefixOf cs then some (cs.drop word.length) else none

/-- the whole part of a number and what follows: a single zero, or digits that do not start with one -/
def wholePart? (cs : List Char) : Option (List Char × List Char) :=
  match cs with
  | '0' :: c :: rest => if isDigit c then none else some (['0'], c :: rest)
  | ['0'] => some (['0'], [])
  | c :: rest =>
    if isDigit c then some (c :: rest.takeWhile isDigit, rest.dropWhile isDigit) else none
  | [] => none

/-- an optional point with at least one digit behind it, and what follows -/
def fractionPart? (cs : List Char) : Option (List Char × List Char) :=
  match cs with
  | '.' :: rest =>
    let ds := rest.takeWhile isDigit
    if ds.isEmpty then none else some (ds, rest.dropWhile isDigit)
  | _ => some ([], cs)

/-- an optional exponent and what follows -/
def exponentPart? (cs : List Char) : Option (Option Int × List Char) :=
  match cs with
  | e :: rest =>
    if e = 'e' ∨ e = 'E' then
      let (negative, rest) := match rest with
        | '-' :: r => (true, r)
        | '+' :: r => (false, r)
        | r => (false, r)
      let ds := rest.takeWhile isDigit
      if ds.isEmpty then none
      else
        let n : Int := digitsValue ds
        some (some (if negative then -n else n), rest.dropWhile isDigit)
    else some (none, cs)
  | [] => some (none, [])

/-- The value of a number literal. A literal without point and exponent is whole if 64 bits hold it
(and it is not minus zero); every other one is the nearest double. -/
def numberValue (negative : Bool) (whole fraction : List Char) (exponent : Option Int) : Json :=
  let n : Int := digitsValue whole
  let plain := fraction.isEmpty && exponent.isNone
  if plain && !negative && n < 0x10000000000000000 then .number (.whole n)
  else if plain && negative && 0 < n && n ≤ 0x8000000000000000 then .number (.whole (-n))
  else
    let x := (Literal.mk negative (digitsValue (whole ++ fraction))
      (exponent.getD 0 - fraction.length)).toFloat
    if x.isFinite then .number (.double x) else .garbled

/-- a number and what follows it -/
def number? (cs : List Char) : Option (Json × List Char) := do
  let (negative, cs) := match cs with
    | '-' :: r => (true, r)
    | r => (false, r)
  let (whole, cs) ← wholePart? cs
  let (fraction, cs) ← fractionPart? cs
  let (exponent, cs) ← exponentPart? cs
  return (numberValue negative whole fraction exponent, cs)

/-- the value of a string whose characters may be unknown -/
def ofLiteral : Option (List Char) → Json
  | some cs => .text (String.ofList cs)
  | none => .garbled

mutual

/-- a value and what follows it -/
def value? : Nat → List Char → Option (Json × List Char)
  | 0, _ => none
  | fuel + 1, cs =>
    match skipSpace cs with
    | [] => none
    | '"' :: rest => (literal? rest).map fun r => (ofLiteral r.1, r.2)
    | '[' :: rest =>
      match skipSpace rest with
      | ']' :: rest => some (.list [], rest)
      | rest => do
        let (v, rest) ← value? fuel rest
        items? fuel [v] rest
    | '\x7b' :: rest =>
      match skipSpace rest with
      | '\x7d' :: rest => some (.object [], rest)
      | rest => do
        let (n, v, rest) ← member? fuel rest
        members? fuel [(n, v)] rest
    | c :: rest =>
      if c = 'n' then (after? ['u', 'l', 'l'] rest).map fun r => (.null, r)
      else if c = 't' then (after? ['r', 'u', 'e'] rest).map fun r => (.bool true, r)
      else if c = 'f' then (after? ['a', 'l', 's', 'e'] rest).map fun r => (.bool false, r)
      else number? (c :: rest)

/-- the items of a list behind those in `acc` (in reverse), up to the closing bracket -/
def items? : Nat → List Json → List Char → Option (Json × List Char)
  | 0, _, _ => none
  | fuel + 1, acc, cs =>
    match skipSpace cs with
    | ']' :: rest => some (.list acc.reverse, rest)
    | ',' :: rest => do
      let (v, rest) ← value? fuel rest
      items? fuel (v :: acc) rest
    | _ => none

/-- a name, a colon and a value; the name is `none` where it denotes no text -/
def member? : Nat → List Char → Option (Option String × Json × List Char)
  | 0, _ => none
  | fuel + 1, cs =>
    match skipSpace cs with
    | '"' :: rest => do
      let (name, rest) ← literal? rest
      match skipSpace rest with
      | ':' :: rest => do
        let (v, rest) ← value? fuel rest
        return (name.map String.ofList, v, rest)
      | _ => none
    | _ => none

/-- The members of an object behind those in `acc` (in reverse), up to the closing brace. An object
with a name that denotes no text is garbled. -/
def members? : Nat → List (Option String × Json) → List Char → Option (Json × List Char)
  | 0, _, _ => none
  | fuel + 1, acc, cs =>
    match skipSpace cs with
    | '\x7d' :: rest =>
      match acc.reverse.mapM fun m => m.1.map fun n => (n, m.2) with
      | some ms => some (.object ms, rest)
      | none => some (.garbled, rest)
    | ',' :: rest => do
      let (n, v, rest) ← member? fuel rest
      members? fuel ((n, v) :: acc) rest
    | _ => none

end

/-- the value that a text writes -/
def parseChars? (cs : List Char) : Option Json := do
  let (v, rest) ← value? (2 * cs.length + 2) cs
  if (skipSpace rest).isEmpty then some v else none

/-- the value that a text writes -/
def parse? (s : String) : Option Json :=
  parseChars? s.toList

/-- the value that the text of some bytes writes -/
def parseBytes? (bytes : Bytes) : Option Json :=
  match decode bytes with
  | .ok s => parse? s
  | .error _ => none

end HookFlow.Json
