import HookFlow.Text.Blank
import HookFlow.Text.Hidden
import HookFlow.Text.Percent
import HookFlow.Url.Punycode
/-!
Hosts of URLs.

The host of a web address is a domain name, an IPv4 address in any of its spellings, or an IPv6 address
in brackets. A name whose last label is a number must be an IPv4 address. Other schemes take any text
without delimiters.
-/

namespace HookFlow.Url

open Text (isBlank isHidden hexValue? percentDecode decode encode splitChars)

/-- a host -/
inductive Host where
  | domain (name : String)
  | ipv4 (address : Nat)
  /-- eight groups of sixteen bits -/
  | ipv6 (groups : List Nat)
  /-- the host of a scheme that nothing is known about -/
  | plain (text : String)
  deriving DecidableEq, Repr

/-! ## Domain names -/

/-- a character that no host may hold, as it would end the host or hide its end -/
def isDelimiter (c : Char) : Bool :=
  c ≤ ' ' || c == '\x7f' || "#/:<>?@[\\]^|".toList.contains c

/-- a character that is left out of domain names -/
def isIgnored (c : Char) : Bool :=
  let n := c.toNat
  n == 0xAD || n == 0x200B || n == 0x2060 || n == 0xFEFF || (0xFE00 ≤ n && n ≤ 0xFE0F)

/-- a character as domain names write it: small, and of ordinary width -/
def mapped (c : Char) : Char :=
  let n := c.toNat
  if n == 0x3002 || n == 0xFF0E || n == 0xFF61 then '.'
  else if 0xFF01 ≤ n && n ≤ 0xFF5E then (Char.ofNat (n - 0xFEE0)).toLower
  else c.toLower

/-- a character beyond ASCII that no domain name may hold -/
def isBarred (c : Char) : Bool :=
  let n := c.toNat
  128 ≤ n && (isBlank c || n < 0xA0 || (0xE000 ≤ n && n ≤ 0xF8FF) || (0xFFF0 ≤ n && n ≤ 0xFFFF))

/-- whether every joiner stands behind a character of the scripts from Arabic to Myanmar, whose words
need joiners -/
def joinersFit : List Char → Bool
  | a :: b :: rest =>
    ((b ≠ '\u200c' && b ≠ '\u200d') || (0x600 ≤ a.toNat && a.toNat < 0x10A0)) && joinersFit (b :: rest)
  | _ => true

/-- whether a label of a domain name can be looked up -/
def isLabel (cs : List Char) : Bool :=
  match cs with
  | 'x' :: 'n' :: '-' :: '-' :: rest =>
    match Punycode.decode? rest with
    | some unicode => unicode.any (fun c => 128 ≤ c.toNat) && !unicode.any isBarred
    | none => false
  | c :: _ => !(128 ≤ c.toNat && isHidden c) && joinersFit cs
  | [] => true

/-- the domain name that a text with its escapes undone writes -/
def domain? (text : String) : Option String :=
  let cs := (text.toList.filter (!isIgnored ·)).map mapped
  if cs.any (fun c => isDelimiter c || c == '%' || isBarred c) then none
  else if (splitChars '.' cs).all isLabel then some (String.ofList cs)
  else none

/-! ## IPv4 -/

/-- a number in a radix -/
def radixValue? (radix : Nat) (cs : List Char) : Option Nat :=
  cs.foldlM (fun n c => ((hexValue? c).filter (· < radix)).map (n * radix + ·)) 0

/-- a number of an IPv4 address: hexadecimal behind `0x`, octal behind `0`, or decimal -/
def ipv4Number? (cs : List Char) : Option Nat :=
  match cs with
  | [] => none
  | '0' :: 'x' :: rest => radixValue? 16 rest
  | '0' :: 'X' :: rest => radixValue? 16 rest
  | '0' :: c :: rest => radixValue? 8 (c :: rest)
  | cs => radixValue? 10 cs

/-- the labels of a name without an empty one at the end -/
def labels (cs : List Char) : List (List Char) :=
  let ls := splitChars '.' cs
  if ls.getLast? == some [] then ls.dropLast else ls

/-- whether the last label of a name is a number -/
def endsInNumber (cs : List Char) : Bool :=
  match (labels cs).getLast? with
  | none => false
  | some last =>
    (!last.isEmpty && last.all (fun c => '0' ≤ c && c ≤ '9')) || (ipv4Number? last).isSome

/-- the address that at most four numbers write; the last one fills all that is left -/
def ipv4? (cs : List Char) : Option Nat := do
  let parts := labels cs
  if 4 < parts.length then none
  let numbers ← parts.mapM ipv4Number?
  let last ← numbers.getLast?
  let lead := numbers.dropLast
  if lead.any (255 < ·) || Nat.pow 256 (4 - lead.length) ≤ last then none
  return lead.foldl (fun n x => n * 256 + x) 0 * Nat.pow 256 (4 - lead.length) + last

/-! ## IPv6 -/

/-- a group of one to four hexadecimal digits -/
def group? (cs : List Char) : Option Nat :=
  if cs.isEmpty || 4 < cs.length then none else radixValue? 16 cs

/-- a decimal number below 256 without leading zeros -/
def octet? (cs : List Char) : Option Nat :=
  match cs with
  | '0' :: _ :: _ => none
  | [] => none
  | _ => (radixValue? 10 cs).filter (· < 256)

/-- the groups of one side of an address; an IPv4 address may stand at the end of the last side -/
def groups? (last : Bool) : List (List Char) → Option (List Nat)
  | [] => some []
  | [cs] =>
    if last && cs.contains '.' then do
      match ← (splitChars '.' cs).mapM octet? with
      | [a, b, c, d] => return [a * 256 + b, c * 256 + d]
      | _ => none
    else (group? cs).map ([·])
  | cs :: rest => do
    let g ← group? cs
    return g :: (← groups? last rest)

/-- the groups of a side that may be empty -/
def side? (last : Bool) (cs : List Char) : Option (List Nat) :=
  if cs.isEmpty then some [] else groups? last (splitChars ':' cs)

/-- a text cut at its first double colon -/
def cutDouble : List Char → Option (List Char × List Char)
  | ':' :: ':' :: rest => some ([], rest)
  | c :: rest => (cutDouble rest).map fun r => (c :: r.1, r.2)
  | [] => none

/-- the address that a text between brackets writes; a double colon stands for at least one group of
zeros -/
def ipv6? (cs : List Char) : Option (List Nat) :=
  match cutDouble cs with
  | none => do
    let gs ← side? true cs
    if gs.length = 8 then some gs else none
  | some (left, right) => do
    let ls ← side? false left
    let rs ← side? true right
    if 8 ≤ ls.length + rs.length then none
    else some (ls ++ List.replicate (8 - ls.length - rs.length) 0 ++ rs)

/-! ## Hosts -/

/-- the address in a text with brackets around it -/
def bracketed? (cs : List Char) : Option Host :=
  if cs.getLast? == some ']' then (ipv6? (cs.drop 1).dropLast).map .ipv6 else none

/-- the host of a web address -/
def webHost? (cs : List Char) : Option Host :=
  if cs.head? == some '[' then bracketed? cs
  else do
    let bytes := percentDecode (encode (String.ofList cs))
    let text ← (decode bytes).toOption
    let name ← domain? text
    if name.isEmpty then none
    else if endsInNumber name.toList then (ipv4? name.toList).map .ipv4
    else some (.domain name)

/-- the host of a scheme that nothing is known about -/
def plainHost? (cs : List Char) : Option Host :=
  if cs.head? == some '[' then bracketed? cs
  else if cs.any fun c =>
      c == '\x00' || c == '\t' || c == '\n' || c == '\r' || c == ' ' ||
        "#/:<>?@[\\]^|".toList.contains c then none
  else some (.plain (String.ofList cs))

end HookFlow.Url
