import HookFlow.Text.Utf8
/-!
Base64 with the standard alphabet and padding.

Three bytes become four characters; a last group of one or two bytes is filled up with `=`.
`decode64?` is strict: it takes whole groups only, padding only in the last one, and only groups
whose unused bits are zero. So every list of bytes has exactly one text that decodes to it.
-/

namespace HookFlow.Text

/-- the character for a value below 64 -/
def digit64 (n : Nat) : Char :=
  if n < 26 then Char.ofNat (65 + n)
  else if n < 52 then Char.ofNat (71 + n)
  else if n < 62 then Char.ofNat (n - 4)
  else if n = 62 then '+'
  else '/'

/-- the value of a character of the alphabet -/
def value64? (c : Char) : Option Nat :=
  if 'A' ≤ c ∧ c ≤ 'Z' then some (c.toNat - 65)
  else if 'a' ≤ c ∧ c ≤ 'z' then some (c.toNat - 71)
  else if '0' ≤ c ∧ c ≤ '9' then some (c.toNat + 4)
  else if c = '+' then some 62
  else if c = '/' then some 63
  else none

/-- the characters for a list of bytes -/
def encode64 : Bytes → List Char
  | [] => []
  | [a] =>
    let n := a.toNat
    [digit64 (n / 4), digit64 (n % 4 * 16), '=', '=']
  | [a, b] =>
    let n := a.toNat * 256 + b.toNat
    [digit64 (n / 1024), digit64 (n / 16 % 64), digit64 (n % 16 * 4), '=']
  | a :: b :: c :: rest =>
    let n := (a.toNat * 256 + b.toNat) * 256 + c.toNat
    digit64 (n / 262144) :: digit64 (n / 4096 % 64) :: digit64 (n / 64 % 64) :: digit64 (n % 64)
      :: encode64 rest

/-- the bytes that a group of characters stands for, when it is the last group -/
def lastGroup? (a b c d : Char) : Option Bytes := do
  let x ← value64? a
  let y ← value64? b
  if d = '=' then
    if c = '=' then
      if y % 16 = 0 then some [UInt8.ofNat (x * 4 + y / 16)] else none
    else
      let z ← value64? c
      if z % 4 = 0 then
        let n := (x * 64 + y) * 16 + z / 4
        some [UInt8.ofNat (n / 256), UInt8.ofNat (n % 256)]
      else none
  else
    let z ← value64? c
    let w ← value64? d
    let n := ((x * 64 + y) * 64 + z) * 64 + w
    some [UInt8.ofNat (n / 65536), UInt8.ofNat (n / 256 % 256), UInt8.ofNat (n % 256)]

/-- the bytes that a group of characters stands for, when more groups follow it -/
def group? (a b c d : Char) : Option Bytes := do
  let x ← value64? a
  let y ← value64? b
  let z ← value64? c
  let w ← value64? d
  let n := ((x * 64 + y) * 64 + z) * 64 + w
  return [UInt8.ofNat (n / 65536), UInt8.ofNat (n / 256 % 256), UInt8.ofNat (n % 256)]

/-- the bytes of a text in base64, put behind `acc` (which is kept in reverse) -/
def decode64From? (acc : Bytes) : List Char → Option Bytes
  | [] => some acc.reverse
  | a :: b :: c :: d :: [] => (lastGroup? a b c d).map fun bs => acc.reverse ++ bs
  | a :: b :: c :: d :: e :: rest =>
    match group? a b c d with
    | none => none
    | some bs => decode64From? (bs.reverse ++ acc) (e :: rest)
  | _ => none

/-- the bytes of a text in base64 -/
def decode64? (cs : List Char) : Option Bytes :=
  decode64From? [] cs

end HookFlow.Text
