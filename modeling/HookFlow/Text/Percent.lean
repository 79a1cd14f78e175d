import HookFlow.Text.Quoted
import HookFlow.Text.Utf8
/-!
Percent encoding: a byte written as `%` and two hexadecimal digits.

`percentEncode` keeps the ASCII characters that a class admits and writes every other byte of the
text's UTF-8 form as an escape with upper-case digits. `percentDecode` undoes escapes in a list of
bytes; a `%` that no two digits follow stays as it is.
-/

namespace HookFlow.Text

/-- the hexadecimal digit of a value below sixteen, letters in upper case -/
def upperHexDigit (n : Nat) : Char :=
  if n < 10 then Char.ofNat (48 + n) else Char.ofNat (55 + n)

/-- the escape of one byte -/
def percentByte (b : UInt8) : List Char :=
  ['%', upperHexDigit (b.toNat / 16), upperHexDigit (b.toNat % 16)]

/-- one character: itself when `keep` admits it, else its bytes as escapes; `keep` is asked about
ASCII characters only -/
def percentChar (keep : Char → Bool) (c : Char) : List Char :=
  if c.toNat < 0x80 ∧ keep c = true then [c]
  else (String.utf8EncodeChar c).flatMap percentByte

/-- a text with all characters escaped but those that `keep` admits -/
def percentEncode (keep : Char → Bool) (cs : List Char) : List Char :=
  cs.flatMap (percentChar keep)

/-- the characters that need no escape anywhere in a URL -/
def isUnreserved (c : Char) : Bool :=
  c.isAlphanum || c == '-' || c == '.' || c == '_' || c == '~'

/-- the value of a hexadecimal digit given as a byte -/
def hexByte? (b : UInt8) : Option Nat :=
  hexValue? (Char.ofNat b.toNat)

/-- bytes with their escapes undone -/
def percentDecode : Bytes → Bytes
  | [] => []
  | 0x25 :: a :: b :: rest =>
    match hexByte? a, hexByte? b with
    | some x, some y => UInt8.ofNat (x * 16 + y) :: percentDecode rest
    | _, _ => 0x25 :: percentDecode (a :: b :: rest)
  | b :: rest => b :: percentDecode rest
  termination_by bs => bs.length

end HookFlow.Text
