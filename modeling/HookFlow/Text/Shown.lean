import HookFlow.Text.Quoted
import HookFlow.Text.Hidden
/-!
A text as it is shown for inspection: in double quotes, with everything that would not show written
out. Quotes, backslashes, tabs and line ends get a short escape, NUL is `\0`, and a hidden character
is written by its number in braces. The single quote stands for itself.
-/

namespace HookFlow.Text

/-- the hexadecimal digits of a number, lower case, at least one; `fuel` bounds their count -/
def hexDigitsFrom : Nat → Nat → List Char → List Char
  | 0, _, acc => acc
  | fuel + 1, n, acc =>
    let acc := hexDigit (n % 16) :: acc
    if n / 16 = 0 then acc else hexDigitsFrom fuel (n / 16) acc

/-- the hexadecimal digits of a number, lower case, at least one -/
def hexDigits (n : Nat) : List Char :=
  hexDigitsFrom (n + 1) n []

/-- how one character is shown inside the quotes -/
def showChar (c : Char) : List Char :=
  if c = '"' then ['\\', '"']
  else if c = '\\' then ['\\', '\\']
  else if c = '\n' then ['\\', 'n']
  else if c = '\r' then ['\\', 'r']
  else if c = '\t' then ['\\', 't']
  else if c = '\x00' then ['\\', '0']
  else if isHidden c then ['\\', 'u', '\x7b'] ++ hexDigits c.toNat ++ ['\x7d']
  else [c]

/-- a text in quotes, for inspection -/
def shown (s : String) : String :=
  String.ofList ('"' :: (s.toList.flatMap showChar ++ ['"']))

end HookFlow.Text
