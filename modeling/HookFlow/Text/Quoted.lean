/-!
String literals in double quotes, as JSON and JavaScript both read them.

`quote` writes a literal: a quote, a backslash and the control characters below U+0020 are escaped,
all other characters stand for themselves. `literal?` is the reader: it takes the text behind an
opening quote and gives the value together with what follows the closing quote. It accepts every
escape of JSON, so it reads more than `quote` writes. A literal may be well formed and still denote
no text, when a `\u` escape names half of a surrogate pair; its value is then `none`.
-/

namespace HookFlow.Text

/-- the digit of a value below sixteen, letters in lower case -/
def hexDigit (n : Nat) : Char :=
  if n < 10 then Char.ofNat (48 + n) else Char.ofNat (87 + n)

/-- the value of a hexadecimal digit in either case -/
def hexValue? (c : Char) : Option Nat :=
  if '0' ≤ c ∧ c ≤ '9' then some (c.toNat - 48)
  else if 'a' ≤ c ∧ c ≤ 'f' then some (c.toNat - 87)
  else if 'A' ≤ c ∧ c ≤ 'F' then some (c.toNat - 55)
  else none

/-- how one character is written inside a literal -/
def escape (c : Char) : List Char :=
  if c = '"' then ['\\', '"']
  else if c = '\\' then ['\\', '\\']
  else if c = '\x08' then ['\\', 'b']
  else if c = '\x0c' then ['\\', 'f']
  else if c = '\n' then ['\\', 'n']
  else if c = '\r' then ['\\', 'r']
  else if c = '\t' then ['\\', 't']
  else if c.toNat < 0x20 then
    ['\\', 'u', '0', '0', hexDigit (c.toNat / 16), hexDigit (c.toNat % 16)]
  else [c]

/-- the literal for a text, quotes included -/
def quoteChars (cs : List Char) : List Char :=
  '"' :: (cs.flatMap escape ++ ['"'])

/-- the literal for a text, quotes included -/
def quote (s : String) : String :=
  String.ofList (quoteChars s.toList)

/-- the character that a one-letter escape stands for -/
def plainEscape? (c : Char) : Option Char :=
  if c = '"' then some '"'
  else if c = '\\' then some '\\'
  else if c = '/' then some '/'
  else if c = 'b' then some '\x08'
  else if c = 'f' then some '\x0c'
  else if c = 'n' then some '\n'
  else if c = 'r' then some '\r'
  else if c = 't' then some '\t'
  else none

/-- the number written by four hexadecimal digits -/
def hex4? (a b c d : Char) : Option Nat := do
  let a ← hexValue? a
  let b ← hexValue? b
  let c ← hexValue? c
  let d ← hexValue? d
  return ((a * 16 + b) * 16 + c) * 16 + d

/-- what a literal's content is read into: its characters in reverse, or `none` once an escape named
half of a surrogate pair -/
abbrev Gathered := Option (List Char)

/-- one more character behind what was gathered -/
def Gathered.push (g : Gathered) (c : Char) : Gathered :=
  g.map (c :: ·)

/-- The rest of a literal whose opening quote is already read: its value and the text behind its
closing quote. `none` where the literal is malformed: an unknown escape, a control character below
U+0020, or no closing quote. -/
def literalFrom? (g : Gathered) : List Char → Option (Option (List Char) × List Char)
  | [] => none
  | '"' :: rest => some (g.map List.reverse, rest)
  | '\\' :: 'u' :: a :: b :: c :: d :: rest =>
    match hex4? a b c d with
    | none => none
    | some n =>
      if n < 0xD800 ∨ 0xDFFF < n then literalFrom? (g.push (Char.ofNat n)) rest
      else if 0xDC00 ≤ n then literalFrom? none rest
      else match rest with
        | '\\' :: 'u' :: a :: b :: c :: d :: rest' =>
          match hex4? a b c d with
          | none => none
          | some m =>
            if 0xDC00 ≤ m ∧ m ≤ 0xDFFF then
              literalFrom? (g.push (Char.ofNat (0x10000 + (n - 0xD800) * 1024 + (m - 0xDC00)))) rest'
            else literalFrom? none rest'
        | rest => literalFrom? none rest
  | '\\' :: e :: rest =>
    match plainEscape? e with
    | some c => literalFrom? (g.push c) rest
    | none => none
  | c :: rest => if c = '\\' ∨ c.toNat < 0x20 then none else literalFrom? (g.push c) rest

/-- the rest of a literal whose opening quote is already read -/
def literal? (cs : List Char) : Option (Option (List Char) × List Char) :=
  literalFrom? (some []) cs

end HookFlow.Text
