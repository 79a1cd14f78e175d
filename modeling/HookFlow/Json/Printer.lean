import HookFlow.Json.Basic
import HookFlow.Text.Quoted
import HookFlow.Decimal.Shortest
/-!
The two written forms of a JSON value: compact, without any blank, and laid out, with one item per
line and two blanks for each level. Both keep the order of members. An empty list or object is
written in two characters in either form.
-/

namespace HookFlow.Json

open HookFlow.Text

/-- the text of a number -/
def Number.render : Number → List Char
  | .whole n => (toString n).toList
  | .double x => (Decimal.writeFloat x).toList

/-- the word for a truth value -/
def boolWord (b : Bool) : List Char :=
  if b then ['t', 'r', 'u', 'e'] else ['f', 'a', 'l', 's', 'e']

mutual

/-- the compact form of a value -/
def compactChars : Json → List Char
  | .null => ['n', 'u', 'l', 'l']
  | .bool b => boolWord b
  | .number n => n.render
  | .text s => quoteChars s.toList
  | .list [] => ['[', ']']
  | .list (v :: rest) => '[' :: (compactChars v ++ compactItems rest)
  | .object [] => ['\x7b', '\x7d']
  | .object ((n, v) :: rest) =>
    '\x7b' :: (quoteChars n.toList ++ ':' :: (compactChars v ++ compactMembers rest))
  | .garbled => ['n', 'u', 'l', 'l']

/-- the items behind the first one, and the closing bracket -/
def compactItems : List Json → List Char
  | [] => [']']
  | v :: rest => ',' :: (compactChars v ++ compactItems rest)

/-- the members behind the first one, and the closing brace -/
def compactMembers : List (String × Json) → List Char
  | [] => ['\x7d']
  | (n, v) :: rest =>
    ',' :: (quoteChars n.toList ++ ':' :: (compactChars v ++ compactMembers rest))

end

/-- the compact form of a value -/
def compact (v : Json) : String :=
  String.ofList v.compactChars

/-- a line end and the blanks of a level -/
def newline (level : Nat) : List Char :=
  '\n' :: List.replicate (2 * level) ' '

mutual

/-- the laid-out form of a value that stands at a level -/
def prettyChars (level : Nat) : Json → List Char
  | .null => ['n', 'u', 'l', 'l']
  | .bool b => boolWord b
  | .number n => n.render
  | .text s => quoteChars s.toList
  | .list [] => ['[', ']']
  | .list (v :: rest) =>
    '[' :: (newline (level + 1) ++ (prettyChars (level + 1) v ++ prettyItems level rest))
  | .object [] => ['\x7b', '\x7d']
  | .object ((n, v) :: rest) =>
    '\x7b' :: (newline (level + 1) ++ (quoteChars n.toList ++
      ':' :: ' ' :: (prettyChars (level + 1) v ++ prettyMembers level rest)))
  | .garbled => ['n', 'u', 'l', 'l']

/-- the items behind the first one, and the closing bracket -/
def prettyItems (level : Nat) : List Json → List Char
  | [] => newline level ++ [']']
  | v :: rest =>
    ',' :: (newline (level + 1) ++ (prettyChars (level + 1) v ++ prettyItems level rest))

/-- the members behind the first one, and the closing brace -/
def prettyMembers (level : Nat) : List (String × Json) → List Char
  | [] => newline level ++ ['\x7d']
  | (n, v) :: rest =>
    ',' :: (newline (level + 1) ++ (quoteChars n.toList ++
      ':' :: ' ' :: (prettyChars (level + 1) v ++ prettyMembers level rest)))

end

/-- the laid-out form of a value -/
def pretty (v : Json) : String :=
  String.ofList (v.prettyChars 0)

end HookFlow.Json
