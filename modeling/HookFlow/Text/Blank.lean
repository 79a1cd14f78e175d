/-!
Blank characters and the trimming that goes with them.

A character is blank when Unicode gives it the property White_Space. That set is wider than ASCII
blanks (it has NO-BREAK SPACE, the typographic spaces and both Unicode line ends) and does not hold
ZERO WIDTH SPACE or the information separators. `trim` removes blanks at both ends, `collapse`
everywhere.
-/

namespace HookFlow.Text

/-- the characters with the Unicode property White_Space -/
def isBlank (c : Char) : Bool :=
  let n := c.toNat
  (0x9 ≤ n && n ≤ 0xD) || n == 0x20 || n == 0x85 || n == 0xA0 || n == 0x1680 ||
    (0x2000 ≤ n && n ≤ 0x200A) || n == 0x2028 || n == 0x2029 || n == 0x202F || n == 0x205F ||
    n == 0x3000

/-- the text without its leading blanks -/
def trimStart (cs : List Char) : List Char :=
  cs.dropWhile isBlank

/-- the text without its trailing blanks -/
def trimEnd (cs : List Char) : List Char :=
  (cs.reverse.dropWhile isBlank).reverse

/-- the text without the blanks at its two ends -/
def trimChars (cs : List Char) : List Char :=
  trimEnd (trimStart cs)

/-- the text without the blanks at its two ends -/
def trim (s : String) : String :=
  String.ofList (trimChars s.toList)

/-- the text without any of its blanks -/
def collapse (s : String) : String :=
  String.ofList (s.toList.filter fun c => !isBlank c)

/-- a text of blanks only, the empty text included -/
def allBlank (s : String) : Bool :=
  s.toList.all isBlank

/-- Every character that core calls whitespace is blank. -/
theorem isBlank_of_isWhitespace {c : Char} (h : c.isWhitespace = true) : isBlank c = true := by
  simp only [Char.isWhitespace, Bool.or_eq_true, decide_eq_true_eq] at h
  rcases h with ((h | h) | h) | h <;> subst h <;> decide

/-- whether `needle` is a block of consecutive characters of `hay` -/
def containsChars (needle : List Char) : List Char → Bool
  | [] => needle.isEmpty
  | c :: cs => needle.isPrefixOf (c :: cs) || containsChars needle cs

/-- whether `needle` occurs in `hay` -/
def contains (hay needle : String) : Bool :=
  containsChars needle.toList hay.toList

/-- the pieces between the occurrences of `sep`; there is always at least one piece -/
def splitChars (sep : Char) : List Char → List (List Char)
  | [] => [[]]
  | c :: cs =>
    if c = sep then [] :: splitChars sep cs
    else match splitChars sep cs with
      | [] => [[c]]
      | p :: ps => (c :: p) :: ps

end HookFlow.Text
