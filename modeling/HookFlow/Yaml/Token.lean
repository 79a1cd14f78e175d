import HookFlow.Yaml.Cursor
/-!
The tokens of a YAML text.

Indentation is already turned into tokens here: a block collection starts with a token of its own and
ends with `blockEnd`, and a key is announced by `key` even where the text has no question mark.
-/

namespace HookFlow.Yaml

/-- how a scalar is written -/
inductive ScalarStyle where
  | plain
  | singleQuoted
  | doubleQuoted
  | literal
  | folded
  deriving DecidableEq, Repr

/-- a token of a YAML text -/
inductive Token where
  | streamEnd
  | versionDirective (major minor : Nat)
  | tagDirective (handle lead : List Char)
  | documentStart
  | documentEnd
  | blockSequenceStart
  | blockMappingStart
  | blockEnd
  | flowSequenceStart
  | flowSequenceEnd
  | flowMappingStart
  | flowMappingEnd
  | blockEntry
  | flowEntry
  | key
  | value
  | alias (name : List Char)
  | anchor (name : List Char)
  | tag (handle suffix : List Char)
  | scalar (text : List Char) (style : ScalarStyle)
  deriving DecidableEq, Repr

/-! ## Folding

Between the words of a flow scalar and between the lines of a folded one, blanks and line ends are
gathered first and set only when more content follows. -/

/-- what stands between two pieces of content: blanks of one line, or line ends -/
structure Gap where
  /-- blanks before any line end, in reverse -/
  blanks : List Char := []
  /-- whether a line end was met; blanks do not count any more -/
  broken : Bool := false
  /-- the first line end -/
  first : List Char := []
  /-- further line ends, in reverse -/
  more : List Char := []

/-- the text that a gap amounts to: its blanks, or its line ends with a lone line feed folded into a
space and the first line feed dropped before others -/
def Gap.text (g : Gap) : List Char :=
  if g.broken then
    match g.first with
    | '\n' :: _ => if g.more.isEmpty then [' '] else g.more.reverse
    | first => first ++ g.more.reverse
  else g.blanks.reverse

/-- the gap and one more line end -/
def Gap.pushBreak (g : Gap) (x : Char) : Gap :=
  if g.broken then { g with more := x :: g.more }
  else { g with blanks := [], first := [x], broken := true }

end HookFlow.Yaml
