import HookFlow.Log
import HookFlow.Text.Blank
import HookFlow.Text.Capital
/-!
Filters of log events.

A filter is a list of directives with commas between them. A directive is a level, or the start of the
names of some parts with or without a level, and it may ask for fields that an event must have. For an
event the most specific directive that speaks about it decides; without one the event is held back.
Directives about spans are read, but as a run has none they let nothing pass.
-/

namespace HookFlow.Log

/-- what a directive says -/
structure Directive where
  /-- how much passes: the rank of the last level that does, or 0 for nothing -/
  rank : Nat := Level.trace.rank
  /-- the start of the names of the parts that it is about; none for all parts -/
  target : Option String := none
  /-- the span that it is about -/
  span : Option String := none
  /-- fields that must be there, with the values they must have -/
  fields : List (String × Option String) := []
  deriving DecidableEq, Repr

namespace Directive

/-! ## Reading -/

/-- the words for ranks; a number from 0 to 5 stands for itself -/
def rankWords : List (String × Nat) :=
  [("off", 0), ("error", 1), ("warn", 2), ("info", 3), ("debug", 4), ("trace", 5)]

/-- the number of a text of digits with or without a plus, if it is at most 5 -/
def rankOfDigits? (cs : List Char) : Option Nat :=
  let digits := match cs with
    | '+' :: rest => rest
    | cs => cs
  if digits.isEmpty || !digits.all Char.isDigit then none
  else
    let n := digits.foldl (fun n c => n * 10 + (c.toNat - '0'.toNat)) 0
    if n ≤ 5 then some n else none

/-- the rank that a text writes, in any case of letters -/
def rank? (s : String) : Option Nat :=
  (rankOfDigits? s.toList).or (rankWords.lookup (Text.toLowerAscii s))

/-- the directive with the level behind its equals sign; without one everything passes. One comma may
end it. -/
def withLevel? (d : Directive) (cs : List Char) : Option Directive :=
  let (level, rest) := cs.span (· ≠ ',')
  if rest.length ≤ 1 then
    if level.isEmpty then some d
    else (rank? (String.ofList level)).map fun rank => { d with rank }
  else none

/-- a field that is asked for, with or without a value -/
def field? (cs : List Char) : Option (String × Option String) :=
  if cs.isEmpty then none
  else
    match Text.splitChars '=' cs with
    | name :: value :: _ => some (String.ofList name, some (String.ofList value))
    | _ => some (String.ofList cs, none)

/-- the directive with what stands behind the brackets: nothing, or a level -/
def afterBrackets? (d : Directive) : List Char → Option Directive
  | [] => some d
  | '=' :: rest => d.withLevel? rest
  | _ => none

/-- the directive with what stands in brackets from the first of them on: a span, and fields in braces -/
def brackets? (d : Directive) (cs : List Char) : Option Directive :=
  let (name, rest) := cs.span fun c => c ≠ ']' && c ≠ '\x7b'
  let span := String.ofList name
  match rest with
  | ']' :: rest => afterBrackets? { d with span := some span } rest
  | '\x7b' :: rest => do
    let (inner, rest) := rest.span (· ≠ '\x7d')
    let fields ← (Text.splitChars ',' inner).mapM field?
    match rest with
    | '\x7d' :: ']' :: rest =>
      afterBrackets? { d with span := if span.isEmpty then none else some span, fields } rest
    | _ => none
  | _ => none

/-- a level, or the name of some parts that everything passes from -/
def ofWord (word : String) : Directive :=
  match rank? word with
  | some rank => { rank }
  | none => { target := some word }

/-- whether a directive can start with a character -/
def isStart (c : Char) : Bool :=
  c == '-' || c == ':' || c == '_' || c.isAlphanum || 128 ≤ c.toNat

/-- The directive that a text writes. Blanks around it belong to the name, which then names no part, and
a name with blanks in front takes no level. -/
def parse? (s : String) : Option Directive := do
  let cs := s.toList
  let body := Text.trimStart cs
  let indented := body.length < cs.length
  match body with
  | [] => none
  | '[' :: rest => ({} : Directive).brackets? rest
  | c :: _ =>
    if !isStart c then none
    let (word, rest) := cs.span fun c => c ≠ '=' && c ≠ '[' && c ≠ ','
    let target := some (String.ofList word)
    match rest with
    | [] => return ofWord s
    | '=' :: rest => if indented then none else ({ target } : Directive).withLevel? rest
    | '[' :: rest => ({ target } : Directive).brackets? rest
    | _ :: rest => if rest.isEmpty then return ofWord s else none

/-! ## Deciding -/

/-- whether a directive is about events as such: about no span, and about no values of fields -/
def isAboutEvents (d : Directive) : Bool :=
  d.span.isNone && d.fields.all (·.2.isNone)

/-- the names of the fields of an event -/
def fieldNames (e : Event) : List String := "message" :: e.fields.map (·.1)

/-- whether a directive speaks about an event -/
def covers (d : Directive) (e : Event) : Bool :=
  d.isAboutEvents && d.target.all (fun t => t.toList.isPrefixOf e.origin.path.toList)
    && d.fields.all fun f => (fieldNames e).contains f.1

/-- how specific a directive is: by the length of its name, where no name comes first, then by the
number of its fields, then by their names -/
def isLessSpecific (a b : Directive) : Bool :=
  let length (d : Directive) : Nat := d.target.elim 0 (·.utf8ByteSize + 1)
  let names (d : Directive) : List String := d.fields.map (·.1)
  if length a ≠ length b then length a < length b
  else if a.fields.length ≠ b.fields.length then a.fields.length < b.fields.length
  else names a < names b

end Directive

/-- the directives of a filter -/
abbrev Filter := List Directive

namespace Filter

/-- the filter that a text writes; empty parts do not count -/
def parse? (s : String) : Option Filter :=
  ((Text.splitChars ',' s.toList).filter (!·.isEmpty)).mapM fun cs =>
    Directive.parse? (String.ofList cs)

/-- the most specific directive that speaks about an event; of equally specific ones the last -/
def deciding? (f : Filter) (e : Event) : Option Directive :=
  (f.filter (·.covers e)).foldl
    (fun best d => match best with
      | some b => if d.isLessSpecific b then some b else some d
      | none => some d) none

/-- whether an event passes -/
def allows (f : Filter) (e : Event) : Bool :=
  (f.deciding? e).any fun d => e.level.rank ≤ d.rank

end Filter

end HookFlow.Log
