import HookFlow.Handler.Filter
import HookFlow.Proofs.Text.Quoted
/-!
The gates of a handler, read back from its source line by line.

A reader that looks at one line at a time knows a gate by how its line begins, and takes the event and the actions
from the literals. It needs no idea of blocks, because a literal lies on one line and ends where it was meant to.

Results:
- `splitLines_lines`: lines without line feeds are found again in their text.
- `gateLines_show`: the lines of a trigger add one gate, with the actions in their order.
- `readGates?_filterSource`: the source of a gate function gives back its triggers.
-/

namespace HookFlow.Handler

open Text

/-! ## The reader -/

/-- a gate as its source shows it; without a `switch` it has no actions, which is not the same as none of them -/
structure Gate where
  event : String
  actions : Option (List String) := none
  deriving DecidableEq, Repr

/-- the lines of a text; behind a last line feed there is no line -/
def splitLines : List Char → List (List Char)
  | [] => []
  | c :: rest =>
    if c = '\n' then [] :: splitLines rest
    else match splitLines rest with
      | [] => [[c]]
      | l :: ls => (c :: l) :: ls

/-- what follows a fixed beginning -/
def after? (beginning : String) (cs : List Char) : Option (List Char) :=
  if beginning.toList.isPrefixOf cs then some (cs.drop beginning.length) else none

/-- the value of a literal that stands before a fixed ending -/
def literalBefore? (ending : String) : List Char → Option String
  | '"' :: cs =>
    match literal? cs with
    | some (some value, rest) => if rest = ending.toList then some (String.ofList value) else none
    | _ => none
  | _ => none

/-- how an indented line begins, if it matters for the gates -/
inductive Beginning where
  | event (rest : List Char)
  | choice
  | action (rest : List Char)
  | other
  deriving DecidableEq, Repr

def beginning (line : List Char) : Beginning :=
  let line := line.dropWhile (· == ' ')
  match after? "if (req.headers['x-github-event'] === " line with
  | some rest => .event rest
  | none =>
    match after? "switch (req.body.action)" line with
    | some _ => .choice
    | none =>
      match after? "case " line with
      | some rest => .action rest
      | none => .other

/-- one line; the gate that was read last stands first -/
def readLine? (gates : List Gate) (line : List Char) : Option (List Gate) :=
  match beginning line, gates with
  | .event rest, _ => (literalBefore? ") \x7b" rest).map fun event => { event } :: gates
  | .choice, g :: before => some ({ g with actions := some [] } :: before)
  | .action rest, { event, actions := some actions } :: before =>
    (literalBefore? ":" rest).map fun action => { event, actions := some (actions ++ [action]) } :: before
  | .other, _ => some gates
  | _, _ => none

/-- the gates of a source, in order -/
def readGates? (source : String) : Option (List Gate) :=
  ((splitLines source.toList).foldlM readLine? []).map List.reverse

/-- the gate of a trigger -/
def Gate.ofTrigger (t : Trigger) : Gate where
  event := t.event
  actions := if t.actions.isEmpty then none else some t.actions

/-! ## Lines and literals -/

/-- the line that opens a gate -/
def ifLine (event : String) : String :=
  "  if (req.headers['x-github-event'] === " ++ quote event ++ ") \x7b"

/-- the line of one action -/
def caseLine (action : String) : String := "      case " ++ quote action ++ ":"

theorem literalBefore?_quote (ending s : String) :
    literalBefore? ending (quoteChars s.toList ++ ending.toList) = some s := by
  have read := literal?_escaped s.toList ending.toList
  simp [quoteChars, literalBefore?, read]

theorem splitLines_line {l : List Char} (single : '\n' ∉ l) (rest : List Char) :
    splitLines (l ++ '\n' :: rest) = l :: splitLines rest := by
  induction l with
  | nil => simp [splitLines]
  | cons c l ih =>
    obtain ⟨first, later⟩ := not_or.1 (mt List.mem_cons.2 single)
    simp [splitLines, Ne.symm first, ih later]

theorem splitLines_lines {ls : List String} (single : ∀ l ∈ ls, '\n' ∉ l.toList) :
    splitLines (linesText ls).toList = ls.map String.toList := by
  rw [linesText, String.toList_ofList]
  induction ls with
  | nil => rfl
  | cons l ls ih =>
    obtain ⟨first, later⟩ := List.forall_mem_cons.1 single
    rw [List.flatMap_cons, List.append_assoc, List.singleton_append, splitLines_line first, ih later,
      List.map_cons]

/-- A line with a literal is a line. -/
theorem quoted_single {before after : String} (s : String) (left : '\n' ∉ before.toList)
    (right : '\n' ∉ after.toList) : '\n' ∉ (before ++ quote s ++ after).toList := by
  have middle : '\n' ∉ quoteChars s.toList := fun feed => absurd (quoteChars_printable _ feed) (by decide)
  simp [quote, left, right, middle]

theorem gateLines_single (t : Trigger) : ∀ l ∈ gateLines t, '\n' ∉ l.toList := by
  have event : ∀ l ∈ [ifLine t.event], '\n' ∉ l.toList :=
    List.forall_mem_singleton.2 (quoted_single t.event (by decide) (by decide))
  have actions : ∀ l ∈ actionLines t.actions, '\n' ∉ l.toList := by
    cases t.actions with
    | nil => decide
    | cons a rest =>
      have opens : ∀ l ∈ ["    switch (req.body.action) \x7b"], '\n' ∉ l.toList := by decide
      have closes : ∀ l ∈ ["        return true;", "    \x7d"], '\n' ∉ l.toList := by decide
      have labels : ∀ l ∈ (a :: rest).map caseLine, '\n' ∉ l.toList := by
        intro l hl
        obtain ⟨action, -, rfl⟩ := List.mem_map.1 hl
        exact quoted_single action (by decide) (by decide)
      exact List.forall_mem_append.2 ⟨List.forall_mem_append.2 ⟨opens, labels⟩, closes⟩
  have closes : ∀ l ∈ ["  \x7d"], '\n' ∉ l.toList := by decide
  exact List.forall_mem_append.2 ⟨List.forall_mem_append.2 ⟨event, actions⟩, closes⟩

theorem filterLines_single (triggers : List Trigger) : ∀ l ∈ filterLines triggers, '\n' ∉ l.toList := by
  have opens : ∀ l ∈ ["const " ++ filterName ++ " = (req) => \x7b"], '\n' ∉ l.toList := by decide
  have closes : ∀ l ∈ ["  return false;", "\x7d;"], '\n' ∉ l.toList := by decide
  have gates : ∀ l ∈ triggers.flatMap gateLines, '\n' ∉ l.toList := by
    intro l hl
    obtain ⟨t, -, ht⟩ := List.mem_flatMap.1 hl
    exact gateLines_single t l ht
  exact List.forall_mem_append.2 ⟨List.forall_mem_append.2 ⟨opens, gates⟩, closes⟩

/-! ## Gates -/

/-- `Shows ls gates gates'`: the lines `ls` take the gates that were read from `gates` to `gates'` -/
def Shows (ls : List String) (gates gates' : List Gate) : Prop :=
  (ls.map String.toList).foldlM readLine? gates = some gates'

section

variable {ls ms : List String} {gates gates' gates'' : List Gate}

theorem Shows.append (first : Shows ls gates gates') (second : Shows ms gates' gates'') :
    Shows (ls ++ ms) gates gates'' := by
  rw [Shows, List.map_append, List.foldlM_append, first]
  exact second

/-- Lines that begin like none of a gate change nothing. -/
theorem shows_others (others : ∀ l ∈ ls, beginning l.toList = .other) : Shows ls gates gates := by
  induction ls with
  | nil => rfl
  | cons l ls ih =>
    obtain ⟨first, later⟩ := List.forall_mem_cons.1 others
    have same : readLine? gates l.toList = some gates := by simp [readLine?, first]
    rw [Shows, List.map_cons, List.foldlM_cons, same]
    exact ih later

/-- A line that is read on its own takes the gates one step further. -/
theorem shows_line {l : String} (read : readLine? gates l.toList = some gates') : Shows [l] gates gates' := by
  rw [Shows, List.map_cons, List.foldlM_cons, read]
  rfl

theorem quoted_toList (before s after : String) :
    (before ++ quote s ++ after).toList = before.toList ++ (quoteChars s.toList ++ after.toList) := by
  simp only [quote, String.toList_append, String.toList_ofList, List.append_assoc]

theorem ifLine_beginning (event : String) :
    beginning (ifLine event).toList = .event (quoteChars event.toList ++ ") \x7b".toList) := by
  have line := quoted_toList "  if (req.headers['x-github-event'] === " event ") \x7b"
  have starts (rest : List Char) :
    beginning ("  if (req.headers['x-github-event'] === ".toList ++ rest) = .event rest := rfl
  exact (congrArg beginning line).trans (starts _)

theorem caseLine_beginning (action : String) :
    beginning (caseLine action).toList = .action (quoteChars action.toList ++ ":".toList) := by
  have line := quoted_toList "      case " action ":"
  have starts (rest : List Char) : beginning ("      case ".toList ++ rest) = .action rest := rfl
  exact (congrArg beginning line).trans (starts _)

theorem shows_event (event : String) : Shows [ifLine event] gates ({ event } :: gates) := by
  refine shows_line ?_
  simp only [readLine?, ifLine_beginning, literalBefore?_quote, Option.map_some]

theorem shows_action (event : String) (before : List String) (action : String) :
    Shows [caseLine action] (⟨event, some before⟩ :: gates) (⟨event, some (before ++ [action])⟩ :: gates) := by
  refine shows_line ?_
  simp only [readLine?, caseLine_beginning, literalBefore?_quote, Option.map_some]

/-- Labels add their actions in order. -/
theorem shows_actions (event : String) (before actions : List String) :
    Shows (actions.map caseLine) (⟨event, some before⟩ :: gates)
      (⟨event, some (before ++ actions)⟩ :: gates) := by
  induction actions generalizing before with
  | nil => simp [Shows]
  | cons a rest ih =>
    have first : Shows _ (⟨event, some before⟩ :: gates) _ := shows_action event before a
    have others := ih (before ++ [a])
    rw [List.append_assoc] at others
    exact first.append others

/-- **A trigger shows one gate.** -/
theorem gateLines_show (t : Trigger) : Shows (gateLines t) gates (.ofTrigger t :: gates) := by
  obtain ⟨event, actions⟩ := t
  have closes : ∀ l ∈ ["  \x7d"], beginning l.toList = .other := by decide
  refine Shows.append (Shows.append (shows_event event) ?_) (shows_others closes)
  cases actions with
  | nil =>
    have unconditional : ∀ l ∈ ["    return true;"], beginning l.toList = .other := by decide
    exact shows_others unconditional
  | cons a rest =>
    have opens : Shows ["    switch (req.body.action) \x7b"] (⟨event, none⟩ :: gates)
      (⟨event, some []⟩ :: gates) := rfl
    have ends : ∀ l ∈ ["        return true;", "    \x7d"], beginning l.toList = .other := by decide
    exact (opens.append (shows_actions event [] (a :: rest))).append (shows_others ends)

theorem gates_show (triggers : List Trigger) :
    Shows (triggers.flatMap gateLines) gates ((triggers.map Gate.ofTrigger).reverse ++ gates) := by
  induction triggers generalizing gates with
  | nil => rfl
  | cons t rest ih =>
    have others : Shows (rest.flatMap gateLines) (.ofTrigger t :: gates) _ := ih
    simpa using (gateLines_show t).append others

end

theorem readGates?_filterSource (triggers : List Trigger) :
    readGates? (filterSource triggers) = some (triggers.map Gate.ofTrigger) := by
  have opens : ∀ l ∈ ["const " ++ filterName ++ " = (req) => \x7b"], beginning l.toList = .other := by
    decide
  have closes : ∀ l ∈ ["  return false;", "\x7d;"], beginning l.toList = .other := by decide
  have whole : Shows (filterLines triggers) [] ((triggers.map Gate.ofTrigger).reverse ++ []) :=
    ((shows_others opens).append (gates_show triggers)).append (shows_others closes)
  rw [readGates?, filterSource, splitLines_lines (filterLines_single triggers), whole]
  simp

end HookFlow.Handler
