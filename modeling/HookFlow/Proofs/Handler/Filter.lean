import HookFlow.Flow
import HookFlow.Proofs.Handler.Gates
import HookFlow.Proofs.Script.Program
/-!
The gate of a handler, read as a program and line by line.

Read as a program, the source of the gate is one function. Called with a delivery, it returns whether the flow
accepts the delivery, whatever else the delivery holds: an `if` whose `switch` meets no label goes on to the next
trigger, and the last statement returns `false`. Read line by line, the source gives back the triggers themselves.
Nothing is assumed of events and actions: a literal is one token and lies on one line.

Results:
- `filterSource_tokens`: the tokens of the source.
- `filterSource_read`: the program does what `Flow.accepts` says, and the lines tell the triggers.
-/

namespace HookFlow.Handler

open Text Script

/-! ## The tokens of the source -/

/-- the tokens before the block of a trigger -/
def ifTokens (event : String) : List Token :=
  [.word "if", .mark "(", .word "req", .mark ".", .word "headers", .mark "[", .text "x-github-event", .mark "]",
    .mark "===", .text event, .mark ")", .mark "\x7b"]

/-- the tokens before the block of the actions -/
def switchTokens : List Token :=
  [.word "switch", .mark "(", .word "req", .mark ".", .word "body", .mark ".", .word "action", .mark ")",
    .mark "\x7b"]

def caseTokens (action : String) : List Token := [.word "case", .text action, .mark ":"]

def returnTokens (b : Bool) : List Token := [.word "return", .word (toString b), .mark ";"]

def actionTokens : List String → List Token
  | [] => returnTokens true
  | a :: rest => switchTokens ++ (a :: rest).flatMap caseTokens ++ returnTokens true ++ [.mark "\x7d"]

def gateTokens (t : Trigger) : List Token :=
  ifTokens t.event ++ actionTokens t.actions ++ [.mark "\x7d"]

/-- the tokens before the body of the gate function -/
def constTokens : List Token :=
  [.word "const", .word filterName, .mark "=", .mark "(", .word "req", .mark ")", .mark "=>", .mark "\x7b"]

def filterTokens (triggers : List Trigger) : List Token :=
  constTokens ++ triggers.flatMap gateTokens ++ returnTokens false ++ [.mark "\x7d", .mark ";"]

/-- `Spells lines ts`: the lines have the tokens `ts` -/
def Spells (lines : List String) (ts : List Token) : Prop :=
  Scans .start (lines.flatMap fun l => l.toList ++ ['\n']) ts .start

instance (lines : List String) (ts : List Token) : Decidable (Spells lines ts) :=
  inferInstanceAs (Decidable (Scans _ _ _ _))

theorem Spells.nil : Spells [] [] := Scans.nil

theorem spells_ofList {letters : List Char} {ts : List Token} (read : Scans .start (letters ++ ['\n']) ts .start) :
    Spells [String.ofList letters] ts := by
  simpa [Spells] using read

theorem Spells.append {ls ms : List String} {ts us : List Token} (first : Spells ls ts)
    (second : Spells ms us) : Spells (ls ++ ms) (ts ++ us) := by
  rw [Spells, List.flatMap_append]
  exact Scans.append first second

theorem Spells.flatMap {α : Type} {items : List α} {lines : α → List String} {tokens : α → List Token}
    (each : ∀ a ∈ items, Spells (lines a) (tokens a)) :
    Spells (items.flatMap lines) (items.flatMap tokens) :=
  flatMap_related .nil .append each

/-- A literal between two fixed parts of a line is one token between theirs; the left part counts its opening
quote, since that may end a token. -/
theorem spells_quote {before after : String} {ts us : List Token} (s : String)
    (left : Scans .start (before.toList ++ ['"']) ts (.literal [] false))
    (right : Scans .start (after.toList ++ ['\n']) us .start) :
    Spells [before ++ quote s ++ after] (ts ++ .text s :: us) := by
  have whole := (left.append (scans_literal s)).append right
  simpa [Spells, quote, quoteChars, String.toList_append] using whole

theorem ifLine_spells (event : String) : Spells [ifLine event] (ifTokens event) := by
  have left : Scans .start ("  if (req.headers['x-github-event'] === ".toList ++ ['"'])
      [.word "if", .mark "(", .word "req", .mark ".", .word "headers", .mark "[", .text "x-github-event",
        .mark "]", .mark "==="] (.literal [] false) := by decide
  have right : Scans .start (") \x7b".toList ++ ['\n']) [.mark ")", .mark "\x7b"] .start := by decide
  exact spells_quote event left right

theorem caseLine_spells (action : String) : Spells [caseLine action] (caseTokens action) := by
  have left : Scans .start ("      case ".toList ++ ['"']) [.word "case"] (.literal [] false) := by
    decide
  have right : Scans .start (":".toList ++ ['\n']) [.mark ":"] .start := by decide
  exact spells_quote action left right

theorem actionLines_spells (actions : List String) : Spells (actionLines actions) (actionTokens actions) := by
  cases actions with
  | nil => exact (by decide : Spells ["    return true;"] (returnTokens true))
  | cons a rest =>
    have opens : Spells ["    switch (req.body.action) \x7b"] switchTokens := by decide
    have closes : Spells ["        return true;", "    \x7d"] (returnTokens true ++ [.mark "\x7d"]) := by
      decide
    have labels : Spells ((a :: rest).map caseLine) ((a :: rest).flatMap caseTokens) := by
      rw [List.map_eq_flatMap]
      exact Spells.flatMap fun action _ => caseLine_spells action
    have whole := (opens.append labels).append closes
    rw [← List.append_assoc _ (returnTokens true)] at whole
    exact whole

theorem gateLines_spells (t : Trigger) : Spells (gateLines t) (gateTokens t) := by
  have closes : Spells ["  \x7d"] [.mark "\x7d"] := by decide
  exact ((ifLine_spells t.event).append (actionLines_spells t.actions)).append closes

theorem filterLines_spells (triggers : List Trigger) : Spells (filterLines triggers) (filterTokens triggers) := by
  have opens : Spells ["const " ++ filterName ++ " = (req) => \x7b"] constTokens := by decide
  have closes : Spells ["  return false;", "\x7d;"] (returnTokens false ++ [.mark "\x7d", .mark ";"]) := by
    decide
  have gates : Spells (triggers.flatMap gateLines) (triggers.flatMap gateTokens) :=
    Spells.flatMap fun t _ => gateLines_spells t
  have whole := (opens.append gates).append closes
  simpa only [filterLines, filterTokens, List.append_assoc] using whole

theorem filterSource_tokens (triggers : List Trigger) :
    tokens? (filterSource triggers) = some (filterTokens triggers) := by
  refine Scans.tokens? ?_
  rw [filterSource, linesText, String.toList_ofList]
  exact filterLines_spells triggers

/-! ## The program -/

/-- the header that names the event -/
def eventHeader : Expr := .member (.member (.name "req") "headers") "x-github-event"

/-- the action that the body names -/
def bodyAction : Expr := .member (.member (.name "req") "body") "action"

def actionStmts : List String → List Stmt
  | [] => [.giveBack true]
  | a :: rest => [.choice bodyAction ((a :: rest).map Stmt.label ++ [.giveBack true])]

def gateStmt (t : Trigger) : Stmt := .branch (.same eventHeader t.event) (actionStmts t.actions)

def filterBody (triggers : List Trigger) : List Stmt := triggers.map gateStmt ++ [.giveBack false]

variable {outer : List (Head × List Stmt)}

theorem returnTokens_reads (b : Bool) : Reads outer (returnTokens b) [.giveBack b] := by
  cases b <;> intro block <;> rfl

theorem caseTokens_reads (subject : Expr) (before : List Stmt) (action : String) :
    Reads ((.choice subject, before) :: outer) (caseTokens action) [.label action] :=
  fun _ => rfl

theorem actionTokens_reads (actions : List String) :
    Reads outer (actionTokens actions) (actionStmts actions) := by
  cases actions with
  | nil => exact returnTokens_reads true
  | cons a rest =>
    intro block
    have opens : Reader.readFrom? { block, outer } switchTokens =
      some { outer := (.choice bodyAction, block) :: outer } := rfl
    have labels : Reads ((.choice bodyAction, block) :: outer) ((a :: rest).flatMap caseTokens)
        ((a :: rest).map Stmt.label) := by
      rw [List.map_eq_flatMap]
      exact Reads.flatMap fun action _ => caseTokens_reads bodyAction block action
    have inside := readFrom?_braces opens (labels.append (returnTokens_reads true))
    rw [actionTokens, List.append_assoc switchTokens, readFrom?_append, inside]
    rfl

theorem gateTokens_reads (t : Trigger) : Reads outer (gateTokens t) [gateStmt t] := by
  intro block
  have opens : Reader.readFrom? { block, outer } (ifTokens t.event) =
    some { outer := (.branch (.same eventHeader t.event), block) :: outer } := rfl
  have inside := readFrom?_braces opens (actionTokens_reads t.actions)
  rw [gateTokens, readFrom?_append, inside]
  rfl

theorem filterSource_program (triggers : List Trigger) :
    read? (filterSource triggers) = some [.define filterName "req" (filterBody triggers)] := by
  have opens : Reader.readFrom? {} constTokens = some { outer := [(.function filterName "req", [])] } := rfl
  have gates : Reads [(.function filterName "req", [])] (triggers.flatMap gateTokens)
      (triggers.map gateStmt) := by
    rw [List.map_eq_flatMap]
    exact Reads.flatMap fun t _ => gateTokens_reads t
  have inside := readFrom?_braces opens (gates.append (returnTokens_reads false))
  have whole : Reader.readFrom? {} (filterTokens triggers) =
      some { block := [.define filterName "req" (filterBody triggers)] } := by
    rw [filterTokens, List.append_assoc constTokens, readFrom?_append, inside]
    rfl
  simp [read?, filterSource_tokens, whole]

/-! ## What the program does -/

/-- a delivery: its headers, and the members of its body -/
def delivery (headers body : List (String × Value)) : Value :=
  .object [("headers", .object headers), ("body", .object body)]

/-- the text of a value that is one -/
def textOf : Option Value → Option String
  | some (.text s) => some s
  | _ => none

section

variable {headers body : List (String × Value)}

theorem isText_eq (v : Option Value) (literal : String) :
    (v.getD .undefined).isText literal = (textOf v == some literal) := by
  rcases v with _ | v
  · rfl
  · cases v <;> rfl

theorem eventHeader_eval (literal : String) :
    (Expr.same eventHeader literal).eval [("req", delivery headers body)] =
      some (.bool (textOf (headers.lookup "x-github-event") == some literal)) := by
  rw [← isText_eq]
  rfl

theorem bodyAction_eval :
    bodyAction.eval [("req", delivery headers body)] = some ((body.lookup "action").getD .undefined) := rfl

theorem runAll_labels (scope : Scope) (actions : List String) :
    runAll scope (actions.map Stmt.label ++ [.giveBack true]) = .returned true := by
  induction actions with
  | nil => rfl
  | cons a rest ih => exact ih

/-- A `switch` over actions returns if its subject is one of them, whichever it is. -/
theorem runFrom_labels (scope : Scope) (v : Value) (actions : List String) :
    runFrom scope v (actions.map Stmt.label ++ [.giveBack true]) =
      if actions.any v.isText then .returned true else .next := by
  induction actions with
  | nil => rfl
  | cons a rest ih =>
    rw [List.map_cons, List.cons_append, runFrom, List.any_cons]
    cases v.isText a with
    | true => exact runAll_labels scope rest
    | false => simpa using ih

/-- whether some actions take an action that may be missing -/
def takes (actions : List String) (action : Option String) : Bool :=
  actions.isEmpty || action.any actions.contains

theorem accepts_eq (t : Trigger) (event : String) (action : Option String) :
    t.accepts event action = (event == t.event && takes t.actions action) := by
  simp only [Trigger.accepts, takes, Bool.beq_comm (a := t.event)]
  cases action <;> rfl

theorem any_eq_some (actions : List String) (action : Option String) :
    (actions.any fun a => action == some a) = action.any actions.contains := by
  cases action with
  | none => simp
  | some s => simp [List.any_beq]

theorem actionStmts_run (actions : List String) :
    runAll [("req", delivery headers body)] (actionStmts actions) =
      if takes actions (textOf (body.lookup "action")) then .returned true else .next := by
  cases actions with
  | nil => rfl
  | cons a rest =>
    rw [actionStmts, runAll, runAll, Stmt.run, bodyAction_eval]
    simp only [runFrom_labels, isText_eq, any_eq_some, takes, List.isEmpty_cons, Bool.false_or]
    split <;> rfl

/-- **One gate.** It returns `true` if its trigger takes the delivery, and otherwise goes on. -/
theorem gateStmt_run (t : Trigger) :
    (gateStmt t).run [("req", delivery headers body)] =
      if (textOf (headers.lookup "x-github-event")).any fun e => t.accepts e (textOf (body.lookup "action"))
      then .returned true else .next := by
  rw [gateStmt, Stmt.run, eventHeader_eval]
  simp only [Value.isTruthy, actionStmts_run, accepts_eq]
  cases textOf (headers.lookup "x-github-event") with
  | none => rfl
  | some e =>
    by_cases matched : e = t.event
    · simp [matched]
    · simp [matched]

theorem filterBody_run (triggers : List Trigger) :
    runAll [("req", delivery headers body)] (filterBody triggers) =
      .returned ((textOf (headers.lookup "x-github-event")).any fun e =>
        triggers.any (·.accepts e (textOf (body.lookup "action")))) := by
  induction triggers with
  | nil => cases textOf (headers.lookup "x-github-event") <;> rfl
  | cons t rest ih =>
    rw [filterBody, List.map_cons, List.cons_append, runAll, gateStmt_run, ← filterBody, ih]
    cases textOf (headers.lookup "x-github-event") with
    | none => rfl
    | some e =>
      simp only [Option.any_some, List.any_cons]
      by_cases accepted : t.accepts e (textOf (body.lookup "action"))
      · simp [accepted, Outcome.andThen]
      · simp [accepted, Outcome.andThen]

/-- A `switch` that meets no label leaves the delivery to the next trigger of its event. -/
example : runAll [("req", delivery [("x-github-event", .text "issues")] [("action", .text "closed")])]
    (filterBody [⟨"issues", ["opened"]⟩, ⟨"issues", ["labeled", "closed"]⟩]) = .returned true := by
  decide

end

/-- **The source of a gate says what its flow accepts.** It is a program, and its function returns `true` on a
delivery if the event in the header and the action in the body, if there is one, are accepted by the flow, and
`false` otherwise. Its lines give back the triggers, each with its actions in their order, and none without a
`switch`. -/
theorem filterSource_read (f : Flow) :
    (∃ program, read? (filterSource f.triggers) = some program ∧
      ∀ headers body : List (String × Value), call? filterName (delivery headers body) program =
        some (.returned ((textOf (headers.lookup "x-github-event")).any fun event =>
          f.accepts event (textOf (body.lookup "action"))))) ∧
    readGates? (filterSource f.triggers) = some (f.triggers.map Gate.ofTrigger) := by
  refine ⟨⟨_, filterSource_program f.triggers, fun headers body => ?_⟩, readGates?_filterSource f.triggers⟩
  rw [call?, if_pos rfl, filterBody_run]
  rfl

end HookFlow.Handler
