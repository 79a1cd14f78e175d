import HookFlow.Proofs.Handler.Tokens
import HookFlow.Proofs.Script.Outline
/-!
The source of a handler, read back statement by statement.

As long as the names of a flow stay on their lines, the outline of its source is fixed by the flow, the secret, the
token and the options: constants for the secret and the ignored actors, the gate, and one function. All checks stand
in its one `try` block before the first step, each step sets a variable for each of its inputs and then loads its
module anew, and an answer stands at the end. Nothing is assumed of any other text: a literal decodes to what was
written into it, and a variable is the same one behind a dot and in brackets.

Results:
- `assignmentTokens_deed`: an assignment is the same behind a dot and in brackets.
- `stepTokens_builds`: the statements of one step.
- `source_outline`: the whole handler.
-/

namespace HookFlow

/-- whether all names that are written into comments stay on their lines -/
def Flow.IsOneLine (f : Flow) : Prop := Script.IsOneLine f.name ∧ ∀ s ∈ f.steps, Script.IsOneLine s.name

instance (f : Flow) : Decidable f.IsOneLine :=
  have : Decidable (∀ s ∈ f.steps, Script.IsOneLine s.name) := List.decidableBAll _ _
  inferInstanceAs (Decidable (_ ∧ _))

namespace Handler

open Text Script

/-! ## The outline of a handler -/

/-- a statement of which only the tokens count -/
def other (text : String) : Piece := .statement (.other (code text))

/-- a check that answers the request and ends -/
def refusal (condition : List Token) (status body : String) : Piece :=
  .block condition [.statement (.respond status body), other "return"]

def actionPieces : List String → List Piece
  | [] => [other "return true"]
  | a :: rest =>
    [.block (code "switch (req.body.action)")
      [.statement (.other ((a :: rest).flatMap caseTokens ++ code "return true"))]]

/-- the condition under which a delivery is an event -/
def isEvent (event : String) : List Token :=
  code "if (req.headers['x-github-event'] ===" ++ [.text event, .mark ")"]

/-- the gate of one trigger -/
def gatePiece (t : Trigger) : Piece := .block (isEvent t.event) (actionPieces t.actions)

/-- the gate function -/
def filterPiece (triggers : List Trigger) : Piece :=
  .function (code "const filterEvent = (req) =>") (triggers.map gatePiece ++ [other "return false"])

/-- the checks in their order, and the payload file -/
def checkPieces (eventPath : String) : List Piece := [
  refusal unsigned "401" "Signature failed",
  refusal unwanted "200" "ignored event",
  .statement (.other actorTokens),
  refusal ignored "200" "ignored actor",
  .statement (.constant "eventFile" eventPath),
  other "fs.writeFileSync(eventFile, JSON.stringify(req.body))",
  .statement (.setNamed "GITHUB_EVENT_PATH" "eventFile"),
  other "context.log('wrote event JSON, invoking steps')"]

/-- what a step gets for an input: the token in place of the placeholder, blanks aside, and else the input itself -/
def substituted (token placeholder value : String) : String :=
  if collapse value = collapse placeholder then token else value

/-- the statements of one step -/
def stepPieces (token placeholder : String) (s : Step) : List Piece :=
  s.inputs.map (fun e => .statement (.set (inputVariable e.1) (substituted token placeholder e.2))) ++ [
    .statement (.forget ("../" ++ s.filename)),
    .statement (.load ("../" ++ s.filename)),
    .statement (.other (logTokens ("step " ++ s.name ++ " complete")))]

/-- the handler of a flow, statement by statement -/
def outline (secret token : String) (options : Options) (f : Flow) : List Piece := [
  other "const fs = require('fs')",
  other "const verify = require('@octokit/webhooks/verify')",
  .statement (.constant "secret" secret),
  .statement (.constants "ignoredActors" options.ignoredActors),
  filterPiece f.triggers,
  .function (code "module.exports = async function (context, req)") [
    .block (code "try") (checkPieces options.eventPath ++
      f.steps.flatMap (stepPieces token options.placeholder) ++
      [.statement (.respond "200" "workflow complete")]),
    .block (code "catch (e)") [
      other "context.log(e)",
      other "context.log(e.stack)",
      .statement (.other failureTokens)]]]

/-! ## From tokens to the outline -/

variable {outer : List (List Token × List Piece)}

/-- whether a statement is known by its tokens only -/
def IsOther (ts : List Token) : Prop := (∀ t ∈ ts, t.isPlain) ∧ Deed.ofTokens ts = .other ts

instance (ts : List Token) : Decidable (IsOther ts) := inferInstanceAs (Decidable (_ ∧ _))

theorem builds_deed {ts : List Token} {d : Deed} (plain : ∀ t ∈ ts, t.isPlain) (deed : Deed.ofTokens ts = d) :
    Builds outer (ts ++ [stop]) [.statement d] := by
  rw [← deed]
  exact builds_statement plain

theorem builds_other {ts : List Token} (known : IsOther ts) : Builds outer (ts ++ [stop]) [.statement (.other ts)] :=
  builds_deed known.1 known.2

/-- whether some tokens stand before the block of a statement that ends with it -/
def IsOpening (ts : List Token) : Prop :=
  (∀ t ∈ ts, t.isPlain) ∧ ts.getLast? ≠ some (.mark "=") ∧ isControl ts = true

instance (ts : List Token) : Decidable (IsOpening ts) := inferInstanceAs (Decidable (_ ∧ _ ∧ _))

theorem builds_control {head ts : List Token} {body : List Piece} (opens : IsOpening head)
    (inside : ∀ before, Builds ((head, before) :: outer) ts body) :
    Builds outer (head ++ [.mark "\x7b"] ++ ts ++ [.mark "\x7d"]) [.block head body] :=
  builds_block opens.1 opens.2.1 opens.2.2 inside

/-- Statements are read one after the other. -/
theorem builds_cons {ts : List Token} {tss : List (List Token)} {p : Piece} {ps : List Piece}
    (first : Builds outer (ts ++ [stop]) [p]) (others : Builds outer (statements tss) ps) :
    Builds outer (statements (ts :: tss)) (p :: ps) :=
  first.append others

theorem builds_end : Builds outer (statements []) [] := .nil

theorem builds_statements {α : Type} {items : List α} {tokens : α → List Token} {piece : α → Piece}
    (each : ∀ a ∈ items, Builds outer (tokens a ++ [stop]) [piece a]) :
    Builds outer (statements (items.map tokens)) (items.map piece) := by
  rw [statements, List.flatMap_map, List.map_eq_flatMap]
  exact Builds.flatMap each

theorem respond_builds (status body : String) :
    Builds outer (respondTokens status body ++ [stop]) [.statement (.respond status body)] := by
  have place : ∀ t ∈ [Token.word "context", .mark ".", .word "res"], t.isPlain := by decide
  have fields : ∀ t ∈ [Token.word "status", .mark ":", .word status, .mark ",", .word "body", .mark ":", .text body],
      t.isPlain := by simp [Token.isPlain]
  have whole : Builds outer _ _ := builds_object place fields
  exact whole

/-! The gate. -/

theorem caseTokens_plain {actions : List String} {t : Token} (held : t ∈ actions.flatMap caseTokens) : t.isPlain := by
  obtain ⟨a, -, there⟩ := List.mem_flatMap.1 held
  simp only [caseTokens, List.mem_cons, List.not_mem_nil, or_false] at there
  rcases there with rfl | rfl | rfl <;> simp [Token.isPlain]

theorem actionTokens_builds (actions : List String) : Builds outer (actionTokens actions) (actionPieces actions) := by
  cases actions with
  | nil => exact builds_other (by decide : IsOther (code "return true"))
  | cons a rest =>
    have inside (before : List Piece) :
        Builds ((code "switch (req.body.action)", before) :: outer)
          ((a :: rest).flatMap caseTokens ++ code "return true" ++ [stop])
          [.statement (.other ((a :: rest).flatMap caseTokens ++ code "return true"))] := by
      refine builds_deed (fun t held => ?_) rfl
      rcases List.mem_append.1 held with label | last
      · exact caseTokens_plain label
      · exact (by decide : ∀ t ∈ code "return true", t.isPlain) t last
    have whole := builds_control (by decide) inside
    have head : code "switch (req.body.action)" ++ [.mark "\x7b"] = switchTokens := by decide
    have last : code "return true" ++ [stop] = returnTokens true := by decide
    rw [head, List.append_assoc _ (code "return true"), last] at whole
    simpa only [actionTokens, actionPieces, List.append_assoc] using whole

theorem isEvent_eq (event : String) :
    isEvent event = [.word "if", .mark "(", .word "req", .mark ".", .word "headers", .mark "[",
      .text "x-github-event", .mark "]", .mark "===", .text event, .mark ")"] := by
  have left : code "if (req.headers['x-github-event'] ===" = [.word "if", .mark "(", .word "req", .mark ".",
      .word "headers", .mark "[", .text "x-github-event", .mark "]", .mark "==="] := by decide
  rw [isEvent, left]
  rfl

theorem gateTokens_builds (t : Trigger) : Builds outer (gateTokens t) [gatePiece t] := by
  have opens : IsOpening (isEvent t.event) := by simp [IsOpening, isEvent_eq, Token.isPlain, isControl]
  have head : isEvent t.event ++ [.mark "\x7b"] = ifTokens t.event := by rw [isEvent_eq]; rfl
  have whole : Builds outer (isEvent t.event ++ [.mark "\x7b"] ++ actionTokens t.actions ++ [.mark "\x7d"]) _ :=
    builds_control opens fun _ => actionTokens_builds t.actions
  rwa [head] at whole

theorem filterTokens_builds (triggers : List Trigger) :
    Builds outer (filterTokens triggers) [filterPiece triggers] := by
  have head : code "const filterEvent = (req) =>" ++ [.mark "\x7b"] = constTokens := by decide
  have last : code "return false" ++ [stop] = returnTokens false := by decide
  have inside (before : List Piece) :
      Builds ((code "const filterEvent = (req) =>", before) :: outer)
        (triggers.flatMap gateTokens ++ (code "return false" ++ [stop]))
        (triggers.map gatePiece ++ [other "return false"]) := by
    rw [List.map_eq_flatMap]
    exact (Builds.flatMap fun t _ => gateTokens_builds t).append (builds_other (by decide))
  have whole := builds_function (by decide) (by decide) (by decide) inside
  rw [head, last] at whole
  simpa only [filterTokens, filterPiece, List.append_assoc] using whole

/-! The constants. -/

theorem texts?_items (actors : List String) :
    texts? ([.mark ","].intercalate (actors.map fun a => [.text a]) ++ [.mark "]"]) = some actors := by
  induction actors with
  | nil => rfl
  | cons a rest ih =>
    cases rest with
    | nil => rfl
    | cons b rest =>
      simp only [List.map_cons, List.intercalate_cons_cons, List.cons_append, List.nil_append] at ih ⊢
      rw [texts?, ih]
      rfl

theorem items_plain {actors : List String} {t : Token}
    (held : t ∈ [Token.mark ","].intercalate (actors.map fun a => [.text a])) : t.isPlain := by
  induction actors with
  | nil => simp at held
  | cons a rest ih =>
    cases rest with
    | nil =>
      obtain rfl : t = .text a := by simpa using held
      simp [Token.isPlain]
    | cons b rest =>
      simp only [List.map_cons, List.intercalate_cons_cons, List.cons_append, List.nil_append, List.mem_cons] at held ih
      rcases held with rfl | rfl | later
      · simp [Token.isPlain]
      · simp [Token.isPlain]
      · exact ih later

theorem actorsTokens_deed (actors : List String) :
    Deed.ofTokens (actorsTokens actors) = .constants "ignoredActors" actors := by
  rw [actorsTokens, List.append_assoc]
  exact ofTokens_constants (texts?_items actors)

theorem actors_builds (actors : List String) :
    Builds outer (actorsTokens actors ++ [stop]) [.statement (.constants "ignoredActors" actors)] := by
  refine builds_deed (fun t held => ?_) (actorsTokens_deed actors)
  simp only [actorsTokens, List.mem_append] at held
  rcases held with (first | item) | last
  · exact (by decide : ∀ t ∈ [Token.word "const", .word "ignoredActors", .mark "=", .mark "["], t.isPlain) t first
  · exact items_plain item
  · exact (by decide : ∀ t ∈ [Token.mark "]"], t.isPlain) t last

theorem constant_builds (name value : String) :
    Builds outer ([.word "const", .word name, .mark "=", .text value] ++ [stop]) [.statement (.constant name value)] :=
  builds_deed (by simp [Token.isPlain]) rfl

theorem headTokens_builds (h : Handler) :
    Builds outer (headTokens (fun _ => []) h) [
      other "const fs = require('fs')",
      other "const verify = require('@octokit/webhooks/verify')",
      .statement (.constant "secret" h.secret),
      .statement (.constants "ignoredActors" h.ignoredActors)] := by
  have files : IsOther (code "const fs = require('fs')") := by decide
  have signatures : IsOther (code "const verify = require('@octokit/webhooks/verify')") := by
    rw [code_ofList]
    decide
  rw [headTokens, List.append_nil]
  exact (builds_cons (builds_other files) (builds_cons (builds_other signatures) builds_end)).append
    (builds_cons (constant_builds "secret" h.secret) (builds_cons (actors_builds h.ignoredActors) builds_end))

/-! The checks. -/

theorem refusal_builds {condition : List Token} (status body : String) (opens : IsOpening condition) :
    Builds outer (refusalTokens condition status body) [refusal condition status body] := by
  have ends : IsOther (code "return") := by decide
  exact builds_control opens fun _ =>
    builds_cons (respond_builds status body) (builds_cons (builds_other ends) builds_end)

theorem payloadTokens_builds (eventPath : String) :
    Builds outer (statements (payloadTokens eventPath)) [
      .statement (.constant "eventFile" eventPath),
      other "fs.writeFileSync(eventFile, JSON.stringify(req.body))",
      .statement (.setNamed "GITHUB_EVENT_PATH" "eventFile"),
      other "context.log('wrote event JSON, invoking steps')"] := by
  have writes : IsOther (code "fs.writeFileSync(eventFile, JSON.stringify(req.body))") := by
    rw [code_ofList]
    decide
  have exported : Builds outer (code "process.env.GITHUB_EVENT_PATH = eventFile" ++ [stop])
      [.statement (.setNamed "GITHUB_EVENT_PATH" "eventFile")] := by
    rw [code_ofList]
    exact builds_deed (by decide) (by decide)
  have notes : IsOther (code "context.log('wrote event JSON, invoking steps')") := by
    rw [code_ofList]
    decide
  exact builds_cons (constant_builds "eventFile" eventPath)
    (builds_cons (builds_other writes) (builds_cons exported (builds_cons (builds_other notes) builds_end)))

theorem checkTokens_builds (eventPath : String) : Builds outer (checkTokens eventPath) (checkPieces eventPath) := by
  have signature : IsOpening unsigned := by
    rw [unsigned, code_ofList]
    decide
  have gate : IsOpening unwanted := by decide
  have actor : IsOther actorTokens := by
    rw [actorTokens, code_ofList, code_ofList, code_ofList]
    decide
  have actors : IsOpening ignored := by
    rw [ignored, code_ofList]
    decide
  have first : Builds outer _ _ := refusal_builds "401" "Signature failed" signature
  have second : Builds outer _ _ := refusal_builds "200" "ignored event" gate
  have third : Builds outer _ _ := refusal_builds "200" "ignored actor" actors
  exact (((first.append second).append (builds_cons (builds_other actor) builds_end)).append third).append
    (payloadTokens_builds eventPath)

/-! The steps, and the end. -/

/-- **An assignment is the same behind a dot and in brackets.** -/
theorem assignmentTokens_deed (key value : String) : Deed.ofTokens (assignmentTokens key value) = .set key value := by
  unfold assignmentTokens
  split <;> rfl

theorem assignment_builds (key value : String) :
    Builds outer (assignmentTokens key value ++ [stop]) [.statement (.set key value)] := by
  have plain : ∀ t ∈ assignmentTokens key value, t.isPlain := by
    unfold assignmentTokens
    split <;> simp [Token.isPlain]
  exact builds_deed plain (assignmentTokens_deed key value)

theorem modulePath_eq (token placeholder : String) (s : Step) :
    (invocation token placeholder s).modulePath = "../" ++ s.filename := by
  have directory : moduleDirectory ++ "/" = "../" := by decide
  rw [invocation, directory]

theorem stepTokens_builds (token placeholder : String) (s : Step) :
    Builds outer (stepTokens (fun _ => []) (invocation token placeholder s)) (stepPieces token placeholder s) := by
  have assignments : Builds outer (statements (s.inputs.map fun e =>
        assignmentTokens (inputVariable e.1) (inputValue token placeholder e.2)))
      (s.inputs.map fun e => .statement (.set (inputVariable e.1) (substituted token placeholder e.2))) := by
    refine builds_statements fun e _ => ?_
    have value : substituted token placeholder e.2 = inputValue token placeholder e.2 := by
      simp [substituted, inputValue, Placeholder.isToken]
    rw [value]
    exact assignment_builds (inputVariable e.1) (inputValue token placeholder e.2)
  have forgets : Builds outer (forgetTokens ("../" ++ s.filename) ++ [stop])
      [.statement (.forget ("../" ++ s.filename))] :=
    builds_deed (by simp [forgetTokens, Token.isPlain]) rfl
  have loads : Builds outer (loadTokens ("../" ++ s.filename) ++ [stop])
      [.statement (.load ("../" ++ s.filename))] :=
    builds_deed (by simp [loadTokens, Token.isPlain]) rfl
  have notes : Builds outer (logTokens ("step " ++ s.name ++ " complete") ++ [stop])
      [.statement (.other (logTokens ("step " ++ s.name ++ " complete")))] :=
    builds_deed (by simp [logTokens, Token.isPlain]) rfl
  have runs := builds_cons forgets (builds_cons loads (builds_cons notes builds_end))
  have exports : (invocation token placeholder s).exports.map (fun e => assignmentTokens e.1 e.2) =
      s.inputs.map fun e => assignmentTokens (inputVariable e.1) (inputValue token placeholder e.2) :=
    List.map_map
  rw [stepTokens, List.nil_append, statements_append, exports, modulePath_eq]
  exact assignments.append runs

theorem failure_builds : Builds outer (failureTokens ++ [stop]) [.statement (.other failureTokens)] := by
  have place : ∀ t ∈ code "context.res", t.isPlain := by decide
  have fields : ∀ t ∈ code "status: 500, body: e.message,", t.isPlain := by decide
  have deed : Deed.ofTokens failureTokens = .other failureTokens := by decide
  have whole : Builds outer _ [.statement (.ofTokens failureTokens)] := builds_object place fields
  rw [deed] at whole
  simpa only [failureTokens, stop, List.append_assoc, List.cons_append, List.nil_append] using whole

theorem rescueTokens_builds : Builds outer rescueTokens [
    .block (code "catch (e)") [
      other "context.log(e)", other "context.log(e.stack)", .statement (.other failureTokens)]] := by
  have first : IsOther (code "context.log(e)") := by decide
  have second : IsOther (code "context.log(e.stack)") := by decide
  exact builds_control (by decide) fun _ =>
    builds_cons (builds_other first) (builds_cons (builds_other second) (builds_cons failure_builds builds_end))

theorem attemptTokens_builds (secret token : String) (options : Options) (f : Flow) :
    Builds outer (attemptTokens (fun _ => []) (ofFlow secret token options f)) [
      .block (code "try") (checkPieces options.eventPath ++ f.steps.flatMap (stepPieces token options.placeholder) ++
        [.statement (.respond "200" "workflow complete")])] := by
  have steps {open' : List (List Token × List Piece)} :
      Builds open' ((ofFlow secret token options f).invocations.flatMap (stepTokens fun _ => []))
        (f.steps.flatMap (stepPieces token options.placeholder)) := by
    rw [ofFlow, List.flatMap_map]
    exact Builds.flatMap fun s _ => stepTokens_builds token options.placeholder s
  exact builds_control (by decide) fun _ =>
    ((checkTokens_builds options.eventPath).append steps).append
      (builds_cons (respond_builds "200" "workflow complete") builds_end)

theorem tokens_builds (secret token : String) (options : Options) (f : Flow) :
    Builds outer (tokens (fun _ => []) (ofFlow secret token options f)) (outline secret token options f) := by
  have plain : ∀ t ∈ handlerHead, t.isPlain := by decide
  have free : handlerHead.getLast? ≠ some (.mark "=") := by decide
  have value : isControl handlerHead = false := by decide
  have function : Builds outer _ [.function handlerHead _] := builds_function plain free value fun _ =>
    (attemptTokens_builds secret token options f).append rescueTokens_builds
  exact ((headTokens_builds (ofFlow secret token options f)).append (filterTokens_builds f.triggers)).append function

/-- Names that stay on their lines leave nothing behind their comments. -/
theorem ofFlow_tokens (secret token : String) (options : Options) {f : Flow} (named : f.IsOneLine) :
    tokens? (ofFlow secret token options f).source =
      some (tokens (fun _ => []) (ofFlow secret token options f)) := by
  obtain ⟨origin, steps⟩ := named
  refine source_tokens (spells_comment (by decide) origin) fun i hi => ?_
  obtain ⟨s, hs, rfl⟩ := List.mem_map.1 hi
  exact spells_comment (by decide) (steps s hs)

/-- **The source of a handler, statement by statement.** If the names of a flow stay on their lines, its handler
consists of the constants, the gate and one function. The function checks the signature, the event and the actor and
leaves the payload in a file; for every step in its order it sets the variable of each input, forgets the module of
the step and loads it; and at the end it answers. All of that stands in one `try` block. -/
theorem source_outline (secret token : String) (options : Options) {f : Flow} (named : f.IsOneLine) :
    outline? (ofFlow secret token options f).source = some (outline secret token options f) :=
  Builds.outline? (ofFlow_tokens secret token options named) (tokens_builds secret token options f)

/-- a workflow of two steps, with the placeholder spaced in its own way and a variable that needs brackets -/
def release : Flow where
  name := "release.yml"
  triggers := [⟨"push", []⟩, ⟨"release", ["published", "edited"]⟩]
  steps := [
    { name := "draft-0", source := "draft()", inputs := [("repo token", "$\x7b\x7bsecrets.GITHUB_TOKEN\x7d\x7d")] },
    { name := "draft-1", source := "draft()", inputs := [("dry-run", "\"yes\"; // no"), ("", "\n")] }]

theorem source_outline_release :
    release.IsOneLine ∧ outline? (ofFlow "s3cr\\t" "t0ken" {} release).source =
      some (outline "s3cr\\t" "t0ken" {} release) :=
  ⟨by decide, source_outline "s3cr\\t" "t0ken" {} (by decide)⟩

end Handler

end HookFlow
