import HookFlow.Handler.Script
import HookFlow.Proofs.Handler.Filter
/-!
The tokens of a handler's source.

A line is made of fixed code and literals, and in an assignment there may be a plain property name. Only the names of
the workflow and of the steps are also written as they are, into comments. What such a name leaves behind its comment
depends on the characters that end a line, so the statements here take it as given.

Results:
- `spells_comment`: a name without a line end leaves nothing behind.
- `assignment_spells`: an assignment, with its variable behind a dot or in brackets.
- `source_tokens`: the tokens of a handler's source, part by part.
-/

namespace HookFlow.Handler

open Text Script

/-- **A comment is no token, as long as it stays on its line.** -/
theorem spells_comment {start name : String} (opens : Scans .start start.toList [] .comment)
    (single : IsOneLine name) : Spells [start ++ name] [] := by
  have whole := (opens.append (scans_comment single)).append (show Scans .comment ['\n'] [] .start from rfl)
  simpa [Spells, String.toList_append] using whole

/-! ## The parts of a handler -/

/-- the end of a statement -/
def stop : Token := .mark ";"

/-- the list of the actors that are ignored -/
def actorsTokens (actors : List String) : List Token :=
  [.word "const", .word "ignoredActors", .mark "=", .mark "["] ++
  [.mark ","].intercalate (actors.map fun a => [.text a]) ++ [.mark "]"]

/-- the assignment of an environment variable -/
def assignmentTokens (key value : String) : List Token :=
  [.word "process", .mark ".", .word "env"] ++
  (if isPlainProperty key then [.mark ".", .word key] else [.mark "[", .text key, .mark "]"]) ++
  [.mark "=", .text value]

def forgetTokens (path : String) : List Token :=
  [.word "delete", .word "require", .mark ".", .word "cache", .mark "[", .word "require", .mark ".",
    .word "resolve", .mark "(", .text path, .mark ")", .mark "]"]

def loadTokens (path : String) : List Token :=
  [.word "await", .word "require", .mark "(", .text path, .mark ")"]

def logTokens (message : String) : List Token :=
  [.word "context", .mark ".", .word "log", .mark "(", .text message, .mark ")"]

def respondTokens (status body : String) : List Token :=
  [.word "context", .mark ".", .word "res", .mark "=", .mark "\x7b", .word "status", .mark ":", .word status,
    .mark ",", .word "body", .mark ":", .text body, .mark "\x7d"]

/-- the answer to a step that throws -/
def failureTokens : List Token :=
  code "context.res" ++ [.mark "=", .mark "\x7b"] ++ code "status: 500, body: e.message," ++ [.mark "\x7d"]

/-- statements one after the other -/
def statements (tss : List (List Token)) : List Token := tss.flatMap fun ts => ts ++ [stop]

/-- a check that answers the request and ends -/
def refusalTokens (condition : List Token) (status body : String) : List Token :=
  condition ++ [.mark "\x7b"] ++ statements [respondTokens status body, code "return"] ++ [.mark "\x7d"]

/-- the condition under which a delivery is not signed as it must be -/
def unsigned : List Token := code "if (!verify(secret, req.body, req.headers['x-hub-signature']))"

/-- the condition under which a delivery does not pass the gate -/
def unwanted : List Token := code "if (!filterEvent(req))"

/-- the condition under which a delivery comes from an actor that is ignored -/
def ignored : List Token := code "if (ignoredActors.includes(actor))"

/-- the name of the actor that caused a delivery -/
def actorTokens : List Token :=
  code "const actor = req.body" ++ code "&& req.body.sender" ++ code "? req.body.sender.login : undefined"

/-- the statements that leave the payload in a file -/
def payloadTokens (eventPath : String) : List (List Token) := [
  [.word "const", .word "eventFile", .mark "=", .text eventPath],
  code "fs.writeFileSync(eventFile, JSON.stringify(req.body))",
  code "process.env.GITHUB_EVENT_PATH = eventFile",
  code "context.log('wrote event JSON, invoking steps')"]

section

variable (aside : String → List Token)

/-- the tokens in front of the gate; `aside` says what a name leaves behind its comment -/
def headTokens (h : Handler) : List Token :=
  statements [code "const fs = require('fs')", code "const verify = require('@octokit/webhooks/verify')"] ++
  aside h.origin ++
  statements [[.word "const", .word "secret", .mark "=", .text h.secret], actorsTokens h.ignoredActors]

/-- the tokens of the checks, and of the payload file -/
def checkTokens (eventPath : String) : List Token :=
  refusalTokens unsigned "401" "Signature failed" ++ refusalTokens unwanted "200" "ignored event" ++
  statements [actorTokens] ++ refusalTokens ignored "200" "ignored actor" ++ statements (payloadTokens eventPath)

/-- the tokens that run one step -/
def stepTokens (i : Invocation) : List Token :=
  aside i.step ++
  statements (i.exports.map (fun e => assignmentTokens e.1 e.2) ++
    [forgetTokens i.modulePath, loadTokens i.modulePath, logTokens ("step " ++ i.step ++ " complete")])

/-- the tokens of the clause for a step that throws -/
def rescueTokens : List Token :=
  code "catch (e)" ++ [.mark "\x7b"] ++
  statements [code "context.log(e)", code "context.log(e.stack)", failureTokens] ++ [.mark "\x7d"]

/-- the tokens of the block that all checks and all steps stand in -/
def attemptTokens (h : Handler) : List Token :=
  code "try" ++ [.mark "\x7b"] ++
  (checkTokens h.eventPath ++ h.invocations.flatMap (stepTokens aside) ++
    statements [respondTokens "200" "workflow complete"]) ++
  [.mark "\x7d"]

/-- what stands before the block of the handler function -/
def handlerHead : List Token := code "module.exports = async function (context, req)"

/-- the tokens of a handler's source; `aside` says what a name leaves behind its comment -/
def tokens (h : Handler) : List Token :=
  headTokens aside h ++ filterTokens h.triggers ++
  (handlerHead ++ [.mark "\x7b"] ++ (attemptTokens aside h ++ rescueTokens) ++ [.mark "\x7d", stop])

end

/-! ## From lines to tokens -/

theorem statements_append (tss uss : List (List Token)) :
    statements (tss ++ uss) = statements tss ++ statements uss := List.flatMap_append

/-- A line of fixed code has the tokens of that code and of what ends it. -/
theorem code_spells {line text : List Char} {ends : List Token}
    (read : Scans .start (line ++ ['\n']) ((lex? text).getD [] ++ ends) .start) :
    Spells [String.ofList line] (code (String.ofList text) ++ ends) := by
  rw [code_ofList]
  exact spells_ofList read

theorem spells_cons {line : String} {lines : List String} {ts : List Token} {tss : List (List Token)}
    (first : Spells [line] (ts ++ [stop])) (others : Spells lines (statements tss)) :
    Spells (line :: lines) (statements (ts :: tss)) :=
  first.append others

/-- The list of actors is one line of literals. -/
theorem actors_spells (actors : List String) :
    Spells ["const ignoredActors = [" ++ ", ".intercalate (actors.map quote) ++ "];"]
      (actorsTokens actors ++ [stop]) := by
  have left : Scans .start "const ignoredActors = [".toList
      [.word "const", .word "ignoredActors", .mark "="] (.mark ['[']) := by decide
  have between : Scans .start ", ".toList [.mark ","] .start := by decide
  have items := scans_intercalate between fun a (_ : a ∈ actors) => scans_quote a
  have right : Scans .start "];\n".toList [.mark "]", stop] .start := by decide
  have inside : Scans (.mark ['[']) (", ".toList.intercalate (actors.map fun a => (quote a).toList) ++ "];\n".toList)
      (.mark "[" :: ([.mark ","].intercalate (actors.map fun a => [.text a]) ++ [.mark "]", stop])) .start := by
    cases actors with
    | nil => exact scans_behindMark (by decide) right
    | cons a rest =>
      have first : (quote a).toList = '"' :: (a.toList.flatMap escape ++ ['"']) := by simp [quote, quoteChars]
      have whole := items.append right
      cases rest with
      | nil =>
        simp only [List.map_cons, List.map_nil, List.intercalate_singleton, first] at whole ⊢
        exact scans_behindMark (by decide) whole
      | cons b rest =>
        simp only [List.map_cons, List.intercalate_cons_cons, first] at whole ⊢
        exact scans_behindMark (by decide) whole
  have whole := left.append inside
  simpa [Spells, String.toList_append, String.toList_intercalate, actorsTokens, Function.comp_def] using whole

theorem isWordChar_of_isPropertyChar {c : Char} (property : isPropertyChar c) : isWordChar c := by
  have letters : c.isAlphanum = (c.isUpper || c.isLower || c.isDigit) := rfl
  simp only [isPropertyChar, isWordChar, letters, Bool.or_eq_true] at property ⊢
  rcases property with (upper | digit) | score
  · exact .inl (.inl (.inl (.inl upper)))
  · exact .inl (.inl (.inr digit))
  · exact .inl (.inr score)

theorem isPropertyChar_of_isPropertyStart {c : Char} (starts : isPropertyStart c) : isPropertyChar c := by
  simp only [isPropertyStart, isPropertyChar, Bool.or_eq_true] at starts ⊢
  rcases starts with upper | score
  · exact .inl (.inl upper)
  · exact .inr score

/-- A plain property name is a name. -/
theorem isPlainProperty_word {key : String} (plain : isPlainProperty key) :
    key ≠ "" ∧ ∀ c ∈ key.toList, isWordChar c := by
  cases letters : key.toList with
  | nil => simp [isPlainProperty, letters] at plain
  | cons c cs =>
    simp only [isPlainProperty, letters, Bool.and_eq_true, List.all_eq_true] at plain
    obtain ⟨starts, goesOn⟩ := plain
    refine ⟨fun empty => by simp [empty] at letters, fun d hd => ?_⟩
    rcases List.mem_cons.1 hd with rfl | later
    · exact isWordChar_of_isPropertyChar (isPropertyChar_of_isPropertyStart starts)
    · exact isWordChar_of_isPropertyChar (goesOn d later)

theorem dot_ends (c : Char) : String.ofList ['.', c] ∉ marks := by
  have alone : ∀ s ∈ marks, s.toList.head? = some '.' → s.toList.length = 1 := by decide
  intro known
  have short := alone _ known
  simp at short

theorem assignment_spells (key value : String) :
    Spells ["    " ++ environmentPlace key ++ " = " ++ quote value ++ ";"] (assignmentTokens key value ++ [stop]) := by
  have right : Scans .start (";".toList ++ ['\n']) [stop] .start := by decide
  by_cases plain : isPlainProperty key
  · obtain ⟨named, word⟩ := isPlainProperty_word plain
    have left : Scans .start "    process.env.".toList [.word "process", .mark ".", .word "env"] (.mark ['.']) := by
      decide
    have name : Scans (.mark ['.']) key.toList [.mark "."] (.word key.toList) := by
      have alone := scans_word named word
      cases letters : key.toList with
      | nil => exact absurd (String.toList_eq_nil_iff.1 letters) named
      | cons c cs =>
        rw [letters] at alone
        exact scans_behindMark (dot_ends c) alone
    have equals : Scans (.word key.toList) [' ', '=', ' '] [.word key, .mark "="] .start :=
      scans_behindWord (by decide) (by decide)
    have whole := (((left.append name).append equals).append (scans_quote value)).append right
    simpa [Spells, environmentPlace, assignmentTokens, plain, String.toList_append] using whole
  · have left : Scans .start ("    process.env[".toList ++ ['"'])
        [.word "process", .mark ".", .word "env", .mark "["] (.literal [] false) := by decide
    have equals : Scans .start "] = ".toList [.mark "]", .mark "="] .start := by decide
    have whole := (((left.append (scans_literal key)).append equals).append (scans_quote value)).append right
    simpa [Spells, environmentPlace, assignmentTokens, plain, quote, quoteChars, String.toList_append] using whole

theorem spells_blank : Spells [""] [] := by decide

theorem spells_end : Spells [] (statements []) := .nil

theorem secret_spells (secret : String) : Spells ["const secret = " ++ quote secret ++ ";"]
    ([.word "const", .word "secret", .mark "=", .text secret] ++ [stop]) := by
  have left : Scans .start ("const secret = ".toList ++ ['"']) [.word "const", .word "secret", .mark "="]
      (.literal [] false) := by decide
  have right : Scans .start (";".toList ++ ['\n']) [stop] .start := by decide
  exact spells_quote secret left right

theorem headLines_spells {aside : String → List Token} {h : Handler}
    (origin : Spells ["// Generated from " ++ h.origin] (aside h.origin)) :
    Spells h.headLines (headTokens aside h) := by
  have files : Spells ["const fs = require('fs');"] (code "const fs = require('fs')" ++ [stop]) :=
    code_spells (by decide)
  have signatures : Spells ["const verify = require('@octokit/webhooks/verify');"]
      (code "const verify = require('@octokit/webhooks/verify')" ++ [stop]) :=
    code_spells (by decide)
  have modules := spells_cons files (spells_cons signatures spells_end)
  have constants := spells_cons (secret_spells h.secret) (spells_cons (actors_spells h.ignoredActors) spells_end)
  have whole := ((modules.append spells_blank).append origin).append (constants.append spells_blank)
  simpa [headLines, headTokens] using whole

/-! The answers. -/

theorem responseLine_spells {indent : String} (blank : Scans .start indent.toList [] .start) (status : Nat)
    (body : String) : Spells [responseLine indent status body] (respondTokens (toString status) body ++ [stop]) := by
  have start : Scans .start "context.res = \x7b status: ".toList
      [.word "context", .mark ".", .word "res", .mark "=", .mark "\x7b", .word "status", .mark ":"] .start := by
    rw [String.toList_ofList]
    decide
  have digits : ∀ c ∈ (toString status).toList, isWordChar c := fun c hc => by
    have digit : c.isDigit := Nat.isDigit_of_mem_toDigits (by decide) (by decide) (Nat.toList_repr ▸ hc)
    simp [isWordChar, Char.isAlphanum, digit]
  have some : toString status ≠ "" := fun empty =>
    Nat.toDigits_ne_nil (Nat.toList_repr.symm.trans (String.toList_eq_nil_iff.2 empty))
  have number := scans_word some digits
  have field : Scans (.word (toString status).toList) (", body: ".toList ++ ['"'])
      [.word (toString status), .mark ",", .word "body", .mark ":"] (.literal [] false) := by
    rw [String.toList_ofList]
    exact scans_behindWord (by decide) (by decide)
  have whole := ((blank.append start).append number).append field
  have left : Scans .start ((indent ++ "context.res = \x7b status: " ++ toString status ++ ", body: ").toList ++ ['"'])
      [.word "context", .mark ".", .word "res", .mark "=", .mark "\x7b", .word "status", .mark ":",
        .word (toString status), .mark ",", .word "body", .mark ":"] (.literal [] false) := by
    simpa only [String.toList_append, List.append_assoc, List.nil_append, List.cons_append] using whole
  have right : Scans .start (" \x7d;".toList ++ ['\n']) [.mark "\x7d", stop] .start := by decide
  exact spells_quote body left right

/-! The checks, and the payload file. -/

theorem refusalLines_spells {head : String} {condition : List Token}
    (opens : Spells [head] (condition ++ [.mark "\x7b"])) (status : Nat) (message : String) :
    Spells ([head] ++ refusalLines status message) (refusalTokens condition (toString status) message) := by
  have answer := responseLine_spells (by decide : Scans .start "      ".toList [] .start) status message
  have ends : Spells ["      return;"] (code "return" ++ [stop]) := by decide
  have closes : Spells ["    \x7d", ""] [.mark "\x7d"] := by decide
  have inside := spells_cons answer (spells_cons ends spells_end)
  exact (opens.append inside).append closes

theorem unsigned_spells :
    Spells (["    if (!verify(secret, req.body, req.headers['x-hub-signature'])) \x7b"] ++
      refusalLines 401 "Signature failed") (refusalTokens unsigned "401" "Signature failed") := by
  have opens : Spells ["    if (!verify(secret, req.body, req.headers['x-hub-signature'])) \x7b"]
      (unsigned ++ [.mark "\x7b"]) :=
    code_spells (by decide)
  exact refusalLines_spells opens 401 "Signature failed"

theorem unwanted_spells :
    Spells (["    if (!" ++ filterName ++ "(req)) \x7b"] ++ refusalLines 200 "ignored event")
      (refusalTokens unwanted "200" "ignored event") := by
  have opens : Spells ["    if (!" ++ filterName ++ "(req)) \x7b"] (unwanted ++ [.mark "\x7b"]) := by decide
  exact refusalLines_spells opens 200 "ignored event"

theorem ignored_spells :
    Spells (["    if (ignoredActors.includes(actor)) \x7b"] ++ refusalLines 200 "ignored actor")
      (refusalTokens ignored "200" "ignored actor") := by
  have opens : Spells ["    if (ignoredActors.includes(actor)) \x7b"] (ignored ++ [.mark "\x7b"]) :=
    code_spells (by decide)
  exact refusalLines_spells opens 200 "ignored actor"

theorem eventFile_spells (path : String) : Spells ["    const eventFile = " ++ quote path ++ ";"]
    ([.word "const", .word "eventFile", .mark "=", .text path] ++ [stop]) := by
  have left : Scans .start ("    const eventFile = ".toList ++ ['"'])
      [.word "const", .word "eventFile", .mark "="] (.literal [] false) := by decide
  have right : Scans .start (";".toList ++ ['\n']) [stop] .start := by decide
  exact spells_quote path left right

theorem payload_spells (path : String) :
    Spells ["    const eventFile = " ++ quote path ++ ";",
      "    fs.writeFileSync(eventFile, JSON.stringify(req.body));",
      "    process.env.GITHUB_EVENT_PATH = eventFile;",
      "    context.log('wrote event JSON, invoking steps');"] (statements (payloadTokens path)) := by
  have writes : Spells ["    fs.writeFileSync(eventFile, JSON.stringify(req.body));"]
      (code "fs.writeFileSync(eventFile, JSON.stringify(req.body))" ++ [stop]) :=
    code_spells (by decide)
  have exported : Spells ["    process.env.GITHUB_EVENT_PATH = eventFile;"]
      (code "process.env.GITHUB_EVENT_PATH = eventFile" ++ [stop]) :=
    code_spells (by decide)
  have notes : Spells ["    context.log('wrote event JSON, invoking steps');"]
      (code "context.log('wrote event JSON, invoking steps')" ++ [stop]) :=
    code_spells (by decide)
  exact spells_cons (eventFile_spells path) (spells_cons writes (spells_cons exported (spells_cons notes spells_end)))

theorem checkLines_spells (h : Handler) : Spells h.checkLines (checkTokens h.eventPath) := by
  have actor :
      Spells ["    const actor = req.body && req.body.sender ? req.body.sender.login : undefined;"]
        (statements [actorTokens]) := by
    rw [actorTokens, code_ofList, code_ofList, code_ofList]
    exact spells_ofList (by decide)
  have whole := (((unsigned_spells.append unwanted_spells).append actor).append ignored_spells).append
    (payload_spells h.eventPath)
  simpa only [checkLines, checkTokens, List.append_assoc, List.cons_append, List.nil_append] using whole

/-! The steps, and the end. -/

theorem assignments_spells (exports : List (String × String)) :
    Spells (exports.map fun e => "    " ++ environmentPlace e.1 ++ " = " ++ quote e.2 ++ ";")
      (statements (exports.map fun e => assignmentTokens e.1 e.2)) := by
  induction exports with
  | nil => exact spells_end
  | cons e rest ih => exact spells_cons (assignment_spells e.1 e.2) ih

theorem forgetLine_spells (path : String) :
    Spells ["    delete require.cache[require.resolve(" ++ quote path ++ ")];"] (forgetTokens path ++ [stop]) := by
  have left : Scans .start ("    delete require.cache[require.resolve(".toList ++ ['"'])
      [.word "delete", .word "require", .mark ".", .word "cache", .mark "[", .word "require", .mark ".",
        .word "resolve", .mark "("] (.literal [] false) := by
    rw [String.toList_ofList]
    decide
  have right : Scans .start (")];".toList ++ ['\n']) [.mark ")", .mark "]", stop] .start := by decide
  exact spells_quote path left right

theorem loadLine_spells (path : String) :
    Spells ["    await require(" ++ quote path ++ ");"] (loadTokens path ++ [stop]) := by
  have left : Scans .start ("    await require(".toList ++ ['"'])
      [.word "await", .word "require", .mark "("] (.literal [] false) := by decide
  have right : Scans .start (");".toList ++ ['\n']) [.mark ")", stop] .start := by decide
  exact spells_quote path left right

theorem logLine_spells (message : String) :
    Spells ["    context.log(" ++ quote message ++ ");"] (logTokens message ++ [stop]) := by
  have left : Scans .start ("    context.log(".toList ++ ['"'])
      [.word "context", .mark ".", .word "log", .mark "("] (.literal [] false) := by decide
  have right : Scans .start (");".toList ++ ['\n']) [.mark ")", stop] .start := by decide
  exact spells_quote message left right

theorem invocationLines_spells {aside : String → List Token} {i : Invocation}
    (named : Spells ["    // " ++ i.step] (aside i.step)) :
    Spells (invocationLines i) (stepTokens aside i) := by
  have runs := spells_cons (forgetLine_spells i.modulePath) (spells_cons (loadLine_spells i.modulePath)
    (spells_cons (logLine_spells ("step " ++ i.step ++ " complete")) spells_end))
  have whole := ((spells_blank.append named).append (assignments_spells i.exports)).append runs
  simpa only [invocationLines, stepTokens, statements_append, List.append_assoc, List.cons_append,
    List.nil_append] using whole

theorem tailLines_spells :
    Spells tailLines (statements [respondTokens "200" "workflow complete"] ++ [.mark "\x7d"] ++ rescueTokens ++
      [.mark "\x7d", stop]) := by
  have answer : Spells ["", responseLine "    " 200 "workflow complete"]
      (statements [respondTokens "200" "workflow complete"]) :=
    spells_blank.append (responseLine_spells (by decide) 200 "workflow complete")
  have turns : Spells ["  \x7d catch (e) \x7b"] ([.mark "\x7d"] ++ (code "catch (e)" ++ [.mark "\x7b"])) := by
    rw [code_ofList]
    exact spells_ofList (by decide)
  have logs : Spells ["    context.log(e);"] (code "context.log(e)" ++ [stop]) := code_spells (by decide)
  have traces : Spells ["    context.log(e.stack);"] (code "context.log(e.stack)" ++ [stop]) :=
    code_spells (by decide)
  have failure : Spells ["    context.res = \x7b", "      status: 500,", "      body: e.message,", "    \x7d;"]
      (failureTokens ++ [stop]) := by
    rw [failureTokens, code_ofList, code_ofList]
    decide
  have ends : Spells ["  \x7d", "\x7d;"] [.mark "\x7d", .mark "\x7d", stop] := by decide
  have rescue := (spells_cons logs (spells_cons traces spells_end)).append failure
  have whole := ((answer.append turns).append rescue).append ends
  simpa only [tailLines, rescueTokens, statements, List.flatMap_cons, List.flatMap_nil, List.append_nil,
    List.append_assoc, List.cons_append, List.nil_append] using whole

/-- **The tokens of a handler's source**, given what the names leave behind their comments. -/
theorem lines_spells {aside : String → List Token} {h : Handler}
    (origin : Spells ["// Generated from " ++ h.origin] (aside h.origin))
    (named : ∀ i ∈ h.invocations, Spells ["    // " ++ i.step] (aside i.step)) :
    Spells h.lines (tokens aside h) := by
  have opens : Spells ["", "module.exports = async function (context, req) \x7b", "  try \x7b"]
      (handlerHead ++ [.mark "\x7b"] ++ (code "try" ++ [.mark "\x7b"])) := by
    have function : Spells ["module.exports = async function (context, req) \x7b"] (handlerHead ++ [.mark "\x7b"]) :=
      code_spells (by decide)
    have tries : Spells ["  try \x7b"] (code "try" ++ [.mark "\x7b"]) := code_spells (by decide)
    have whole := (spells_blank.append function).append tries
    rwa [List.nil_append] at whole
  have steps := Spells.flatMap fun i hi => invocationLines_spells (named i hi)
  have whole := ((((headLines_spells origin).append (filterLines_spells h.triggers)).append opens).append
    (checkLines_spells h)).append (steps.append tailLines_spells)
  simpa only [lines, tokens, attemptTokens, List.append_assoc, List.cons_append, List.nil_append] using whole

theorem source_tokens {aside : String → List Token} {h : Handler}
    (origin : Spells ["// Generated from " ++ h.origin] (aside h.origin))
    (named : ∀ i ∈ h.invocations, Spells ["    // " ++ i.step] (aside i.step)) :
    tokens? h.source = some (tokens aside h) := by
  refine Scans.tokens? ?_
  rw [source, linesText, String.toList_ofList]
  exact lines_spells origin named

end HookFlow.Handler
