import HookFlow.Proofs.Handler.Outline
import HookFlow.Proofs.Text.Split
/-!
What a handler binds, read from its source line by line.

A line is read on its own. It has an effect if it is one statement that names a text, sets an environment variable or
handles a module, and it binds something if it gives a text to the secret or to an environment variable. This reading
needs no assumption on the names of workflow and steps: what the lines of a name do stands in its own place, and a name
that stays on its line does nothing.

Results:
- `effects_line`: what a line does follows from its tokens.
- `source_effects`: what the lines of a handler do, in order.
- `source_bindings`: the bindings of a handler are its secret and the exports of its steps.
-/

namespace HookFlow.Handler

open Text Script

/-! ## The reader -/

/-- whether a statement gives a text to the secret or to an environment variable -/
def isBinding : Deed → Bool
  | .set _ _ => true
  | .constant name _ => name == "secret"
  | _ => false

/-- the binding that some tokens are, if they are one -/
def bindingOf? (ts : List Token) : Option Deed :=
  if ts.getLast? = some stop then (some (Deed.ofTokens ts.dropLast)).filter isBinding else none

/-- the bindings of a text, in order -/
def bindings (text : String) : List Deed :=
  (splitChars '\n' text.toList).filterMap fun line => (tokens? (String.ofList line)).bind bindingOf?

/-- whether a statement names a text, sets an environment variable or handles a module -/
def isEffect : Deed → Bool
  | .constants _ _ | .respond _ _ | .other _ => false
  | _ => true

/-- the effect that some tokens have, if they have one -/
def effectOf? (ts : List Token) : Option Deed :=
  if ts.getLast? = some stop then (some (Deed.ofTokens ts.dropLast)).filter isEffect else none

/-- the effects of the lines of a text, in order -/
def effects (text : String) : List Deed :=
  (splitChars '\n' text.toList).filterMap fun line => (tokens? (String.ofList line)).bind effectOf?

theorem bindingOf?_eq (ts : List Token) : bindingOf? ts = (effectOf? ts).filter isBinding := by
  rw [bindingOf?, effectOf?]
  split
  · cases Deed.ofTokens ts.dropLast <;> rfl
  · rfl

/-- A binding is an effect. -/
theorem bindings_eq (text : String) : bindings text = (effects text).filter isBinding := by
  rw [bindings, effects, List.filter_filterMap]
  refine congrArg (List.filterMap · _) (funext fun line => ?_)
  cases tokens? (String.ofList line) with
  | none => rfl
  | some ts => exact bindingOf?_eq ts

/-! ## Lines -/

theorem effects_lines (ls : List String) : effects (linesText ls) = ls.flatMap effects := by
  induction ls with
  | nil => decide
  | cons l ls ih =>
    have whole : (linesText (l :: ls)).toList = l.toList ++ '\n' :: (linesText ls).toList := by
      simp [linesText]
    rw [List.flatMap_cons, ← ih, effects, whole, splitChars_append, List.filterMap_append]
    rfl

/-- **What a line binds follows from its tokens.** -/
theorem effects_line {line : String} {ts : List Token} (single : '\n' ∉ line.toList) (spells : Spells [line] ts) :
    effects line = (effectOf? ts).toList := by
  have lexed : tokens? line = some ts := by
    have scans : Scans .start (line.toList ++ ['\n']) ts .start := by simpa [Spells] using spells
    rw [Scans] at scans
    simp [tokens?, scans]
  rw [effects, splitChars_single single, List.filterMap_cons, String.ofList_toList, lexed, Option.bind_some]
  cases effectOf? ts <;> rfl

theorem effects_ofList (letters : List Char) :
    effects (String.ofList letters) = (splitChars '\n' letters).filterMap fun line => (lex? line).bind effectOf? := by
  simp only [effects, String.toList_ofList, tokens?_ofList]

theorem effectOf?_statement (ts : List Token) :
    effectOf? (ts ++ [stop]) = (some (Deed.ofTokens ts)).filter isEffect := by
  simp [effectOf?]

/-- A name that stays on its line binds nothing. -/
theorem effects_comment {start name : String} (line : '\n' ∉ start.toList)
    (opens : Scans .start start.toList [] .comment) (named : IsOneLine name) : effects (start ++ name) = [] := by
  have single : '\n' ∉ (start ++ name).toList := by
    rw [String.toList_append, List.mem_append, not_or]
    exact ⟨line, fun feed => absurd (named '\n' feed) (by decide)⟩
  exact effects_line single (spells_comment opens named)

/-! ## The lines of a handler -/

theorem assignmentLine_effects (key value : String) :
    effects ("    " ++ environmentPlace key ++ " = " ++ quote value ++ ";") = [.set key value] := by
  have place : '\n' ∉ (environmentPlace key).toList := by
    unfold environmentPlace
    split
    next plain =>
      rw [String.toList_append, List.mem_append, not_or]
      refine ⟨by decide, fun feed => ?_⟩
      exact absurd ((isPlainProperty_word plain).2 _ feed) (by decide)
    · exact quoted_single key (by decide) (by decide)
  have left : '\n' ∉ ("    " ++ environmentPlace key ++ " = ").toList := by
    simp only [String.toList_append, List.mem_append, not_or]
    exact ⟨⟨by decide, place⟩, by decide⟩
  have deed : Deed.ofTokens (assignmentTokens key value) = .set key value := assignmentTokens_deed key value
  rw [effects_line (quoted_single value left (by decide)) (assignment_spells key value),
    effectOf?_statement, deed]
  rfl

theorem actorsLine_single (actors : List String) :
    '\n' ∉ ("const ignoredActors = [" ++ ", ".intercalate (actors.map quote) ++ "];").toList := by
  have items : '\n' ∉ (", ".intercalate (actors.map quote)).toList := by
    rw [String.toList_intercalate, List.map_map]
    induction actors with
    | nil => exact List.not_mem_nil
    | cons a rest ih =>
      have first : '\n' ∉ ("" ++ quote a ++ "").toList := quoted_single a nofun nofun
      rw [String.empty_append, String.append_empty] at first
      cases rest with
      | nil => simpa using first
      | cons b rest =>
        simp only [List.map_cons, List.intercalate_cons_cons, List.mem_append, not_or] at ih ⊢
        exact ⟨⟨first, by decide⟩, ih⟩
  simp only [String.toList_append, List.mem_append, not_or]
  exact ⟨⟨by decide, items⟩, by decide⟩

theorem headLines_effects (h : Handler) :
    h.headLines.flatMap effects =
      effects ("// Generated from " ++ h.origin) ++ [.constant "secret" h.secret] := by
  have modules : ["const fs = require('fs');", "const verify = require('@octokit/webhooks/verify');", ""].flatMap
      effects = [] := by
    rw [List.flatMap_cons, List.flatMap_cons, effects_ofList, effects_ofList]
    decide
  have secret : effects ("const secret = " ++ quote h.secret ++ ";") = [.constant "secret" h.secret] := by
    rw [effects_line (quoted_single _ (by decide) (by decide)) (secret_spells h.secret),
      effectOf?_statement]
    rfl
  have actors : effects ("const ignoredActors = [" ++ ", ".intercalate (h.ignoredActors.map quote) ++ "];") = [] := by
    rw [effects_line (actorsLine_single h.ignoredActors) (actors_spells h.ignoredActors), effectOf?_statement,
      actorsTokens_deed]
    rfl
  have blank : effects "" = [] := by decide
  have split : h.headLines = ["const fs = require('fs');", "const verify = require('@octokit/webhooks/verify');", ""] ++
    ["// Generated from " ++ h.origin, "const secret = " ++ quote h.secret ++ ";",
     "const ignoredActors = [" ++ ", ".intercalate (h.ignoredActors.map quote) ++ "];", ""] := rfl
  simp only [split, List.flatMap_append, modules, List.flatMap_cons, secret, actors, blank, List.flatMap_nil,
    List.append_nil, List.nil_append]

theorem gateLines_effects (t : Trigger) : (gateLines t).flatMap effects = [] := by
  have single : '\n' ∉ (ifLine t.event).toList := quoted_single t.event (by decide) (by decide)
  have condition : [ifLine t.event].flatMap effects = [] := by
    rw [List.flatMap_singleton, effects_line single (ifLine_spells t.event)]
    rfl
  have ends : ["  \x7d"].flatMap effects = [] := by decide
  have actions : (actionLines t.actions).flatMap effects = [] := by
    cases t.actions with
    | nil => decide
    | cons a rest =>
      have opens : ["    switch (req.body.action) \x7b"].flatMap effects = [] := by decide
      have closes : ["        return true;", "    \x7d"].flatMap effects = [] := by decide
      have label (action : String) : effects (caseLine action) = [] := by
        have single : '\n' ∉ (caseLine action).toList := quoted_single action (by decide) (by decide)
        rw [effects_line single (caseLine_spells action)]
        rfl
      have labels : ((a :: rest).map caseLine).flatMap effects = [] := by
        rw [List.flatMap_map]
        exact List.flatMap_eq_nil_iff.2 fun action _ => label action
      have split : actionLines (a :: rest) = ["    switch (req.body.action) \x7b"] ++ (a :: rest).map caseLine ++
        ["        return true;", "    \x7d"] := rfl
      rw [split, List.flatMap_append, List.flatMap_append, opens, labels, closes]
      rfl
  have split : gateLines t = [ifLine t.event] ++ actionLines t.actions ++ ["  \x7d"] := rfl
  rw [split, List.flatMap_append, List.flatMap_append, condition, actions, ends]
  rfl

theorem filterLines_effects (triggers : List Trigger) : (filterLines triggers).flatMap effects = [] := by
  have opens : ["const " ++ filterName ++ " = (req) => \x7b"].flatMap effects = [] := by decide
  have closes : ["  return false;", "\x7d;"].flatMap effects = [] := by decide
  have gates : (triggers.flatMap gateLines).flatMap effects = [] := by
    rw [List.flatMap_assoc]
    exact List.flatMap_eq_nil_iff.2 fun t _ => gateLines_effects t
  rw [filterLines, List.flatMap_append, List.flatMap_append, opens, gates, closes]
  rfl

theorem responseLine_effects {indent : String} (line : '\n' ∉ indent.toList)
    (blank : Scans .start indent.toList [] .start) (status : Nat) (body : String) :
    effects (responseLine indent status body) = [] := by
  have digits : '\n' ∉ (toString status).toList := fun feed => by
    have digit := Nat.isDigit_of_mem_toDigits (by decide) (by decide) (Nat.toList_repr ▸ feed)
    exact absurd digit (by decide)
  have left : '\n' ∉ (indent ++ "context.res = \x7b status: " ++ toString status ++ ", body: ").toList := by
    simp only [String.toList_append, List.mem_append, not_or]
    exact ⟨⟨⟨line, by decide⟩, digits⟩, by decide⟩
  have single : '\n' ∉ (responseLine indent status body).toList := quoted_single body left (by decide)
  rw [effects_line single (responseLine_spells blank status body), effectOf?_statement]
  rfl

theorem refusalLines_effects (status : Nat) (body : String) : (refusalLines status body).flatMap effects = [] := by
  have answer := responseLine_effects (by decide : '\n' ∉ "      ".toList) (by decide) status body
  have ends : ["      return;", "    \x7d", ""].flatMap effects = [] := by decide
  rw [refusalLines, List.flatMap_cons, answer, ends]
  rfl

theorem checkLines_effects (h : Handler) : h.checkLines.flatMap effects =
    [.constant "eventFile" h.eventPath, .setNamed "GITHUB_EVENT_PATH" "eventFile"] := by
  have signature : effects "    if (!verify(secret, req.body, req.headers['x-hub-signature'])) \x7b" = [] := by
    rw [effects_ofList]
    decide
  have gate : effects ("    if (!" ++ filterName ++ "(req)) \x7b") = [] := by decide
  have actor : ["    const actor = req.body && req.body.sender ? req.body.sender.login : undefined;",
      "    if (ignoredActors.includes(actor)) \x7b"].flatMap effects = [] := by
    rw [List.flatMap_cons, List.flatMap_singleton, effects_ofList, effects_ofList]
    decide
  have file : effects ("    const eventFile = " ++ quote h.eventPath ++ ";") =
      [.constant "eventFile" h.eventPath] := by
    rw [effects_line (quoted_single _ (by decide) (by decide)) (eventFile_spells h.eventPath),
      effectOf?_statement]
    rfl
  have payload : ["    fs.writeFileSync(eventFile, JSON.stringify(req.body));",
    "    process.env.GITHUB_EVENT_PATH = eventFile;",
    "    context.log('wrote event JSON, invoking steps');"].flatMap effects =
      [.setNamed "GITHUB_EVENT_PATH" "eventFile"] := by
    rw [List.flatMap_cons, List.flatMap_cons, List.flatMap_singleton, effects_ofList, effects_ofList,
      effects_ofList]
    decide
  have split : h.checkLines =
    (["    if (!verify(secret, req.body, req.headers['x-hub-signature'])) \x7b"] ++
      refusalLines 401 "Signature failed") ++
    (["    if (!" ++ filterName ++ "(req)) \x7b"] ++ refusalLines 200 "ignored event") ++
    (["    const actor = req.body && req.body.sender ? req.body.sender.login : undefined;",
      "    if (ignoredActors.includes(actor)) \x7b"] ++ refusalLines 200 "ignored actor") ++
    ["    const eventFile = " ++ quote h.eventPath ++ ";"] ++
    ["    fs.writeFileSync(eventFile, JSON.stringify(req.body));", "    process.env.GITHUB_EVENT_PATH = eventFile;",
     "    context.log('wrote event JSON, invoking steps');"] := by
    simp only [checkLines, List.append_assoc, List.cons_append, List.nil_append]
  rw [split]
  simp only [List.flatMap_append, List.flatMap_singleton, refusalLines_effects, signature, gate, actor, file, payload,
    List.append_nil, List.nil_append]
  rfl

theorem invocationLines_effects (i : Invocation) :
    (invocationLines i).flatMap effects =
      effects ("    // " ++ i.step) ++ i.exports.map (fun e => .set e.1 e.2) ++
        [.forget i.modulePath, .load i.modulePath] := by
  have blank : effects "" = [] := by decide
  have exports : (i.exports.map fun e => "    " ++ environmentPlace e.1 ++ " = " ++ quote e.2 ++ ";").flatMap effects =
      i.exports.map fun e => .set e.1 e.2 := by
    rw [List.flatMap_map, List.map_eq_flatMap]
    simp only [assignmentLine_effects]
  have forgets : effects ("    delete require.cache[require.resolve(" ++ quote i.modulePath ++ ")];") =
      [.forget i.modulePath] := by
    rw [effects_line (quoted_single _ (by decide) (by decide)) (forgetLine_spells i.modulePath),
      effectOf?_statement]
    rfl
  have loads : effects ("    await require(" ++ quote i.modulePath ++ ");") = [.load i.modulePath] := by
    rw [effects_line (quoted_single _ (by decide) (by decide)) (loadLine_spells i.modulePath),
      effectOf?_statement]
    rfl
  have notes : effects ("    context.log(" ++ quote ("step " ++ i.step ++ " complete") ++ ");") = [] := by
    rw [effects_line (quoted_single _ (by decide) (by decide))
      (logLine_spells ("step " ++ i.step ++ " complete")), effectOf?_statement]
    rfl
  simp only [invocationLines, List.flatMap_append, List.flatMap_cons, List.flatMap_nil, blank, exports, forgets, loads,
    notes, List.nil_append, List.append_nil, List.singleton_append]

theorem tailLines_effects : tailLines.flatMap effects = [] := by
  have blank : effects "" = [] := by decide
  have answer := responseLine_effects (by decide : '\n' ∉ "    ".toList) (by decide) 200 "workflow complete"
  have rescue : ["  \x7d catch (e) \x7b", "    context.log(e);", "    context.log(e.stack);", "    context.res = \x7b",
      "      status: 500,", "      body: e.message,", "    \x7d;", "  \x7d", "\x7d;"].flatMap effects = [] := by
    decide
  rw [tailLines, List.flatMap_cons, List.flatMap_cons, blank, answer, rescue]
  rfl

/-- **What the lines of a handler do.** -/
theorem source_effects (h : Handler) : effects h.source =
    effects ("// Generated from " ++ h.origin) ++ .constant "secret" h.secret ::
      .constant "eventFile" h.eventPath :: .setNamed "GITHUB_EVENT_PATH" "eventFile" ::
      h.invocations.flatMap fun i => effects ("    // " ++ i.step) ++ i.exports.map (fun e => .set e.1 e.2) ++
        [.forget i.modulePath, .load i.modulePath] := by
  have opens : ["", "module.exports = async function (context, req) \x7b", "  try \x7b"].flatMap effects = [] := by
    rw [List.flatMap_cons, List.flatMap_cons, effects_ofList, effects_ofList]
    decide
  have steps : (h.invocations.flatMap invocationLines).flatMap effects = h.invocations.flatMap fun i =>
      effects ("    // " ++ i.step) ++ i.exports.map (fun e => .set e.1 e.2) ++
        [.forget i.modulePath, .load i.modulePath] := by
    rw [List.flatMap_assoc]
    simp only [invocationLines_effects]
  rw [source, effects_lines]
  simp only [lines, List.flatMap_append, headLines_effects, filterLines_effects, opens, checkLines_effects, steps,
    tailLines_effects, List.append_nil]
  simp only [List.append_assoc, List.cons_append, List.nil_append]

/-- **What a handler binds.** -/
theorem source_bindings (h : Handler) :
    bindings h.source = bindings ("// Generated from " ++ h.origin) ++ .constant "secret" h.secret ::
      h.invocations.flatMap fun i => bindings ("    // " ++ i.step) ++ i.exports.map fun e => .set e.1 e.2 := by
  have sets (es : List (String × String)) : (es.map fun e => Deed.set e.1 e.2).filter isBinding =
      es.map fun e => Deed.set e.1 e.2 := by
    rw [List.filter_eq_self]
    exact List.forall_mem_map.2 fun e _ => rfl
  simp [bindings_eq, source_effects, List.filter_append, List.filter_flatMap, sets, isBinding]

end HookFlow.Handler
