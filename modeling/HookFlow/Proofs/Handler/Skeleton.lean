import HookFlow.Proofs.Handler.Outline
/-!
Which texts can change the code of a handler.

The skeleton of a source text is what is left of its tokens when the contents of literals are dropped. The skeleton of
a handler depends on the shape of its flow and on the number of ignored actors: no secret, token, event, action, input
value or action source can change it, since all of them stand in literals. Names are different. They stand in
comments as they are, so the skeleton is fixed only as long as they stay on their lines. Behind a line end a name is
code.

Results:
- `tokens_alike`: a handler differs from the one without texts only in the contents of literals.
- `source_skeleton`: two flows of one shape have handlers with one skeleton, if their names stay on their lines.
- `tokens_length`: what names leave behind their comments comes on top of the other tokens.
- `spells_continued`: what a name leaves behind its comment is what stands behind its first line end.
-/

namespace HookFlow

namespace Script

/-- a token without the contents of a literal -/
def Token.hollow : Token → Token
  | .text _ => .text ""
  | t => t

/-- the tokens of a text without the contents of literals -/
def skeleton? (text : String) : Option (List Token) := (tokens? text).map (·.map Token.hollow)

end Script

/-- how many actions each trigger of a flow has, and which inputs each step has -/
def Flow.shape (f : Flow) : List Nat × List (List String) :=
  (f.triggers.map (·.actions.length), f.steps.map fun s => s.inputs.map Prod.fst)

namespace Handler

open Text Script

/-! ## Handlers without texts -/

/-- the trigger with the same number of actions and no texts -/
def emptyTrigger (t : Trigger) : Trigger := ⟨"", t.actions.map fun _ => ""⟩

/-- the invocation with the same variables and no texts -/
def emptyInvocation (i : Invocation) : Invocation := ⟨"", i.exports.map fun e => (e.1, ""), ""⟩

/-- the handler of the same shape without texts -/
def empty (h : Handler) : Handler where
  origin := ""
  secret := ""
  ignoredActors := h.ignoredActors.map fun _ => ""
  triggers := h.triggers.map emptyTrigger
  eventPath := ""
  invocations := h.invocations.map emptyInvocation

/-- Without texts, a handler is known by the shape of its flow and the number of ignored actors. -/
theorem empty_ofFlow (secret token : String) (options : Options) (f : Flow) :
    (ofFlow secret token options f).empty = {
      origin := "", secret := "", ignoredActors := List.replicate options.ignoredActors.length "",
      triggers := f.shape.1.map fun count => ⟨"", List.replicate count ""⟩, eventPath := "",
      invocations := f.shape.2.map fun names => ⟨"", names.map fun name => (inputVariable name, ""), ""⟩ } := by
  simp [ofFlow, empty, Flow.shape, invocation, emptyInvocation, emptyTrigger, List.map_const']

/-! ## Tokens without texts -/

/-- whether two sequences of tokens differ at most in the contents of literals -/
def Alike (ts us : List Token) : Prop := ts.map Token.hollow = us.map Token.hollow

theorem Alike.refl (ts : List Token) : Alike ts ts := rfl

theorem Alike.append {ts us ts' us' : List Token} (first : Alike ts us) (second : Alike ts' us') :
    Alike (ts ++ ts') (us ++ us') := by
  rw [Alike] at first second ⊢
  rw [List.map_append, List.map_append, first, second]

theorem Alike.length {ts us : List Token} (alike : Alike ts us) : ts.length = us.length := by
  have same := congrArg List.length alike
  rwa [List.length_map, List.length_map] at same

/-- Parts are put together in the same way, whether or not their texts are dropped first. -/
theorem Alike.flatMap {α β : Type} {items : List α} {less : α → β} {tokens : α → List Token} {fewer : β → List Token}
    (each : ∀ a, Alike (tokens a) (fewer (less a))) :
    Alike (items.flatMap tokens) ((items.map less).flatMap fewer) := by
  rw [List.flatMap_map]
  exact flatMap_related (.refl []) .append fun a _ => each a

theorem gateTokens_alike (t : Trigger) : Alike (gateTokens t) (gateTokens (emptyTrigger t)) := by
  obtain ⟨event, actions⟩ := t
  have condition : Alike (ifTokens event) (ifTokens "") := rfl
  have actions' : Alike (actionTokens actions) (actionTokens (actions.map fun _ => "")) := by
    cases actions with
    | nil => exact .refl _
    | cons a rest =>
      have labels : Alike ((a :: rest).flatMap caseTokens) (((a :: rest).map fun _ => "").flatMap caseTokens) :=
        .flatMap fun _ => rfl
      exact (((Alike.refl switchTokens).append labels).append (.refl _)).append (.refl _)
  exact (condition.append actions').append (.refl _)

theorem filterTokens_alike (triggers : List Trigger) :
    Alike (filterTokens triggers) (filterTokens (triggers.map emptyTrigger)) :=
  (((Alike.refl constTokens).append (.flatMap gateTokens_alike)).append (.refl _)).append (.refl _)

theorem actorsTokens_alike (actors : List String) :
    Alike (actorsTokens actors) (actorsTokens (actors.map fun _ => "")) := by
  have items : Alike ([Token.mark ","].intercalate (actors.map fun a => [.text a]))
      ([Token.mark ","].intercalate ((actors.map fun _ => "").map fun a => [.text a])) := by
    induction actors with
    | nil => exact .refl _
    | cons a rest ih =>
      cases rest with
      | nil => rfl
      | cons b rest =>
        simp only [List.map_cons, List.intercalate_cons_cons] at ih ⊢
        exact ((show Alike [.text a] [.text ""] from rfl).append (.refl _)).append ih
  exact ((Alike.refl _).append items).append (.refl _)

theorem headTokens_alike (h : Handler) :
    Alike (headTokens (fun _ => []) h) (headTokens (fun _ => []) h.empty) := by
  have secret : Alike ([.word "const", .word "secret", .mark "=", .text h.secret] ++ [stop])
      ([.word "const", .word "secret", .mark "=", .text ""] ++ [stop]) := rfl
  have actors := (actorsTokens_alike h.ignoredActors).append (.refl [stop])
  exact ((Alike.refl _).append (.refl [])).append (secret.append (actors.append (.refl [])))

theorem checkTokens_alike (eventPath : String) : Alike (checkTokens eventPath) (checkTokens "") := by
  have payload : Alike (statements (payloadTokens eventPath)) (statements (payloadTokens "")) :=
    (show Alike ([.word "const", .word "eventFile", .mark "=", .text eventPath] ++ [stop])
      ([.word "const", .word "eventFile", .mark "=", .text ""] ++ [stop]) from rfl).append (.refl _)
  exact (Alike.refl _).append payload

theorem stepTokens_alike (i : Invocation) :
    Alike (stepTokens (fun _ => []) i) (stepTokens (fun _ => []) (emptyInvocation i)) := by
  have assignment (e : String × String) :
      Alike (assignmentTokens e.1 e.2 ++ [stop]) (assignmentTokens e.1 "" ++ [stop]) := by
    refine Alike.append ?_ (.refl [stop])
    exact (Alike.refl _).append rfl
  have assignments : Alike (statements (i.exports.map fun e => assignmentTokens e.1 e.2))
      (statements ((i.exports.map fun e => (e.1, "")).map fun e => assignmentTokens e.1 e.2)) := by
    simp only [statements, List.flatMap_map]
    exact flatMap_related (.refl []) .append fun e _ => assignment e
  have runs : Alike (statements [forgetTokens i.modulePath, loadTokens i.modulePath,
        logTokens ("step " ++ i.step ++ " complete")])
      (statements [forgetTokens "", loadTokens "", logTokens ("step " ++ "" ++ " complete")]) := rfl
  simp only [stepTokens, statements_append]
  exact (Alike.refl []).append (assignments.append runs)

/-- **The texts of a handler are no code**, but for what its names leave behind their comments. -/
theorem tokens_alike (h : Handler) : Alike (tokens (fun _ => []) h) (tokens (fun _ => []) h.empty) := by
  have steps : Alike (h.invocations.flatMap (stepTokens fun _ => []))
      (h.empty.invocations.flatMap (stepTokens fun _ => [])) :=
    .flatMap stepTokens_alike
  have attempt : Alike (attemptTokens (fun _ => []) h) (attemptTokens (fun _ => []) h.empty) :=
    ((Alike.refl _).append (((checkTokens_alike h.eventPath).append steps).append (.refl _))).append (.refl _)
  exact ((headTokens_alike h).append (filterTokens_alike h.triggers)).append
    (((Alike.refl _).append (attempt.append (.refl _))).append (.refl _))

/-- **Texts are no code.** Two flows with the same number of triggers, of actions of each trigger and of steps and the
same names of inputs have handlers with the same code, if the names of workflow and steps stay on their lines. Secrets,
tokens, options, events, actions, values and sources do not matter, but for how many actors are ignored. -/
theorem source_skeleton (secret token secret' token' : String) {options options' : Options}
    (actors : options.ignoredActors.length = options'.ignoredActors.length) {f g : Flow} (shape : f.shape = g.shape)
    (named : f.IsOneLine) (named' : g.IsOneLine) :
    ∃ code, skeleton? (ofFlow secret token options f).source = some code ∧
      skeleton? (ofFlow secret' token' options' g).source = some code := by
  have same : (ofFlow secret token options f).empty = (ofFlow secret' token' options' g).empty := by
    rw [empty_ofFlow, empty_ofFlow, actors, shape]
  have first := tokens_alike (ofFlow secret token options f)
  have second := tokens_alike (ofFlow secret' token' options' g)
  refine ⟨(tokens (fun _ => []) (ofFlow secret token options f).empty).map Token.hollow, ?_, ?_⟩
  · rw [skeleton?, ofFlow_tokens secret token options named, Option.map_some, first]
  · rw [skeleton?, ofFlow_tokens secret' token' options' named', Option.map_some, second, same]

theorem source_skeleton_release :
    ∃ code, skeleton? (ofFlow "s3cr\\t" "t0ken" {} release).source = some code ∧
      skeleton? (ofFlow "\n" "" { eventPath := "/tmp/\"e\"" } {
        name := "// x", triggers := [⟨"*/", []⟩, ⟨"", ["'", "\";"]⟩], steps := [
          { name := "a-0", inputs := [("repo token", "\";process.exit();//")] },
          { name := "b-0", inputs := [("dry-run", ""), ("", "")] }] }).source = some code :=
  source_skeleton "s3cr\\t" "t0ken" "\n" "" (by decide) (by decide) (by decide) (by decide)

/-! ## Names that do not stay on their lines -/

/-- **Behind a line end a name is code.** What stands there has its own tokens. -/
theorem spells_continued {start : String} (before after : String) {ts : List Token}
    (opens : Scans .start start.toList [] .comment) (single : IsOneLine before) {c : Char} (ends : isLineEnd c)
    (more : Spells [after] ts) : Spells [start ++ (before ++ String.singleton c ++ after)] ts := by
  have turns : Scans .comment [c] [] .start := by simp [Scans, scan, step, ends]
  have whole := ((opens.append (scans_comment single)).append turns).append
    (show Scans .start (after.toList ++ ['\n']) ts .start by simpa [Spells] using more)
  simpa [Spells, String.toList_append] using whole

/-- What names leave behind their comments comes on top of the other tokens. -/
theorem tokens_length (aside : String → List Token) (h : Handler) :
    (tokens aside h).length = (tokens (fun _ => []) h).length + (aside h.origin).length +
      (h.invocations.flatMap fun i => aside i.step).length := by
  have steps : (h.invocations.flatMap (stepTokens aside)).length =
      (h.invocations.flatMap (stepTokens fun _ => [])).length +
        (h.invocations.flatMap fun i => aside i.step).length := by
    induction h.invocations with
    | nil => rfl
    | cons i rest ih =>
      simp only [List.flatMap_cons, List.length_append, stepTokens, List.length_nil, ih]
      omega
  simp only [tokens, headTokens, attemptTokens, List.length_append, List.length_nil, steps]
  omega

/-- a workflow of one job with one step -/
def oneStep (job : String) : Flow where
  name := "ci.yml"
  triggers := []
  steps := [{ name := job ++ "-0", source := "run()" }]

/-- Two flows of one shape whose handlers have different code: the second job's name goes on behind a line end. -/
theorem source_skeleton_continued :
    (oneStep "build").shape = (oneStep "build\nprocess.exit();//").shape ∧
      ∃ code code', skeleton? (ofFlow "s" "t" {} (oneStep "build")).source = some code ∧
        skeleton? (ofFlow "s" "t" {} (oneStep "build\nprocess.exit();//")).source = some code' ∧ code ≠ code' := by
  let plain := ofFlow "s" "t" {} (oneStep "build")
  let broken := ofFlow "s" "t" {} (oneStep "build\nprocess.exit();//")
  let aside (name : String) : List Token := if name = "ci.yml" then [] else code "process.exit();"
  have lexed : tokens? broken.source = some (tokens aside broken) := by
    refine source_tokens (spells_comment (by decide) (by decide)) fun i hi => ?_
    obtain rfl : i = invocation "t" _ _ := List.mem_singleton.1 hi
    exact spells_continued "build" "process.exit();//-0" (c := '\n')
      (by decide) (by decide) (by decide) (by decide)
  have some : 0 < (code "process.exit();").length := by decide
  have longer : (tokens aside broken).length = _ := tokens_length aside broken
  have left : (broken.invocations.flatMap fun i => aside i.step) = code "process.exit();" ++ [] := rfl
  have bare : plain.empty = broken.empty := by rw [empty_ofFlow, empty_ofFlow]; rfl
  have fixed := (tokens_alike plain).length.trans (bare ▸ (tokens_alike broken).length.symm)
  rw [left, List.append_nil] at longer
  refine ⟨rfl, (tokens (fun _ => []) plain).map Token.hollow, (tokens aside broken).map Token.hollow, ?_, ?_, ?_⟩
  · rw [skeleton?, ofFlow_tokens "s" "t" {} (by decide), Option.map_some]
  · rw [skeleton?, lexed, Option.map_some]
  · intro same
    have long := Alike.length same
    omega

end Handler

end HookFlow
