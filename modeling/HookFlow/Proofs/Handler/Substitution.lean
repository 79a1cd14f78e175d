import HookFlow.Proofs.Config
import HookFlow.Proofs.Converter
import HookFlow.Proofs.Handler.Bindings
import HookFlow.Proofs.Loader.Decision
import HookFlow.Proofs.Loader.Inputs
/-!
Expressions and the token, from the configuration to the handler.

Four parts decide about the placeholder: the check of the configuration, the loader, the check of a batch and the
writer of handlers. They agree on every text. The placeholder of an accepted configuration opens an expression even
when its blanks are taken out, so an input that opens none is not the placeholder; the loader lets no other
expression pass; and the check of a batch asks for a token where an input stands for one.

Results:
- `marker_of_isToken`: what is recognised as the placeholder opens an expression.
- `entrypoint_bindings`: no handler is left with an expression, a blank token or a blank secret.
-/

namespace HookFlow

open Text

/-! ## Texts without blanks -/

theorem containsChars_iff {needle hay : List Char} : containsChars needle hay = true ↔ needle <:+: hay := by
  induction hay with
  | nil => simp [containsChars]
  | cons c cs ih => simp [containsChars, ih, List.infix_cons_iff]

/-- A text without blanks is found again when blanks are taken out. -/
theorem contains_collapse {hay needle : String} (solid : ∀ c ∈ needle.toList, isBlank c = false)
    (found : contains hay needle) : contains (collapse hay) needle := by
  have kept : needle.toList.filter (fun c => !isBlank c) = needle.toList :=
    List.filter_eq_self.2 fun c hc => by simp [solid c hc]
  have inside := (containsChars_iff.1 found).filter fun c => !isBlank c
  rw [kept] at inside
  simpa [contains, collapse] using containsChars_iff.2 inside

/-- What is the placeholder, blanks aside, opens an expression. -/
theorem marker_of_isToken {value placeholder : String} (expression : contains placeholder Placeholder.marker)
    (same : collapse value = collapse placeholder) : contains (collapse value) Placeholder.marker := by
  have solid : Placeholder.marker.toList.all (fun c => !isBlank c) = true := by decide +kernel
  rw [same]
  exact contains_collapse (by simpa using solid) expression

/-! ## What the checks say -/

theorem placeholder_of_validate {config : Config} (valid : config.validate = .ok ()) :
    contains config.codegen.options.placeholder Placeholder.marker := by
  obtain ⟨-, -, -, expression, -⟩ := Config.validate_eq_ok.1 valid
  exact expression

theorem ofConfig_eq {config : Config} {runtime : Runtime} {c : Converter}
    (made : Converter.ofConfig config runtime = .ok c) :
    c.secret = config.codegen.webhookSecret ∧ c.token = config.github.token.getD "" ∧
      c.options = config.codegen.options ∧ allBlank c.secret = false := by
  obtain ⟨present, rfl⟩ := Converter.ofConfig_eq_ok.1 made
  exact ⟨rfl, rfl, rfl, present⟩

/-- A batch in which some input stands for the token is accepted only with a token. -/
theorem token_of_validate {c : Converter} {flows : List Flow} (accepted : c.validate flows = .ok ()) {f : Flow}
    (hf : f ∈ flows) {s : Step} (hs : s ∈ f.steps) {e : String × String} (he : e ∈ s.inputs)
    (same : collapse e.2 = collapse c.options.placeholder) : allBlank c.token = false := by
  refine Bool.eq_false_iff.2 fun blank => ?_
  have other := (Converter.validate_eq_ok.1 accepted).2 blank f hf s hs e he
  simp [Placeholder.isToken, same] at other

/-! ## The whole way -/

open Handler Script

/-- **No handler is left with an expression, a blank token or a blank secret.** Take a configuration that is accepted,
a loader and a converter of it, and flows that the loader finds in any content and the converter accepts. The lines of
a handler bind the secret, which is not blank, and the inputs of the steps in their order, besides what the names in
comments bind. The value of an input is the token of the configuration, which is there and not blank, if the input is
the placeholder, blanks aside. Otherwise it is the input itself, and that holds no expression. An input that opens no
expression, blanks aside, is never the placeholder. -/
theorem entrypoint_bindings {config : Config} {runtime : Runtime} {c : Converter} {repo : Repository}
    {cache cache' : Action.Cache} {h : History} {flows : List Flow} (valid : config.validate = .ok ())
    (made : Converter.ofConfig config runtime = .ok c)
    (loaded : Resolves ((Loader.asking config.loaderSettings).load repo) cache h (.ok flows) cache')
    (accepted : c.validate flows = .ok ()) :
    allBlank config.codegen.webhookSecret = false ∧ ∀ f ∈ flows, ∃ value : String → String,
      bindings (c.entrypoint f) =
        bindings ("// Generated from " ++ f.name) ++ .constant "secret" config.codegen.webhookSecret ::
          (f.steps.flatMap fun s => bindings ("    // " ++ s.name) ++
            s.inputs.map fun e => .set (inputVariable e.1) (value e.2)) ∧
      ∀ s ∈ f.steps, ∀ e ∈ s.inputs,
        (collapse e.2 = collapse config.codegen.options.placeholder →
          ∃ token, config.github.token = some token ∧ allBlank token = false ∧ value e.2 = token) ∧
        (collapse e.2 ≠ collapse config.codegen.options.placeholder →
          value e.2 = e.2 ∧ contains e.2 Placeholder.marker = false) ∧
        (contains (collapse e.2) Placeholder.marker = false →
          collapse e.2 ≠ collapse config.codegen.options.placeholder ∧ value e.2 = e.2) := by
  obtain ⟨secret, token, options, present⟩ := ofConfig_eq made
  rw [secret] at present
  have kept {v : String} (other : collapse v ≠ collapse config.codegen.options.placeholder) :
      inputValue c.token c.options.placeholder v = v := by
    simp [inputValue, Placeholder.isToken, options, other]
  refine ⟨present, fun f hf => ⟨inputValue c.token c.options.placeholder, ?_, fun s hs e he => ⟨?_, ?_, ?_⟩⟩⟩
  · rw [Converter.entrypoint, source_bindings, ← secret]
    simp only [ofFlow, invocation, List.flatMap_map, List.map_map, Function.comp_def]
  · intro same
    rw [← options] at same
    have solid := token_of_validate accepted hf hs he same
    have given : inputValue c.token c.options.placeholder e.2 = c.token := by
      simp [inputValue, Placeholder.isToken, same]
    cases there : config.github.token with
    | none =>
      rw [token, there] at solid
      exact absurd solid (by decide)
    | some t =>
      rw [there, Option.getD_some] at token
      exact ⟨t, rfl, token ▸ solid, given.trans token⟩
  · intro other
    have plain : Placeholder.isUnsupported e.2 config.codegen.options.placeholder = false :=
      (load_gives _ repo cache h flows cache' loaded f hf s hs).plain e he
    have differs : Placeholder.isToken e.2 config.codegen.options.placeholder = false := by
      simp [Placeholder.isToken, other]
    rw [Placeholder.isUnsupported, differs] at plain
    exact ⟨kept other, by simpa using plain⟩
  · intro plain
    have other : collapse e.2 ≠ collapse config.codegen.options.placeholder := by
      intro same
      have opens := marker_of_isToken (placeholder_of_validate valid) same
      rw [plain] at opens
      cases opens
    exact ⟨other, kept other⟩

/-! A repository with one workflow, whose inputs are the placeholder and a text. -/

def placeholderContent : Content.Fixed where
  list _ _ := .ok [⟨"ci.yml", ".github/workflows/ci.yml", "file", none⟩]
  file _ path _ :=
    if path = "action.yml" then .ok (Text.encode "runs: \x7busing: node12, main: dist/a.js\x7d")
    else if path = "dist/a.js" then .ok (Text.encode "run()")
    else .ok (Text.encode ("on: push\njobs: \x7ba: \x7bsteps: [\x7buses: a/b@v1, " ++
      "with: \x7bkey: '$\x7b\x7bsecrets.GITHUB_TOKEN\x7d\x7d', mode: fast\x7d\x7d]\x7d\x7d"))

def placeholderConfig : Config where
  github := { token := some "t0ken" }
  codegen := { webhookSecret := "s3cret" }

def placeholderFlow : Flow where
  name := "ci.yml"
  triggers := [⟨"push", []⟩]
  steps := [
    { name := "a-0", source := "run()",
      inputs := [("key", "$\x7b\x7bsecrets.GITHUB_TOKEN\x7d\x7d"), ("mode", "fast")] }]

def placeholderConverter : Converter where
  secret := "s3cret"
  token := "t0ken"
  packager := { runtime := ⟨".", fun _ => .error .notFound⟩ }

/-- The handler has the secret, the token in place of the placeholder, and the other input as it is. -/
theorem entrypoint_bindings_placeholder :
    placeholderConfig.validate = .ok () ∧
      Converter.ofConfig placeholderConfig placeholderConverter.packager.runtime = .ok placeholderConverter ∧
      ((((Loader.asking placeholderConfig.loaderSettings).load ⟨"octo", "cat"⟩).run.run []).reply
        placeholderContent.answer).1 = .ok [placeholderFlow] ∧
      placeholderConverter.validate [placeholderFlow] = .ok () ∧
      bindings (placeholderConverter.entrypoint placeholderFlow) =
        [.constant "secret" "s3cret", .set "INPUT_KEY" "t0ken", .set "INPUT_MODE" "fast"] := by
  have valid : placeholderConfig.validate = .ok () := eq_ok_of_toOption (by decide +kernel)
  have made : Converter.ofConfig placeholderConfig placeholderConverter.packager.runtime =
      .ok placeholderConverter := rfl
  have loaded : ((((Loader.asking placeholderConfig.loaderSettings).load ⟨"octo", "cat"⟩).run.run []).reply
      placeholderContent.answer).1 = .ok [placeholderFlow] := eq_ok_of_toOption (by decide +kernel)
  have accepted : placeholderConverter.validate [placeholderFlow] = .ok () := rfl
  have run := resolves_reply placeholderContent.answer
    ((Loader.asking placeholderConfig.loaderSettings).load ⟨"octo", "cat"⟩) []
  rw [loaded] at run
  obtain ⟨-, each⟩ := entrypoint_bindings valid made run accepted
  obtain ⟨value, whole, inputs⟩ := each placeholderFlow (List.mem_singleton_self _)
  refine ⟨valid, made, loaded, accepted, whole.trans ?_⟩
  have token : value "$\x7b\x7bsecrets.GITHUB_TOKEN\x7d\x7d" = "t0ken" := by
    obtain ⟨t, given, -, same⟩ := (inputs _ (List.mem_singleton_self _) _ (List.mem_cons_self)).1 (by decide +kernel)
    cases given
    exact same
  have mode : value "fast" = "fast" :=
    ((inputs _ (List.mem_singleton_self _) _ (List.mem_cons_of_mem _ (List.mem_singleton_self _))).2.1
      (by decide +kernel)).1
  have origin : bindings ("// Generated from " ++ placeholderFlow.name) = [] := by decide +kernel
  have step : bindings "    // a-0" = [] := by decide +kernel
  have names : inputVariable "key" = "INPUT_KEY" ∧ inputVariable "mode" = "INPUT_MODE" := by decide +kernel
  rw [origin]
  simp [placeholderFlow, placeholderConfig, step, names, token, mode]

end HookFlow
