import HookFlow.Converter
import HookFlow.Proofs.Except
/-!
Converters: when a configuration has one, and which batches it accepts.

A configuration describes one converter, and has it if its secret is not blank. The converter accepts every batch if it
has a token, and otherwise the batches in which no input stands for one.

Results:
- `ofConfig_eq_ok`: which converter a configuration has, and when.
- `validate_eq_ok`: which batches are accepted.
- `validate_failed`: a batch that is refused is not valid.
-/

namespace HookFlow.Converter

open Text (allBlank)

variable {config : Config} {runtime : Runtime} {c : Converter} {flows : List Flow}

/-! ## Converters of configurations -/

/-- the converter that a configuration describes, with a runtime -/
def described (config : Config) (runtime : Runtime) : Converter where
  secret := config.codegen.webhookSecret
  token := config.github.token.getD ""
  options := config.codegen.options
  packager := { runtime, functionName := config.package.functionName }

theorem ofConfig_eq_ite (config : Config) (runtime : Runtime) : ofConfig config runtime =
    if allBlank config.codegen.webhookSecret then .error missingSecret else .ok (described config runtime) := by
  rw [ofConfig, checkSecret]
  cases allBlank config.codegen.webhookSecret <;> rfl

/-- **A configuration has a converter exactly if its secret is not blank**, and then it is the one it describes. -/
theorem ofConfig_eq_ok :
    ofConfig config runtime = .ok c ↔ allBlank config.codegen.webhookSecret = false ∧ c = described config runtime := by
  rw [ofConfig_eq_ite]
  cases allBlank config.codegen.webhookSecret <;> simp [eq_comm]

/-! ## Batches -/

theorem checkSecret_eq_ok : c.checkSecret = .ok () ↔ allBlank c.secret = false := by
  rw [checkSecret]
  cases allBlank c.secret <;> simp

theorem tokenNeed?_eq_none {placeholder : String} {f : Flow} : tokenNeed? placeholder f = none ↔
    ∀ s ∈ f.steps, ∀ e ∈ s.inputs, Placeholder.isToken e.2 placeholder = false := by
  simp [tokenNeed?]

theorem checkToken_eq_ok : c.checkToken flows = .ok () ↔ ∀ f ∈ flows, ∀ s ∈ f.steps, ∀ e ∈ s.inputs,
    Placeholder.isToken e.2 c.options.placeholder = false := by
  simp only [← tokenNeed?_eq_none, checkToken]
  split
  next f found =>
    obtain ⟨flow, hf, told⟩ := List.exists_of_findSome?_eq_some found
    refine ⟨nofun, fun none => ?_⟩
    rw [none flow hf] at told
    cases told
  next none =>
    simp only [List.findSome?_eq_none_iff, Option.map_eq_none_iff] at none
    exact iff_of_true rfl none

/-- **A batch is accepted exactly if there is a secret, and a token or no input that stands for it.** -/
theorem validate_eq_ok : c.validate flows = .ok () ↔ allBlank c.secret = false ∧
    (allBlank c.token = true → ∀ f ∈ flows, ∀ s ∈ f.steps, ∀ e ∈ s.inputs,
      Placeholder.isToken e.2 c.options.placeholder = false) := by
  rw [validate, bind_eq_ok, ← checkToken_eq_ok, ← checkSecret_eq_ok]
  constructor
  · rintro ⟨⟨⟩, secret, token⟩
    refine ⟨secret, fun blank => ?_⟩
    rwa [if_pos blank] at token
  · rintro ⟨secret, token⟩
    refine ⟨(), secret, ?_⟩
    split
    next blank => exact token blank
    · rfl

/-- A batch is refused for what it holds, and before anything is done. -/
theorem validate_failed {f : Failure} (refused : c.validate flows = .error f) : f.category = .validation := by
  rcases bind_eq_error.1 refused with secret | ⟨_, -, token⟩
  · rw [checkSecret] at secret
    split at secret
    · cases secret
      rfl
    · cases secret
  split at token
  · rw [checkToken] at token
    split at token
    next need found =>
      cases token
      obtain ⟨flow, -, told⟩ := List.exists_of_findSome?_eq_some found
      obtain ⟨_, -, rfl⟩ := Option.map_eq_some_iff.1 told
      rfl
    · cases token
  · cases token

end HookFlow.Converter
