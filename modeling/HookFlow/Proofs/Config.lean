import HookFlow.Config.Basic
/-!
What a configuration promises that has passed its checks.

Results:
- `validate_eq_ok`: a configuration is accepted exactly if none of its six faults is there.
-/

namespace HookFlow.Config

/-- **A configuration is accepted exactly if it has none of the faults.** -/
theorem validate_eq_ok {c : Config} : c.validate = .ok () ↔
    Text.allBlank c.github.workflowsPath = false ∧ Text.allBlank c.github.metadataFile = false ∧
      (Url.parse? c.github.apiUrl).isSome = true ∧
      Text.contains c.codegen.options.placeholder Placeholder.marker = true ∧ c.azure.sasExpiryHours ≠ 0 ∧
      Text.allBlank c.package.functionName = false := by
  have passed : c.validate = .ok () ↔ c.fault? = none := by
    rw [validate]
    cases c.fault? <;> simp
  have first (p : Prop) [Decidable p] (text : String) (others : Option String) :
      (if p then some text else others) = none ↔ ¬ p ∧ others = none := by
    by_cases fault : p <;> simp [fault]
  simp only [passed, fault?, first, Bool.not_eq_true, Bool.not_eq_true', Bool.not_eq_false, Option.isNone_eq_false_iff,
    beq_eq_false_iff_ne, and_true]

end HookFlow.Config
