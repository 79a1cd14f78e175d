import HookFlow.Text.Utf8
/-!
Letters and digits of ASCII, as ranges of characters, and what is found out about ASCII by trying its characters.

Results:
- `isLower_iff`, `isUpper_iff`, `isDigit_iff`: which characters they are.
- `forall_ascii`: what holds of 128 characters holds of all of ASCII.
-/

namespace HookFlow.Text

theorem isBetween_iff {low high c : Char} :
    (decide (low.val ≤ c.val) && decide (c.val ≤ high.val)) = true ↔ low ≤ c ∧ c ≤ high := by
  rw [Bool.and_eq_true, decide_eq_true_eq, decide_eq_true_eq, Char.le_def, Char.le_def]

theorem isLower_iff {c : Char} : c.isLower = true ↔ 'a' ≤ c ∧ c ≤ 'z' := @isBetween_iff 'a' 'z' c

theorem isUpper_iff {c : Char} : c.isUpper = true ↔ 'A' ≤ c ∧ c ≤ 'Z' := decide_eq_true_iff

theorem isDigit_iff {c : Char} : c.isDigit = true ↔ '0' ≤ c ∧ c ≤ '9' := @isBetween_iff '0' '9' c

theorem ascii_of_le {c d : Char} (le : c ≤ d) (ascii : d.toNat < 128) : c.toNat < 128 :=
  Nat.lt_of_le_of_lt (UInt32.le_iff_toNat_le.1 (Char.le_def.1 le)) ascii

/-- What holds of the first 128 characters, which `decide` tries one by one, holds of every character of ASCII. -/
theorem forall_ascii {P : Char → Prop} (each : ∀ n < 128, P (Char.ofNat n)) {c : Char} (ascii : c.toNat < 128) :
    P c := by
  have here := each c.toNat ascii
  rwa [Char.ofNat_toNat] at here

end HookFlow.Text
