import HookFlow.Text.Blank
import Mathlib.Data.List.TakeWhile
/-!
Trimmed texts: what is left between the blanks at the two ends.

A text is some blanks, a text that neither starts nor ends with a blank, and some blanks again. The text in the middle
is the only one for which that can be said, and it is what trimming gives.

Results:
- `trimChars_eq_iff`: what trimming gives.
- `IsTrimmed.trim_eq`: a text without blanks at its ends stays as it is.
-/

namespace HookFlow.Text

/-- whether a text has blanks only -/
def Blanks (cs : List Char) : Prop := ∀ c ∈ cs, isBlank c = true

/-- a text with no blank at its ends; inside there may be some -/
structure IsTrimmed (cs : List Char) : Prop where
  first : ∀ c ∈ cs.head?, isBlank c = false
  last : ∀ c ∈ cs.getLast?, isBlank c = false

theorem Blanks.reverse {cs : List Char} (blanks : Blanks cs) : Blanks cs.reverse :=
  fun c hc => blanks c (List.mem_reverse.1 hc)

theorem trimStart_of_first {cs : List Char} (first : ∀ c ∈ cs.head?, isBlank c = false) : trimStart cs = cs := by
  cases cs with
  | nil => rfl
  | cons c cs => exact List.dropWhile_cons_of_neg (by simp [first c rfl])

theorem trimStart_append {front : List Char} (blanks : Blanks front) (cs : List Char) :
    trimStart (front ++ cs) = trimStart cs :=
  List.dropWhile_append_of_pos blanks

theorem trimStart_cut (cs : List Char) : ∃ front, Blanks front ∧ cs = front ++ trimStart cs :=
  ⟨cs.takeWhile isBlank, fun _ => List.mem_takeWhile_imp, (List.takeWhile_append_dropWhile).symm⟩

theorem first_trimStart (cs : List Char) : ∀ c ∈ (trimStart cs).head?, isBlank c = false := by
  intro c hc
  have stops := List.head?_dropWhile_not isBlank cs
  rw [trimStart] at hc
  rw [hc] at stops
  exact stops

theorem trimEnd_append {back : List Char} (blanks : Blanks back) (cs : List Char) :
    trimEnd (cs ++ back) = trimEnd cs := by
  have same := trimStart_append blanks.reverse cs.reverse
  rw [trimStart, trimStart, ← List.reverse_append] at same
  rw [trimEnd, trimEnd, same]

theorem trimEnd_of_last {cs : List Char} (last : ∀ c ∈ cs.getLast?, isBlank c = false) : trimEnd cs = cs := by
  have same : trimStart cs.reverse = cs.reverse := trimStart_of_first (by simpa using last)
  rw [trimStart] at same
  rw [trimEnd, same, List.reverse_reverse]

theorem trimEnd_cut (cs : List Char) : ∃ back, Blanks back ∧ cs = trimEnd cs ++ back := by
  obtain ⟨front, blanks, cut⟩ := trimStart_cut cs.reverse
  refine ⟨front.reverse, blanks.reverse, ?_⟩
  have same := congrArg List.reverse cut
  rwa [List.reverse_reverse, List.reverse_append] at same

theorem last_trimEnd (cs : List Char) : ∀ c ∈ (trimEnd cs).getLast?, isBlank c = false := by
  have first := first_trimStart cs.reverse
  rwa [trimEnd, List.getLast?_reverse]

/-- What stands between blanks is left. -/
theorem IsTrimmed.trimChars_append {front cs back : List Char} (trimmed : IsTrimmed cs) (before : Blanks front)
    (behind : Blanks back) : trimChars (front ++ cs ++ back) = cs := by
  rw [trimChars, List.append_assoc, trimStart_append before]
  cases cs with
  | nil =>
    have nothing : trimStart ([] ++ back) = [] := List.dropWhile_eq_nil_iff.2 behind
    rw [nothing]
    rfl
  | cons c cs =>
    have kept : trimStart (c :: cs ++ back) = c :: cs ++ back := trimStart_of_first trimmed.first
    rw [kept, trimEnd_append behind, trimEnd_of_last trimmed.last]

theorem trimChars_cut (cs : List Char) :
    ∃ front back, cs = front ++ trimChars cs ++ back ∧ Blanks front ∧ Blanks back ∧ IsTrimmed (trimChars cs) := by
  obtain ⟨front, before, start⟩ := trimStart_cut cs
  obtain ⟨back, behind, rest⟩ := trimEnd_cut (trimStart cs)
  refine ⟨front, back, ?_, before, behind, ⟨fun c hc => ?_, last_trimEnd _⟩⟩
  · rw [trimChars, List.append_assoc, ← rest]
    exact start
  · -- what was cut off at the end cannot have been in front of `c`
    refine first_trimStart cs c ?_
    rw [rest, List.head?_append, ← trimChars, hc]
    rfl

/-- **What trimming gives**: the text without blanks at its ends that has only blanks around it. -/
theorem trimChars_eq_iff {cs ds : List Char} : trimChars cs = ds ↔
    ∃ front back, cs = front ++ ds ++ back ∧ Blanks front ∧ Blanks back ∧ IsTrimmed ds := by
  constructor
  · rintro rfl
    exact trimChars_cut cs
  · rintro ⟨front, back, rfl, before, behind, trimmed⟩
    exact trimmed.trimChars_append before behind

theorem toList_trim (s : String) : (trim s).toList = trimChars s.toList := String.toList_ofList

/-- **A text without blanks at its ends stays as it is.** -/
theorem IsTrimmed.trim_eq {s : String} (trimmed : IsTrimmed s.toList) : trim s = s := by
  rw [← String.toList_inj, toList_trim]
  exact trimChars_eq_iff.2 ⟨[], [], by simp, nofun, nofun, trimmed⟩

theorem isTrimmed_trim (s : String) : IsTrimmed (trim s).toList := by
  obtain ⟨front, back, -, -, -, trimmed⟩ := trimChars_cut s.toList
  rwa [toList_trim]

/-- Trimming once is enough. -/
theorem trim_trim (s : String) : trim (trim s) = trim s := (isTrimmed_trim s).trim_eq

end HookFlow.Text
