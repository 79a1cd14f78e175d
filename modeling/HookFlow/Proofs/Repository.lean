import HookFlow.Proofs.Text.Split
import HookFlow.Proofs.Text.Trim
import HookFlow.Repository
/-!
Repositories as they are written: which texts name one.

A text names a repository if it has, blanks around it aside, one slash and something on both sides of it. What is
written of the repository is that text without the blanks around it, so it names the same repository. Blanks right beside
the slash belong to the parts and are kept.

Results:
- `ofChars?_eq_some`: which trimmed texts name which repository.
- `parse?_render`: what is written of a repository that was read is read back.
- `parse?_slashed`: which texts name a repository, and what is written of it.
-/

namespace HookFlow.Repository

open Text (IsTrimmed trim trimChars)

/-- a repository as it can be read: both parts are there, and neither holds a slash -/
structure IsPlain (r : Repository) : Prop where
  owned : r.owner.toList ≠ []
  named : r.name.toList ≠ []
  ownerPlain : '/' ∉ r.owner.toList
  namePlain : '/' ∉ r.name.toList

theorem toList_render (r : Repository) : r.render.toList = r.owner.toList ++ '/' :: r.name.toList := by
  simp [render, String.toList_append]

/-- **Which trimmed texts name which repository**: its written form, and nothing else. -/
theorem ofChars?_eq_some {cs : List Char} {r : Repository} :
    ofChars? cs = some r ↔ cs = r.render.toList ∧ r.IsPlain := by
  rw [toList_render, ofChars?]
  constructor
  · intro read
    split at read
    · rename_i c rest left
      split at read
      · cases read
      · rename_i filled
        cases read
        simp only [Bool.or_eq_true, List.isEmpty_iff, List.contains_iff_mem, not_or] at filled
        obtain ⟨⟨owned, named⟩, plain⟩ := filled
        obtain ⟨front, whole⟩ := Text.cut_of_dropWhile left
        simp only [String.toList_ofList]
        exact ⟨whole, by simpa using owned, by simpa using named, by simpa using front, by simpa using plain⟩
    · cases read
  · rintro ⟨rfl, owned, named, ownerPlain, namePlain⟩
    simp only [Text.takeWhile_cut ownerPlain, Text.dropWhile_cut ownerPlain, String.ofList_toList]
    rw [if_neg]
    simpa using ⟨⟨by simpa using owned, by simpa using named⟩, namePlain⟩

theorem parse?_eq_some {text : String} {r : Repository} : parse? text = some r ↔ trim text = r.render ∧ r.IsPlain := by
  rw [parse?, ofChars?_eq_some, ← Text.toList_trim, String.toList_inj]

/-- What is written of a repository that was read is read back. -/
theorem parse?_render {text : String} {r : Repository} (read : parse? text = some r) : parse? r.render = some r := by
  obtain ⟨written, plain⟩ := parse?_eq_some.1 read
  exact parse?_eq_some.2 ⟨written ▸ Text.trim_trim text, plain⟩

/-- **Which texts name a repository**: those that have one slash, blanks around them aside, and something on both sides
of it. What is written of the repository is the text without the blanks around it, and that is read back. -/
theorem parse?_slashed (text : String) :
    ((parse? text).isSome ↔ (trim text).toList.count '/' = 1 ∧
      ∃ left right, left ≠ [] ∧ right ≠ [] ∧ (trim text).toList = left ++ '/' :: right) ∧
    ∀ r, parse? text = some r → r.render = trim text ∧ parse? r.render = some r := by
  refine ⟨⟨fun some => ?_, ?_⟩, fun r read => ⟨(parse?_eq_some.1 read).1.symm, parse?_render read⟩⟩
  · obtain ⟨r, read⟩ := Option.isSome_iff_exists.1 some
    obtain ⟨written, plain⟩ := parse?_eq_some.1 read
    rw [written, toList_render]
    refine ⟨?_, _, _, plain.owned, plain.named, rfl⟩
    rw [List.count_append, List.count_cons_self, List.count_eq_zero.2 plain.ownerPlain,
      List.count_eq_zero.2 plain.namePlain]
  · rintro ⟨once, left, right, owned, named, cut⟩
    rw [cut, List.count_append, List.count_cons_self] at once
    have leftPlain : '/' ∉ left := List.count_eq_zero.1 (by omega)
    have rightPlain : '/' ∉ right := List.count_eq_zero.1 (by omega)
    have read : parse? text = some ⟨String.ofList left, String.ofList right⟩ := by
      refine parse?_eq_some.2 ⟨?_, by simpa, by simpa, by simpa, by simpa⟩
      rw [← String.toList_inj, cut, toList_render, String.toList_ofList, String.toList_ofList]
    exact Option.isSome_iff_exists.2 ⟨_, read⟩

/-- Blanks around a text do not count, blanks beside its slash do. -/
theorem parse?_slashed_spaced :
    parse? "\u00a0 owner /  a name\n" = some ⟨"owner ", "  a name"⟩ ∧
      (⟨"owner ", "  a name"⟩ : Repository).render = trim "\u00a0 owner /  a name\n" ∧
      parse? "owner /  a name" = some ⟨"owner ", "  a name"⟩ := by
  have read : parse? "\u00a0 owner /  a name\n" = some ⟨"owner ", "  a name"⟩ := by
    rw [parse?, String.toList_ofList]
    decide
  obtain ⟨written, again⟩ := (parse?_slashed _).2 _ read
  exact ⟨read, written, again⟩

end HookFlow.Repository
