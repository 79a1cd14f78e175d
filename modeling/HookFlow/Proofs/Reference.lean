import HookFlow.Proofs.Text.Ascii
import HookFlow.Proofs.Text.Split
import HookFlow.Proofs.Text.Trim
import HookFlow.Reference
/-!
References as they are written: which texts name a published action.

A reference is an owner, a slash, a repository, an at sign and a ref. No part may be empty, and the characters of the
parts are few: neither a slash nor an at sign nor a blank is among them. So a text can be cut into the parts of a
reference in one way only, and blanks around it are the only freedom there is in writing it.

Results:
- `ofChars?_eq_some`: which trimmed texts name which reference.
- `render_inj`: the written form tells references apart.
- `parse?_published`: which texts name a reference, and which one.
-/

namespace HookFlow.ActionReference

open Text (IsTrimmed isDigit_iff isLower_iff isUpper_iff trim trimChars)

/-- a character of an owner or of a repository: a small letter or a hyphen -/
def IsNameLetter (c : Char) : Prop := ('a' ≤ c ∧ c ≤ 'z') ∨ c = '-'

/-- a character of a ref: a letter, a digit, a dot or a hyphen, all of them ASCII -/
def IsRefLetter (c : Char) : Prop :=
  ('a' ≤ c ∧ c ≤ 'z') ∨ ('A' ≤ c ∧ c ≤ 'Z') ∨ ('0' ≤ c ∧ c ≤ '9') ∨ c = '.' ∨ c = '-'

/-- a text with characters of one kind, and with one at least -/
def IsRun (letter : Char → Prop) (s : String) : Prop := s.toList ≠ [] ∧ ∀ c ∈ s.toList, letter c

/-- a reference to an action as it is published -/
structure IsPublished (r : ActionReference) : Prop where
  owner : IsRun IsNameLetter r.owner
  repo : IsRun IsNameLetter r.repo
  gitRef : IsRun IsRefLetter r.gitRef

/-! ## Characters -/

theorem isNameChar_iff {c : Char} : isNameChar c = true ↔ IsNameLetter c := by
  rw [isNameChar, Bool.or_eq_true, isLower_iff, beq_iff_eq, IsNameLetter]

theorem isRefChar_iff {c : Char} : isRefChar c = true ↔ IsRefLetter c := by
  change (((c.isUpper || c.isLower) || c.isDigit) || c == '.' || c == '-') = true ↔ _
  simp only [Bool.or_eq_true, isUpper_iff, isLower_iff, isDigit_iff, beq_iff_eq, IsRefLetter]
  tauto

theorem isRun_iff {p : Char → Bool} {letter : Char → Prop} (same : ∀ c, p c = true ↔ letter c) {cs : List Char} :
    IsRun letter (String.ofList cs) ↔ cs ≠ [] ∧ ∀ c ∈ cs, p c = true := by
  simp only [IsRun, String.toList_ofList, same]

/-- A name does not hold the character that stands behind it. -/
theorem IsRun.not_mem {s : String} {stop : Char} (run : IsRun IsNameLetter s) (other : isNameChar stop = false) :
    stop ∉ s.toList := fun inside => by
  rw [isNameChar_iff.2 (run.2 stop inside)] at other
  cases other

/-! ## Parts -/

theorem nameUpTo?_eq_some {stop : Char} (other : isNameChar stop = false) {cs name rest : List Char} :
    nameUpTo? stop cs = some (name, rest) ↔
      IsRun IsNameLetter (String.ofList name) ∧ cs = name ++ stop :: rest := by
  rw [isRun_iff fun c => isNameChar_iff, nameUpTo?]
  constructor
  · intro found
    split at found
    · rename_i c name' d rest' taken left
      split at found
      · rename_i same
        cases found
        have whole := List.takeWhile_append_dropWhile (p := isNameChar) (l := cs)
        rw [taken, left, same] at whole
        refine ⟨⟨List.cons_ne_nil _ _, fun c hc => ?_⟩, whole.symm⟩
        rw [← taken] at hc
        exact List.mem_takeWhile_imp hc
      · cases found
    · cases found
  · rintro ⟨⟨filled, letters⟩, rfl⟩
    have stops : ¬ isNameChar stop = true := by simp [other]
    have taken : (name ++ stop :: rest).takeWhile isNameChar = name := by
      rw [List.takeWhile_append_of_pos letters, List.takeWhile_cons_of_neg stops, List.append_nil]
    have left : (name ++ stop :: rest).dropWhile isNameChar = stop :: rest := by
      rw [List.dropWhile_append_of_pos letters, List.dropWhile_cons_of_neg stops]
    obtain ⟨c, name, rfl⟩ := List.exists_cons_of_ne_nil filled
    rw [taken, left]
    exact if_pos rfl

theorem toList_render (r : ActionReference) :
    r.render.toList = r.owner.toList ++ '/' :: (r.repo.toList ++ '@' :: r.gitRef.toList) := by
  simp [render, String.toList_append]

/-- **Which trimmed texts name which reference**: its written form, and nothing else. -/
theorem ofChars?_eq_some {cs : List Char} {r : ActionReference} :
    ofChars? cs = some r ↔ cs = r.render.toList ∧ r.IsPublished := by
  simp only [ofChars?, Option.bind_eq_bind, Option.bind_eq_some_iff, Prod.exists]
  constructor
  · rintro ⟨owner, behind, first, repo, gitRef, second, whole⟩
    obtain ⟨owned, rfl⟩ := (nameUpTo?_eq_some (by decide)).1 first
    obtain ⟨named, rfl⟩ := (nameUpTo?_eq_some (by decide)).1 second
    split at whole
    · cases whole
    · rename_i pinned
      cases whole
      simp only [Bool.or_eq_true, List.isEmpty_iff, Bool.not_eq_true', Bool.not_eq_false, not_or,
        List.all_eq_true] at pinned
      refine ⟨by simp [toList_render], owned, named, (isRun_iff fun c => isRefChar_iff).2 pinned⟩
  · rintro ⟨rfl, owned, named, pinned⟩
    refine ⟨r.owner.toList, _, (nameUpTo?_eq_some (by decide)).2 ⟨by simpa using owned, toList_render r⟩,
      r.repo.toList, _, (nameUpTo?_eq_some (by decide)).2 ⟨by simpa using named, rfl⟩, ?_⟩
    rw [← String.ofList_toList (s := r.gitRef), isRun_iff fun c => isRefChar_iff] at pinned
    rw [if_neg]
    · simp only [String.ofList_toList]
    · simpa using pinned

theorem parse?_eq_some {uses : String} {r : ActionReference} :
    parse? uses = some r ↔ trim uses = r.render ∧ r.IsPublished := by
  rw [parse?, ofChars?_eq_some, ← Text.toList_trim, String.toList_inj]

/-- **The written form tells references apart.** -/
theorem render_inj {r r' : ActionReference} (published : r.IsPublished) (published' : r'.IsPublished)
    (same : r.render = r'.render) : r = r' := by
  rw [← String.toList_inj, toList_render, toList_render] at same
  have slash : isNameChar '/' = false := by decide
  have sign : isNameChar '@' = false := by decide
  obtain ⟨owners, behind⟩ := Text.cut_first (published.owner.not_mem slash) (published'.owner.not_mem slash) same
  obtain ⟨repos, refs⟩ := Text.cut_first (published.repo.not_mem sign) (published'.repo.not_mem sign) behind
  cases r
  cases r'
  simp only [String.toList_inj] at owners repos refs
  rw [owners, repos, refs]

/-- **Which texts name a reference, and which one**: those that are, without the blanks around them, the written form of
one. There is at most one such reference. What is written of it is read back. Every other text names none. -/
theorem parse?_published (uses : String) :
    (∀ r, parse? uses = some r ↔ trim uses = r.render ∧ r.IsPublished) ∧
    (∀ r r' : ActionReference,
      trim uses = r.render → r.IsPublished → trim uses = r'.render → r'.IsPublished → r = r') ∧
    (∀ r, parse? uses = some r → parse? r.render = some r) ∧
    (parse? uses = none ↔ ∀ r : ActionReference, trim uses = r.render → ¬ r.IsPublished) := by
  refine ⟨fun r => parse?_eq_some, fun r r' written published written' published' => ?_, fun r read => ?_, ?_⟩
  · exact render_inj published published' (written.symm.trans written')
  · obtain ⟨written, published⟩ := parse?_eq_some.1 read
    exact parse?_eq_some.2 ⟨written ▸ Text.trim_trim uses, published⟩
  · simp only [Option.eq_none_iff_forall_ne_some, ne_eq, parse?_eq_some, not_and]

/-- a reference that is published -/
def setupNode : ActionReference := ⟨"actions", "setup-node", "v2.1.0"⟩

/-- Blanks around a reference do not count. A line end inside a text does, and so does a second slash. -/
theorem parse?_published_padded :
    trim "\u2003actions/setup-node@v2.1.0\n" = setupNode.render ∧ setupNode.IsPublished ∧
      parse? setupNode.render = some setupNode ∧
      (∀ r : ActionReference, trim "actions/aws/ec2@main" = r.render → ¬ r.IsPublished) ∧
      ∀ r : ActionReference, trim "a/b@v1\nc/d@v2" = r.render → ¬ r.IsPublished := by
  have read : parse? "\u2003actions/setup-node@v2.1.0\n" = some setupNode := by
    rw [parse?, String.toList_ofList]
    decide
  have nested : parse? "actions/aws/ec2@main" = none := by
    rw [parse?, String.toList_ofList]
    decide
  have lines : parse? "a/b@v1\nc/d@v2" = none := by
    rw [parse?, String.toList_ofList]
    decide
  obtain ⟨named, -, again, -⟩ := parse?_published "\u2003actions/setup-node@v2.1.0\n"
  obtain ⟨written, published⟩ := (named _).1 read
  exact ⟨written, published, again _ read, (parse?_published _).2.2.2.1 nested, (parse?_published _).2.2.2.1 lines⟩

end HookFlow.ActionReference
