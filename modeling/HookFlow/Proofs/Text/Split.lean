import HookFlow.Text.Blank
import Mathlib.Data.List.TakeWhile
import Mathlib.Data.String.Basic
/-!
Texts that are cut at a character: cutting undoes joining.

Results:
- `splitChars_append`: a text is cut where the character stands between two parts.
- `splitChars_join`: parts without the character come back in order.
- `intercalate_splitChars`, `splitChars_free`: the pieces of a text make up the text, and none holds the character.
- `cut_first`, `cut_last`: where a list is cut at the first or the last place of an element.
- `intercalate_inj`: as many parts without the element are told apart when they are joined by it.
-/

namespace HookFlow.Text

theorem splitChars_ne_nil (sep : Char) (cs : List Char) : splitChars sep cs ≠ [] := by
  cases cs with
  | nil => exact List.cons_ne_nil _ _
  | cons c cs =>
    simp only [splitChars]
    split
    · exact List.cons_ne_nil _ _
    · split <;> exact List.cons_ne_nil _ _

theorem splitChars_append (sep : Char) (as bs : List Char) :
    splitChars sep (as ++ sep :: bs) = splitChars sep as ++ splitChars sep bs := by
  induction as with
  | nil => simp [splitChars]
  | cons a as ih =>
    simp only [List.cons_append, splitChars, ih]
    split
    · rfl
    · cases pieces : splitChars sep as with
      | nil => exact absurd pieces (splitChars_ne_nil sep as)
      | cons p ps => rfl

theorem splitChars_single {sep : Char} {cs : List Char} (single : sep ∉ cs) : splitChars sep cs = [cs] := by
  induction cs with
  | nil => rfl
  | cons c cs ih =>
    obtain ⟨first, later⟩ := not_or.1 (mt List.mem_cons.2 single)
    simp [splitChars, Ne.symm first, ih later]

/-- Cutting undoes joining, and cuts the parts that hold the character. -/
theorem splitChars_intercalate (sep : Char) (first : List Char) (rest : List (List Char)) :
    splitChars sep ([sep].intercalate (first :: rest)) = (first :: rest).flatMap (splitChars sep) := by
  induction rest generalizing first with
  | nil => simp
  | cons second rest ih =>
    rw [List.intercalate_cons_cons, List.append_assoc, List.singleton_append, splitChars_append, ih]
    rfl

/-- **Parts that do not hold the character come back in order.** -/
theorem splitChars_join {sep : Char} {first : List Char} {rest : List (List Char)} (single : sep ∉ first)
    (others : ∀ part ∈ rest, sep ∉ part) : splitChars sep ([sep].intercalate (first :: rest)) = first :: rest := by
  have each : ∀ part ∈ first :: rest, splitChars sep part = [part] :=
    List.forall_mem_cons.2 ⟨splitChars_single single, fun part hpart => splitChars_single (others part hpart)⟩
  rw [splitChars_intercalate, List.flatMap_congr each, List.flatMap_singleton']

/-- What is in front of the first place of the character belongs to the first piece. -/
theorem splitChars_front {sep : Char} {front : List Char} (free : sep ∉ front) (cs : List Char) :
    ∃ p ps, splitChars sep (front ++ cs) = (front ++ p) :: ps := by
  induction front with
  | nil => exact List.exists_cons_of_ne_nil (splitChars_ne_nil sep cs)
  | cons c front ih =>
    obtain ⟨first, later⟩ := not_or.1 (mt List.mem_cons.2 free)
    obtain ⟨p, ps, pieces⟩ := ih later
    exact ⟨p, ps, by simp [splitChars, pieces, Ne.symm first]⟩

/-- The pieces of a text, by induction on it: no text is one empty piece, the character starts another piece, and any
other character belongs to the piece behind it. -/
theorem splitChars_induction {sep : Char} {P : List Char → List (List Char) → Prop} (empty : P [] [[]])
    (cut : ∀ cs p ps, P cs (p :: ps) → P (sep :: cs) ([] :: p :: ps))
    (keep : ∀ c cs p ps, c ≠ sep → P cs (p :: ps) → P (c :: cs) ((c :: p) :: ps)) (cs : List Char) :
    P cs (splitChars sep cs) := by
  induction cs with
  | nil => exact empty
  | cons c cs ih =>
    obtain ⟨p, ps, pieces⟩ := List.exists_cons_of_ne_nil (splitChars_ne_nil sep cs)
    rw [pieces] at ih
    simp only [splitChars, pieces]
    split
    next same => exact same ▸ cut cs p ps ih
    next other => exact keep c cs p ps other ih

/-- **The pieces of a text make up the text.** -/
theorem intercalate_splitChars (sep : Char) (cs : List Char) : [sep].intercalate (splitChars sep cs) = cs := by
  refine splitChars_induction (P := fun cs pieces => [sep].intercalate pieces = cs) rfl ?_ ?_ cs
  · intro cs p ps whole
    rw [List.intercalate_cons_cons, whole]
    rfl
  · intro c cs p ps _ whole
    cases ps with
    | nil => rw [← whole, List.intercalate_singleton, List.intercalate_singleton]
    | cons q qs => rw [← whole, List.intercalate_cons_cons, List.intercalate_cons_cons]; rfl

/-- No piece holds the character. -/
theorem splitChars_free {sep : Char} (cs : List Char) : ∀ p ∈ splitChars sep cs, sep ∉ p := by
  refine splitChars_induction (P := fun _ pieces => ∀ p ∈ pieces, sep ∉ p) (by simp) ?_ ?_ cs
  · intro _ p ps free
    exact List.forall_mem_cons.2 ⟨List.not_mem_nil, free⟩
  · intro c _ p ps other free
    obtain ⟨first, others⟩ := List.forall_mem_cons.1 free
    exact List.forall_mem_cons.2 ⟨fun among => (List.mem_cons.1 among).elim (Ne.symm other) first, others⟩

/-- A piece is a block of the text, and the first one is its beginning. -/
theorem splitChars_infix {sep : Char} (cs : List Char) :
    (∀ p ∈ (splitChars sep cs).head?, p <+: cs) ∧ ∀ s ∈ splitChars sep cs, s <:+: cs := by
  refine splitChars_induction (P := fun cs pieces => (∀ p ∈ pieces.head?, p <+: cs) ∧ ∀ s ∈ pieces, s <:+: cs)
    (by simp) ?_ ?_ cs
  · rintro cs p ps ⟨-, blocks⟩
    refine ⟨by simp, List.forall_mem_cons.2 ⟨List.nil_infix, fun s hs => ?_⟩⟩
    exact (blocks s hs).trans (List.suffix_cons sep cs).isInfix
  · rintro c cs p ps - ⟨first, blocks⟩
    have start : c :: p <+: c :: cs := List.cons_prefix_cons.2 ⟨rfl, first p rfl⟩
    refine ⟨by simpa using start, List.forall_mem_cons.2 ⟨start.isInfix, fun s hs => ?_⟩⟩
    exact (blocks s (List.mem_cons_of_mem _ hs)).trans (List.suffix_cons c cs).isInfix

/-- What stands before the first place of a character. -/
theorem takeWhile_cut {sep : Char} {as : List Char} (free : sep ∉ as) (bs : List Char) :
    (as ++ sep :: bs).takeWhile (· != sep) = as := by
  have plain : ∀ c ∈ as, (c != sep) = true := fun c hc => bne_iff_ne.2 fun same => free (same ▸ hc)
  rw [List.takeWhile_append_of_pos plain, List.takeWhile_cons_of_neg (by simp), List.append_nil]

/-- What follows the first place of a character, and the character. -/
theorem dropWhile_cut {sep : Char} {as : List Char} (free : sep ∉ as) (bs : List Char) :
    (as ++ sep :: bs).dropWhile (· != sep) = sep :: bs := by
  have plain : ∀ c ∈ as, (c != sep) = true := fun c hc => bne_iff_ne.2 fun same => free (same ▸ hc)
  rw [List.dropWhile_append_of_pos plain, List.dropWhile_cons_of_neg (by simp)]

/-- A text that holds a character is what stands before its first place, the character, and what follows. -/
theorem cut_of_dropWhile {sep c : Char} {cs rest : List Char} (left : cs.dropWhile (· != sep) = c :: rest) :
    sep ∉ cs.takeWhile (· != sep) ∧ cs = cs.takeWhile (· != sep) ++ sep :: rest := by
  have stops := List.head?_dropWhile_not (· != sep) cs
  have whole := List.takeWhile_append_dropWhile (p := (· != sep)) (l := cs)
  have same : c = sep := by simpa [left] using stops
  rw [left, same] at whole
  exact ⟨fun inside => by simpa using List.mem_takeWhile_imp inside, whole.symm⟩

/-! ## Lists that are joined -/

section

variable {α : Type} {sep : α}

/-- Parts up to the first place of an element. -/
theorem cut_first {as as' bs bs' : List α} (free : sep ∉ as) (free' : sep ∉ as')
    (same : as ++ sep :: bs = as' ++ sep :: bs') : as = as' ∧ bs = bs' := by
  induction as generalizing as' with
  | nil =>
    cases as' with
    | nil => exact ⟨rfl, (List.cons.inj same).2⟩
    | cons a as' => exact absurd (List.mem_cons.2 (.inl (List.cons.inj same).1)) free'
  | cons a as ih =>
    cases as' with
    | nil => exact absurd (List.mem_cons.2 (.inl (List.cons.inj same).1.symm)) free
    | cons a' as' =>
      obtain ⟨rfl, later⟩ := List.cons.inj same
      obtain ⟨rfl, rest⟩ := ih (fun among => free (List.mem_cons_of_mem _ among))
        (fun among => free' (List.mem_cons_of_mem _ among)) later
      exact ⟨rfl, rest⟩

/-- Parts from the last place of an element. -/
theorem cut_last {as as' bs bs' : List α} (free : sep ∉ bs) (free' : sep ∉ bs')
    (same : as ++ sep :: bs = as' ++ sep :: bs') : as = as' ∧ bs = bs' := by
  have reversed : bs.reverse ++ sep :: as.reverse = bs'.reverse ++ sep :: as'.reverse := by
    simpa using congrArg List.reverse same
  obtain ⟨last, first⟩ := cut_first (by simpa using free) (by simpa using free') reversed
  exact ⟨List.reverse_injective first, List.reverse_injective last⟩

variable [DecidableEq α]

theorem count_intercalate_cons_cons (p q : List α) (parts : List (List α)) :
    ([sep].intercalate (p :: q :: parts)).count sep = p.count sep + 1 + ([sep].intercalate (q :: parts)).count sep := by
  rw [List.intercalate_cons_cons, List.count_append, List.count_append, List.count_singleton_self]

theorem length_le_count (p : List α) (parts : List (List α)) :
    parts.length ≤ ([sep].intercalate (p :: parts)).count sep := by
  induction parts generalizing p with
  | nil => exact Nat.zero_le _
  | cons q parts ih =>
    have later := ih q
    rw [count_intercalate_cons_cons, List.length_cons]
    omega

theorem count_eq_length {p : List α} {parts : List (List α)} (free : ∀ q ∈ p :: parts, sep ∉ q) :
    ([sep].intercalate (p :: parts)).count sep = parts.length := by
  induction parts generalizing p with
  | nil => rw [List.intercalate_singleton, List.count_eq_zero.2 (free p List.mem_cons_self), List.length_nil]
  | cons q parts ih =>
    obtain ⟨first, others⟩ := List.forall_mem_cons.1 free
    rw [count_intercalate_cons_cons, ih others, List.count_eq_zero.2 first, List.length_cons]
    omega

/-- **As many parts without the element are told apart when they are joined by it**, even from parts that hold it. -/
theorem intercalate_inj {parts parts' : List (List α)} (free : ∀ p ∈ parts, sep ∉ p)
    (length : parts'.length = parts.length) (same : [sep].intercalate parts = [sep].intercalate parts') :
    parts = parts' := by
  induction parts generalizing parts' with
  | nil => exact (List.eq_nil_of_length_eq_zero length).symm
  | cons p parts ih =>
    cases parts' with
    | nil => cases length
    | cons p' parts' =>
      rw [List.length_cons, List.length_cons, Nat.add_right_cancel_iff] at length
      cases parts with
      | nil =>
        rw [List.eq_nil_of_length_eq_zero length] at same ⊢
        rw [List.intercalate_singleton, List.intercalate_singleton] at same
        rw [same]
      | cons q parts =>
        cases parts' with
        | nil => cases length
        | cons q' parts' =>
          have count := count_eq_length free
          have count' : parts'.length ≤ ([sep].intercalate (q' :: parts')).count sep := length_le_count q' parts'
          rw [same, count_intercalate_cons_cons] at count
          rw [List.length_cons] at count
          rw [List.length_cons, List.length_cons] at length
          have free' : sep ∉ p' := List.count_eq_zero.1 (by omega)
          rw [List.intercalate_cons_cons, List.intercalate_cons_cons, List.append_assoc, List.append_assoc] at same
          obtain ⟨first, later⟩ := cut_first (List.forall_mem_cons.1 free).1 free' same
          rw [first, ih (List.forall_mem_cons.1 free).2 (by rw [List.length_cons, List.length_cons, length]) later]

end

end HookFlow.Text
