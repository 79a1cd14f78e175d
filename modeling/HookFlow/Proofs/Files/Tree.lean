import HookFlow.Files.System
import HookFlow.Proofs.Distinct
import HookFlow.Proofs.Text.Order
/-!
The files of a tree: each of them once, in the order of their paths.

Following names from the root of a tree and listing all its files are two ways to the same files, if no directory
lists a name twice. The listing ascends component by component and byte by byte, so it does not depend on the order in
which the directories are listed.

Results:
- `mem_files`: the listed files are the ones that names lead to.
- `files_ascending`: every path comes once, behind all smaller ones.
- `slash_of_follow`: no name on the way to a file holds a slash.
-/

namespace HookFlow

open Text (Bytes encode encode_lt)

namespace FileTree

mutual

/-- whether no directory lists a name twice and no name holds a slash -/
def isProper : FileTree → Bool
  | .file _ => true
  | .directory entries => (entries.map Prod.fst).Nodup && areProper entries

/-- whether the entries of a directory are proper, each for itself -/
def areProper : List (String × FileTree) → Bool
  | [] => true
  | (name, t) :: rest => !name.toList.contains '/' && isProper t && areProper rest

end

/-! ## All files -/

theorem follow_cons {name : String} {rest : List String} {entries : List (String × FileTree)} {t : FileTree} :
    (directory entries).follow (name :: rest) = .ok t ↔
      ∃ below, entries.lookup name = some below ∧ below.follow rest = .ok t := by
  have step : (directory entries).follow (name :: rest) =
      ((directory entries).child name).bind fun below => below.follow rest := by
    rw [follow]
    rfl
  rw [step, child]
  cases entries.lookup name with
  | none => exact ⟨nofun, nofun⟩
  | some below =>
    constructor
    · intro found
      exact ⟨below, rfl, found⟩
    · rintro ⟨t', same, found⟩
      cases same
      exact found

mutual

/-- **The files that are gathered are the ones that names lead to.** -/
theorem mem_gather (t : FileTree) (proper : t.isProper = true) (path p : List String) (bytes : Bytes) :
    (p, bytes) ∈ gather path t ↔ ∃ rest, p = path ++ rest ∧ t.follow rest = .ok (.file bytes) := by
  cases t with
  | file content =>
    simp only [gather, List.mem_singleton, Prod.mk.injEq]
    constructor
    · rintro ⟨rfl, rfl⟩
      exact ⟨[], (List.append_nil p).symm, rfl⟩
    · rintro ⟨rest, rfl, found⟩
      cases rest with
      | nil =>
        cases found
        exact ⟨List.append_nil path, rfl⟩
      | cons name rest => cases found
  | directory entries =>
    simp only [isProper, Bool.and_eq_true, decide_eq_true_eq] at proper
    rw [gather, mem_gatherEntries entries proper.1 proper.2]
    constructor
    · rintro ⟨name, t, rest, held, rfl, found⟩
      exact ⟨name :: rest, rfl, follow_cons.2 ⟨t, held, found⟩⟩
    · rintro ⟨rest, rfl, found⟩
      cases rest with
      | nil => cases found
      | cons name rest =>
        obtain ⟨t, held, found⟩ := follow_cons.1 found
        exact ⟨name, t, rest, held, rfl, found⟩

theorem mem_gatherEntries (entries : List (String × FileTree)) (distinct : (entries.map Prod.fst).Nodup)
    (proper : areProper entries = true) (path p : List String) (bytes : Bytes) :
    (p, bytes) ∈ gatherEntries path entries ↔
      ∃ name t rest, entries.lookup name = some t ∧ p = path ++ name :: rest ∧ t.follow rest = .ok (.file bytes) := by
  match entries with
  | [] => simp [gatherEntries]
  | (first, tree) :: others =>
    simp only [areProper, Bool.and_eq_true] at proper
    simp only [List.map_cons, List.nodup_cons] at distinct
    rw [gatherEntries, List.mem_append, mem_gather tree proper.1.2,
      mem_gatherEntries others distinct.2 proper.2]
    constructor
    · rintro (⟨rest, rfl, found⟩ | ⟨name, t, rest, held, rfl, found⟩)
      · exact ⟨first, tree, rest, List.lookup_cons_self, by simp, found⟩
      · refine ⟨name, t, rest, ?_, rfl, found⟩
        have other : name ≠ first := by
          rintro rfl
          exact distinct.1 (List.mem_map_of_mem (mem_of_lookup held))
        rw [List.lookup_cons, beq_eq_false_iff_ne.2 other]
        exact held
    · rintro ⟨name, t, rest, held, rfl, found⟩
      by_cases same : name = first
      · subst same
        rw [List.lookup_cons_self] at held
        cases held
        exact .inl ⟨rest, by simp, found⟩
      · rw [List.lookup_cons, beq_eq_false_iff_ne.2 same] at held
        exact .inr ⟨name, t, rest, held, rfl, found⟩

end

/-- A path that is gathered starts with the place of its tree. -/
theorem prefix_of_mem_gather {t : FileTree} (proper : t.isProper = true) {path p : List String} {bytes : Bytes}
    (held : (p, bytes) ∈ gather path t) : path <+: p := by
  obtain ⟨rest, rfl, -⟩ := (mem_gather t proper path p bytes).1 held
  exact List.prefix_append path rest

mutual

/-- No path is gathered twice. -/
theorem nodup_gather (t : FileTree) (proper : t.isProper = true) (path : List String) :
    ((gather path t).map Prod.fst).Nodup := by
  cases t with
  | file content => simp [gather]
  | directory entries =>
    simp only [isProper, Bool.and_eq_true, decide_eq_true_eq] at proper
    exact nodup_gatherEntries entries proper.1 proper.2 path

theorem nodup_gatherEntries (entries : List (String × FileTree)) (distinct : (entries.map Prod.fst).Nodup)
    (proper : areProper entries = true) (path : List String) : ((gatherEntries path entries).map Prod.fst).Nodup := by
  match entries with
  | [] => exact List.nodup_nil
  | (first, tree) :: others =>
    simp only [areProper, Bool.and_eq_true] at proper
    simp only [List.map_cons, List.nodup_cons] at distinct
    rw [gatherEntries, List.map_append, List.nodup_append]
    refine ⟨nodup_gather tree proper.1.2 _, nodup_gatherEntries others distinct.2 proper.2 path, ?_⟩
    intro p inFirst q inOthers same
    subst same
    -- a path below the first entry has its name behind `path`, one below another entry has another name there
    obtain ⟨⟨p, bytes⟩, heldFirst, rfl⟩ := List.mem_map.1 inFirst
    obtain ⟨⟨q, bytes'⟩, heldOthers, same⟩ := List.mem_map.1 inOthers
    obtain ⟨rest, rfl⟩ := prefix_of_mem_gather proper.1.2 heldFirst
    obtain ⟨name, t, rest', held, rfl, -⟩ :=
      (mem_gatherEntries others distinct.2 proper.2 path q bytes').1 heldOthers
    have same : name = first := by simpa using congrArg (fun p => (p.drop path.length).head?) same
    exact distinct.1 (same ▸ List.mem_map_of_mem (mem_of_lookup held))

end

mutual

/-- No name on the way to a file holds a slash. -/
theorem slash_of_follow (t : FileTree) (proper : t.isProper = true) {names : List String} {bytes : Bytes}
    (found : t.follow names = .ok (.file bytes)) : ∀ name ∈ names, '/' ∉ name.toList := by
  cases names with
  | nil => exact nofun
  | cons first rest =>
    cases t with
    | file content => cases found
    | directory entries =>
      obtain ⟨below, held, found⟩ := follow_cons.1 found
      simp only [isProper, Bool.and_eq_true] at proper
      exact slash_of_entries entries proper.2 held found

theorem slash_of_entries (entries : List (String × FileTree)) (proper : areProper entries = true) {first : String}
    {below : FileTree} {rest : List String} {bytes : Bytes} (held : entries.lookup first = some below)
    (found : below.follow rest = .ok (.file bytes)) : ∀ name ∈ first :: rest, '/' ∉ name.toList := by
  match entries with
  | [] => cases held
  | (name, tree) :: others =>
    simp only [areProper, Bool.and_eq_true, Bool.not_eq_true', List.contains_eq_mem, decide_eq_false_iff_not] at proper
    by_cases same : first = name
    · subst same
      rw [List.lookup_cons_self] at held
      cases held
      exact List.forall_mem_cons.2 ⟨proper.1.1, slash_of_follow below proper.1.2 found⟩
    · rw [List.lookup_cons, beq_eq_false_iff_ne.2 same] at held
      exact slash_of_entries others proper.2 held found

end

/-! ## Their order -/

theorem pathLE_cons {x y : String} {xs ys : List String} :
    pathLE (x :: xs) (y :: ys) = true ↔ x < y ∨ x = y ∧ pathLE xs ys = true := by
  simp [pathLE]

theorem pathLE_trans (a b c : List String) (first : pathLE a b = true) (second : pathLE b c = true) :
    pathLE a c = true := by
  induction a generalizing b c with
  | nil => rfl
  | cons x xs ih =>
    cases b with
    | nil => cases first
    | cons y ys =>
      cases c with
      | nil => cases second
      | cons z zs =>
        rw [pathLE_cons] at first second ⊢
        rcases first with less | ⟨rfl, below⟩
        · rcases second with less' | ⟨rfl, -⟩
          · exact .inl (lt_trans less less')
          · exact .inl less
        · rcases second with less' | ⟨rfl, below'⟩
          · exact .inl less'
          · exact .inr ⟨rfl, ih ys zs below below'⟩

theorem pathLE_total (a b : List String) : (pathLE a b || pathLE b a) = true := by
  induction a generalizing b with
  | nil => rfl
  | cons x xs ih =>
    cases b with
    | nil => rfl
    | cons y ys =>
      rw [Bool.or_eq_true, pathLE_cons, pathLE_cons]
      rcases lt_trichotomy x y with less | rfl | greater
      · exact .inl (.inl less)
      · have either := ih ys
        rw [Bool.or_eq_true] at either
        exact either.imp (fun below => .inr ⟨rfl, below⟩) (fun below => .inr ⟨rfl, below⟩)
      · exact .inr (.inl greater)

theorem pathLE_antisymm {a b : List String} (below : pathLE a b = true) (above : pathLE b a = true) : a = b := by
  induction a generalizing b with
  | nil =>
    cases b with
    | nil => rfl
    | cons y ys => cases above
  | cons x xs ih =>
    cases b with
    | nil => cases below
    | cons y ys =>
      rw [pathLE_cons] at below above
      rcases below with less | ⟨rfl, below⟩
      · rcases above with less' | ⟨rfl, -⟩
        · exact absurd less' (lt_asymm less)
        · exact absurd less (lt_irrefl _)
      · rcases above with less' | ⟨-, above⟩
        · exact absurd less' (lt_irrefl _)
        · rw [ih below above]

/-- The order of paths is that of their names' bytes. -/
theorem lt_of_pathLE {a b : List String} (below : pathLE a b = true) (differ : a ≠ b) : a.map encode < b.map encode := by
  induction a generalizing b with
  | nil =>
    cases b with
    | nil => exact absurd rfl differ
    | cons y ys => exact List.nil_lt_cons _ _
  | cons x xs ih =>
    cases b with
    | nil => cases below
    | cons y ys =>
      rw [List.map_cons, List.map_cons, List.cons_lt_cons_iff]
      rcases pathLE_cons.1 below with less | ⟨rfl, later⟩
      · exact .inl (encode_lt less)
      · exact .inr ⟨rfl, ih later fun same => differ (by rw [same])⟩

theorem files_perm (path : List String) (t : FileTree) : (files path t).Perm (gather path t) := List.mergeSort_perm _ _

theorem files_sorted (path : List String) (t : FileTree) :
    (files path t).Pairwise fun a b => pathLE a.1 b.1 = true :=
  List.pairwise_mergeSort (fun a b c => pathLE_trans a.1 b.1 c.1) (fun a b => pathLE_total a.1 b.1) _

variable {t : FileTree} (proper : t.isProper = true) (path : List String)
include proper

/-- **The listed files are the ones that names lead to.** -/
theorem mem_files {p : List String} {bytes : Bytes} :
    (p, bytes) ∈ files path t ↔ ∃ rest, p = path ++ rest ∧ t.follow rest = .ok (.file bytes) := by
  rw [(files_perm path t).mem_iff]
  exact mem_gather t proper path p bytes

/-- **Every path comes once, behind all smaller ones.** -/
theorem files_ascending : (files path t).Pairwise fun a b => a.1.map encode < b.1.map encode := by
  have distinct : (files path t).Pairwise fun a b => a.1 ≠ b.1 := by
    have same := ((files_perm path t).map Prod.fst).nodup_iff.2 (nodup_gather t proper path)
    exact List.pairwise_map.1 same
  exact ((files_sorted path t).and distinct).imp fun both => lt_of_pathLE both.1 both.2

end FileTree

end HookFlow
