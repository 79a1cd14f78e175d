import HookFlow.Proofs.Files.Tree
import Mathlib.Algebra.GroupWithZero.Nat
/-!
Walks through the directories of a tree, one directory at a time.

A walk keeps the directories that it has met and not listed yet, and the files that it has met. Each step takes the last
of these directories and lists it in whatever order its entries come: directories among them are put behind the others,
and everything else is a file.

The law of a walk is that the files that were met and the files below the pending directories are together the files below
the start, each as often. The other law counts: every step leaves one directory less to list. So a walk ends after as many
steps as there are directories, and then it has met every file once.

Results:
- `Covers.step`, `Covers.run`: both laws, for a step and for a run.
- `Covers.lists`: a walk with a pending directory goes on.
- `Covers.ended_iff`: a walk has ended when as many directories are listed as there are.
- `result_eq`: what a walk that has ended comes to.
-/

namespace HookFlow.FileTree

open Text (Bytes)

mutual

/-- how many directories a tree has, with itself if it is one -/
def directories : FileTree → Nat
  | .file _ => 0
  | .directory entries => directoriesBelow entries + 1

/-- how many directories the entries of a directory have -/
def directoriesBelow : List (String × FileTree) → Nat
  | [] => 0
  | (_, t) :: rest => directories t + directoriesBelow rest

end

/-- whether a path leads to a directory -/
def leadsToDirectory (root : FileTree) (path : List String) : Bool :=
  match root.follow path with
  | .ok t => t.isDirectory
  | .error _ => false

/-! ## Walks -/

/-- a walk through the directories of a tree -/
structure Walk where
  /-- the directories that are still to be listed; the last one is next -/
  pending : List (List String)
  /-- what was met besides directories -/
  found : List (List String)

namespace Walk

/-- the walk from a directory -/
def start (path : List String) : Walk := ⟨[path], []⟩

/-- the walk when it meets a path -/
def meet (root : FileTree) (w : Walk) (path : List String) : Walk :=
  if root.leadsToDirectory path then { w with pending := w.pending ++ [path] }
  else { w with found := w.found ++ [path] }

/-- `Lists root w w'`: listing the next directory, in any order, leads from `w` to `w'` -/
inductive Lists (root : FileTree) : Walk → Walk → Prop where
  | next {pending found : List (List String)} {dir : List String} {entries : List (String × FileTree)}
      {names : List String} (there : root.follow dir = .ok (.directory entries))
      (listed : names.Perm (entries.map Prod.fst)) :
      Lists root ⟨pending ++ [dir], found⟩ ((names.map fun name => dir ++ [name]).foldl (meet root) ⟨pending, found⟩)

/-- `Runs root n w w'`: listing `n` directories, one after another, leads from `w` to `w'` -/
inductive Runs (root : FileTree) : Nat → Walk → Walk → Prop where
  | done {w : Walk} : Runs root 0 w w
  | step {n : Nat} {w w₁ w' : Walk} (first : Lists root w w₁) (later : Runs root n w₁ w') : Runs root (n + 1) w w'

/-- what a walk comes to: the files that it has met, in ascending order -/
def result (w : Walk) : List (List String) := w.found.mergeSort pathLE

end Walk

/-! ## What a directory holds -/

section

variable {root : FileTree}

theorem follow_append (t : FileTree) (front back : List String) :
    t.follow (front ++ back) = (t.follow front).bind fun u => u.follow back := by
  induction front generalizing t with
  | nil => rfl
  | cons name front ih =>
    rw [List.cons_append, follow, follow]
    cases t.child name with
    | error fault => rfl
    | ok below => exact ih below

theorem proper_of_mem {entries : List (String × FileTree)} (proper : areProper entries = true) {e : String × FileTree}
    (held : e ∈ entries) : e.2.isProper = true := by
  induction entries with
  | nil => cases held
  | cons first rest ih =>
    simp only [areProper, Bool.and_eq_true] at proper
    rcases List.mem_cons.1 held with rfl | later
    · exact proper.1.2
    · exact ih proper.2 later

/-- Whatever names lead to is proper. -/
theorem proper_follow {t u : FileTree} (proper : t.isProper = true) {names : List String}
    (led : t.follow names = .ok u) : u.isProper = true := by
  induction names generalizing t with
  | nil =>
    cases led
    exact proper
  | cons name rest ih =>
    cases t with
    | file bytes => cases led
    | directory entries =>
      obtain ⟨below, found, later⟩ := follow_cons.1 led
      simp only [isProper, Bool.and_eq_true] at proper
      exact ih (proper_of_mem proper.2 (mem_of_lookup found)) later

theorem gatherEntries_eq (path : List String) (entries : List (String × FileTree)) :
    gatherEntries path entries = entries.flatMap fun e => gather (path ++ [e.1]) e.2 := by
  induction entries with
  | nil => rfl
  | cons e rest ih => rw [gatherEntries, List.flatMap_cons, ih]

theorem directoriesBelow_eq (entries : List (String × FileTree)) :
    directoriesBelow entries = (entries.map fun e => e.2.directories).sum := by
  induction entries with
  | nil => rfl
  | cons e rest ih => rw [directoriesBelow, List.map_cons, List.sum_cons, ih]

/-- the files at a path and below it -/
def filesAt (root : FileTree) (path : List String) : List (List String) :=
  match root.follow path with
  | .ok t => (gather path t).map Prod.fst
  | .error _ => []

/-- how many directories there are at a path and below it -/
def directoriesAt (root : FileTree) (path : List String) : Nat :=
  match root.follow path with
  | .ok t => t.directories
  | .error _ => 0

variable {dir : List String} {entries : List (String × FileTree)} {names : List String}

/-- An entry is found under its name. -/
theorem follow_entry (proper : root.isProper = true) (there : root.follow dir = .ok (.directory entries))
    {e : String × FileTree} (held : e ∈ entries) : root.follow (dir ++ [e.1]) = .ok e.2 := by
  have distinct : (entries.map Prod.fst).Nodup := by
    have own := proper_follow proper there
    simp only [isProper, Bool.and_eq_true, decide_eq_true_eq] at own
    exact own.1
  rw [follow_append, there]
  exact follow_cons.2 ⟨e.2, lookup_of_mem distinct held, rfl⟩

/-- **The files below a directory are those at its entries**, in whatever order they are listed. -/
theorem filesAt_listed (proper : root.isProper = true) (there : root.follow dir = .ok (.directory entries))
    (listed : names.Perm (entries.map Prod.fst)) :
    (root.filesAt dir).Perm ((names.map fun name => dir ++ [name]).flatMap root.filesAt) := by
  have each : ∀ e ∈ entries, (gather (dir ++ [e.1]) e.2).map Prod.fst = root.filesAt (dir ++ [e.1]) := fun e he => by
    rw [filesAt, follow_entry proper there he]
  have whole : root.filesAt dir = ((entries.map Prod.fst).map fun name => dir ++ [name]).flatMap root.filesAt := by
    calc root.filesAt dir
      _ = (gatherEntries dir entries).map Prod.fst := by simp only [filesAt, there, gather]
      _ = entries.flatMap fun e => (gather (dir ++ [e.1]) e.2).map Prod.fst := by
        rw [gatherEntries_eq, List.map_flatMap]
      _ = entries.flatMap fun e => root.filesAt (dir ++ [e.1]) := List.flatMap_congr each
      _ = ((entries.map Prod.fst).map fun name => dir ++ [name]).flatMap root.filesAt := by
        rw [List.flatMap_map, List.flatMap_map]
  rw [whole]
  exact ((listed.map _).flatMap_right root.filesAt).symm

/-- **A directory counts one more than its entries**, in whatever order they are listed. -/
theorem directoriesAt_listed (proper : root.isProper = true) (there : root.follow dir = .ok (.directory entries))
    (listed : names.Perm (entries.map Prod.fst)) :
    root.directoriesAt dir = ((names.map fun name => dir ++ [name]).map root.directoriesAt).sum + 1 := by
  have each : ∀ e ∈ entries, e.2.directories = root.directoriesAt (dir ++ [e.1]) := fun e he => by
    rw [directoriesAt, follow_entry proper there he]
  calc root.directoriesAt dir
    _ = (entries.map fun e => e.2.directories).sum + 1 := by
      simp only [directoriesAt, there, directories, directoriesBelow_eq]
    _ = (entries.map fun e => root.directoriesAt (dir ++ [e.1])).sum + 1 := by rw [List.map_congr_left each]
    _ = ((names.map fun name => dir ++ [name]).map root.directoriesAt).sum + 1 := by
      rw [((listed.map fun name => dir ++ [name]).map root.directoriesAt).sum_nat, List.map_map, List.map_map]
      rfl

theorem leadsToDirectory_iff {path : List String} :
    root.leadsToDirectory path = true ↔ ∃ entries, root.follow path = .ok (.directory entries) := by
  unfold leadsToDirectory
  constructor
  · intro leads
    split at leads
    next t led =>
      cases t with
      | file bytes => cases leads
      | directory entries => exact ⟨entries, led⟩
    next => cases leads
  · rintro ⟨entries, led⟩
    rw [led]
    rfl

/-- What is no directory is a file at its own path. -/
theorem filesAt_file {path : List String} {bytes : Bytes} (there : root.follow path = .ok (.file bytes)) :
    root.filesAt path = [path] := by
  simp only [filesAt, there, gather, List.map_cons, List.map_nil]

theorem directoriesAt_file {path : List String} {bytes : Bytes} (there : root.follow path = .ok (.file bytes)) :
    root.directoriesAt path = 0 := by
  simp only [directoriesAt, there, directories]

theorem directoriesAt_pos {path : List String} (leads : root.leadsToDirectory path = true) :
    0 < root.directoriesAt path := by
  obtain ⟨entries, there⟩ := leadsToDirectory_iff.1 leads
  simp only [directoriesAt, there, directories]
  exact Nat.succ_pos _

/-- What is listed and is no directory is a file. -/
theorem file_of_listed (proper : root.isProper = true) (there : root.follow dir = .ok (.directory entries))
    (listed : names.Perm (entries.map Prod.fst)) {path : List String} (met : path ∈ names.map fun name => dir ++ [name])
    (plain : root.leadsToDirectory path = false) : ∃ bytes, root.follow path = .ok (.file bytes) := by
  obtain ⟨name, mentioned, rfl⟩ := List.mem_map.1 met
  obtain ⟨e, held, rfl⟩ := List.mem_map.1 (listed.mem_iff.1 mentioned)
  have led := follow_entry proper there held
  cases below : e.2 with
  | file bytes => exact ⟨bytes, by rw [led, below]⟩
  | directory inner =>
    rw [below] at led
    rw [leadsToDirectory_iff.2 ⟨inner, led⟩] at plain
    cases plain

/-- **What lies below a directory, told apart**: its entries that are no directories, and what lies below the others. -/
theorem split_listed (proper : root.isProper = true) (there : root.follow dir = .ok (.directory entries))
    (listed : names.Perm (entries.map Prod.fst)) {paths inner plain : List (List String)}
    (met : paths = names.map fun name => dir ++ [name]) (deeper : inner = paths.filter root.leadsToDirectory)
    (others : plain = paths.filter fun p => !root.leadsToDirectory p) :
    (root.filesAt dir).Perm (plain ++ inner.flatMap root.filesAt) ∧
      root.directoriesAt dir = (inner.map root.directoriesAt).sum + 1 := by
  have split : (plain ++ inner).Perm paths := by
    rw [deeper, others]
    exact List.perm_append_comm.trans (List.filter_append_perm _ paths)
  have single : ∀ p ∈ plain, ∃ bytes, root.follow p = .ok (.file bytes) := by
    intro p held
    rw [others] at held
    obtain ⟨one, file⟩ := List.mem_filter.1 held
    exact file_of_listed proper there listed (met ▸ one) (by simpa using file)
  constructor
  · have own : plain.flatMap root.filesAt = plain := by
      calc plain.flatMap root.filesAt
        _ = plain.flatMap fun p => [p] := List.flatMap_congr fun p held => (single p held).elim fun _ => filesAt_file
        _ = plain := List.flatMap_singleton' plain
    calc List.Perm (root.filesAt dir) (paths.flatMap root.filesAt) := met ▸ filesAt_listed proper there listed
      List.Perm _ ((plain ++ inner).flatMap root.filesAt) := (split.flatMap_right root.filesAt).symm
      _ = plain ++ inner.flatMap root.filesAt := by rw [List.flatMap_append, own]
  · have none : (plain.map root.directoriesAt).sum = 0 := by
      refine List.sum_eq_zero_iff_forall_eq_nat.2 fun k counted => ?_
      obtain ⟨p, one, rfl⟩ := List.mem_map.1 counted
      exact (single p one).elim fun _ => directoriesAt_file
    calc root.directoriesAt dir
      _ = (paths.map root.directoriesAt).sum + 1 := met ▸ directoriesAt_listed proper there listed
      _ = ((plain ++ inner).map root.directoriesAt).sum + 1 := by rw [(split.map root.directoriesAt).sum_nat]
      _ = (inner.map root.directoriesAt).sum + 1 := by rw [List.map_append, List.sum_append, none, Nat.zero_add]

end

/-! ## The laws of a walk -/

namespace Walk

variable {root : FileTree} {path : List String} {n : Nat} {w w' : Walk}

/-- Meeting some paths puts the directories among them behind the pending ones and the others behind what was met. -/
theorem meet_all (w : Walk) (paths : List (List String)) :
    paths.foldl (meet root) w =
      ⟨w.pending ++ paths.filter root.leadsToDirectory, w.found ++ paths.filter fun p => !root.leadsToDirectory p⟩ := by
  induction paths generalizing w with
  | nil => simp
  | cons p rest ih =>
    rw [List.foldl_cons, ih, meet]
    cases leads : root.leadsToDirectory p <;> simp [leads]

/-- `Covers root path n w`: what holds of a walk from `path` after `n` directories -/
structure Covers (root : FileTree) (path : List String) (n : Nat) (w : Walk) : Prop where
  /-- what is pending is a directory -/
  pending : ∀ p ∈ w.pending, root.leadsToDirectory p = true
  /-- every file below the start was met or lies below what is pending -/
  files : (w.found ++ w.pending.flatMap root.filesAt).Perm (root.filesAt path)
  /-- every directory was listed or lies at or below what is pending -/
  count : n + (w.pending.map root.directoriesAt).sum = root.directoriesAt path

theorem Covers.start (leads : root.leadsToDirectory path = true) : Covers root path 0 (start path) where
  pending p held := by rwa [List.mem_singleton.1 held]
  files := by simp [Walk.start]
  count := by simp [Walk.start]

/-- **One step keeps the laws**: it takes a directory from the pending ones and puts its entries in its place. -/
theorem Covers.step (proper : root.isProper = true) (covers : Covers root path n w) (next : Lists root w w') :
    Covers root path (n + 1) w' := by
  obtain @⟨pending, found, dir, entries, names, there, listed⟩ := next
  obtain ⟨files, count⟩ := split_listed proper there listed rfl rfl rfl
  rw [meet_all]
  constructor
  case pending =>
    intro p held
    rcases List.mem_append.1 held with before | new
    · exact covers.pending p (List.mem_append_left _ before)
    · exact (List.mem_filter.1 new).2
  case files =>
    refine List.Perm.trans ?_ covers.files
    simp only [List.flatMap_append, List.flatMap_singleton, List.append_assoc]
    apply List.Perm.append_left found
    exact (List.perm_append_comm_assoc _ _ _).trans (files.symm.append_left _)
  case count =>
    have before := covers.count
    simp only [List.map_append, List.sum_append, List.map_singleton, List.sum_singleton, count] at before ⊢
    omega

/-- What a whole run keeps. -/
theorem Covers.run (proper : root.isProper = true) {m : Nat} (covers : Covers root path m w) (run : Runs root n w w') :
    Covers root path (m + n) w' := by
  induction run generalizing m with
  | done => exact covers
  | step first later ih =>
    have whole := ih (covers.step proper first)
    rwa [Nat.add_right_comm, Nat.add_assoc] at whole

/-- **A walk with a pending directory goes on.** -/
theorem Covers.lists (covers : Covers root path n w) (some : w.pending ≠ []) : ∃ w', Lists root w w' := by
  obtain ⟨pending, found⟩ := w
  obtain ⟨before, dir, rfl⟩ := (List.eq_nil_or_concat' pending).resolve_left some
  obtain ⟨entries, there⟩ := leadsToDirectory_iff.1 (covers.pending dir (by simp))
  exact ⟨_, .next there (.refl _)⟩

/-- **A walk has ended when it has listed as many directories as there are.** -/
theorem Covers.ended_iff (covers : Covers root path n w) : w.pending = [] ↔ n = root.directoriesAt path := by
  have count := covers.count
  constructor
  · intro ended
    rw [ended] at count
    exact count
  · intro all
    by_contra some
    obtain ⟨p, rest, held⟩ := List.exists_cons_of_ne_nil some
    have counts := directoriesAt_pos (covers.pending p (by rw [held]; exact List.mem_cons_self))
    rw [held, List.map_cons, List.sum_cons] at count
    omega

end Walk

/-! ## What a walk comes to -/

/-- **A walk that has met all files comes to the files of the tree in their order.** -/
theorem Walk.result_eq {w : Walk} {path : List String} {t : FileTree}
    (all : w.found.Perm ((gather path t).map Prod.fst)) : w.result = (files path t).map Prod.fst := by
  have ascending : (w.result).Pairwise fun a b => pathLE a b = true :=
    List.pairwise_mergeSort pathLE_trans pathLE_total w.found
  have ascending' : ((files path t).map Prod.fst).Pairwise fun a b => pathLE a b = true :=
    List.pairwise_map.2 (files_sorted path t)
  have same : w.result.Perm ((files path t).map Prod.fst) := by
    calc List.Perm w.result w.found := List.mergeSort_perm _ _
      List.Perm _ ((gather path t).map Prod.fst) := all
      List.Perm _ ((files path t).map Prod.fst) := ((files_perm path t).map Prod.fst).symm
  exact same.eq_of_pairwise (fun a b _ _ => pathLE_antisymm) ascending ascending'

end HookFlow.FileTree
