import HookFlow.Package.Archive
import HookFlow.Proofs.Files.System
import HookFlow.Proofs.Files.Walk
import Mathlib.Data.List.Nodup
/-!
Archives and the order in which directories are listed.

Whoever lists a directory gets its entries in an order that means nothing. A walk through the modules of the runtime
comes to the same files in every such order, and an archive is the same when the entries of all directories are put in
another order.

Results:
- `Reordered.gather_perm`, `Reordered.child`: what two listings of a tree have in common.
- `Reordered.files_eq`: their files in ascending order are the same.
- `package_congr`: what an archive depends on.
- `walk_collects`: walks end, with all files in their order, and archives do not depend on it.
-/

namespace HookFlow

open Text (Bytes encode)

namespace FileTree

mutual

/-- `a.Reordered b`: `b` is `a` with the entries of its directories in another order -/
inductive Reordered : FileTree → FileTree → Prop where
  | file {bytes : Bytes} : Reordered (.file bytes) (.file bytes)
  | directory {entries entries' : List (String × FileTree)} (below : ReorderedEntries entries entries') :
      Reordered (.directory entries) (.directory entries')

/-- the same for the entries of a directory -/
inductive ReorderedEntries : List (String × FileTree) → List (String × FileTree) → Prop where
  | nil : ReorderedEntries [] []
  | cons {name : String} {t t' : FileTree} {rest before after : List (String × FileTree)} (first : Reordered t t')
      (others : ReorderedEntries rest (before ++ after)) :
      ReorderedEntries ((name, t) :: rest) (before ++ (name, t') :: after)

end

/-- Entries that keep their places, each listed in another order. -/
theorem ReorderedEntries.keep {name : String} {t t' : FileTree} {rest rest' : List (String × FileTree)}
    (first : Reordered t t') (others : ReorderedEntries rest rest') :
    ReorderedEntries ((name, t) :: rest) ((name, t') :: rest') :=
  @ReorderedEntries.cons name t t' rest [] rest' first others

mutual

theorem Reordered.refl (t : FileTree) : t.Reordered t := by
  cases t with
  | file bytes => exact .file
  | directory entries => exact .directory (ReorderedEntries.refl entries)

theorem ReorderedEntries.refl (entries : List (String × FileTree)) : ReorderedEntries entries entries := by
  match entries with
  | [] => exact .nil
  | (name, t) :: rest => exact .keep (Reordered.refl t) (ReorderedEntries.refl rest)

end

theorem Reordered.isDirectory_eq {t t' : FileTree} (same : t.Reordered t') : t.isDirectory = t'.isDirectory := by
  cases same <;> rfl

theorem Reordered.bytes_eq {t t' : FileTree} (same : t.Reordered t') : t.bytes = t'.bytes := by
  cases same <;> rfl

mutual

/-- **Another listing has the same files**, in another order. -/
theorem Reordered.gather_perm {t t' : FileTree} (same : t.Reordered t') (path : List String) :
    (gather path t).Perm (gather path t') := by
  cases same with
  | file => exact .refl _
  | directory below =>
    rw [gather, gather]
    exact ReorderedEntries.gather_perm below path

theorem ReorderedEntries.gather_perm {entries entries' : List (String × FileTree)}
    (same : ReorderedEntries entries entries') (path : List String) :
    (gatherEntries path entries).Perm (gatherEntries path entries') := by
  cases same with
  | nil => exact .refl _
  | cons first others =>
    have ih := ReorderedEntries.gather_perm others path
    rw [gatherEntries_eq, gatherEntries_eq, List.flatMap_append] at ih
    rw [gatherEntries_eq, gatherEntries_eq, List.flatMap_cons, List.flatMap_append, List.flatMap_cons]
    exact ((Reordered.gather_perm first _).append ih).trans (List.perm_append_comm_assoc _ _ _)

end

theorem ReorderedEntries.perm_names {entries entries' : List (String × FileTree)}
    (same : ReorderedEntries entries entries') :
    (entries.map Prod.fst).Perm (entries'.map Prod.fst) := by
  cases same with
  | nil => exact .refl _
  | cons first others =>
    have ih := ReorderedEntries.perm_names others
    rw [List.map_append] at ih
    rw [List.map_cons, List.map_append, List.map_cons]
    exact (ih.cons _).trans List.perm_middle.symm

/-- An entry of one listing is an entry of the other. -/
theorem ReorderedEntries.mem {entries entries' : List (String × FileTree)}
    (same : ReorderedEntries entries entries') {name : String} {t : FileTree} (held : (name, t) ∈ entries) :
    ∃ t', (name, t') ∈ entries' ∧ t.Reordered t' := by
  cases same with
  | nil => cases held
  | @cons _ _ t' _ before after first others =>
    rcases List.mem_cons.1 held with here | later
    · cases here
      exact ⟨t', by simp, first⟩
    · obtain ⟨u, among, reordered⟩ := ReorderedEntries.mem others later
      exact ⟨u, by grind, reordered⟩

/-- **A name leads to the same thing in both listings**, or to nothing in both. -/
theorem Reordered.child {t t' : FileTree} (same : t.Reordered t') (proper : t.isProper = true) (name : String) :
    (∃ fault, t.child name = .error fault ∧ t'.child name = .error fault) ∨
      ∃ u u', t.child name = .ok u ∧ t'.child name = .ok u' ∧ u.isProper = true ∧ u.Reordered u' := by
  cases same with
  | file => exact .inl ⟨.notDirectory, rfl, rfl⟩
  | @directory entries entries' below =>
    simp only [isProper, Bool.and_eq_true, decide_eq_true_eq] at proper
    rw [FileTree.child, FileTree.child]
    cases found : entries.lookup name with
    | none =>
      have absent : name ∉ entries'.map Prod.fst := by
        rw [← below.perm_names.mem_iff]
        intro held
        obtain ⟨e, among, rfl⟩ := List.mem_map.1 held
        rw [lookup_of_mem proper.1 among] at found
        cases found
      have found' : entries'.lookup name = none := by
        rw [List.lookup_eq_none_iff]
        intro e held
        apply bne_iff_ne.2
        rintro rfl
        exact absent (List.mem_map_of_mem held)
      rw [found']
      exact .inl ⟨.notFound, rfl, rfl⟩
    | some u =>
      have held := mem_of_lookup found
      obtain ⟨u', held', reordered⟩ := below.mem held
      rw [lookup_of_mem (below.perm_names.nodup_iff.1 proper.1) held']
      exact .inr ⟨u, u', rfl, rfl, proper_of_mem proper.2 held, reordered⟩

/-- **In ascending order the files of both listings are the same.** -/
theorem Reordered.files_eq {t t' : FileTree} (same : t.Reordered t') (proper : t.isProper = true) (path : List String) :
    files path t = files path t' := by
  have perm : (files path t).Perm (files path t') := by
    calc List.Perm (files path t) (gather path t) := files_perm path t
      List.Perm _ (gather path t') := same.gather_perm path
      List.Perm _ (files path t') := (files_perm path t').symm
  refine perm.eq_of_pairwise (fun a b first second below above => ?_) (files_sorted path t) (files_sorted path t')
  -- no path comes twice, so two files with one path are one
  have distinct := ((files_perm path t).map Prod.fst).nodup_iff.2 (nodup_gather t proper path)
  exact List.inj_on_of_nodup_map distinct first (perm.mem_iff.2 second) (pathLE_antisymm below above)

end FileTree

/-! ## Archives -/

namespace Packager

/-- **What an archive depends on**: the files right in the directory of the runtime, and its modules. -/
theorem package_congr {p q : Packager} (name : p.functionName = q.functionName) (path : p.runtime.path = q.runtime.path)
    (read : p.runtime.read = q.runtime.read) (modules : p.runtime.modules = q.runtime.modules) :
    p.package = q.package := by
  have runtime (names : List String) (a : Archive) : p.addRuntimeFiles a names = q.addRuntimeFiles a names := by
    induction names generalizing a with
    | nil => rfl
    | cons first rest ih => simp only [addRuntimeFiles, read, path, ih]
  funext handler flow
  simp only [package, leadEntries, name, runtime, modules]

variable {root other : FileTree}

/-- The modules of a runtime are the files below their directory. -/
theorem modules_ofTree {t : FileTree} (led : root.follow [modulesName] = .ok t) (directory : t.isDirectory = true)
    (shown : String) : (Runtime.ofTree shown (.ok root)).modules = t.files [modulesName] := by
  have held : (Runtime.ofTree shown (.ok root)).entry modulesName = .ok t := by
    obtain ⟨entries, c, rfl, found, same⟩ := FileTree.follow_step.1 led
    cases same
    change FileTree.child modulesName (.directory entries) = .ok t
    rw [FileTree.child, found]
  simp only [Runtime.modules, held, directory, if_true]

/-- **Archives do not depend on the order in which the runtime is listed.** -/
theorem package_reordered (proper : root.isProper = true) (same : root.Reordered other) (shown functionName : String) :
    Packager.package ⟨.ofTree shown (.ok root), functionName⟩ =
      Packager.package ⟨.ofTree shown (.ok other), functionName⟩ := by
  have entry (t : FileTree) (name : String) : (Runtime.ofTree shown (.ok t)).entry name = t.child name := rfl
  refine package_congr rfl rfl (funext fun name => ?_) ?_
  · rw [Runtime.read, Runtime.read, entry, entry]
    rcases same.child proper name with ⟨fault, held, held'⟩ | ⟨u, u', held, held', -, reordered⟩
    · rw [held, held']
    · rw [held, held']
      exact reordered.bytes_eq
  · rw [Runtime.modules, Runtime.modules, entry, entry]
    rcases same.child proper modulesName with ⟨fault, held, held'⟩ | ⟨u, u', held, held', proper, reordered⟩
    · rw [held, held']
    · rw [held, held']
      simp only [reordered.isDirectory_eq, reordered.files_eq proper]

end Packager

/-! ## What walks come to -/

open FileTree

/-- **Walks end, and come to all files in their order.** From a directory, every walk goes on until it has listed as many
directories as there are, in whatever order each of them is listed. All walks then come to the same: the files below the
directory, each once, and no directory, strictly ascending by the bytes of their names. So they are the modules of a
runtime in that order, and an archive is the same when directories are listed in another order. -/
theorem walk_collects {root t : FileTree} {path : List String} (proper : root.isProper = true)
    (led : root.follow path = .ok t) (directory : t.isDirectory = true) :
    (∀ n w, Walk.Runs root n (.start path) w →
      n ≤ t.directories ∧ (w.pending = [] ↔ n = t.directories) ∧ (w.pending ≠ [] → ∃ w', Walk.Lists root w w')) ∧
    (∃ files : List (List String),
      (∀ n w, Walk.Runs root n (.start path) w → w.pending = [] → w.result = files) ∧
      files = (t.files path).map Prod.fst ∧
      (path = ["node_modules"] → ∀ shown, (Runtime.ofTree shown (.ok root)).modules.map Prod.fst = files) ∧
      (files.Pairwise fun a b => a.map encode < b.map encode) ∧
      ∀ p, p ∈ files ↔ ∃ rest bytes, p = path ++ rest ∧ t.follow rest = .ok (.file bytes)) ∧
    ∀ other, root.Reordered other → ∀ shown functionName,
      Packager.package ⟨.ofTree shown (.ok root), functionName⟩ =
        Packager.package ⟨.ofTree shown (.ok other), functionName⟩ := by
  have proper' := proper_follow proper led
  have whole : root.directoriesAt path = t.directories := by simp only [directoriesAt, led]
  have leads : root.leadsToDirectory path = true := by
    rw [leadsToDirectory, led]
    exact directory
  have covers {n : Nat} {w : Walk} (run : Walk.Runs root n (.start path) w) : Walk.Covers root path n w := by
    have held := (Walk.Covers.start leads).run proper run
    rwa [Nat.zero_add] at held
  refine ⟨fun n w run => ⟨?_, ?_, (covers run).lists⟩, ⟨_, fun n w run ended => ?_, rfl, ?_, ?_, fun p => ?_⟩,
    fun other same => Packager.package_reordered proper same⟩
  · rw [← whole, ← (covers run).count]
    exact Nat.le_add_right _ _
  · rw [← whole]
    exact (covers run).ended_iff
  · have all := (covers run).files
    rw [ended, List.flatMap_nil, List.append_nil, filesAt] at all
    simp only [led] at all
    exact Walk.result_eq all
  · rintro rfl shown
    exact congrArg (List.map Prod.fst) (Packager.modules_ofTree led directory shown)
  · exact List.pairwise_map.2 (files_ascending proper' path)
  · rw [List.mem_map]
    constructor
    · rintro ⟨⟨p, bytes⟩, held, rfl⟩
      obtain ⟨rest, same, there⟩ := (mem_files proper' path).1 held
      exact ⟨rest, bytes, same, there⟩
    · rintro ⟨rest, bytes, same, there⟩
      exact ⟨(p, bytes), (mem_files proper' path).2 ⟨rest, same, there⟩, rfl⟩

/-- Modules whose directories lie in one another, between the files of the runtime. -/
def nestedRuntime : FileTree := .directory [
  ("node_modules", .directory [("b", .directory [("c", .directory [("z.js", .file [122])])]), ("a.js", .file [97])]),
  ("host.json", .file [3]), ("package.json", .file [4]), ("package-lock.json", .file [5])]

/-- The same with the modules listed the other way round. -/
def nestedRuntimeBack : FileTree := .directory [
  ("node_modules", .directory [("a.js", .file [97]), ("b", .directory [("c", .directory [("z.js", .file [122])])])]),
  ("host.json", .file [3]), ("package.json", .file [4]), ("package-lock.json", .file [5])]

/-- A walk that lists the modules the other way round, and the archives of both listings. -/
theorem walk_collects_nested :
    nestedRuntime.isProper = true ∧
    (∃ t, nestedRuntime.follow ["node_modules"] = .ok t ∧ t.isDirectory = true ∧ t.directories = 3) ∧
    (∃ w, Walk.Runs nestedRuntime 3 (.start ["node_modules"]) w ∧ w.pending = [] ∧
      w.found = [["node_modules", "a.js"], ["node_modules", "b", "c", "z.js"]] ∧
      (Runtime.ofTree "rt" (.ok nestedRuntime)).modules.map Prod.fst = w.found) ∧
    Packager.package ⟨.ofTree "rt" (.ok nestedRuntime), "Fn"⟩ =
      Packager.package ⟨.ofTree "rt" (.ok nestedRuntimeBack), "Fn"⟩ := by
  have proper : nestedRuntime.isProper = true := by decide
  obtain ⟨t, led, directory, count⟩ : ∃ t, nestedRuntime.follow ["node_modules"] = .ok t ∧
      t.isDirectory = true ∧ t.directories = 3 := ⟨_, rfl, rfl, rfl⟩
  obtain ⟨ends, ⟨files, collected, -, archived, -, -⟩, archives⟩ := walk_collects proper led directory
  have first : Walk.Lists nestedRuntime (.start ["node_modules"])
      ⟨[["node_modules", "b"]], [["node_modules", "a.js"]]⟩ :=
    @Walk.Lists.next nestedRuntime [] [] ["node_modules"] _ ["a.js", "b"] rfl (.swap _ _ _)
  have second : Walk.Lists nestedRuntime ⟨[["node_modules", "b"]], [["node_modules", "a.js"]]⟩
      ⟨[["node_modules", "b", "c"]], [["node_modules", "a.js"]]⟩ :=
    @Walk.Lists.next nestedRuntime [] [["node_modules", "a.js"]] ["node_modules", "b"] _ ["c"] rfl (.refl _)
  have third : Walk.Lists nestedRuntime ⟨[["node_modules", "b", "c"]], [["node_modules", "a.js"]]⟩
      ⟨[], [["node_modules", "a.js"], ["node_modules", "b", "c", "z.js"]]⟩ :=
    @Walk.Lists.next nestedRuntime [] [["node_modules", "a.js"]] ["node_modules", "b", "c"] _ ["z.js"] rfl (.refl _)
  have run := Walk.Runs.step first (.step second (.step third .done))
  have ended := (ends 3 _ run).2.1.2 count.symm
  refine ⟨proper, ⟨t, led, directory, count⟩, ⟨_, run, ended, rfl, ?_⟩, archives nestedRuntimeBack ?_ "rt" "Fn"⟩
  · -- what the walk has met is in order already
    rw [archived rfl "rt", ← collected 3 _ run ended]
    exact List.mergeSort_of_pairwise (by decide)
  · refine .directory (.keep (.directory ?_) (.refl _))
    -- `b` comes behind `a.js` now
    exact @ReorderedEntries.cons "b" _ _ _ [("a.js", _)] [] (.refl _) (.refl _)

end HookFlow
