import HookFlow.Files.System
import HookFlow.Proofs.Except
import HookFlow.Proofs.Files.Tree
import HookFlow.Proofs.Text.Split
/-!
Files that are written: what paths lead to afterwards.

A file is put in the place of a file or where nothing was. So every directory stays one, no path is followed in another
way than before, and every other file keeps its bytes. Files right in one directory are told apart by their names, and
when several of them are written, each of them is there in the end.

Results:
- `follow_put`, `follow_put_other`: the tree behind a put.
- `read_write`, `read_write_other`: the file that is written, and every other one.
- `isChild_join`: a name joined to a path leads to something right behind it.
- `apart_children`, `read_writeAll`: files right in one directory that are written one after another.
-/

namespace HookFlow

open Text (Bytes splitChars)

/-! ## Trees -/

namespace FileTree

theorem lookup_cons_eq {α : Type} (e : String × α) (rest : List (String × α)) (key : String) :
    (e :: rest).lookup key = if key = e.1 then some e.2 else rest.lookup key := by
  obtain ⟨name, value⟩ := e
  by_cases same : key = name
  · simp [same]
  · simp [List.lookup_cons, beq_false_of_ne same, same]

theorem lookup_setEntry (name : String) (t : FileTree) (entries : List (String × FileTree)) (key : String) :
    (setEntry name t entries).lookup key = if key = name then some t else entries.lookup key := by
  induction entries with
  | nil => rw [setEntry, lookup_cons_eq]
  | cons e rest ih =>
    rw [setEntry, lookup_cons_eq e]
    by_cases here : e.1 = name
    · rw [if_pos here, lookup_cons_eq, here]
      split <;> rfl
    · rw [if_neg here, lookup_cons_eq, ih]
      by_cases first : key = e.1
      · rw [if_pos first, if_neg (first ▸ here), if_pos first]
      · rw [if_neg first, if_neg first]

theorem follow_step {name : String} {rest : List String} {t u : FileTree} :
    t.follow (name :: rest) = .ok u ↔
      ∃ entries c, t = .directory entries ∧ entries.lookup name = some c ∧ c.follow rest = .ok u := by
  cases t with
  | file bytes => exact ⟨nofun, nofun⟩
  | directory entries =>
    rw [follow_cons]
    exact ⟨fun ⟨c, found, led⟩ => ⟨entries, c, rfl, found, led⟩, fun ⟨_, c, same, found, led⟩ => by
      cases same
      exact ⟨c, found, led⟩⟩

theorem put_directory {new t' : FileTree} {name next : String} {rest : List String}
    {entries : List (String × FileTree)} :
    put new (.directory entries) (name :: next :: rest) = .ok t' ↔
      ∃ c c', entries.lookup name = some c ∧ put new c (next :: rest) = .ok c' ∧
        t' = .directory (setEntry name c' entries) := by
  cases found : entries.lookup name with
  | none => simp [put, found]
  | some c =>
    have whole : put new (.directory entries) (name :: next :: rest) =
        (put new c (next :: rest) >>= fun c' => .ok (.directory (setEntry name c' entries))) := by
      simp only [put, found]
      rfl
    rw [whole, bind_eq_ok]
    constructor
    · rintro ⟨c', below, same⟩
      cases same
      exact ⟨c, c', rfl, below, rfl⟩
    · rintro ⟨_, c', ⟨⟩, below, rfl⟩
      exact ⟨c', below, rfl⟩

theorem put_cons {new t t' : FileTree} {name : String} {rest : List String} :
    put new t (name :: rest) = .ok t' ↔
      ∃ entries, t = .directory entries ∧
        ((rest = [] ∧ t' = .directory (setEntry name new entries)) ∨
          (rest ≠ [] ∧ ∃ c c', entries.lookup name = some c ∧ put new c rest = .ok c' ∧
            t' = .directory (setEntry name c' entries))) := by
  cases t with
  | file bytes => simp [put]
  | directory entries =>
    cases rest with
    | nil => simp [put, eq_comm]
    | cons next rest => simp [put_directory]

/-- **What is put at some names is found there.** -/
theorem follow_put {new t t' : FileTree} {names : List String} (done : put new t names = .ok t') :
    t'.follow names = .ok new := by
  induction names generalizing t t' with
  | nil =>
    rw [put] at done
    cases done
    rfl
  | cons name rest ih =>
    obtain ⟨entries, rfl, ⟨rfl, rfl⟩ | ⟨-, c, c', found, below, rfl⟩⟩ := put_cons.1 done
    · exact follow_step.2 ⟨_, new, rfl, by simp [lookup_setEntry], rfl⟩
    · exact follow_step.2 ⟨_, c', rfl, by simp [lookup_setEntry], ih below⟩

/-- **Putting a file in the place of no directory changes nothing elsewhere**: directories stay directories, and files
keep their bytes. -/
theorem follow_put_other {bytes : Bytes} {t t' u : FileTree} {names others : List String}
    (done : put (.file bytes) t names = .ok t') (plain : ∀ d, t.follow names = .ok d → d.isDirectory = false)
    (apart : others ≠ names) (led : t.follow others = .ok u) :
    ∃ u', t'.follow others = .ok u' ∧ u'.isDirectory = u.isDirectory ∧ (u.isDirectory = false → u' = u) := by
  induction names generalizing t t' others with
  | nil =>
    cases others with
    | nil => exact absurd rfl apart
    | cons m others =>
      obtain ⟨entries, c, rfl, -⟩ := follow_step.1 led
      exact absurd (plain _ rfl) (by simp [isDirectory])
  | cons name rest ih =>
    obtain ⟨entries, rfl, way⟩ := put_cons.1 done
    cases others with
    | nil =>
      cases led
      have dir (file : isDirectory (.directory entries) = false) (v : FileTree) : v = .directory entries := by cases file
      rcases way with ⟨-, rfl⟩ | ⟨-, c, c', -, -, rfl⟩ <;> exact ⟨_, rfl, rfl, fun file => dir file _⟩
    | cons m others =>
      obtain ⟨_, c, ⟨⟩, found, later⟩ := follow_step.1 led
      by_cases here : m = name
      · subst here
        rcases way with ⟨rfl, rfl⟩ | ⟨-, c₁, c', found₁, below, rfl⟩
        · -- the file stands where a directory would have to be
          cases others with
          | nil => exact absurd rfl apart
          | cons m' others =>
            obtain ⟨entries', c', rfl, -⟩ := follow_step.1 later
            exact absurd (plain _ (follow_step.2 ⟨_, _, rfl, found, rfl⟩)) (by simp [isDirectory])
        · rw [found, Option.some_inj] at found₁
          subst found₁
          obtain ⟨u', led', same, kept⟩ := ih below
            (fun d there => plain d (follow_step.2 ⟨_, _, rfl, found, there⟩)) (fun eq => apart (by rw [eq])) later
          exact ⟨u', follow_step.2 ⟨_, c', rfl, by simp [lookup_setEntry], led'⟩, same, kept⟩
      · refine ⟨u, ?_, rfl, fun _ => rfl⟩
        rcases way with ⟨-, rfl⟩ | ⟨-, c₁, c', -, -, rfl⟩ <;>
          exact follow_step.2 ⟨_, c, rfl, by simp [lookup_setEntry, here, found], later⟩

end FileTree

/-! ## Paths -/

namespace Path

theorem not_isAbsolute {name : String} (slash : '/' ∉ name.toList) : isAbsolute name = false := by
  refine beq_false_of_ne fun first => slash ?_
  exact List.mem_of_mem_head? first

/-- What a relative name is behind: nothing, or a slash. -/
theorem join_cases (base : String) {name : String} (relative : isAbsolute name = false) :
    (base = "" ∧ join base name = name) ∨
    (∃ front, base = front ++ "/" ∧ join base name = front ++ "/" ++ name) ∨
    (base ≠ "" ∧ join base name = base ++ "/" ++ name) := by
  rw [join, relative, Bool.false_or]
  by_cases blank : base.isEmpty = true
  · rw [if_pos blank]
    exact .inl ⟨String.isEmpty_iff.1 blank, rfl⟩
  · rw [if_neg blank]
    by_cases closed : (base.toList.getLast? == some '/') = true
    · rw [if_pos closed]
      obtain ⟨front, held⟩ := List.getLast?_eq_some_iff.1 (eq_of_beq closed)
      have whole : base = String.ofList front ++ "/" := by
        rw [← String.toList_inj, String.toList_append, String.toList_ofList, held]
        rfl
      exact .inr (.inl ⟨String.ofList front, whole, by rw [whole]⟩)
    · rw [if_neg closed]
      exact .inr (.inr ⟨fun empty => blank (String.isEmpty_iff.2 empty), rfl⟩)

theorem components_append (front name : String) :
    components (front ++ "/" ++ name) = components front ++ components name := by
  have whole : (front ++ "/" ++ name).toList = front.toList ++ '/' :: name.toList := by
    rw [String.toList_append, String.toList_append, List.append_assoc]
    rfl
  rw [components, whole, Text.splitChars_append, List.map_append, List.filter_append]
  rfl

theorem components_name {name : String} (slash : '/' ∉ name.toList) (counts : name ≠ "") (dot : name ≠ ".") :
    components name = [name] := by
  rw [components, Text.splitChars_single slash, List.map_singleton, String.ofList_toList]
  exact List.filter_eq_self.2 (by simp [counts, dot])

theorem isAbsolute_append {front : String} (some : front ≠ "") (rest : String) :
    isAbsolute (front ++ rest) = isAbsolute front := by
  obtain ⟨c, cs, held⟩ := List.exists_cons_of_ne_nil (mt String.toList_eq_nil_iff.1 some)
  rw [isAbsolute, isAbsolute, String.toList_append, held]
  rfl

/-- All relative names are joined to a path behind the same text. -/
theorem join_lead {base : String} (filled : base ≠ "") : ∃ lead, lead ≠ "" ∧ isAbsolute lead = isAbsolute base ∧
    ∀ name, isAbsolute name = false → join base name = lead ++ name := by
  have open' : base.isEmpty = false := by simpa [String.isEmpty_iff] using filled
  by_cases closed : (base.toList.getLast? == some '/') = true
  · refine ⟨base, filled, rfl, fun name relative => ?_⟩
    rw [join, relative, open', Bool.or_self, if_neg nofun, if_pos closed]
  · refine ⟨base ++ "/", by simp, isAbsolute_append filled _, fun name relative => ?_⟩
    rw [join, relative, open', Bool.or_self, if_neg nofun, if_neg closed]

/-- a path to something right in a directory -/
structure IsChild (base p name : String) : Prop where
  absolute : isAbsolute p = isAbsolute base
  components : components p = components base ++ [name]
  /-- the directory above is no such thing -/
  down : name ≠ ".."

/-- **A name that is joined to a path leads to something right behind it.** -/
theorem isChild_join {base name : String} (slash : '/' ∉ name.toList) (counts : name ≠ "") (dot : name ≠ ".")
    (down : name ≠ "..") : IsChild base (join base name) name := by
  have relative := not_isAbsolute slash
  have alone := components_name slash counts dot
  rcases join_cases base relative with ⟨rfl, whole⟩ | ⟨front, rfl, whole⟩ | ⟨some, whole⟩
  · rw [whole]
    exact ⟨relative, alone, down⟩
  · rw [whole]
    refine ⟨isAbsolute_append (by simp) _, ?_, down⟩
    have shut : components (front ++ "/") = components front := by
      simpa [components, splitChars] using components_append front ""
    rw [components_append, alone, shut]
  · rw [whole]
    exact ⟨by rw [String.append_assoc, isAbsolute_append some], by rw [components_append, alone], down⟩

end Path

/-! ## File systems -/

namespace FileSystem

theorem namesFrom_cons {fs : FileSystem} {here l : List String} {c : String} {rest : List String} :
    fs.namesFrom here (c :: rest) = .ok l ↔
      ∃ t, fs.root.follow here = .ok t ∧ t.isDirectory = true ∧
        fs.namesFrom (if c = ".." then here.dropLast else here ++ [c]) rest = .ok l := by
  rw [namesFrom, bind_eq_ok]
  refine exists_congr fun t => and_congr_right fun _ => ?_
  cases t with
  | file bytes => exact ⟨nofun, nofun⟩
  | directory entries => exact ⟨fun led => ⟨rfl, led⟩, fun led => led.2⟩

theorem namesFrom_concat {fs : FileSystem} {here l : List String} {above : List String} {name : String}
    (down : name ≠ "..") (led : fs.namesFrom here (above ++ [name]) = .ok l) :
    ∃ d, fs.namesFrom here above = .ok d ∧ l = d ++ [name] := by
  induction above generalizing here with
  | nil =>
    obtain ⟨t, -, -, done⟩ := namesFrom_cons.1 led
    rw [if_neg down, namesFrom] at done
    cases done
    exact ⟨here, rfl, rfl⟩
  | cons c above ih =>
    obtain ⟨t, there, dir, later⟩ := namesFrom_cons.1 led
    obtain ⟨d, led', same⟩ := ih later
    exact ⟨d, namesFrom_cons.2 ⟨t, there, dir, led'⟩, same⟩

theorem write_eq (fs : FileSystem) (p : String) (bytes : Bytes) :
    fs.write p bytes = (fs.names p >>= fun names =>
      if (fs.root.follow names).toOption.any (·.isDirectory) || wantsDirectory p then .error .isDirectory
      else (FileTree.put (.file bytes) fs.root names).map fun root => { fs with root }) := by
  refine congrArg (fs.names p >>= ·) (funext fun names => ?_)
  dsimp only
  cases fs.root.follow names with
  | error fault => cases wantsDirectory p <;> rfl
  | ok t => cases t <;> cases wantsDirectory p <;> rfl

theorem write_eq_ok {fs fs' : FileSystem} {p : String} {bytes : Bytes} :
    fs.write p bytes = .ok fs' ↔
      ∃ names root, fs.names p = .ok names ∧ (∀ d, fs.root.follow names = .ok d → d.isDirectory = false) ∧
        wantsDirectory p = false ∧ FileTree.put (.file bytes) fs.root names = .ok root ∧ fs' = { fs with root } := by
  rw [write_eq, bind_eq_ok]
  refine exists_congr fun names => ?_
  rw [exists_and_left]
  refine and_congr_right fun _ => ?_
  have free : (fs.root.follow names).toOption.any (·.isDirectory) = false ↔
      ∀ d, fs.root.follow names = .ok d → d.isDirectory = false := by
    cases fs.root.follow names <;> simp [Except.toOption]
  rw [← free]
  cases (fs.root.follow names).toOption.any (·.isDirectory) with
  | true => exact ⟨nofun, nofun⟩
  | false =>
    cases wantsDirectory p with
    | true => exact ⟨nofun, nofun⟩
    | false =>
      constructor
      · intro done
        obtain ⟨root, put, same⟩ := map_eq_ok.1 done
        exact ⟨root, rfl, rfl, put, same.symm⟩
      · rintro ⟨root, -, -, put, rfl⟩
        exact map_eq_ok.2 ⟨root, put, rfl⟩

theorem look_eq_ok {fs : FileSystem} {p : String} {t : FileTree} :
    fs.look p = .ok t ↔ ∃ names, fs.names p = .ok names ∧ fs.root.follow names = .ok t ∧
      (wantsDirectory p = true → t.isDirectory = true) := by
  rw [look, bind_eq_ok]
  refine exists_congr fun names => and_congr_right fun _ => ?_
  rw [bind_eq_ok]
  have kept (t' : FileTree) : (do
      if wantsDirectory p && !t'.isDirectory then throw .notDirectory
      return t' : Except OsFault FileTree) = .ok t ↔ t' = t ∧ (wantsDirectory p = true → t'.isDirectory = true) := by
    cases wantsDirectory p with
    | false => exact ⟨fun same => ⟨Except.ok.inj same, nofun⟩, fun held => congrArg _ held.1⟩
    | true =>
      cases dir : t'.isDirectory with
      | false => exact ⟨nofun, fun held => absurd (held.2 rfl) nofun⟩
      | true => exact ⟨fun same => ⟨Except.ok.inj same, fun _ => rfl⟩, fun held => congrArg _ held.1⟩
  constructor
  · rintro ⟨t', there, found⟩
    obtain ⟨rfl, dir⟩ := (kept t').1 found
    exact ⟨there, dir⟩
  · rintro ⟨there, dir⟩
    exact ⟨t, there, (kept t).2 ⟨rfl, dir⟩⟩

theorem read_eq_ok {fs : FileSystem} {p : String} {bytes : Bytes} :
    fs.read p = .ok bytes ↔
      ∃ names, fs.names p = .ok names ∧ fs.root.follow names = .ok (.file bytes) ∧ wantsDirectory p = false := by
  rw [read, bind_eq_ok]
  constructor
  · rintro ⟨t, found, held⟩
    obtain ⟨names, led, there, file⟩ := look_eq_ok.1 found
    cases t with
    | directory entries => cases held
    | file content =>
      cases held
      exact ⟨names, led, there, Bool.eq_false_iff.2 fun wants => absurd (file wants) nofun⟩
  · rintro ⟨names, led, there, file⟩
    exact ⟨.file bytes, look_eq_ok.2 ⟨names, led, there, fun wants => by cases file.symm.trans wants⟩, rfl⟩

variable {fs fs' : FileSystem} {p q : String} {bytes content : Bytes}

/-- Writing a file changes the way of no path. -/
theorem names_write (done : fs.write p bytes = .ok fs') {l : List String} (led : fs.names q = .ok l) :
    fs'.names q = .ok l := by
  obtain ⟨names, root, -, plain, -, put, rfl⟩ := write_eq_ok.1 done
  have dirs {here : List String} {t : FileTree} (there : fs.root.follow here = .ok t) (dir : t.isDirectory = true) :
      ∃ t', root.follow here = .ok t' ∧ t'.isDirectory = true := by
    have apart : here ≠ names := by
      rintro rfl
      exact absurd dir (by simp [plain t there])
    obtain ⟨t', there', same, -⟩ := FileTree.follow_put_other put plain apart there
    exact ⟨t', there', same.trans dir⟩
  have way (here cs : List String) (led : fs.namesFrom here cs = .ok l) :
      ({ fs with root } : FileSystem).namesFrom here cs = .ok l := by
    induction cs generalizing here with
    | nil => exact led
    | cons c cs ih =>
      obtain ⟨t, there, dir, later⟩ := namesFrom_cons.1 led
      obtain ⟨t', there', dir'⟩ := dirs there dir
      exact namesFrom_cons.2 ⟨t', there', dir', ih _ later⟩
  rw [FileSystem.names] at led ⊢
  split at led
  · cases led
  next some =>
    rw [if_neg some]
    exact way _ _ led

/-- **The file that is written has the bytes that were written.** -/
theorem read_write (done : fs.write p bytes = .ok fs') : fs'.read p = .ok bytes := by
  obtain ⟨names, root, led, -, file, put, same⟩ := write_eq_ok.1 done
  refine read_eq_ok.2 ⟨names, names_write done led, ?_, file⟩
  rw [same]
  exact FileTree.follow_put put

/-- **Every other file keeps its bytes.** -/
theorem read_write_other (done : fs.write p bytes = .ok fs') (held : fs.read q = .ok content)
    (apart : fs.names q ≠ fs.names p) : fs'.read q = .ok content := by
  obtain ⟨names, root, led, plain, -, put, same⟩ := write_eq_ok.1 done
  obtain ⟨others, led', there, file⟩ := read_eq_ok.1 held
  have differ : others ≠ names := by
    rintro rfl
    exact apart (led'.trans led.symm)
  obtain ⟨t, there', -, kept⟩ := FileTree.follow_put_other put plain differ there
  refine read_eq_ok.2 ⟨others, names_write done led', ?_, file⟩
  rw [same, there', kept rfl]

/-- two paths lead to different places in every file system -/
def Apart (p q : String) : Prop := ∀ (fs : FileSystem) (l : List String), fs.names p = .ok l → fs.names q ≠ .ok l

/-- Paths to different names right in one directory lead to different places. -/
theorem apart_children {base a b : String} (first : Path.IsChild base p a) (second : Path.IsChild base q b)
    (differ : a ≠ b) : Apart p q := by
  intro fs l led led'
  rw [FileSystem.names] at led led'
  split at led
  · cases led
  split at led'
  · cases led'
  rw [first.absolute, first.components] at led
  rw [second.absolute, second.components] at led'
  obtain ⟨d, above, rfl⟩ := namesFrom_concat first.down led
  obtain ⟨d', above', same⟩ := namesFrom_concat second.down led'
  exact differ (List.cons.inj (List.append_inj' same rfl).2).1

/-- writes some files, in order -/
def writeAll (fs : FileSystem) : List (String × Bytes) → Except OsFault FileSystem
  | [] => .ok fs
  | (path, bytes) :: rest => do (← fs.write path bytes).writeAll rest

theorem read_writeAll_other {files : List (String × Bytes)} (done : fs.writeAll files = .ok fs')
    (held : fs.read q = .ok content) (apart : ∀ f ∈ files, Apart q f.1) : fs'.read q = .ok content := by
  induction files generalizing fs with
  | nil =>
    cases done
    exact held
  | cons f rest ih =>
    obtain ⟨fs₁, first, later⟩ := bind_eq_ok.1 done
    obtain ⟨here, others⟩ := List.forall_mem_cons.1 apart
    obtain ⟨l, led, -⟩ := read_eq_ok.1 held
    have kept := read_write_other first held fun same => here fs l led (same.symm.trans led)
    exact ih later kept others

/-- **Files that are written to different places are all there in the end.** -/
theorem read_writeAll {files : List (String × Bytes)} (done : fs.writeAll files = .ok fs')
    (apart : files.Pairwise fun f g => Apart f.1 g.1) : ∀ f ∈ files, fs'.read f.1 = .ok f.2 := by
  induction files generalizing fs with
  | nil => exact nofun
  | cons f rest ih =>
    obtain ⟨fs₁, first, later⟩ := bind_eq_ok.1 done
    obtain ⟨here, others⟩ := List.pairwise_cons.1 apart
    exact List.forall_mem_cons.2 ⟨read_writeAll_other later (read_write first) here, ih later others⟩

end FileSystem

end HookFlow
