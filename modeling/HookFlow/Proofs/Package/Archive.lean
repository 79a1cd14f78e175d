import HookFlow.Package.Archive
import HookFlow.Proofs.Distinct
import HookFlow.Proofs.Except
import HookFlow.Proofs.Files.Tree
import HookFlow.Proofs.Text.Quoted
import HookFlow.Proofs.Text.Split
import Mathlib.Data.List.Nodup
/-!
What an archive holds.

An archive grows by one entry at a time and refuses a name that it has. So packing comes to an end exactly if the files
of the runtime can be read and no name comes twice in the list of all entries, and then that list is the archive.
Which names there are is known from where they come from: a name of the function starts with the function's directory,
a name of a module of the runtime with `node_modules`, and the others hold no slash.

Results:
- `addAll_eq_ok`: entries are added all or not at all.
- `package_eq_ok`: when packing comes to an end, and with what.
- `stepModules_eq`: every source comes once, where it comes first.
- `layout_distinct`: names repeat only if the function's directory is in `node_modules`.
- `package_layout`: all of it together, in view of the tree of the runtime.
-/

namespace HookFlow

open Text (Bytes encode splitChars splitChars_join splitChars_append)

/-! ## Adding entries -/

namespace Archive

/-- the names of the entries, in order -/
def names (a : Archive) : List String := a.entries.map Prod.fst

theorem names_eq {a b : Archive} {es : List (String × Bytes)} (same : b.entries = a.entries ++ es) :
    b.names = a.names ++ es.map Prod.fst := by
  rw [names, same, List.map_append, names]

theorem add_eq_ok {a b : Archive} {name : String} {bytes : Bytes} (distinct : a.names.Nodup) :
    a.add name bytes = .ok b ↔ b.entries = a.entries ++ [(name, bytes)] ∧ b.names.Nodup := by
  have taken : a.entries.any (·.1 == name) = true ↔ name ∈ a.names := by
    simp [names, List.any_eq_true]
  have apart : (a.names ++ [name]).Nodup ↔ name ∉ a.names := by
    rw [List.perm_append_comm.nodup_iff, List.singleton_append, List.nodup_cons]
    exact and_iff_left distinct
  rw [add]
  by_cases held : name ∈ a.names
  · rw [if_pos (taken.2 held)]
    refine ⟨nofun, ?_⟩
    rintro ⟨same, distinct'⟩
    rw [names_eq same] at distinct'
    exact absurd held (apart.1 distinct')
  · rw [if_neg (mt taken.1 held)]
    constructor
    · rintro ⟨⟩
      exact ⟨rfl, names_eq (a := a) rfl ▸ apart.2 held⟩
    · rintro ⟨same, -⟩
      cases b
      cases same
      rfl

/-- **Entries are added all or not at all.** -/
theorem addAll_eq_ok {a b : Archive} {es : List (String × Bytes)} (distinct : a.names.Nodup) :
    a.addAll es = .ok b ↔ b.entries = a.entries ++ es ∧ b.names.Nodup := by
  induction es generalizing a with
  | nil =>
    rw [addAll, List.append_nil]
    constructor
    · rintro ⟨⟩
      exact ⟨rfl, distinct⟩
    · rintro ⟨same, -⟩
      cases a
      cases b
      cases same
      rfl
  | cons e rest ih =>
    rw [addAll, bind_eq_ok]
    constructor
    · rintro ⟨a', added, more⟩
      obtain ⟨first, distinct'⟩ := (add_eq_ok distinct).1 added
      obtain ⟨others, distinctAll⟩ := (ih distinct').1 more
      exact ⟨by simpa [first] using others, distinctAll⟩
    · rintro ⟨same, distinctAll⟩
      have distinct' : (Archive.mk (a.entries ++ [e])).names.Nodup := by
        have whole : b.names = (Archive.mk (a.entries ++ [e])).names ++ rest.map Prod.fst := by
          simp [names, same]
        rw [whole] at distinctAll
        exact (List.nodup_append.1 distinctAll).1
      have added := (add_eq_ok (b := ⟨a.entries ++ [e]⟩) distinct).2 ⟨rfl, distinct'⟩
      exact ⟨_, added, (ih distinct').2 ⟨by simpa using same, distinctAll⟩⟩

theorem addAll_append (a : Archive) (es fs : List (String × Bytes)) :
    a.addAll (es ++ fs) = (a.addAll es >>= fun b => b.addAll fs) := by
  induction es generalizing a with
  | nil => rfl
  | cons e rest ih =>
    rw [List.cons_append, addAll, addAll]
    cases a.add e.1 e.2 with
    | error f => rfl
    | ok b => exact ih b

end Archive

/-! ## Packing -/

namespace Packager

variable {p : Packager} {handler : String} {flow : Flow}

theorem addRuntimeFiles_eq_ok {a b : Archive} {names : List String} (distinct : a.names.Nodup) :
    p.addRuntimeFiles a names = .ok b ↔ ∃ files : List (String × Bytes), files.map Prod.fst = names ∧
      (∀ f ∈ files, p.runtime.read f.1 = .ok f.2) ∧ a.addAll files = .ok b := by
  induction names generalizing a with
  | nil =>
    constructor
    · intro done
      exact ⟨[], rfl, nofun, done⟩
    · rintro ⟨files, none, -, done⟩
      rwa [List.map_eq_nil_iff.1 none] at done
  | cons name rest ih =>
    have reads (bytes : Bytes) : (p.runtime.read name).mapError (unreadable (Path.join p.runtime.path name)) =
        .ok bytes ↔ p.runtime.read name = .ok bytes := by
      cases p.runtime.read name with
      | error fault => simp [Except.mapError]
      | ok content => simp [Except.mapError]
    simp only [addRuntimeFiles, bind_eq_ok, reads]
    constructor
    · rintro ⟨bytes, read, a', added, more⟩
      obtain ⟨files, rfl, each, all⟩ := (ih ((Archive.add_eq_ok distinct).1 added).2).1 more
      exact ⟨(name, bytes) :: files, rfl, List.forall_mem_cons.2 ⟨read, each⟩, bind_eq_ok.2 ⟨a', added, all⟩⟩
    · rintro ⟨files, named, each, all⟩
      cases files with
      | nil => cases named
      | cons f files =>
        obtain ⟨rfl, rfl⟩ := List.cons.inj named
        obtain ⟨read, each⟩ := List.forall_mem_cons.1 each
        obtain ⟨a', added, more⟩ := bind_eq_ok.1 all
        exact ⟨f.2, read, a', added, (ih ((Archive.add_eq_ok distinct).1 added).2).2 ⟨files, rfl, each, more⟩⟩

/-- the entries of an archive, given the files of the runtime that every archive needs -/
def entries (p : Packager) (handler : String) (files : List (String × Bytes)) (flow : Flow) : List (String × Bytes) :=
  p.leadEntries handler ++ files ++ p.runtime.modules.map (fun f => (entryName f.1, f.2)) ++
    stepModules [] flow.steps ++ [("proxies.json", encode proxies)]

theorem package_eq_addAll {a : Archive} : p.package handler flow = .ok a ↔
    ∃ files : List (String × Bytes), files.map Prod.fst = runtimeFiles ∧
      (∀ f ∈ files, p.runtime.read f.1 = .ok f.2) ∧ (Archive.mk []).addAll (p.entries handler files flow) = .ok a := by
  have start : (Archive.mk []).names.Nodup := List.nodup_nil
  have single (b : Archive) : b.addAll [("proxies.json", encode proxies)] = b.add "proxies.json" (encode proxies) := by
    rw [Archive.addAll]
    cases b.add "proxies.json" (encode proxies) <;> rfl
  simp only [package, entries, Archive.addAll_append, single, bind_eq_ok]
  constructor
  · rintro ⟨a₁, lead, a₂, runtime, a₃, modules, a₄, steps, last⟩
    obtain ⟨files, named, each, more⟩ :=
      (addRuntimeFiles_eq_ok ((Archive.addAll_eq_ok start).1 lead).2).1 runtime
    exact ⟨files, named, each, a₄, ⟨a₃, ⟨a₂, ⟨a₁, lead, more⟩, modules⟩, steps⟩, last⟩
  · rintro ⟨files, named, each, a₄, ⟨a₃, ⟨a₂, ⟨a₁, lead, more⟩, modules⟩, steps⟩, last⟩
    have runtime := (addRuntimeFiles_eq_ok ((Archive.addAll_eq_ok start).1 lead).2).2 ⟨files, named, each, more⟩
    exact ⟨a₁, lead, a₂, runtime, a₃, modules, a₄, steps, last⟩

/-- **When packing comes to an end, and with what.** -/
theorem package_eq_ok {a : Archive} : p.package handler flow = .ok a ↔
    ∃ files : List (String × Bytes), files.map Prod.fst = runtimeFiles ∧
      (∀ f ∈ files, p.runtime.read f.1 = .ok f.2) ∧ a.entries = p.entries handler files flow ∧ a.names.Nodup := by
  rw [package_eq_addAll]
  refine exists_congr fun files => and_congr_right fun _ => and_congr_right fun _ => ?_
  exact Archive.addAll_eq_ok List.nodup_nil

/-! ## The modules of the steps -/

/-- the name of the module with a source -/
def moduleName (source : String) : String := Hash.hex (Hash.sha256 (encode source)) ++ ".js"

/-- whether different sources of a flow have different digests -/
def Apart (flow : Flow) : Prop :=
  ∀ s ∈ flow.steps, ∀ t ∈ flow.steps,
    Hash.sha256 (encode s.source) = Hash.sha256 (encode t.source) → s.source = t.source

theorem digit_chars {b : UInt8} : b.toNat / 16 < 16 ∧ b.toNat % 16 < 16 := by
  have small := b.toNat_lt
  omega

theorem hexDigit_inj {m n : Nat} (small : m < 16) (small' : n < 16) (same : Text.hexDigit m = Text.hexDigit n) :
    m = n := by
  have values := congrArg Text.hexValue? same
  rw [Text.hexValue?_hexDigit small, Text.hexValue?_hexDigit small'] at values
  exact Option.some.inj values

theorem hex_inj {as bs : Bytes} (same : Hash.hex as = Hash.hex bs) : as = bs := by
  replace same := String.ofList_injective same
  induction as generalizing bs with
  | nil =>
    cases bs with
    | nil => rfl
    | cons b bs => cases same
  | cons a as ih =>
    cases bs with
    | nil => cases same
    | cons b bs =>
      simp only [List.flatMap_cons, List.cons_append, List.nil_append, List.cons.injEq] at same
      obtain ⟨high, low, later⟩ := same
      have high := hexDigit_inj digit_chars.1 digit_chars.1 high
      have low := hexDigit_inj digit_chars.2 digit_chars.2 low
      have first : a = b := UInt8.toNat_inj.1 (by omega)
      rw [first, ih later]

theorem slash_of_hex (bs : Bytes) : '/' ∉ (Hash.hex bs).toList := by
  have other {n : Nat} (small : n < 16) : Text.hexDigit n ≠ '/' := by
    revert n
    decide
  rw [Hash.hex, String.toList_ofList, List.mem_flatMap]
  rintro ⟨b, -, digit⟩
  simp only [List.mem_cons, List.not_mem_nil, or_false] at digit
  rcases digit with high | low
  · exact other digit_chars.1 high.symm
  · exact other digit_chars.2 low.symm

theorem moduleName_inj {flow : Flow} (apart : Apart flow) {s t : Step} (hs : s ∈ flow.steps) (ht : t ∈ flow.steps) :
    moduleName s.source = moduleName t.source ↔ s.source = t.source := by
  constructor
  · intro same
    exact apart s hs t ht (hex_inj (String.append_left_inj _ |>.1 same))
  · intro same
    rw [same]

/-- **Every source comes once, where it comes first.** -/
theorem stepModules_eq {flow : Flow} (apart : Apart flow) : stepModules [] flow.steps =
    (flow.steps.map Step.source).eraseDups.map fun source => (moduleName source, encode source) := by
  -- in the middle of the steps, the sources that are left are those whose modules have not been seen
  have rest (steps : List Step) (part : ∀ s ∈ steps, s ∈ flow.steps) (seen : List String) : stepModules seen steps =
      ((steps.map Step.source).filter fun source => !seen.contains (moduleName source)).eraseDups.map
        fun source => (moduleName source, encode source) := by
    induction steps generalizing seen with
    | nil => rfl
    | cons s steps ih =>
      obtain ⟨first, part⟩ := List.forall_mem_cons.1 part
      rw [stepModules, List.map_cons, List.filter_cons]
      change (if seen.contains (moduleName s.source) = true then _ else _) = _
      by_cases held : seen.contains (moduleName s.source) = true
      · rw [if_pos held, ih part, held]
        rfl
      · rw [if_neg held, ih part, Bool.eq_false_iff.2 held]
        simp only [Bool.not_false, if_true, List.eraseDups_cons, List.map_cons, List.filter_filter]
        have kept : (steps.map Step.source).filter
              (fun source => !(moduleName s.source :: seen).contains (moduleName source)) =
            (steps.map Step.source).filter
              (fun source => !source == s.source && !seen.contains (moduleName source)) := by
          refine List.filter_congr fun source among => ?_
          obtain ⟨t, ht, rfl⟩ := List.mem_map.1 among
          have same := moduleName_inj apart (part t ht) first
          grind
        exact congrArg (_ :: ·) (by rw [← kept]; rfl)
  rw [rest flow.steps (fun _ hs => hs) []]
  simp

/-- Every step has a module, with the source of the first step that shares it. -/
theorem mem_stepModules {flow : Flow} {s : Step} (held : s ∈ flow.steps) :
    ∃ t ∈ flow.steps, Hash.sha256 (encode t.source) = Hash.sha256 (encode s.source) ∧
      (s.filename, encode t.source) ∈ stepModules [] flow.steps := by
  -- a step whose module has not been seen gets it from a step that is left
  have rest (steps : List Step) (seen : List String) (new : s.filename ∉ seen) (left : s ∈ steps) :
      ∃ t ∈ steps, t.filename = s.filename ∧ (s.filename, encode t.source) ∈ stepModules seen steps := by
    induction steps generalizing seen with
    | nil => cases left
    | cons u steps ih =>
      rw [stepModules]
      by_cases first : u.filename = s.filename
      · refine ⟨u, List.mem_cons_self, first, ?_⟩
        rw [first, if_neg (by simpa using new)]
        exact List.mem_cons_self
      · have later : s ∈ steps := (List.mem_cons.1 left).resolve_left fun same => first (congrArg _ same.symm)
        split
        · obtain ⟨t, ht, same, among⟩ := ih seen new later
          exact ⟨t, List.mem_cons_of_mem u ht, same, among⟩
        · have new' : s.filename ∉ u.filename :: seen := List.not_mem_cons_of_ne_of_not_mem (Ne.symm first) new
          obtain ⟨t, ht, same, among⟩ := ih (u.filename :: seen) new' later
          exact ⟨t, List.mem_cons_of_mem u ht, same, List.mem_cons_of_mem _ among⟩
  obtain ⟨t, ht, same, among⟩ := rest flow.steps [] List.not_mem_nil held
  exact ⟨t, ht, hex_inj (String.append_left_inj _ |>.1 same), among⟩

/-! ## The layout -/

/-- the entries of an archive: two files of the function, what the host leaves out, three files and the modules of the
runtime, the sources of the steps, each once, and an empty set of proxies -/
def layout (functionName handler : String) (host manifest lock : Bytes) (modules : List (List String × Bytes))
    (sources : List String) : List (String × Bytes) :=
  [(functionName ++ "/function.json", encode bindings), (functionName ++ "/index.js", encode handler),
    (".funcignore", encode ignored), ("host.json", host), ("package.json", manifest), ("package-lock.json", lock)] ++
  modules.map (fun m => ("/".intercalate m.1, m.2)) ++
  sources.eraseDups.map (fun source => (Hash.hex (Hash.sha256 (encode source)) ++ ".js", encode source)) ++
  [("proxies.json", encode proxies)]

/-- the first part of a path -/
def firstPart (path : String) : Option String := (splitChars '/' path.toList).head?.map String.ofList

theorem firstPart_append (first : String) {rest : String} (slash : rest.toList.head? = some '/') :
    firstPart (first ++ rest) = firstPart first := by
  obtain ⟨later, behind⟩ := List.head?_eq_some_iff.1 slash
  rw [firstPart, String.toList_append, behind, splitChars_append, firstPart]
  cases parts : splitChars '/' first.toList with
  | nil => exact absurd parts (Text.splitChars_ne_nil _ _)
  | cons part parts => rfl

/-- the parts of a path whose names hold no slash -/
theorem parts_of_entryName {name : String} {rest : List String} (single : ∀ n ∈ name :: rest, '/' ∉ n.toList) :
    splitChars '/' (entryName (name :: rest)).toList = (name :: rest).map String.toList := by
  have joined : (entryName (name :: rest)).toList = ['/'].intercalate ((name :: rest).map String.toList) :=
    String.toList_intercalate
  obtain ⟨first, others⟩ := List.forall_mem_cons.1 single
  rw [joined, List.map_cons]
  exact splitChars_join first (List.forall_mem_map.2 others)

/-- a path to a file below the directory of the modules -/
def IsModulePath (path : List String) : Prop :=
  ∃ name rest, path = modulesName :: name :: rest ∧ ∀ n ∈ path, '/' ∉ n.toList

theorem IsModulePath.inj {a b : List String} (ha : IsModulePath a) (hb : IsModulePath b)
    (same : entryName a = entryName b) : a = b := by
  obtain ⟨name, rest, rfl, single⟩ := ha
  obtain ⟨name', rest', rfl, single'⟩ := hb
  have parts := congrArg (fun path => splitChars '/' path.toList) same
  simp only [parts_of_entryName single, parts_of_entryName single'] at parts
  exact List.map_injective_iff.2 (fun _ _ => String.toList_injective) parts

theorem IsModulePath.firstPart_eq {path : List String} (h : IsModulePath path) :
    firstPart (entryName path) = some modulesName := by
  obtain ⟨name, rest, rfl, single⟩ := h
  rw [firstPart, parts_of_entryName single]
  rfl

theorem IsModulePath.slash {path : List String} (h : IsModulePath path) : '/' ∈ (entryName path).toList := by
  obtain ⟨name, rest, rfl, -⟩ := h
  simp [entryName]

theorem slash_of_moduleName (source : String) : '/' ∉ (moduleName source).toList := by
  rw [moduleName, String.toList_append, List.mem_append]
  rintro (digit | suffix)
  · exact slash_of_hex _ digit
  · exact absurd suffix (by decide)

theorem getLast?_moduleName (source : String) : (moduleName source).toList.getLast? = some 's' := by
  rw [moduleName, String.toList_append, List.getLast?_append_of_ne_nil _ (by decide)]
  rfl

/-- the names of the files of a function -/
def ownNames (functionName : String) : List String := [functionName ++ "/function.json", functionName ++ "/index.js"]

/-- the names of the files at the root of an archive -/
def topNames (sources : List String) : List String :=
  [".funcignore", "host.json", "package.json", "package-lock.json"] ++ sources.eraseDups.map moduleName ++
    ["proxies.json"]

variable {functionName handler : String} {host manifest lock : Bytes} {modules : List (List String × Bytes)}
  {sources : List String}

/-- The names of an archive are those of the function, of the modules and of the files at the root. -/
theorem names_perm : ((layout functionName handler host manifest lock modules sources).map Prod.fst).Perm
    (ownNames functionName ++ modules.map (fun m => entryName m.1) ++ topNames sources) := by
  have names : (layout functionName handler host manifest lock modules sources).map Prod.fst =
      ownNames functionName ++ ([".funcignore", "host.json", "package.json", "package-lock.json"] ++
        (modules.map (fun m => entryName m.1) ++ (sources.eraseDups.map moduleName ++ ["proxies.json"]))) := by
    simp [layout, ownNames, Function.comp_def, entryName, moduleName]
  rw [names, topNames, List.append_assoc (ownNames functionName), List.append_assoc _ _ ["proxies.json"]]
  exact (List.perm_append_comm_assoc _ _ _).append_left _

theorem own_distinct : (ownNames functionName).Nodup := by
  rw [ownNames, List.nodup_cons, List.mem_singleton, String.append_right_inj]
  exact ⟨by decide, List.nodup_singleton _⟩

theorem modules_distinct (ordered : modules.Pairwise fun a b => a.1 ≠ b.1) (below : ∀ m ∈ modules, IsModulePath m.1) :
    (modules.map fun m => entryName m.1).Nodup := by
  refine List.pairwise_map.2 (ordered.imp_of_mem fun ha hb differ same => ?_)
  exact differ ((below _ ha).inj (below _ hb) same)

/-- The names without a slash come once each: those of the steps end in a letter in which no other ends. -/
theorem top_distinct (apart : ∀ s ∈ sources, ∀ t ∈ sources, moduleName s = moduleName t → s = t) :
    (topNames sources).Nodup := by
  have steps : (sources.eraseDups.map moduleName).Nodup :=
    (nodup_eraseDups sources).map_on fun s hs t ht same =>
      apart s (List.mem_eraseDups.1 hs) t (List.mem_eraseDups.1 ht) same
  have other {name : String} (final : name.toList.getLast? ≠ some 's') : name ∉ sources.eraseDups.map moduleName := by
    rintro held
    obtain ⟨source, -, rfl⟩ := List.mem_map.1 held
    exact final (getLast?_moduleName source)
  have last : ("proxies.json" : String) ∉ sources.eraseDups.map moduleName := other (by decide)
  refine List.nodup_append.2 ⟨List.nodup_append.2 ⟨by decide, steps, ?_⟩, List.nodup_singleton _, ?_⟩
  · rintro a ha b hb rfl
    have final : ∀ name ∈ [".funcignore", "host.json", "package.json", "package-lock.json"],
        name.toList.getLast? ≠ some 's' := by decide
    exact other (final a ha) hb
  · rintro a ha b hb rfl
    rw [List.mem_singleton.1 hb, List.mem_append] at ha
    exact ha.elim (by decide) last

theorem firstPart_own {name : String} (held : name ∈ ownNames functionName) :
    firstPart name = firstPart functionName ∧ '/' ∈ name.toList := by
  simp only [ownNames, List.mem_cons, List.not_mem_nil, or_false] at held
  rcases held with rfl | rfl
  · exact ⟨firstPart_append functionName (by decide), by simp⟩
  · exact ⟨firstPart_append functionName (by decide), by simp⟩

theorem firstPart_module (below : ∀ m ∈ modules, IsModulePath m.1) {name : String}
    (held : name ∈ modules.map fun m => entryName m.1) : firstPart name = some modulesName ∧ '/' ∈ name.toList := by
  obtain ⟨m, hm, rfl⟩ := List.mem_map.1 held
  exact ⟨(below m hm).firstPart_eq, (below m hm).slash⟩

theorem slash_of_top {name : String} (held : name ∈ topNames sources) : '/' ∉ name.toList := by
  rw [topNames, List.mem_append, List.mem_append] at held
  rcases held with (held | held) | held
  · revert held name
    decide
  · obtain ⟨source, -, rfl⟩ := List.mem_map.1 held
    exact slash_of_moduleName source
  · rw [List.mem_singleton.1 held]
    decide

/-- **Names repeat only if the function's directory is in `node_modules`.** -/
theorem layout_distinct (outside : firstPart functionName ≠ some modulesName)
    (ordered : modules.Pairwise fun a b => a.1 ≠ b.1) (below : ∀ m ∈ modules, IsModulePath m.1)
    (apart : ∀ s ∈ sources, ∀ t ∈ sources, moduleName s = moduleName t → s = t) :
    ((layout functionName handler host manifest lock modules sources).map Prod.fst).Nodup := by
  rw [names_perm.nodup_iff, List.nodup_append, List.nodup_append]
  refine ⟨⟨own_distinct, modules_distinct ordered below, ?_⟩, top_distinct apart, ?_⟩
  · rintro a ha b hb rfl
    exact outside ((firstPart_own ha).1.symm.trans (firstPart_module below hb).1)
  · rintro a ha b hb rfl
    rcases List.mem_append.1 ha with held | held
    · exact slash_of_top hb (firstPart_own held).2
    · exact slash_of_top hb (firstPart_module below held).2

/-! ## The modules of the runtime -/

theorem modulesAscending (r : Runtime) (proper : ∀ t, r.entry modulesName = .ok t → t.isProper = true) :
    r.modules.Pairwise fun a b => a.1.map encode < b.1.map encode := by
  rw [Runtime.modules]
  cases held : r.entry modulesName with
  | error fault => exact .nil
  | ok t =>
    cases directory : t.isDirectory with
    | false => simp [directory]
    | true => simpa [directory] using FileTree.files_ascending (proper t held) [modulesName]

theorem mem_modules {r : Runtime} (proper : ∀ t, r.entry modulesName = .ok t → t.isProper = true)
    {path : List String} {bytes : Bytes} : (path, bytes) ∈ r.modules ↔
      ∃ t rest, r.entry modulesName = .ok t ∧ t.isDirectory = true ∧ path = modulesName :: rest ∧
        t.follow rest = .ok (.file bytes) := by
  rw [Runtime.modules]
  cases held : r.entry modulesName with
  | error fault => simp
  | ok t =>
    cases directory : t.isDirectory with
    | false =>
      simp only [directory, Bool.false_eq_true, if_false, List.not_mem_nil, false_iff]
      rintro ⟨t', rest, same, directory', -⟩
      cases same
      rw [directory] at directory'
      cases directory'
    | true =>
      simp only [directory, if_true, FileTree.mem_files (proper t held)]
      constructor
      · rintro ⟨rest, rfl, found⟩
        exact ⟨t, rest, rfl, directory, rfl, found⟩
      · rintro ⟨t', rest, same, -, rfl, found⟩
        cases same
        exact ⟨rest, rfl, found⟩

theorem isModulePath_of_mem {r : Runtime} (proper : ∀ t, r.entry modulesName = .ok t → t.isProper = true)
    {m : List String × Bytes} (held : m ∈ r.modules) : IsModulePath m.1 := by
  obtain ⟨t, rest, entry, directory, below, found⟩ := (mem_modules proper).1 held
  cases rest with
  | nil =>
    cases found
    cases directory
  | cons name rest =>
    have single := FileTree.slash_of_follow t (proper t entry) found
    exact ⟨name, rest, below, below ▸ List.forall_mem_cons.2 ⟨by decide, single⟩⟩

/-! ## What an archive holds -/

theorem read_eq_ok {r : Runtime} {name : String} {bytes : Bytes} :
    r.read name = .ok bytes ↔ r.entry name = .ok (.file bytes) := by
  rw [Runtime.read, bind_eq_ok]
  constructor
  · rintro ⟨t, held, content⟩
    cases t with
    | file bytes' =>
      cases content
      exact held
    | directory entries => cases content
  · intro held
    exact ⟨_, held, rfl⟩

/-- The three files of the runtime, one by one. -/
theorem runtimeFiles_read {p : Packager} {P : List (String × Bytes) → Prop} :
    (∃ files : List (String × Bytes), files.map Prod.fst = runtimeFiles ∧
      (∀ f ∈ files, p.runtime.read f.1 = .ok f.2) ∧ P files) ↔
    ∃ host manifest lock, p.runtime.entry "host.json" = .ok (.file host) ∧
      p.runtime.entry "package.json" = .ok (.file manifest) ∧
      p.runtime.entry "package-lock.json" = .ok (.file lock) ∧
      P [("host.json", host), ("package.json", manifest), ("package-lock.json", lock)] := by
  simp only [← read_eq_ok]
  constructor
  · rintro ⟨files, named, each, holds⟩
    obtain ⟨⟨_, host⟩, files₁, rfl, rfl, named₁⟩ := List.map_eq_cons_iff.1 named
    obtain ⟨⟨_, manifest⟩, files₂, rfl, rfl, named₂⟩ := List.map_eq_cons_iff.1 named₁
    obtain ⟨⟨_, lock⟩, files₃, rfl, rfl, named₃⟩ := List.map_eq_cons_iff.1 named₂
    cases List.map_eq_nil_iff.1 named₃
    simp only [List.forall_mem_cons] at each
    obtain ⟨first, second, third, -⟩ := each
    exact ⟨host, manifest, lock, first, second, third, holds⟩
  · rintro ⟨host, manifest, lock, first, second, third, holds⟩
    exact ⟨_, rfl, by simp [first, second, third], holds⟩

/-- **What an archive holds.** Packing comes to an end exactly if the three files of the runtime can be read and no
name comes twice among the entries, and then these are the entries, in this order: the modules of the runtime are the
files below `node_modules`, each once, in ascending order of the bytes of their names, and every source comes once,
where it comes first. No name comes twice if the function lies outside `node_modules`. -/
theorem package_layout (p : Packager) (handler : String) (flow : Flow)
    (proper : ∀ t, p.runtime.entry "node_modules" = .ok t → t.isProper = true) (apart : Apart flow) :
    ∃ modules : List (List String × Bytes),
      (modules.Pairwise fun a b => a.1.map encode < b.1.map encode) ∧
      (∀ path bytes, (path, bytes) ∈ modules ↔ ∃ t rest, p.runtime.entry "node_modules" = .ok t ∧
        t.isDirectory = true ∧ path = "node_modules" :: rest ∧ t.follow rest = .ok (.file bytes)) ∧
      (∀ a, p.package handler flow = .ok a ↔ ∃ host manifest lock,
        p.runtime.entry "host.json" = .ok (.file host) ∧ p.runtime.entry "package.json" = .ok (.file manifest) ∧
        p.runtime.entry "package-lock.json" = .ok (.file lock) ∧
        a.entries = layout p.functionName handler host manifest lock modules (flow.steps.map Step.source) ∧
        (a.entries.map Prod.fst).Nodup) ∧
      (firstPart p.functionName ≠ some "node_modules" → ∀ host manifest lock,
        ((layout p.functionName handler host manifest lock modules (flow.steps.map Step.source)).map
          Prod.fst).Nodup) := by
  have ascending := modulesAscending p.runtime proper
  refine ⟨p.runtime.modules, ascending, fun path bytes => mem_modules proper, fun a => ?_, fun outside _ _ _ => ?_⟩
  · rw [package_eq_ok, runtimeFiles_read]
    simp only [entries, leadEntries, stepModules_eq apart, layout, entryName, moduleName, List.cons_append,
      List.nil_append, Archive.names]
  · refine layout_distinct outside (ascending.imp ?_) (fun m => isModulePath_of_mem proper) ?_
    · rintro a b less same
      rw [same] at less
      exact List.lt_irrefl _ less
    · intro s among t among' same
      obtain ⟨s, hs, rfl⟩ := List.mem_map.1 among
      obtain ⟨t, ht, rfl⟩ := List.mem_map.1 among'
      exact (moduleName_inj apart hs ht).1 same

/-- A runtime whose modules are listed in another order, and two steps with one source. -/
def sharedRuntime : Runtime := .ofTree "rt" (.ok (.directory [
  ("node_modules", .directory [("b", .directory [("x.js", .file [1])]), ("a.js", .file [2])]),
  ("host.json", .file [3]), ("package.json", .file [4]), ("package-lock.json", .file [5])]))

/-- The archive of two steps with one source. -/
theorem package_layout_shared :
    let p : Packager := { runtime := sharedRuntime }
    let flow : Flow := ⟨"ci", [], [⟨"a-0", "x", []⟩, ⟨"a-1", "x", []⟩]⟩
    (∀ t, p.runtime.entry "node_modules" = .ok t → t.isProper = true) ∧ Apart flow ∧
      ∃ a, p.package "h" flow = .ok a ∧ ("node_modules/b/x.js", [1]) ∈ a.entries := by
  intro p flow
  have proper : ∀ t, p.runtime.entry "node_modules" = .ok t → t.isProper = true := by
    rintro t ⟨⟩
    decide
  have apart : Apart flow := by
    simp [Apart, flow]
  obtain ⟨modules, -, held, done, distinct⟩ := package_layout p "h" flow proper apart
  have all := (done ⟨_⟩).2 ⟨[3], [4], [5], rfl, rfl, rfl, rfl, distinct (by decide) _ _ _⟩
  refine ⟨proper, apart, _, all, ?_⟩
  have below := (held ["node_modules", "b", "x.js"] [1]).2 ⟨_, ["b", "x.js"], rfl, rfl, rfl, rfl⟩
  have named := List.mem_map_of_mem (f := fun m : List String × Bytes => ("/".intercalate m.1, m.2)) below
  exact List.mem_append_left _ (List.mem_append_left _ (List.mem_append_right _ named))

end Packager
end HookFlow
