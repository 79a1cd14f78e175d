import HookFlow.Proofs.Handler.Substitution
import HookFlow.Proofs.Package.Archive
/-!
Where a handler finds the modules of its steps.

A handler loads each module from one directory above its own, and an archive holds the modules at its root. The two
agree if the handler lies right below the root. A name of the function with more than one part puts it deeper, and then
the paths lead to places where nothing is.

Results:
- `entrypoint_loads`: a handler loads the modules of its steps, in order.
- `resolve?_module`: the path of a module leads to the module exactly if the handler lies right below the root.
- `archive_modules`: the archive holds the module of every step, and which paths lead to them.
- `archive_modules_nested`: a function whose name has two parts.
-/

namespace HookFlow.Handler

open Text Script

/-! ## What a handler loads -/

/-- the path of the module that a statement loads -/
def loaded? : Deed → Option String
  | .load path => some path
  | _ => none

/-- the paths of the modules that the lines of a text load, in order -/
def loads (text : String) : List String := (effects text).filterMap loaded?

theorem source_loads (h : Handler) : loads h.source =
    loads ("// Generated from " ++ h.origin) ++
      h.invocations.flatMap fun i => loads ("    // " ++ i.step) ++ [i.modulePath] := by
  have sets (es : List (String × String)) : (es.map fun e => Deed.set e.1 e.2).filterMap loaded? = [] := by
    rw [List.filterMap_eq_nil_iff]
    exact List.forall_mem_map.2 fun e _ => rfl
  have step (i : Invocation) : (effects ("    // " ++ i.step) ++ i.exports.map (fun e : String × String =>
        Deed.set e.1 e.2) ++ [Deed.forget i.modulePath, Deed.load i.modulePath]).filterMap loaded? =
      loads ("    // " ++ i.step) ++ [i.modulePath] := by
    rw [List.filterMap_append, List.filterMap_append, sets, List.append_nil]
    rfl
  have head (rest : List Deed) : (Deed.constant "secret" h.secret :: Deed.constant "eventFile" h.eventPath ::
      Deed.setNamed "GITHUB_EVENT_PATH" "eventFile" :: rest).filterMap loaded? = rest.filterMap loaded? := rfl
  rw [loads, source_effects, List.filterMap_append, head, List.filterMap_flatMap]
  simp only [step]
  rfl

/-- **A handler loads the modules of its steps, in order**, besides what the names in comments load. -/
theorem entrypoint_loads (c : Converter) (f : Flow) : loads (c.entrypoint f) =
    loads ("// Generated from " ++ f.name) ++
      f.steps.flatMap fun s => loads ("    // " ++ s.name) ++ ["../" ++ s.filename] := by
  rw [Converter.entrypoint, source_loads, ofFlow, List.flatMap_map]
  rfl

/-! ## Places in an archive -/

/-- a place in an archive: the parts that lead there from the root, the last one first -/
abbrev Place := List (List Char)

/-- one part of a path, from a place on; `none` if it leads out of the archive -/
def enter? (place : Place) (part : List Char) : Option Place :=
  if part = [] ∨ part = ['.'] then some place
  else if part = ['.', '.'] then
    match place with
    | [] => none
    | _ :: above => some above
  else some (part :: place)

/-- the place where a path leads that starts at the root -/
def place? (path : List (List Char)) : Option Place := path.foldlM enter? []

/-- the name of the entry that a relative path means in the file `origin` of an archive; the names of an archive are
seen from its root, so one that starts with a slash is none of them -/
def resolve? (origin path : String) : Option String :=
  if origin.toList.head? = some '/' then none
  else (place? ((splitChars '/' origin.toList).dropLast ++ splitChars '/' path.toList)).map
    fun place => "/".intercalate (place.reverse.map String.ofList)

/-- whether a directory lies right below the root -/
def IsTopLevel (directory : String) : Prop :=
  directory.toList.head? ≠ some '/' ∧ ∃ part, place? (splitChars '/' directory.toList) = some [part]

theorem place?_above (path : List (List Char)) {name : List Char} (plain : name ∉ [[], ['.'], ['.', '.']]) :
    place? (path ++ [['.', '.'], name]) = (place? path).bind fun place =>
      match place with
      | [] => none
      | _ :: above => some (name :: above) := by
  simp only [List.mem_cons, List.not_mem_nil, or_false, not_or] at plain
  rw [place?, List.foldlM_append, place?]
  cases path.foldlM enter? [] with
  | none => rfl
  | some place =>
    cases place with
    | nil => rfl
    | cons part above => simp [enter?, plain]

/-- A name without a slash is that of a place right below the root. -/
theorem name_eq_iff {name : String} (single : '/' ∉ name.toList) (above : Place) :
    "/".intercalate ((name.toList :: above).reverse.map String.ofList) = name ↔ above = [] := by
  rw [List.reverse_cons, ← String.toList_inj, String.toList_intercalate, List.map_map]
  have parts (ps : List (List Char)) : ps.map (String.toList ∘ String.ofList) = ps := by
    simp [Function.comp_def]
  rw [parts]
  cases backwards : above.reverse with
  | nil => simpa using backwards
  | cons part rest =>
    have deeper : above ≠ [] := fun root => by simp [root] at backwards
    refine iff_of_false (fun same => single ?_) deeper
    obtain ⟨next, later, behind⟩ := List.exists_cons_of_ne_nil (List.concat_ne_nil name.toList rest)
    rw [← same, List.cons_append, behind, List.intercalate_cons_cons]
    simp

/-- **The path of a module leads to the module exactly if the handler lies right below the root.** -/
theorem resolve?_module {directory name : String} (single : '/' ∉ name.toList)
    (plain : name.toList ∉ [[], ['.'], ['.', '.']]) :
    resolve? (directory ++ "/index.js") ("../" ++ name) = some name ↔ IsTopLevel directory := by
  have origin : (splitChars '/' (directory ++ "/index.js").toList).dropLast = splitChars '/' directory.toList := by
    have cut : (directory ++ "/index.js").toList = directory.toList ++ '/' :: "index.js".toList := by simp
    rw [cut, splitChars_append, splitChars_single (by decide : '/' ∉ "index.js".toList), List.dropLast_concat]
  have path : splitChars '/' ("../" ++ name).toList = [['.', '.'], name.toList] := by
    have cut : ("../" ++ name).toList = ['.', '.'] ++ '/' :: name.toList := by simp
    rw [cut, splitChars_append, splitChars_single single]
    rfl
  have slash : (directory ++ "/index.js").toList.head? = some '/' ↔
      directory.toList = [] ∨ directory.toList.head? = some '/' := by
    rw [String.toList_append]
    cases directory.toList <;> simp
  rw [resolve?, origin, path, IsTopLevel, place?_above _ plain]
  by_cases absolute : directory.toList = [] ∨ directory.toList.head? = some '/'
  · rw [if_pos (slash.2 absolute)]
    refine ⟨nofun, ?_⟩
    rintro ⟨relative, part, leads⟩
    rw [absolute.resolve_right relative] at leads
    cases leads
  · rw [if_neg (mt slash.1 absolute)]
    obtain ⟨-, relative⟩ := not_or.1 absolute
    rw [and_iff_right relative]
    cases place? (splitChars '/' directory.toList) with
    | none => exact ⟨nofun, nofun⟩
    | some place =>
      cases place with
      | nil => exact ⟨nofun, nofun⟩
      | cons part above =>
        rw [Option.bind_some, Option.map_some, Option.some_inj, name_eq_iff single]
        simp

/-! ## Handlers and their archives -/

theorem packager_of_ofConfig {config : Config} {runtime : Runtime} {c : Converter}
    (made : Converter.ofConfig config runtime = .ok c) : c.packager = ⟨runtime, config.package.functionName⟩ := by
  obtain ⟨-, rfl⟩ := Converter.ofConfig_eq_ok.1 made
  rfl

theorem slash_of_filename (s : Step) : '/' ∉ s.filename.toList := Packager.slash_of_moduleName s.source

theorem plain_filename (s : Step) : s.filename.toList ∉ [[], ['.'], ['.', '.']] := by
  intro dots
  have final : s.filename.toList.getLast? = some 's' := Packager.getLast?_moduleName s.source
  simp only [List.mem_cons, List.not_mem_nil, or_false] at dots
  rcases dots with same | same | same
  all_goals
    rw [same] at final
    cases final

/-- **A handler finds the modules of its steps, if it lies right below the root.** Take a configuration, its converter
and a flow that is packed. The archive holds the handler under the name of the function, and the handler loads, besides
what the names in comments load, one path for each step. The module of every step lies at the root: it holds the source
of a step with the same digest, so the step's own if the digests of the sources differ. The path leads from the handler
to that module exactly if the directory of the function lies right below the root. -/
theorem archive_modules {config : Config} {runtime : Runtime} {c : Converter} {f : Flow} {a : Archive}
    (made : Converter.ofConfig config runtime = .ok c) (packed : c.archive f = .ok a) :
    a.entries.lookup (config.package.functionName ++ "/index.js") = some (encode (c.entrypoint f)) ∧
    loads (c.entrypoint f) = loads ("// Generated from " ++ f.name) ++
      f.steps.flatMap (fun s => loads ("    // " ++ s.name) ++ ["../" ++ s.filename]) ∧
    ∀ s ∈ f.steps,
      (∃ t ∈ f.steps, Hash.sha256 (encode t.source) = Hash.sha256 (encode s.source) ∧
        a.entries.lookup s.filename = some (encode t.source)) ∧
      (Packager.Apart f → a.entries.lookup s.filename = some (encode s.source)) ∧
      (resolve? (config.package.functionName ++ "/index.js") ("../" ++ s.filename) = some s.filename ↔
        IsTopLevel config.package.functionName) := by
  rw [Converter.archive, packager_of_ofConfig made, Packager.package_eq_ok] at packed
  obtain ⟨files, -, -, whole, distinct⟩ := packed
  have found {name : String} {bytes : Bytes} (held : (name, bytes) ∈ Packager.entries
      ⟨runtime, config.package.functionName⟩ (c.entrypoint f) files f) : a.entries.lookup name = some bytes :=
    lookup_of_mem distinct (whole ▸ held)
  have module {s : Step} (hs : s ∈ f.steps) :
      ∃ t ∈ f.steps, Hash.sha256 (encode t.source) = Hash.sha256 (encode s.source) ∧
        a.entries.lookup s.filename = some (encode t.source) := by
    obtain ⟨t, ht, same, held⟩ := Packager.mem_stepModules hs
    refine ⟨t, ht, same, found ?_⟩
    exact List.mem_append_left _ (List.mem_append_right _ held)
  refine ⟨found ?_, entrypoint_loads c f, fun s hs => ⟨module hs, fun apart => ?_, ?_⟩⟩
  · simp [Packager.entries, Packager.leadEntries]
  · obtain ⟨t, ht, same, held⟩ := module hs
    rw [held, apart t ht s hs same]
  · exact resolve?_module (slash_of_filename s) (plain_filename s)

/-! A runtime without modules, and a flow whose steps share a source. -/

def bareRuntime : Runtime := .ofTree "rt" (.ok (.directory [
  ("host.json", .file [3]), ("package.json", .file [4]), ("package-lock.json", .file [5])]))

def sharing : Flow where
  name := "ci"
  triggers := []
  steps := [⟨"a-0", "x", []⟩, ⟨"a-1", "y", []⟩, ⟨"a-2", "x", []⟩]

/-- the configuration of a function with a name -/
def named (functionName : String) : Config where
  codegen := { webhookSecret := "s3cret" }
  package := { functionName }

/-- the converter of that configuration -/
def namedConverter (functionName : String) : Converter where
  secret := "s3cret"
  token := ""
  packager := { runtime := bareRuntime, functionName }

theorem archive_modules_sharing : Converter.ofConfig (named "fn") bareRuntime = .ok (namedConverter "fn") ∧
    ∃ a, (namedConverter "fn").archive sharing = .ok a ∧
      ∀ s ∈ sharing.steps, resolve? "fn/index.js" ("../" ++ s.filename) = some s.filename ∧
        ∃ t ∈ sharing.steps, a.entries.lookup s.filename = some (encode t.source) := by
  have made : Converter.ofConfig (named "fn") bareRuntime = .ok (namedConverter "fn") := rfl
  have done : ((namedConverter "fn").archive sharing).toOption.isSome = true := by decide +kernel
  have top : IsTopLevel "fn" := ⟨by decide, ['f', 'n'], by decide⟩
  cases packed : (namedConverter "fn").archive sharing with
  | error f =>
    rw [packed] at done
    cases done
  | ok a =>
    obtain ⟨-, -, each⟩ := archive_modules made packed
    refine ⟨made, a, rfl, fun s hs => ?_⟩
    obtain ⟨⟨t, ht, -, held⟩, -, leads⟩ := each s hs
    exact ⟨leads.2 top, t, ht, held⟩

/-- **A function whose name has two parts does not find its modules**: the path leads to a directory next to its own. -/
theorem archive_modules_nested : (named "a/b").validate = .ok () ∧
    Converter.ofConfig (named "a/b") bareRuntime = .ok (namedConverter "a/b") ∧
    ∃ a, (namedConverter "a/b").archive sharing = .ok a ∧ ∃ s ∈ sharing.steps,
      "../" ++ s.filename ∈ loads ((namedConverter "a/b").entrypoint sharing) ∧
      ∃ name, resolve? "a/b/index.js" ("../" ++ s.filename) = some name ∧ a.entries.lookup name = none := by
  have valid : (named "a/b").validate = .ok () := eq_ok_of_toOption (by decide +kernel)
  let s : Step := ⟨"a-0", "x", []⟩
  let name := "a/2d711642b726b04401627ca9fbac32f5c8530fb1903cc4db02258717921a4881.js"
  have first : s ∈ sharing.steps := List.mem_cons_self
  have loaded : "../" ++ s.filename ∈ loads ((namedConverter "a/b").entrypoint sharing) := by
    rw [entrypoint_loads, List.mem_append, List.mem_flatMap]
    exact .inr ⟨s, first, List.mem_append_right _ (List.mem_singleton_self _)⟩
  have leads : resolve? "a/b/index.js" ("../" ++ s.filename) = some name := by decide +kernel
  have absent : ((namedConverter "a/b").archive sharing).toOption.map (fun a => a.entries.lookup name) = some none := by
    decide +kernel
  cases packed : (namedConverter "a/b").archive sharing with
  | error f =>
    rw [packed] at absent
    cases absent
  | ok a =>
    rw [packed] at absent
    exact ⟨valid, rfl, a, rfl, s, first, loaded, name, leads, Option.some.inj absent⟩

end HookFlow.Handler
