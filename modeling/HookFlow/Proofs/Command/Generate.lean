import HookFlow.Proofs.Command.Surroundings
import HookFlow.Proofs.Converter
import HookFlow.Proofs.Distinct
import HookFlow.Proofs.Except
import HookFlow.Proofs.Files.System
import Mathlib.Data.List.Forall2
/-!
Packages in a directory: what a run that writes them leaves there.

A run that comes to a good end has written one file for each flow that it loaded, in their order, and nothing else. The
file holds the archive of the flow, made with the runtime as the run has seen it. Its path is the directory joined with
the name of the flow, and names are what the code host lists. A name as a directory has it holds no slash, and comes
once. Then every file lies right in the directory and is there in the end.

Results:
- `runs_writePackages`: one package after another.
- `placed_packages`: where packages lie whose flows have names as a directory has them.
- `generate_packages`: the files of a whole run.
- `generate_packages_misplaced`: names that lead out of the directory, or to one file.
-/

namespace HookFlow

open Dialogue (Asks runs_bind runs_map)
open Stage (act runs_act)
open Text (Bytes)

variable {environment : Config.Environment} {workspace : String} {r : Log.Recorder}

/-! ## The runtime -/

/-- what is looked at in the directory of a runtime -/
def Packager.looked : List String := runtimeFiles ++ [modulesName]

/-- the questions that a runtime is seen by, with their answers -/
def Runtime.looks (rt : Runtime) : Stage.History :=
  Packager.looked.map fun name => ⟨.look (Path.join rt.path name), rt.entry name⟩

/-- Nothing is left of the looks at a runtime if no look is read. -/
theorem Runtime.filterMap_looks {β : Type} (rt : Runtime) {read : Exchange Errand.Answer → Option β}
    (unread : ∀ path answer, read ⟨.look path, answer⟩ = none) : rt.looks.filterMap read = [] :=
  List.filterMap_eq_nil_iff.2 fun e he => by
    obtain ⟨name, -, rfl⟩ := List.mem_map.1 he
    exact unread _ _

theorem Runtime.written_looks (rt : Runtime) : rt.looks.written = [] := rt.filterMap_looks fun _ _ => rfl

namespace Session

section

variable {Q : Type} {A : Q → Type} {s : Session (Dialogue A)} {seen : String → Except OsFault FileTree → Exchange A}
  (look : ∀ {path answer h}, (s.disk.look path).Runs h answer → h = [seen path answer])
include look

theorem runs_look_each {path : String} {names : List String} {h : List (Exchange A)}
    {found : List (String × Except OsFault FileTree)}
    (run : (names.mapM fun name => do return (name, ← s.disk.look (Path.join path name))).Runs h found) :
    found.map Prod.fst = names ∧ h = found.map fun e => seen (Path.join path e.1) e.2 := by
  induction names generalizing h found with
  | nil =>
    obtain ⟨rfl, rfl⟩ := run
    exact ⟨rfl, rfl⟩
  | cons name rest ih =>
    rw [List.mapM_cons] at run
    obtain ⟨e, h₁, h₂, rfl, first, later⟩ := runs_bind.1 run
    obtain ⟨es, h₃, h₄, rfl, others, rfl, rfl⟩ := runs_bind.1 later
    obtain ⟨answer, h₅, h₆, rfl, looked, rfl, rfl⟩ := runs_bind.1 first
    obtain ⟨same, rfl⟩ := ih others
    rw [look looked]
    exact ⟨congrArg (name :: ·) same, by simp⟩

/-- A runtime is what is seen in its directory, in surroundings of any kind. -/
theorem runs_seen {path : String} {h : List (Exchange A)} {rt : Runtime} (run : (s.runtime path).Runs h rt) :
    rt.path = path ∧ h = Packager.looked.map fun name => seen (Path.join rt.path name) (rt.entry name) := by
  obtain ⟨found, h₁, h₂, rfl, looked, rfl, rfl⟩ := runs_bind.1 run
  obtain ⟨names, rfl⟩ := runs_look_each look looked
  have distinct : (found.map Prod.fst).Nodup := names ▸ by decide
  refine ⟨rfl, ?_⟩
  rw [List.append_nil, Packager.looked, ← names, List.map_map]
  refine List.map_congr_left fun e he => ?_
  simp [lookup_of_mem distinct he]

end

theorem runs_runtime {path : String} {h : Stage.History} {rt : Runtime}
    (run : ((staged environment workspace r).runtime path).Runs h rt) : rt.path = path ∧ h = rt.looks := by
  have look {path : String} {answer : Except OsFault FileTree} {h : Stage.History} :
      ((staged environment workspace r).disk.look path).Runs h answer → h = [⟨.look path, answer⟩] := runs_act.1
  exact runs_seen look run

end Session

/-! ## Packages -/

/-- With another runtime a configuration has the same converter, but for the runtime. -/
theorem Converter.ofConfig_runtime {c : Config} {rt : Runtime} {conv : Converter} (made : ofConfig c rt = .ok conv) :
    conv.packager.runtime = rt ∧
      ∀ rt', ofConfig c rt' = .ok { conv with packager := { conv.packager with runtime := rt' } } := by
  obtain ⟨present, rfl⟩ := ofConfig_eq_ok.1 made
  exact ⟨rfl, fun rt' => ofConfig_eq_ok.2 ⟨present, rfl⟩⟩

/-- a file that holds the archive of a flow, made with the runtime as a run has seen it -/
def IsPackage (c : Config) (out : String) (h : Stage.History) (f : Flow) (w : String × Bytes) : Prop :=
  w.1 = f.packagePath out ∧ ∃ rt conv archive, rt.path = c.package.runtimeDir ∧ rt.looks <:+: h ∧
    Converter.ofConfig c rt = .ok conv ∧ conv.archive f = .ok archive ∧ w.2 = archive.toZip

theorem IsPackage.mono {c : Config} {out : String} {h h' : Stage.History} {f : Flow} {w : String × Bytes}
    (package : IsPackage c out h f w) (within : h <:+: h') : IsPackage c out h' f w := by
  obtain ⟨path, rt, conv, archive, place, seen, rest⟩ := package
  exact ⟨path, rt, conv, archive, place, seen.trans within, rest⟩

theorem paths_of_packages {c : Config} {out : String} {h : Stage.History} {flows : List Flow}
    {files : List (String × Bytes)}
    (packages : List.Forall₂ (IsPackage c out h) flows files) :
    files.map Prod.fst = flows.map (Flow.packagePath out) := by
  rw [← List.forall₂_eq_eq_eq, List.forall₂_map_left_iff, List.forall₂_map_right_iff]
  exact packages.flip.imp fun w f package => package.1

namespace Session

variable {c : Config} {rt : Runtime} {conv : Converter} {out : String} {h : Stage.History}

theorem runs_archive {f : Flow} {a : Archive}
    (run : ((staged environment workspace r).archive conv f).Runs h (.ok a)) :
    ∃ rt, rt.path = conv.packager.runtime.path ∧ rt.looks <:+: h ∧ h.written = [] ∧
      ({ conv with packager := { conv.packager with runtime := rt } } : Converter).archive f = .ok a := by
  obtain ⟨rt, h₁, h₂, rfl, seen, later⟩ := runs_bind.1 run
  obtain ⟨path, rfl⟩ := runs_runtime seen
  refine ⟨rt, path, (List.prefix_append _ _).isInfix, ?_⟩
  split at later
  · obtain ⟨-, ⟨⟩⟩ := later
  next a' made =>
    obtain ⟨⟨⟩, h₃, h₄, rfl, told, rfl, ⟨⟩⟩ := runs_bind.1 later
    have silent := Stage.written_eq_nil (.forM fun e _ => Program.quiet_write.log e) told
    exact ⟨by simp [Runtime.written_looks, silent], made⟩

theorem runs_flowsFor {repo : Repository} {flows : List Flow}
    (run : ((staged environment workspace r).flowsFor c conv repo).Runs h (.ok flows)) :
    ((staged environment workspace r).flows c repo).Runs h (.ok flows) := by
  obtain ⟨loaded, h₁, h₂, rfl, first, later⟩ := runs_bind.1 run
  cases loaded with
  | error e => obtain ⟨-, ⟨⟩⟩ := later
  | ok all =>
    obtain ⟨rfl, checked⟩ := later
    obtain ⟨u, -, rfl⟩ := map_eq_ok.1 checked
    rw [List.append_nil]
    exact first

/-- What a run does that writes one package. -/
theorem runs_writePackage (made : Converter.ofConfig c rt = .ok conv) (place : rt.path = c.package.runtimeDir)
    {f : Flow} (run : ((staged environment workspace r).writePackage conv out f).Runs h (.ok ())) :
    ∃ w, h.written = [w] ∧ IsPackage c out h f w := by
  obtain ⟨same, others⟩ := Converter.ofConfig_runtime made
  obtain ⟨archived, h₁, h₂, rfl, first, later⟩ := runs_bind.1 run
  cases archived with
  | error e => obtain ⟨-, ⟨⟩⟩ := later
  | ok a =>
    obtain ⟨rt', path, seen, silent, packed⟩ := runs_archive first
    obtain ⟨written, h₃, h₄, rfl, second, later⟩ := runs_bind.1 later
    rw [runs_act.1 second]
    cases written with
    | error fault => obtain ⟨-, ⟨⟩⟩ := later
    | ok u =>
      obtain ⟨⟨⟩, h₅, h₆, rfl, told, later⟩ := runs_bind.1 later
      obtain ⟨⟨⟩, h₇, h₈, rfl, shown, rfl, -⟩ := runs_bind.1 later
      have silent' := Stage.written_eq_nil (Program.quiet_write.log _) told
      have silent'' := Stage.written_eq_nil (.question rfl) shown
      refine ⟨(f.packagePath out, a.toZip), ?_, rfl, rt', _, a, ?_, ?_, others rt', packed, rfl⟩
      · simp [silent, silent', silent'']
      · rw [path, same, place]
      · exact seen.trans (List.prefix_append _ _).isInfix

/-- **One package after another**: a run that writes the packages of some flows writes these, in order, and no other
files. -/
theorem runs_writePackages (made : Converter.ofConfig c rt = .ok conv) (place : rt.path = c.package.runtimeDir)
    {flows : List Flow}
    (run : ((staged environment workspace r).writePackages conv out flows).Runs h (.ok ())) :
    List.Forall₂ (IsPackage c out h) flows h.written := by
  induction flows generalizing h with
  | nil =>
    obtain ⟨rfl, -⟩ := run
    exact .nil
  | cons f rest ih =>
    obtain ⟨one, h₁, h₂, rfl, first, later⟩ := runs_bind.1 run
    cases one with
    | error e => obtain ⟨-, ⟨⟩⟩ := later
    | ok u =>
      obtain ⟨w, written, package⟩ := runs_writePackage made place first
      rw [Stage.History.written_append, written]
      refine .cons (package.mono (List.prefix_append _ _).isInfix) ?_
      exact (ih later).imp fun f w package => package.mono (List.suffix_append _ _).isInfix

/-- A run that writes packages looks at the runtime, loads the flows, opens the directory and writes. -/
theorem runs_generate {repo : Repository}
    (run : ((staged environment workspace r).generate c repo out).Runs h (.ok ())) :
    ∃ rt conv flows loading writing, rt.path = c.package.runtimeDir ∧ Converter.ofConfig c rt = .ok conv ∧
      h = rt.looks ++ loading ++ ⟨.createDirectories out, .ok ()⟩ :: writing ∧
      ((staged environment workspace r).flows c repo).Runs loading (.ok flows) ∧
      ((staged environment workspace r).writePackages conv out flows).Runs writing (.ok ()) := by
  obtain ⟨made, h₁, h₂, rfl, first, later⟩ := runs_bind.1 run
  obtain ⟨rt, h₃, h₄, rfl, seen, rfl, rfl⟩ := runs_bind.1 first
  obtain ⟨place, rfl⟩ := runs_runtime seen
  cases made : Converter.ofConfig c rt with
  | error f =>
    rw [made] at later
    obtain ⟨-, ⟨⟩⟩ := later
  | ok conv =>
    rw [made] at later
    obtain ⟨served, loading, h₆, rfl, second, later⟩ := runs_bind.1 later
    cases served with
    | error e => obtain ⟨-, ⟨⟩⟩ := later
    | ok flows =>
      obtain ⟨opened, h₇, writing, rfl, third, later⟩ := runs_bind.1 later
      rw [runs_act.1 third]
      cases opened with
      | error fault => obtain ⟨-, ⟨⟩⟩ := later
      | ok u => exact ⟨rt, conv, flows, loading, writing, place, made, by simp, runs_flowsFor second, later⟩

end Session

/-! ## Places -/

/-- where some files are: each right in a directory, at a place of its own, and there in the end -/
structure Placed (out : String) (files : List (String × Bytes)) : Prop where
  child : ∀ w ∈ files, ∃ name, Path.IsChild out w.1 name
  distinct : (files.map Prod.fst).Nodup
  apart : files.Pairwise fun v w => FileSystem.Apart v.1 w.1
  kept : ∀ fs fs' : FileSystem, fs.writeAll files = .ok fs' → ∀ w ∈ files, fs'.read w.1 = .ok w.2

theorem Flow.isChild_packagePath {f : Flow} (plain : '/' ∉ f.name.toList) (out : String) :
    Path.IsChild out (f.packagePath out) (f.name ++ ".zip") := by
  have long : ∀ s : String, s.length < ".zip".length → f.name ++ ".zip" ≠ s := by
    rintro s short rfl
    rw [String.length_append] at short
    omega
  refine Path.isChild_join ?_ (long _ (by decide)) (long _ (by decide)) (long _ (by decide))
  rw [String.toList_append, List.mem_append]
  exact not_or.2 ⟨plain, by decide⟩

/-- Packages below a relative path share it only if their flows share a name. -/
theorem Flow.packagePath_inj {f g : Flow} {out : String} (relative : Path.isAbsolute out = false) (filled : out ≠ "") :
    f.packagePath out = g.packagePath out ↔ f.name = g.name := by
  obtain ⟨lead, full, same, joined⟩ := Path.join_lead filled
  have place (name : String) : Path.join out name = name ∧ Path.isAbsolute (Path.join out name) = true ∨
      Path.join out name = lead ++ name ∧ Path.isAbsolute (Path.join out name) = false := by
    by_cases rooted : Path.isAbsolute name = true
    · have whole : Path.join out name = name := by simp [Path.join, rooted]
      exact .inl ⟨whole, by rw [whole, rooted]⟩
    · have whole := joined name (by simpa using rooted)
      exact .inr ⟨whole, by rw [whole, Path.isAbsolute_append full, same, relative]⟩
  refine ⟨fun path => ?_, fun names => by rw [packagePath, packagePath, names]⟩
  rw [packagePath, packagePath] at path
  have one := place (f.name ++ ".zip")
  have other := place (g.name ++ ".zip")
  rw [path] at one
  rcases one with ⟨one, rooted⟩ | ⟨one, rooted⟩ <;> rcases other with ⟨other, rooted'⟩ | ⟨other, rooted'⟩
  · simpa using one.symm.trans other
  · cases rooted.symm.trans rooted'
  · cases rooted.symm.trans rooted'
  · simpa using one.symm.trans other

theorem Flow.names_of_paths {flows flows' : List Flow} {out : String} (relative : Path.isAbsolute out = false)
    (filled : out ≠ "") (same : flows.map (packagePath out) = flows'.map (packagePath out)) :
    flows.map name = flows'.map name := by
  rw [← List.forall₂_eq_eq_eq, List.forall₂_map_left_iff, List.forall₂_map_right_iff] at same ⊢
  exact same.imp fun f g path => (packagePath_inj relative filled).1 path

/-- **Packages of flows whose names have no slash and come once are right in the directory, and all of them stay.** -/
theorem placed_packages {out : String} {flows : List Flow} {files : List (String × Bytes)}
    (paths : files.map Prod.fst = flows.map (Flow.packagePath out)) (plain : ∀ f ∈ flows, '/' ∉ f.name.toList)
    (distinct : (flows.map Flow.name).Nodup) : Placed out files := by
  have each (R : String → String → Prop)
      (differ : ∀ {p q : String} {a b : String}, Path.IsChild out p a → Path.IsChild out q b → a ≠ b → R p q) :
      (files.map Prod.fst).Pairwise R := by
    rw [paths, List.pairwise_map]
    refine (List.pairwise_map.1 distinct).imp_of_mem fun {f g} hf hg other => ?_
    refine differ (f.isChild_packagePath (plain f hf) out) (g.isChild_packagePath (plain g hg) out) fun same => other ?_
    simpa using same
  have apart : files.Pairwise fun v w => FileSystem.Apart v.1 w.1 :=
    List.pairwise_map.1 (each _ FileSystem.apart_children)
  refine ⟨fun w hw => ?_, each _ fun first second other same => other ?_, apart, fun fs fs' done =>
    FileSystem.read_writeAll done apart⟩
  · have among : w.1 ∈ flows.map (Flow.packagePath out) := paths ▸ List.mem_map_of_mem hw
    obtain ⟨f, hf, path⟩ := List.mem_map.1 among
    exact ⟨_, path ▸ f.isChild_packagePath (plain f hf) out⟩
  · have parts := first.components.symm.trans (same ▸ second.components)
    simpa using parts

/-- **The files of a whole run.** A run that writes packages and comes to a good end has loaded some flows. It has
written one file for each of them, in their order, and nothing else: at the path of the flow, with the archive of the
flow. If the names of the flows hold no slash and come once, all these files are right in the directory, at places of
their own, and there in the end. -/
theorem generate_packages {c : Config} {repo : Repository} {out : String} {h : Stage.History}
    (run : ((Session.staged environment workspace r).generate c repo out).Runs h (.ok ())) :
    ∃ flows loading, loading <:+: h ∧ ((Session.staged environment workspace r).flows c repo).Runs loading (.ok flows) ∧
      List.Forall₂ (IsPackage c out h) flows h.written ∧
      ((∀ f ∈ flows, '/' ∉ f.name.toList) → (flows.map Flow.name).Nodup → Placed out h.written) := by
  obtain ⟨rt, conv, flows, loading, writing, place, made, rfl, loaded, written⟩ := Session.runs_generate run
  have silent := Stage.written_eq_nil (Program.quiet_write.flows c repo) loaded
  have files : Stage.History.written (rt.looks ++ loading ++ ⟨.createDirectories out, .ok ()⟩ :: writing) =
      Stage.History.written writing := by
    rw [Stage.History.written_append, Stage.History.written_append, Runtime.written_looks, silent]
    rfl
  have packages := Session.runs_writePackages made place written
  rw [files]
  refine ⟨flows, loading, ⟨_, _, rfl⟩, loaded, packages.imp fun f w package => package.mono ?_,
    placed_packages (paths_of_packages packages)⟩
  exact ((List.suffix_cons _ _).trans (List.suffix_append _ _)).isInfix

/-! A repository whose workflows directory lists some names, each for the same workflow. -/

def listedConfig : Config where
  github := { apiUrl := "http://h", workflowsPath := "w" }
  codegen := { webhookSecret := "s" }

/-- what the code host has at a path -/
def listedBody (names : List String) (path : String) : String :=
  let entry (name : String) := "\x7b\"name\":\"" ++ name ++ "\",\"path\":\"f\"\x7d"
  let link (target : String) := "\x7b\"download_url\":\"http://h/" ++ target ++ "\"\x7d"
  ([("/repos/o/r/contents/w", "[" ++ ",".intercalate (names.map entry) ++ "]"),
    ("/repos/o/r/contents/f", link "f"), ("/f", "on: push\njobs: \x7bj: \x7bsteps: [\x7buses: a/b@v1\x7d]\x7d\x7d"),
    ("/repos/a/b/contents/action.yml", link "m"), ("/m", "runs: \x7busing: node12, main: dist/i\x7d"),
    ("/repos/a/b/contents/dist/i", link "i")].lookup path).getD ""

def listedAnswer (names : List String) : (q : Errand) → q.Answer
  | .look path => if path == "./node_modules" then .error .notFound else .ok (.file [])
  | .read _ => .error .notFound
  | .write _ _ => .ok ()
  | .append _ _ => .ok ()
  | .createDirectories _ => .ok ()
  | .send r => .ok ⟨200, Text.encode (listedBody names r.url.path)⟩
  | .cancelled => false
  | .print _ => ()
  | .complain _ => ()
  | .sleep _ => ()
  | .now => ⟨0⟩
  | .stamp => ""

/-- a run that writes the packages of the repository -/
def listedRun : Stage (Except Command.Fault Unit) :=
  (Session.staged [] "" ⟨[], .nowhere, none⟩).generate listedConfig ⟨"o", "r"⟩ "d"

/-- how the run ends, and the paths that it writes to -/
def listedEnd (names : List String) : Except Command.Fault Unit × List String :=
  (listedRun.reply (listedAnswer names), (Stage.History.written (listedRun.replies (listedAnswer names))).map Prod.fst)

/-- Two names that are names of files: two packages, both right in the directory. -/
theorem generate_packages_listed :
    ∃ (h : Stage.History) (flows : List Flow), listedRun.Runs h (.ok ()) ∧
      h.written.map Prod.fst = ["d/a.yml.zip", "d/b.yml.zip"] ∧
      List.Forall₂ (IsPackage listedConfig "d" h) flows h.written ∧ flows.map Flow.name = ["a.yml", "b.yml"] ∧ Placed "d" h.written := by
  have ending : listedEnd ["a.yml", "b.yml"] = (.ok (), ["d/a.yml.zip", "d/b.yml.zip"]) := by decide +kernel
  obtain ⟨good, paths⟩ := Prod.mk.inj ending
  have run := Dialogue.runs_reply (listedAnswer ["a.yml", "b.yml"]) listedRun
  rw [good] at run
  obtain ⟨flows, loading, -, -, packages, placed⟩ := generate_packages run
  have same : flows.map (Flow.packagePath "d") = [⟨"a.yml", [], []⟩, ⟨"b.yml", [], []⟩].map (Flow.packagePath "d") :=
    (paths_of_packages packages).symm.trans paths
  have names : flows.map Flow.name = ["a.yml", "b.yml"] := Flow.names_of_paths (by decide) (by decide) same
  have plain : ∀ name ∈ flows.map Flow.name, '/' ∉ name.toList := names ▸ by decide
  exact ⟨_, flows, run, paths, packages, names, placed
    (fun f hf => plain _ (List.mem_map_of_mem hf)) (names ▸ by decide)⟩

/-- **Packages that are misplaced and lost**: the same name twice, and it leads out of the directory. The run comes to a
good end, both packages are written to one file, and that is not in the directory. -/
theorem generate_packages_misplaced :
    ∃ h : Stage.History, listedRun.Runs h (.ok ()) ∧ h.written.map Prod.fst = ["d/../a.yml.zip", "d/../a.yml.zip"] ∧
      ¬ (h.written.map Prod.fst).Nodup ∧ ∀ w ∈ h.written, ¬ ∃ name, Path.IsChild "d" w.1 name := by
  have ending : listedEnd ["../a.yml", "../a.yml"] = (.ok (), ["d/../a.yml.zip", "d/../a.yml.zip"]) := by decide +kernel
  obtain ⟨good, paths⟩ := Prod.mk.inj ending
  have run := Dialogue.runs_reply (listedAnswer ["../a.yml", "../a.yml"]) listedRun
  rw [good] at run
  refine ⟨_, run, paths, paths ▸ by decide, fun w hw ⟨name, child⟩ => ?_⟩
  have among : w.1 ∈ ["d/../a.yml.zip", "d/../a.yml.zip"] := paths ▸ List.mem_map_of_mem hw
  have path : w.1 = "d/../a.yml.zip" := by simpa using among
  have longer := congrArg List.length child.components
  rw [path, List.length_append, List.length_singleton] at longer
  exact absurd longer (by decide)

end HookFlow
