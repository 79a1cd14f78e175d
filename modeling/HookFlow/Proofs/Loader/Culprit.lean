import HookFlow.Proofs.Loader.Failures
import HookFlow.Proofs.Loader.Questions
import HookFlow.Proofs.Loader.Reference
import HookFlow.Proofs.Ordered
/-!
What a loading fails at, and how its failure points there.

A failure ends the whole loading, so there is one culprit: the listing of the workflows directory, or the first listed
workflow file with a flaw. `Culprit.Meets` says what was asked and answered up to the culprit, `Failure.PointsAt` says
what the failure tells of it. Each layer of a loader adds one fact: the repository to a listing that is lost, the text
to a call for an action that is lost, the path of the file to whatever fails in it.

Results:
- `loadFile_shows`: a workflow file that cannot be converted shows a flaw.
- `loadFiles_failed`: the files before the one that fails are converted, and no later one is asked for.
- `Culprit.Meets.losesAction_iff`: a text of a step is named exactly if a call for its action is lost.
- `load_blames`: every failure of a loading points at its culprit.
-/

namespace HookFlow

open HookFlow.Action (Cache Resolving)
open HookFlow.Action.Resolver (lookingUp)

/-! ## Culprits -/

/-- what is wrong with a workflow file, or with an action that it uses -/
inductive Flaw where
  /-- the file cannot be had -/
  | unread
  /-- the file is no workflow -/
  | malformed
  /-- a file of the action `uses` cannot be had -/
  | unfetched (uses : String)
  /-- the action `uses` cannot be understood -/
  | garbled (uses : String)
  /-- the triggers have an unknown shape -/
  | undeclared

/-- what a loading fails at: the listing, or the file `e` behind the files `before` -/
inductive Culprit where
  | listing
  | file (before : List Content.Entry) (e : Content.Entry) (flaw : Flaw)

/-- how a call that is lost can be filed -/
def Flaw.callKinds : List (Category × Code) :=
  [(.fetch, .drawn), (.decode, .drawn), (.cancelled, .fixed "FSB-CANCELLED")]

/-- how a flaw is filed -/
def Flaw.kinds : Flaw → List (Category × Code)
  | .unread => callKinds
  | .malformed => [(.decode, .fixed "FSB-DECODE-002")]
  | .unfetched _ => callKinds
  | .garbled _ => [(.decode, .fixed "FSB-DECODE-001")]
  | .undeclared => [(.unrecognizedShape, .fixed "FSB-SHAPE-001")]

/-- the action that a flaw is put down to: one whose files cannot be had -/
def Flaw.uses? : Flaw → Option String
  | .unfetched uses => some uses
  | _ => none

namespace Culprit

/-- how a culprit is filed -/
def kinds : Culprit → List (Category × Code)
  | .listing => Flaw.callKinds
  | .file _ _ flaw => flaw.kinds

/-- the repository that is named for a culprit -/
def repo? (repo : Repository) : Culprit → Option String
  | .listing => some repo.render
  | .file _ _ _ => none

/-- the workflow file that is named for a culprit -/
def workflow? : Culprit → Option String
  | .listing => none
  | .file _ e _ => some e.path

/-- the action that is named for a culprit -/
def uses? : Culprit → Option String
  | .listing => none
  | .file _ _ flaw => flaw.uses?

/-- the workflow files up to a culprit -/
def files : Culprit → List Content.Entry
  | .listing => []
  | .file before e _ => before ++ [e]

end Culprit

/-- the category, the code and the context of a failure are those of a culprit -/
structure Failure.PointsAt (f : Failure) (repo : Repository) (culprit : Culprit) : Prop where
  category : f.category ∈ [.fetch, .decode, .unrecognizedShape, .cancelled]
  kind : (f.category, f.code) ∈ culprit.kinds
  repo : f.context.lookup "repo" = culprit.repo? repo
  workflow : f.context.lookup "workflow" = culprit.workflow?
  uses : f.context.lookup "uses" = culprit.uses?

namespace Loader

/-- a report of a loader that matters to few -/
def told (message : String) (fields : List (String × Log.Value)) : Exchange Answer :=
  ⟨.log { level := .debug, origin := .loader, message, fields }, ()⟩

/-- the report that the workflows directory is listed -/
def toldListing (settings : Settings) (repo : Repository) : Exchange Answer :=
  told "Listing workflows..." [("repo", .bare repo.render), ("path", .quoted settings.workflowsPath)]

/-- the report that a workflow file is fetched -/
def toldFetching (e : Content.Entry) : Exchange Answer := told "Fetching workflow..." [("workflow", .bare e.name)]

/-- the exchanges that bring the entries of the workflows directory -/
def listed (settings : Settings) (repo : Repository) (entries : List Content.Entry) : History :=
  [toldListing settings repo, ⟨.cancelled, false⟩, ⟨.list repo settings.workflowsPath, .answered (.ok entries)⟩,
    told "Listed workflows" [("repo", .bare repo.render), ("workflows", .count entries.length)]]

/-- the exchanges that bring the bytes of a workflow file, and the report that they hold a workflow -/
def opened (repo : Repository) (e : Content.Entry) (raw : Text.Bytes) : History :=
  toldFetching e :: History.reading repo e.path none raw ++
    [told "Fetched and parsed workflow" [("workflow", .bare e.name)]]

/-- files that are converted one after another, none of which fails -/
inductive Converts (settings : Settings) (repo : Repository) :
    Cache → History → List Content.Entry → Cache → Prop where
  | nil {c : Cache} : Converts settings repo c [] [] c
  | cons {c c₁ c' : Cache} {h t : History} {e : Content.Entry} {rest : List Content.Entry} {flow? : Option Flow}
      (first : Resolves ((Loader.asking settings).loadFile repo e) c h (.ok flow?) c₁)
      (later : Converts settings repo c₁ t rest c') : Converts settings repo c (h ++ t) (e :: rest) c'

/-- the exchanges in which a workflow file shows a flaw, and the failure that comes of it -/
inductive Shows (settings : Settings) (repo : Repository) (e : Content.Entry) (c : Cache) :
    Flaw → History → Failure → Prop where
  | unread {t : History} {f : Failure} (lost : Lost (.file repo e.path none) t f) :
      Shows settings repo e c .unread (toldFetching e :: t) f
  | malformed {raw : Text.Bytes} {f : Failure} (unparsed : Workflow.parse e.name raw = .error f) :
      Shows settings repo e c .malformed (toldFetching e :: History.reading repo e.path none raw) f
  | unfetched {raw : Text.Bytes} {w : Workflow} {found : String → Action} {earlier : List String} {uses : String}
      {reference : ActionReference} {t u : History} {c₁ : Cache} {f : Failure}
      (parsed : Workflow.parse e.name raw = .ok w) (next : earlier ++ [uses] <+: w.uses)
      (resolved : Resolutions settings.metadataFile c t (earlier.map fun uses => (uses, .ok (found uses))) c₁)
      (named : ActionReference.parse? uses = some reference) (lost : Unfetched settings.metadataFile reference u f) :
      Shows settings repo e c (.unfetched uses)
        (opened repo e raw ++ t ++ ⟨.log (lookingUp settings.metadataFile uses), ()⟩ :: u) (f.within "uses" uses)
  | garbled {raw : Text.Bytes} {w : Workflow} {found : String → Action} {earlier : List String} {uses : String}
      {reference : ActionReference} {t u : History} {c₁ : Cache} {f : Failure}
      (parsed : Workflow.parse e.name raw = .ok w) (next : earlier ++ [uses] <+: w.uses)
      (resolved : Resolutions settings.metadataFile c t (earlier.map fun uses => (uses, .ok (found uses))) c₁)
      (named : ActionReference.parse? uses = some reference)
      (garbled : Garbled settings.metadataFile uses reference u f) :
      Shows settings repo e c (.garbled uses)
        (opened repo e raw ++ t ++ ⟨.log (lookingUp settings.metadataFile uses), ()⟩ :: u) f
  | undeclared {raw : Text.Bytes} {w : Workflow} {found : String → Action} {t : History} {c₁ : Cache} {f : Failure}
      (parsed : Workflow.parse e.name raw = .ok w)
      (resolved : Resolutions settings.metadataFile c t (w.uses.map fun uses => (uses, .ok (found uses))) c₁)
      (convertible : w.IsConvertible found settings.placeholder) (undeclared : w.triggers = .error f) :
      Shows settings repo e c .undeclared (opened repo e raw ++ t) f

end Loader

open Loader (toldListing listed opened Converts Shows)

/-- the exchanges of a loading up to its culprit, and the failure that comes of it -/
inductive Culprit.Meets (settings : Loader.Settings) (repo : Repository) (c : Cache) :
    Culprit → History → Failure → Prop where
  | listing {t : History} {f : Failure} (lost : Lost (.list repo settings.workflowsPath) t f) :
      Culprit.Meets settings repo c .listing (toldListing settings repo :: t) (f.within "repo" repo.render)
  | file {entries before after : List Content.Entry} {e : Content.Entry} {flaw : Flaw} {t u : History} {c₁ : Cache}
      {f : Failure} (cut : entries.filter Loader.isWorkflowFile = before ++ e :: after)
      (converted : Converts settings repo c t before c₁) (shows : Shows settings repo e c₁ flaw u f) :
      Culprit.Meets settings repo c (.file before e flaw) (listed settings repo entries ++ t ++ u)
        (f.within "workflow" e.path)

/-- the exchanges end with a call for a file of the action `uses` that failed, was given up, or was not made for a
cancellation -/
def History.LosesAction (h : History) (metadataFile uses : String) : Prop :=
  ∃ reference u f, ActionReference.parse? uses = some reference ∧
    ⟨.log (lookingUp metadataFile uses), ()⟩ :: u <:+ h ∧ Unfetched metadataFile reference u f

/-- the paths of the workflow files that are asked for, in order; files of actions are asked for at a reference -/
def History.fetched (repo : Repository) (h : History) : List String :=
  h.filterMap fun e => match e.1 with
    | .file r path none => if r = repo then some path else none
    | _ => none

section

variable {settings : Loader.Settings} {repo : Repository} {c c' : Cache} {h t : History} {f : Failure}

/-! ## Which files are asked for -/

@[simp] theorem History.fetched_append : (h ++ t).fetched repo = h.fetched repo ++ t.fetched repo :=
  List.filterMap_append

/-- whether a question is not one for a workflow file -/
def Question.IsElsewhere : Question → Prop
  | .file _ _ none => False
  | _ => True

theorem History.fetched_eq_nil (elsewhere : ∀ e ∈ h, e.1.IsElsewhere) : h.fetched repo = [] := by
  refine List.filterMap_eq_nil_iff.2 fun e he => ?_
  obtain ⟨q, a⟩ := e
  have aside := elsewhere _ he
  cases q with
  | file r path gitRef =>
    cases gitRef with
    | none => exact aside.elim
    | some _ => rfl
  | _ => rfl

theorem resolutions_elsewhere {metadataFile : String} {rs : List (String × Except Failure Action)}
    (walk : Resolutions metadataFile c h rs c') : ∀ e ∈ h, e.1.IsElsewhere := by
  have resolved (uses : String) :
      Resolving.Asks Question.IsElsewhere ((Action.Resolver.asking metadataFile).resolve uses) :=
    Action.Resolver.asks_resolve (.question trivial) (fun _ => .question trivial) (fun _ _ _ => .question trivial) uses
  induction walk with
  | nil => exact List.forall_mem_nil _
  | report _ _ ih => exact List.forall_mem_cons.2 ⟨trivial, ih⟩
  | found first _ ih => exact List.forall_mem_append.2 ⟨resolved _ _ _ _ first, ih⟩
  | failed last => exact resolved _ _ _ _ last

/-- A build asks for no workflow file. -/
theorem buildFlow_fetched {name : String} {w : Workflow} {r : Except Failure (Option Flow)}
    (run : Resolves ((Loader.asking settings).buildFlow name w) c h r c') : h.fetched repo = [] := by
  obtain ⟨outcome, t, walk, rfl, -⟩ := buildFlow_verdict settings name w run
  rw [History.fetched_append, History.fetched_eq_nil (resolutions_elsewhere walk)]
  rcases w.ending? outcome settings.placeholder with _ | ⟨o | g⟩ <;> rfl

/-! ## Failures of files -/

/-- What comes of a workflow file: it cannot be had, it is no workflow, or it is built. -/
theorem loadFile_cases {e : Content.Entry} {r : Except Failure (Option Flow)}
    (run : Resolves ((Loader.asking settings).loadFile repo e) c h r c') :
    (∃ t f, r = .error f ∧ h = Loader.toldFetching e :: t ∧ Lost (.file repo e.path none) t f) ∨
    (∃ raw f, r = .error f ∧ h = Loader.toldFetching e :: History.reading repo e.path none raw ∧
      Workflow.parse e.name raw = .error f) ∨
    ∃ raw w t, h = opened repo e raw ++ t ∧ Workflow.parse e.name raw = .ok w ∧
      Resolves ((Loader.asking settings).buildFlow e.name w) c t r c' := by
  obtain ⟨t, rfl, fetching⟩ := resolves_after_report.1 run
  rcases resolves_bind.1 fetching with ⟨f, rfl, failed⟩ | ⟨raw, h₁, h₂, c₁, rfl, had, parsing⟩
  · rcases attempt_file (resolves_of.1 failed).1 with ⟨g, same, lost⟩ | ⟨bytes, same, -⟩
    · cases same
      exact .inl ⟨t, f, rfl, rfl, lost⟩
    · cases same
  obtain ⟨attempt, rfl⟩ := resolves_of.1 had
  rcases attempt_file attempt with ⟨g, same, -⟩ | ⟨bytes, same, rfl⟩
  · cases same
  cases same
  rcases resolves_bind.1 parsing with ⟨f, rfl, failed⟩ | ⟨w, h₃, h₄, c₂, rfl, meant, building⟩
  · obtain ⟨rfl, unparsed, -⟩ := resolves_ofExcept.1 failed
    exact .inr (.inl ⟨raw, f, rfl, by simp [Loader.toldFetching, Loader.told], unparsed.symm⟩)
  · obtain ⟨rfl, parsed, rfl⟩ := resolves_ofExcept.1 meant
    obtain ⟨u, rfl, built⟩ := resolves_after_report.1 building
    exact .inr (.inr ⟨raw, w, u, by simp [opened, Loader.toldFetching, Loader.told], parsed.symm, built⟩)

/-- **How the conversion of a workflow file fails.** -/
theorem loadFile_shows {e : Content.Entry}
    (failed : Resolves ((Loader.asking settings).loadFile repo e) c h (.error f) c') :
    ∃ flaw, Shows settings repo e c flaw h f := by
  rcases loadFile_cases failed with ⟨t, g, same, rfl, lost⟩ | ⟨raw, g, same, rfl, unparsed⟩ |
    ⟨raw, w, t, rfl, parsed, built⟩
  · cases same
    exact ⟨_, .unread lost⟩
  · cases same
    exact ⟨_, .malformed unparsed⟩
  · rcases buildFlow_failed built with ⟨found, earlier, uses, t, u, c₁, rfl, next, resolved, last⟩ |
      ⟨found, resolved, convertible, undeclared⟩
    · obtain ⟨reference, u, named, rfl, ⟨g, lost, rfl⟩ | garbled⟩ := resolve_fails last
      · rw [← List.append_assoc]
        exact ⟨_, .unfetched parsed next resolved named lost⟩
      · rw [← List.append_assoc]
        exact ⟨_, .garbled parsed next resolved named garbled⟩
    · exact ⟨_, .undeclared parsed resolved convertible undeclared⟩

/-- A workflow file is asked for at most once, and no other one is; if it does not fail, it is asked for. -/
theorem loadFile_fetched {e : Content.Entry} {r : Except Failure (Option Flow)}
    (run : Resolves ((Loader.asking settings).loadFile repo e) c h r c') :
    h.fetched repo <+: [e.path] ∧ ∀ flow?, r = .ok flow? → h.fetched repo = [e.path] := by
  have had (raw : Text.Bytes) : (History.reading repo e.path none raw).fetched repo = [e.path] := by
    simp [History.fetched, History.reading]
  rcases loadFile_cases run with ⟨t, g, rfl, rfl, lost⟩ | ⟨raw, g, rfl, rfl, unparsed⟩ | ⟨raw, w, t, rfl, parsed, built⟩
  · refine ⟨?_, nofun⟩
    cases lost with
    | unasked => exact List.nil_prefix
    | failed => simp [History.fetched, Loader.toldFetching, Loader.told]
  · have once : History.fetched repo (Loader.toldFetching e :: History.reading repo e.path none raw) = [e.path] :=
      had raw
    exact ⟨once.symm ▸ List.prefix_rfl, nofun⟩
  · have once : (opened repo e raw ++ t).fetched repo = [e.path] := by
      rw [History.fetched_append, buildFlow_fetched built, List.append_nil]
      simp [History.fetched, History.reading, opened, Loader.toldFetching, Loader.told]
    exact ⟨once.symm ▸ List.prefix_rfl, fun _ _ => once⟩

theorem converts_fetched {before : List Content.Entry} (converted : Converts settings repo c h before c') :
    h.fetched repo = before.map (·.path) := by
  induction converted with
  | nil => rfl
  | cons first _ ih => rw [History.fetched_append, (loadFile_fetched first).2 _ rfl, ih]; rfl

/-- **Files are converted up to the first one that fails.** -/
theorem loadFiles_failed {entries : List Content.Entry}
    (failed : Resolves ((Loader.asking settings).loadFiles repo entries) c h (.error f) c') :
    ∃ before e after t u c₁ g, entries = before ++ e :: after ∧ h = t ++ u ∧ Converts settings repo c t before c₁ ∧
      Resolves ((Loader.asking settings).loadFile repo e) c₁ u (.error g) c' ∧ f = g.within "workflow" e.path := by
  induction entries generalizing c h with
  | nil =>
    obtain ⟨-, same, -⟩ := resolves_pure.1 failed
    cases same
  | cons first rest ih =>
    rcases resolves_bind.1 failed with ⟨g, same, here⟩ | ⟨flow?, h₁, h₂, c₁, rfl, done, later⟩
    · obtain ⟨v, inner, outer⟩ := resolves_within.1 here
      cases same
      obtain ⟨g, rfl, rfl⟩ := mapError_eq_error.1 outer.symm
      exact ⟨[], first, rest, [], h, c, g, rfl, rfl, .nil, inner, rfl⟩
    · obtain ⟨v, inner, outer⟩ := resolves_within.1 done
      obtain rfl := mapError_eq_ok.1 outer.symm
      rcases resolves_bind.1 later with ⟨g, same, behind⟩ | ⟨flows, h₃, h₄, c₂, rfl, -, last⟩
      · cases same
        obtain ⟨before, e, after, t, u, c₂, g, rfl, rfl, converted, unmade, rfl⟩ := ih behind
        exact ⟨first :: before, e, after, h₁ ++ t, u, c₂, g, rfl, by simp, .cons inner converted, unmade, rfl⟩
      · obtain ⟨-, same, -⟩ := resolves_pure.1 last
        cases same

/-! ## What failures tell -/

theorem Failure.lookup_within (f : Failure) (name value : String) :
    (f.within name value).context.lookup name = some value := Ordered.lookup_putSorted _ _ _

theorem Failure.lookup_within_of_ne {other name value : String} (differs : other ≠ name) :
    (f.within name value).context.lookup other = f.context.lookup other := Ordered.lookup_putSorted_of_ne differs

/-- A failure of a call has no context yet. -/
theorem lastFailure?_plain (ends : h.lastFailure? = some f) :
    (f.category, f.code) ∈ Flaw.callKinds ∧ f.context = [] := by
  have settled {α : Type} {reply : Reply Content.Fault α}
      (fails : failureOf (Supervisor.settle Content.Fault.toFailure reply) = some f) :
      (f.category, f.code) ∈ Flaw.callKinds ∧ f.context = [] := by
    rcases reply with (fault | a) | _
    · obtain rfl := Option.some.inj fails
      cases fault with
      | network _ | status _ _ => exact ⟨.head _, rfl⟩
      | malformed _ => exact ⟨.tail _ (.head _), rfl⟩
    · cases fails
    · obtain rfl := Option.some.inj fails
      exact ⟨.tail _ (.tail _ (.head _)), rfl⟩
  obtain ⟨⟨q, a⟩, -, fails⟩ := Option.bind_eq_some_iff.1 ends
  cases q with
  | list repo path => exact settled fails
  | file repo path gitRef => exact settled fails
  | cancelled =>
    cases a with
    | false => cases fails
    | true =>
      obtain rfl := Option.some.inj fails
      exact ⟨.tail _ (.tail _ (.head _)), rfl⟩
  | _ => cases fails

theorem parse_failed {name : String} {raw : Text.Bytes} (unparsed : Workflow.parse name raw = .error f) :
    (f.category, f.code) ∈ Flaw.malformed.kinds ∧ f.context = [] := by
  simp only [Workflow.parse] at unparsed
  split at unparsed
  · cases unparsed
  · cases unparsed
    exact ⟨.head _, rfl⟩

theorem triggers_failed {w : Workflow} (undeclared : w.triggers = .error f) :
    (f.category, f.code) ∈ Flaw.undeclared.kinds ∧ f.context = [] := by
  obtain ⟨fault, -, rfl⟩ := mapError_eq_error.1 (map_eq_error.1 undeclared)
  exact ⟨.head _, rfl⟩

/-- The failure of a flaw names the action whose files cannot be had, if it is that, and nothing else. -/
theorem Loader.Shows.tells {e : Content.Entry} {flaw : Flaw} (shows : Shows settings repo e c flaw h f) :
    (f.category, f.code) ∈ flaw.kinds ∧ f.context = (flaw.uses?.map fun uses => ("uses", uses)).toList := by
  cases shows with
  | unread lost => exact lastFailure?_plain lost.ends
  | malformed unparsed => exact parse_failed unparsed
  | @unfetched _ _ _ _ uses _ _ _ _ g _ _ _ _ lost =>
    obtain ⟨kind, plain⟩ := lastFailure?_plain lost.ends
    refine ⟨kind, ?_⟩
    rw [Failure.within, plain]
    rfl
  | garbled _ _ _ _ garbled => cases garbled <;> exact ⟨.head _, rfl⟩
  | undeclared _ _ _ undeclared => exact triggers_failed undeclared

theorem Flaw.category_of_kind (flaw : Flaw) {kind : Category × Code} (filed : kind ∈ flaw.kinds) :
    kind.1 ∈ [.fetch, .decode, .unrecognizedShape, .cancelled] := by
  have call : ∀ kind ∈ callKinds, kind.1 ∈ [.fetch, .decode, .unrecognizedShape, .cancelled] := by decide
  cases flaw with
  | unread | unfetched _ => exact call kind filed
  | malformed | garbled _ | undeclared =>
    rw [List.mem_singleton.1 filed]
    decide

/-- **The failure points at the culprit.** -/
theorem Culprit.Meets.pointsAt {culprit : Culprit} (meets : culprit.Meets settings repo c h f) :
    f.PointsAt repo culprit := by
  cases meets with
  | @listing _ g lost =>
    obtain ⟨kind, plain⟩ := lastFailure?_plain lost.ends
    have unnamed {name : String} (differs : name ≠ "repo") :
        (g.within "repo" repo.render).context.lookup name = none := by
      rw [Failure.lookup_within_of_ne differs, plain]
      rfl
    exact ⟨Flaw.unread.category_of_kind kind, kind, Failure.lookup_within _ _ _, unnamed (by simp), unnamed (by simp)⟩
  | @file _ _ _ e flaw _ _ _ g cut converted shows =>
    obtain ⟨kind, told⟩ := shows.tells
    refine ⟨flaw.category_of_kind kind, kind, ?_, Failure.lookup_within _ _ _, ?_⟩
    · rw [Failure.lookup_within_of_ne (by simp), told]
      cases flaw.uses? <;> rfl
    · rw [Failure.lookup_within_of_ne (by simp), told, Culprit.uses?]
      cases flaw.uses? <;> rfl

/-! ## The call that is lost -/

theorem events_last {t u : History} {e : Log.Event} (last : ⟨.log e, ()⟩ :: t <:+ u) (silent : t.events = []) :
    u.events.getLast? = some e := by
  obtain ⟨s, rfl⟩ := last
  have own : History.events (⟨.log e, ()⟩ :: t) = [e] := congrArg (e :: ·) silent
  rw [History.events_append, own, List.getLast?_concat]

namespace History.LosesAction

variable {metadataFile uses : String}

theorem reported (loses : h.LosesAction metadataFile uses) :
    h.events.getLast? = some (lookingUp metadataFile uses) := by
  obtain ⟨reference, u, g, -, last, lost⟩ := loses
  exact events_last last lost.silent

/-- The last report is not one of the loader. -/
theorem not_told (loses : h.LosesAction metadataFile uses) {message : String} {fields : List (String × Log.Value)}
    (silent : t.events = []) : ¬ Loader.told message fields :: t <:+ h := by
  intro last
  have same := loses.reported.symm.trans (events_last last silent)
  cases congrArg Log.Event.origin (Option.some.inj same)

/-- The last exchange tells of a failure. -/
theorem not_unbroken (loses : h.LosesAction metadataFile uses) (unbroken : t.Unbroken) (some_exchange : t ≠ []) :
    ¬ t <:+ h := by
  rintro ⟨s, rfl⟩
  obtain ⟨reference, u, g, -, ⟨v, same⟩, lost⟩ := loses
  have ends : History.lastFailure? (s ++ t) = some g := by
    rw [← same]
    exact lastFailure?_append_some (lastFailure?_append_some (h := [_]) lost.ends)
  rw [lastFailure?_append some_exchange, unbroken.lastFailure?] at ends
  cases ends

end History.LosesAction

/-- A history that ends as a workflow file shows a flaw, and with a lost call for an action, ends with a call for the
action that the flaw is put down to. -/
theorem Loader.Shows.uses_of_losesAction {e : Content.Entry} {flaw : Flaw} {uses : String}
    (shows : Shows settings repo e c flaw h f) (last : h <:+ t) (loses : t.LosesAction settings.metadataFile uses) :
    flaw.uses? = some uses := by
  cases shows with
  | unread gone => exact (loses.not_told (gone.silent fun _ => rfl) last).elim
  | malformed => exact (loses.not_told rfl last).elim
  | @unfetched _ _ _ _ other _ _ _ _ _ _ _ _ _ gone =>
    have same := loses.reported.symm.trans (events_last ((List.suffix_append _ _).trans last) gone.silent)
    cases congrArg Log.Event.fields (Option.some.inj same)
    rfl
  | garbled _ _ _ _ garbled =>
    exact (loses.not_unbroken (History.unbroken_report.2 garbled.unbroken) (List.cons_ne_nil _ _)
      ((List.suffix_append _ _).trans last)).elim
  | @undeclared raw _ _ u _ _ _ resolved =>
    have unbroken : (opened repo e raw ++ u).Unbroken := by
      refine History.unbroken_append.2 ⟨?_, resolved.unbroken fun p hp g => ?_⟩
      · exact History.unbroken_append.2
          ⟨History.unbroken_report.2 History.unbroken_reading, List.forall_mem_singleton.2 rfl⟩
      · obtain ⟨uses, -, rfl⟩ := List.mem_map.1 hp
        exact nofun
    exact (loses.not_unbroken unbroken (by simp [opened]) last).elim

/-- **A loading ends with a lost call for an action exactly if that action is named for its culprit.** -/
theorem Culprit.Meets.losesAction_iff {culprit : Culprit} (meets : culprit.Meets settings repo c h f) (uses : String) :
    h.LosesAction settings.metadataFile uses ↔ culprit.uses? = some uses := by
  cases meets with
  | listing lost => exact ⟨fun loses => (loses.not_told (lost.silent fun _ => rfl) List.suffix_rfl).elim, nofun⟩
  | @file _ _ _ _ _ t u _ _ cut converted shows =>
    refine ⟨fun loses => shows.uses_of_losesAction (List.suffix_append _ _) loses, fun named => ?_⟩
    cases shows with
    | @unfetched _ _ _ _ uses reference _ u _ g _ _ _ parsed lost =>
      cases named
      exact ⟨reference, u, g, parsed, (List.suffix_append _ _).trans (List.suffix_append _ _), lost⟩
    | _ => cases named

/-! ## Loadings that fail -/

/-- What comes of the listing of the workflows directory. -/
theorem list_cases {r : Except Failure (List Content.Entry)}
    (run : Resolves ((Loader.asking settings).list repo) c h r c') :
    c' = c ∧ ((∃ t f, r = .error (f.within "repo" repo.render) ∧ h = toldListing settings repo :: t ∧
        Lost (.list repo settings.workflowsPath) t f) ∨
      ∃ entries, r = .ok entries ∧ h = listed settings repo entries) := by
  obtain ⟨t, rfl, listing⟩ := resolves_after_report.1 run
  rcases resolves_bind.1 listing with ⟨f, rfl, failed⟩ | ⟨entries, h₁, h₂, c₁, rfl, had, reporting⟩
  · obtain ⟨v, inner, outer⟩ := resolves_within.1 failed
    obtain ⟨g, rfl, rfl⟩ := mapError_eq_error.1 outer.symm
    obtain ⟨attempt, rfl⟩ := resolves_of.1 inner
    rcases attempt_list attempt with ⟨_, same, lost⟩ | ⟨_, same, -⟩
    · cases same
      exact ⟨rfl, .inl ⟨t, g, rfl, rfl, lost⟩⟩
    · cases same
  · obtain ⟨v, inner, outer⟩ := resolves_within.1 had
    obtain rfl := mapError_eq_ok.1 outer.symm
    obtain ⟨attempt, rfl⟩ := resolves_of.1 inner
    rcases attempt_list attempt with ⟨_, same, -⟩ | ⟨_, same, rfl⟩
    · cases same
    cases same
    obtain ⟨u, rfl, last⟩ := resolves_after_report.1 reporting
    obtain ⟨rfl, rfl, rfl⟩ := resolves_pure.1 last
    exact ⟨rfl, .inr ⟨entries, rfl, rfl⟩⟩

/-- **How a loading fails**: at its listing, or at the first workflow file that cannot be converted; no later one is
asked for. -/
theorem load_meets (failed : Resolves ((Loader.asking settings).load repo) c h (.error f) c') :
    ∃ culprit : Culprit, culprit.Meets settings repo c h f ∧
      h.fetched repo <+: culprit.files.map (·.path) := by
  rcases resolves_bind.1 failed with ⟨g, same, unlisted⟩ | ⟨entries, h₁, h₂, c₁, rfl, had, rest⟩
  · cases same
    obtain ⟨-, ⟨t, g, same, rfl, lost⟩ | ⟨entries, same, -⟩⟩ := list_cases unlisted
    · cases same
      refine ⟨.listing, .listing lost, ?_⟩
      cases lost <;> exact List.nil_prefix
    · cases same
  obtain ⟨rfl, ⟨t, g, same, -⟩ | ⟨_, same, rfl⟩⟩ := list_cases had
  · cases same
  cases same
  rcases resolves_bind.1 rest with ⟨g, same, unmade⟩ | ⟨flows, h₃, h₄, c₂, rfl, -, reporting⟩
  · cases same
    obtain ⟨before, e, after, t, u, c₂, g, cut, rfl, converted, last, rfl⟩ := loadFiles_failed unmade
    obtain ⟨flaw, shows⟩ := loadFile_shows last
    refine ⟨.file before e flaw, ?_, ?_⟩
    · rw [← List.append_assoc]
      exact .file cut converted shows
    · have silent : (listed settings repo entries).fetched repo = [] := rfl
      rw [History.fetched_append, History.fetched_append, silent, converts_fetched converted, List.nil_append,
        Culprit.files, List.map_append]
      exact (List.prefix_append_right_inj _).2 (loadFile_fetched last).1
  · obtain ⟨u, -, last⟩ := resolves_after_report.1 reporting
    obtain ⟨-, same, -⟩ := resolves_pure.1 last
    cases same

/-- **Every failure of a loading points at its culprit.** Whatever the cache holds, whatever the source answers and
whenever the run is cancelled: a loading that fails has met one culprit, and no workflow file behind that was asked for.
The failure is filed as such a culprit is. It names the repository if the listing is the culprit, and the path of the
workflow file otherwise. It names a text that a step uses exactly if the loading ends with a call for a file of that
action, which failed, was given up, or was not made any more. -/
theorem load_blames (settings : Loader.Settings) (repo : Repository) {c c' : Cache} {h : History} {f : Failure}
    (failed : Resolves ((Loader.asking settings).load repo) c h (.error f) c') :
    ∃ culprit : Culprit, culprit.Meets settings repo c h f ∧ f.PointsAt repo culprit ∧
      (∀ uses, f.context.lookup "uses" = some uses ↔ h.LosesAction settings.metadataFile uses) ∧
      h.fetched repo <+: culprit.files.map (·.path) := by
  obtain ⟨culprit, meets, fetched⟩ := load_meets failed
  refine ⟨culprit, meets, meets.pointsAt, fun uses => ?_, fetched⟩
  rw [meets.pointsAt.uses, meets.losesAction_iff]

end

/-! A repository whose workflow uses an action that is not there any more. -/

def withdrawnContent : Content.Fixed where
  list := sampleContent.list
  file repo path gitRef :=
    if path = "action.yml" then .error (.status 404 path) else sampleContent.file repo path gitRef

/-- The failure names the workflow file and the text of its step. -/
theorem load_blames_withdrawn :
    let run := ((Loader.asking {}).load sampleRepository).run.run []
    ∃ f, (run.reply withdrawnContent.answer).1 = .error f ∧
      f.context = [("uses", "a/b@v1"), ("workflow", ".github/workflows/ci.yml")] ∧
      ∃ culprit : Culprit, culprit.Meets {} sampleRepository [] (run.replies withdrawnContent.answer) f ∧
        culprit.uses? = some "a/b@v1" := by
  intro run
  have failed : ((failureOf (run.reply withdrawnContent.answer).1).map Failure.context) =
      some [("uses", "a/b@v1"), ("workflow", ".github/workflows/ci.yml")] := by decide +kernel
  have ends := resolves_reply withdrawnContent.answer ((Loader.asking {}).load sampleRepository) []
  cases result : (run.reply withdrawnContent.answer).1 with
  | ok flows =>
    rw [result] at failed
    cases failed
  | error f =>
    rw [result] at failed
    have context := Option.some.inj failed
    obtain ⟨culprit, meets, points, -⟩ := load_blames {} sampleRepository (result ▸ ends)
    refine ⟨f, rfl, context, culprit, meets, ?_⟩
    rw [← points.uses, context]
    rfl

end HookFlow
