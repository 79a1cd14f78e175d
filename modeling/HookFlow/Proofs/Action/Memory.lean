import HookFlow.Proofs.Action.Resolution
import HookFlow.Proofs.Text.Utf8
import HookFlow.Proofs.Yaml.Record
/-!
What a resolver remembers, over a source that may change at any time.

Nothing ties a cache to such a source. What can be said is how it came about: `Described` ties an action to the
calls of one resolution and to their answers, and `Course` cuts a history into the resolutions in it, each with
the cache before and behind it. Every report of a resolver lies in one of them, so that no resolution is left out.

Results:
- `resolve_recalled`: what is in the cache is answered from it, without a call.
- `resolve_described`: what is added to the cache is what one resolution was told.
- `Course.explained`: every entry of a cache was there before, or was added by a resolution that describes it.
-/

namespace HookFlow

open HookFlow.Action (Cache Resolving)
open History (calls)
open Dialogue (runs_attempt)

/-! ## Caches that grow -/

/-- what one cache has for a text, the other one has for it as well -/
def Action.Cache.Within (c d : Cache) : Prop := ∀ uses a, c.lookup uses = some a → d.lookup uses = some a

namespace Action.Cache.Within

theorem refl (c : Cache) : c.Within c := fun _ _ found => found

theorem trans {c d e : Cache} (first : c.Within d) (second : d.Within e) : c.Within e :=
  fun uses a found => second uses a (first uses a found)

end Action.Cache.Within

/-! ## Metadata without a source -/

theorem Action.readRuns_source {d : Yaml.Document} {node : Yaml.Node} {n n' : Nat} {a : Action}
    (ran : (Action.readRuns d node).run n = .ok (a, n')) : a.source = "" := by
  refine Yaml.Document.record_keeps (P := fun a : Action => a.source = "") ?_ rfl ran
  intro name read found b v n b' n' bare ran
  have field : ∃ x : Yaml.Reader String, ∃ put : String → Action, (∀ s, (put s).source = b.source) ∧
      read b v = x >>= fun s => pure (put s) := by
    simp only [List.lookup_cons] at found
    split at found
    · cases found
      exact ⟨d.text v, fun s => { b with runtime := s }, fun _ => rfl, rfl⟩
    · split at found
      · cases found
        exact ⟨d.text v, fun s => { b with main := s }, fun _ => rfl, rfl⟩
      · cases found
  obtain ⟨x, put, kept, same⟩ := field
  rw [same] at ran
  obtain ⟨s, _, -, last⟩ := Yaml.Reader.bind_eq_ok.1 ran
  obtain ⟨rfl, -⟩ := Prod.mk.inj (Except.ok.inj last)
  rw [kept, bare]

/-- Metadata files say nothing about the source of an entry point. -/
theorem Action.ofMetadata?_source {bytes : Text.Bytes} {a : Action} (meant : Action.ofMetadata? bytes = some a) :
    a.source = "" := by
  cases read : (Yaml.Document.ofBytes bytes).read (Action.reader (Yaml.Document.ofBytes bytes)) with
  | error fault =>
    rw [Action.ofMetadata?, read] at meant
    cases meant
  | ok b =>
    rw [Action.ofMetadata?, read] at meant
    cases meant
    obtain ⟨n, ran⟩ := Yaml.Document.reader_of_read read
    refine Yaml.Document.record_keeps (P := fun a : Action => a.source = "") ?_ rfl ran
    intro name reader found b v n b' n' _ ran
    simp only [List.lookup_cons] at found
    split at found
    · cases found
      exact Action.readRuns_source ran
    · cases found

/-! ## One resolution -/

/-- the calls of the exchanges `h` tell that `uses` names an action: it is no reference and nobody is called, or the
source is asked for the metadata file at the reference, and for the entry point that it names if that can be
hosted -/
inductive Described (metadataFile uses : String) (h : History) : Action → Prop where
  | foreign (unparsed : ActionReference.parse? uses = none) (called : calls h = []) :
      Described metadataFile uses h {}
  | unhosted {reference : ActionReference} {raw : Text.Bytes} {a : Action}
      (parsed : ActionReference.parse? uses = some reference)
      (called : calls h =
        [⟨.file ⟨reference.owner, reference.repo⟩ metadataFile (some reference.gitRef), .answered (.ok raw)⟩])
      (meant : Action.ofMetadata? raw = some a) (unfit : a.isHostable = false) (bare : a.source = "") :
      Described metadataFile uses h a
  | hosted {reference : ActionReference} {raw bytes : Text.Bytes} {a : Action} {source : String}
      (parsed : ActionReference.parse? uses = some reference)
      (called : calls h =
        [⟨.file ⟨reference.owner, reference.repo⟩ metadataFile (some reference.gitRef), .answered (.ok raw)⟩,
          ⟨.file ⟨reference.owner, reference.repo⟩ a.main (some reference.gitRef), .answered (.ok bytes)⟩])
      (meant : Action.ofMetadata? raw = some a) (fit : a.isHostable = true)
      (written : Text.encode source = bytes) :
      Described metadataFile uses h { a with source }

section Resolver

variable {metadataFile uses : String} {c c' : Cache} {h : History}

/-- A file that was fetched was asked for once, and answered. -/
theorem read_called {reference : ActionReference} {path : String} {bytes : Text.Bytes}
    (read : (Action.Resolver.asking metadataFile).Reads uses reference path h (.ok bytes)) :
    calls h = [⟨.file ⟨reference.owner, reference.repo⟩ path (some reference.gitRef), .answered (.ok bytes)⟩] := by
  cases read with
  | @replied h₁ h₂ reply _ asked called settled =>
    obtain rfl := Scene.runs_cancelled.1 asked
    obtain rfl := Scene.runs_file.1 called
    rcases reply with (fault | answer) | _
    · cases settled
    · cases settled
      rfl
    · cases settled

theorem look_described {reference : ActionReference} {a : Action}
    (parsed : ActionReference.parse? uses = some reference)
    (run : Resolves ((Action.Resolver.asking metadataFile).look uses reference) c h (.ok a) c') :
    Described metadataFile uses h a := by
  obtain ⟨⟨h₁, h₂, rfl, told, looks⟩, -⟩ := Action.Resolver.leads_look run
  have silent : calls (h₁ ++ h₂) = calls h₂ := by
    rw [Scene.runs_log.1 told]
    rfl
  cases looks with
  | unhosted read meant unfit =>
    exact .unhosted parsed (silent.trans (read_called read)) meant unfit (Action.ofMetadata?_source meant)
  | @hosted h₃ h₄ raw b v _ read meant fit entry ends =>
    rcases v with f | bytes
    · cases ends
    have both := (History.calls_append h₃ h₄).trans (by rw [read_called read, read_called entry])
    simp only [Except.bind, Action.Resolver.withSource] at ends
    cases decoded : Text.decode bytes with
    | error fault =>
      rw [decoded] at ends
      cases ends
    | ok source =>
      rw [decoded] at ends
      cases ends
      exact .hosted parsed (silent.trans both) meant fit (Text.encode_of_decode decoded)

/-- **What is in the cache is answered from it**, whatever the source would say, and even when the run is
cancelled. -/
theorem resolve_recalled {a : Action} {r : Except Failure Action} (cached : c.lookup uses = some a)
    (run : Resolves ((Action.Resolver.asking metadataFile).resolve uses) c h r c') :
    r = .ok a ∧ calls h = [] ∧ c' = c := by
  rcases Action.Resolver.leads_resolve run with ⟨b, found, told, rfl, rfl⟩ | ⟨missing, -⟩
  · rw [cached] at found
    cases found
    rw [Scene.runs_log.1 told]
    exact ⟨rfl, rfl, rfl⟩
  · rw [cached] at missing
    cases missing

/-- **What is added to the cache is what one resolution was told.** -/
theorem resolve_described {a : Action} (missing : c.lookup uses = none)
    (run : Resolves ((Action.Resolver.asking metadataFile).resolve uses) c h (.ok a) c') :
    Described metadataFile uses h a := by
  rcases Action.Resolver.leads_resolve run with ⟨b, found, -⟩ |
    ⟨-, ⟨reference, c₁, parsed, looked, -⟩ | ⟨foreign, told, same, -⟩⟩
  · rw [missing] at found
    cases found
  · exact look_described parsed looked
  · cases same
    rw [Scene.runs_log.1 told]
    exact .foreign foreign rfl

theorem resolve_within {r : Except Failure Action}
    (run : Resolves ((Action.Resolver.asking metadataFile).resolve uses) c h r c') : c.Within c' :=
  fun _ _ found => resolve_kept run found

theorem resolve_failed {f : Failure}
    (run : Resolves ((Action.Resolver.asking metadataFile).resolve uses) c h (.error f) c') : c' = c := by
  obtain ⟨-, ⟨a, -, ⟨⟩, -⟩ | ⟨-, ⟨a, ⟨⟩, -⟩ | ⟨_, -, same⟩⟩⟩ := resolve_cases run
  exact same

/-- What is in the cache behind a resolution was there before, or the resolution describes it. -/
theorem resolve_explained {r : Except Failure Action} {other : String} {b : Action}
    (run : Resolves ((Action.Resolver.asking metadataFile).resolve uses) c h r c')
    (cached : c'.lookup other = some b) :
    c.lookup other = some b ∨ uses = other ∧ r = .ok b ∧ Described metadataFile uses h b := by
  obtain ⟨-, ⟨a, -, -, rfl⟩ | ⟨missing, ⟨a, rfl, rfl⟩ | ⟨f, -, rfl⟩⟩⟩ := resolve_cases run
  · exact .inl cached
  · rw [List.lookup_cons] at cached
    split at cached
    · rename_i eq
      obtain rfl := eq_of_beq eq
      obtain rfl := Option.some.inj cached
      exact .inr ⟨rfl, rfl, resolve_described missing run⟩
    · exact .inl cached
  · exact .inl cached

end Resolver

/-! ## All resolutions of a history -/

/-- one resolution in a history, with the cache before it and behind it -/
structure Resolution where
  uses : String
  before : Cache
  part : History
  outcome : Except Failure Action
  after : Cache

/-- whether a question is anything but the report of a resolver -/
def Question.IsApart : Question → Prop
  | .log e => e.origin ≠ .actions
  | _ => True

/-- A resolver reports every resolution. -/
theorem resolve_reported {metadataFile uses : String} {c c' : Cache} {h : History} {r : Except Failure Action}
    (run : Resolves ((Action.Resolver.asking metadataFile).resolve uses) c h r c') : ∃ e ∈ h, ¬ e.1.IsApart := by
  rcases Action.Resolver.leads_resolve run with ⟨_, -, told, -⟩ | ⟨-, ⟨reference, c₁, -, looked, -⟩ | ⟨-, told, -⟩⟩
  · rw [Scene.runs_log.1 told]
    exact ⟨_, List.mem_singleton_self _, fun apart => apart rfl⟩
  · obtain ⟨t, rfl, -⟩ := resolves_after_report.1 looked
    exact ⟨_, List.mem_cons_self, fun apart => apart rfl⟩
  · rw [Scene.runs_log.1 told]
    exact ⟨_, List.mem_singleton_self _, fun apart => apart rfl⟩

/-- the exchanges of a history are those of some resolutions, one after another, and between them others that
leave the cache alone. A resolver reports every resolution (`resolve_reported`), so none of them is among these
others. -/
inductive Course (metadataFile : String) : Cache → History → List Resolution → Cache → Prop where
  | nil {c : Cache} : Course metadataFile c [] [] c
  | aside {c c' : Cache} {e : Exchange Answer} {h : History} {xs : List Resolution}
      (apart : e.1.IsApart) (rest : Course metadataFile c h xs c') :
      Course metadataFile c (e :: h) xs c'
  | resolution {x : Resolution} {c' : Cache} {h : History} {xs : List Resolution}
      (run : Resolves ((Action.Resolver.asking metadataFile).resolve x.uses) x.before x.part x.outcome x.after)
      (rest : Course metadataFile x.after h xs c') :
      Course metadataFile x.before (x.part ++ h) (x :: xs) c'

namespace Course

variable {metadataFile : String} {c c₁ c' : Cache} {h t : History} {xs ys : List Resolution}

theorem append (first : Course metadataFile c h xs c₁) (second : Course metadataFile c₁ t ys c') :
    Course metadataFile c (h ++ t) (xs ++ ys) c' := by
  induction first with
  | nil => exact second
  | aside apart _ ih => exact .aside apart (ih second)
  | resolution run _ ih =>
    rw [List.append_assoc]
    exact .resolution run (ih second)

theorem asides (apart : ∀ e ∈ h, e.1.IsApart) : Course metadataFile c h [] c := by
  induction h with
  | nil => exact .nil
  | cons e rest ih =>
    obtain ⟨first, others⟩ := List.forall_mem_cons.1 apart
    exact .aside first (ih others)

/-- **A cache only grows**, and what it has for a text never changes. -/
theorem grows (course : Course metadataFile c h xs c') : c.Within c' := by
  induction course with
  | nil => exact .refl _
  | aside _ _ ih => exact ih
  | resolution run _ ih => exact (resolve_within run).trans ih

theorem each (course : Course metadataFile c h xs c') :
    ∀ x ∈ xs, c.Within x.before ∧ x.before.Within x.after ∧ x.after.Within c' ∧
      ∀ f, x.outcome = .error f → x.after = x.before := by
  induction course with
  | nil => exact List.forall_mem_nil _
  | aside _ _ ih => exact ih
  | @resolution x c' h xs run rest ih =>
    refine List.forall_mem_cons.2 ⟨⟨.refl _, resolve_within run, rest.grows, fun f failed => ?_⟩, ?_⟩
    · rw [failed] at run
      exact resolve_failed run
    · intro y hy
      obtain ⟨grown, others⟩ := ih y hy
      exact ⟨(resolve_within run).trans grown, others⟩

/-- a resolution of a text that an earlier one left in the cache is answered with it, without a call -/
def Recalls (x y : Resolution) : Prop :=
  x.after.Within y.before ∧ ∀ a, x.after.lookup y.uses = some a →
    y.outcome = .ok a ∧ calls y.part = [] ∧ y.after = y.before

/-- Every resolution is one of the resolver's. -/
theorem runs (course : Course metadataFile c h xs c') : ∀ x ∈ xs,
    Resolves ((Action.Resolver.asking metadataFile).resolve x.uses) x.before x.part x.outcome x.after := by
  induction course with
  | nil => exact List.forall_mem_nil _
  | aside _ _ ih => exact ih
  | resolution run _ ih => exact List.forall_mem_cons.2 ⟨run, ih⟩

theorem recalls (course : Course metadataFile c h xs c') : xs.Pairwise Recalls := by
  induction course with
  | nil => exact .nil
  | aside _ _ ih => exact ih
  | resolution run rest ih =>
    refine .cons (fun y hy => ?_) ih
    have kept := (rest.each y hy).1
    exact ⟨kept, fun a cached => resolve_recalled (kept _ _ cached) (rest.runs y hy)⟩

/-- **Every entry is explained.** -/
theorem explained (course : Course metadataFile c h xs c') {uses : String} {a : Action}
    (cached : c'.lookup uses = some a) :
    c.lookup uses = some a ∨
      ∃ x ∈ xs, x.uses = uses ∧ x.outcome = .ok a ∧ x.part <:+: h ∧ Described metadataFile uses x.part a := by
  induction course with
  | nil => exact .inl cached
  | @aside _ _ e _ _ _ _ ih =>
    refine (ih cached).imp id ?_
    rintro ⟨x, hx, same, found, inside, described⟩
    exact ⟨x, hx, same, found, inside.trans (List.infix_cons (List.infix_refl _)), described⟩
  | @resolution x _ h _ run _ ih =>
    rcases ih cached with earlier | ⟨y, hy, same, found, inside, described⟩
    · refine (resolve_explained run earlier).imp id ?_
      rintro ⟨rfl, found, described⟩
      exact ⟨x, List.mem_cons_self, rfl, found, List.infix_append [] x.part h, described⟩
    · exact .inr ⟨y, List.mem_cons_of_mem _ hy, same, found, inside.trans (List.suffix_append _ _).isInfix, described⟩

end Course

end HookFlow
