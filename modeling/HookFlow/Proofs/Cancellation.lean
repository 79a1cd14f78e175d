import HookFlow.Proofs.Action.Cache
/-!
Runs that are cancelled, beside the same runs without a cancellation.

`Collaborators` answer in view of everything that was asked before, and `Cancellation` says when the run is
cancelled: before it starts, or during one of its calls, which is then still answered or left open. The two runs
of a computation have the same exchanges up to the first answer that tells of the cancellation. `Heeds` says what
the computation does from there on: it calls nobody, and comes to a result that is tied to those it can come to
otherwise. It is closed under sequence, so that a computation heeds cancellations if its parts do.

Results:
- `Heeds.play`: a run that heeds cancellations begins no call once it is cancelled, its calls are the first ones
  of the run without a cancellation, and so is its result unless the cancellation shows in it.
- `Heeds.bind`: two runs in sequence.
-/

namespace HookFlow

open History (calls isCall)
open Dialogue (runs_bind runs_attempt)

namespace Dialogue

variable {Q : Type} {A : Q → Type} {α : Type}

/-- the exchanges and the result of a dialogue whose questions are answered in view of the exchanges so far -/
def play (answer : List (Exchange A) → (q : Q) → A q) (past : List (Exchange A)) :
    Dialogue A α → List (Exchange A) × α
  | .done a => ([], a)
  | .ask q next =>
    let a := answer past q
    let rest := (next a).play answer (past ++ [⟨q, a⟩])
    (⟨q, a⟩ :: rest.1, rest.2)

theorem play_ask (answer : List (Exchange A) → (q : Q) → A q) (past : List (Exchange A)) (q : Q)
    (next : A q → Dialogue A α) :
    (ask q next).play answer past =
      (⟨q, answer past q⟩ :: ((next (answer past q)).play answer (past ++ [⟨q, answer past q⟩])).1,
        ((next (answer past q)).play answer (past ++ [⟨q, answer past q⟩])).2) := rfl

theorem runs_play (answer : List (Exchange A) → (q : Q) → A q) (past : List (Exchange A))
    (x : Dialogue A α) : x.Runs (x.play answer past).1 (x.play answer past).2 := by
  induction x generalizing past with
  | done a => exact ⟨rfl, rfl⟩
  | ask q next ih => exact ⟨_, _, rfl, ih _ _⟩

end Dialogue

/-- when a run is cancelled: never, before it starts, or during a call, counted from zero, that is then still
answered or left open for good -/
inductive Cancellation where
  | never
  | atStart
  | during (call : Nat) (answered : Bool)
  deriving DecidableEq, Repr

namespace Cancellation

/-- whether the run is cancelled after some exchanges -/
def hasCome : Cancellation → History → Bool
  | .never, _ => false
  | .atStart, _ => true
  | .during n _, past => n < (calls past).length

/-- whether the call after some exchanges is left open -/
def leavesOpen : Cancellation → History → Bool
  | .during n false, past => n == (calls past).length
  | _, _ => false

theorem leavesOpen_never (past : History) : Cancellation.never.leavesOpen past = false := rfl

/-- what becomes of a call after some exchanges that a collaborator would answer with `result` -/
def reply {ε α : Type} (c : Cancellation) (past : History) (result : Except ε α) : Reply ε α :=
  if c.leavesOpen past then .abandoned else .answered result

/-- no call begins in the exchanges `h`, which follow those of `past`, once the run is cancelled -/
def IsRespected (c : Cancellation) (past h : History) : Prop :=
  ∀ before e after, h = before ++ e :: after → isCall e = true → c.hasCome (past ++ before) = false

end Cancellation

/-- what collaborators answer, in view of what was asked and answered before -/
structure Collaborators where
  now (past : History) : Instant
  list (past : History) (repo : Repository) (path : String) : Except Content.Fault (List Content.Entry)
  file (past : History) (repo : Repository) (path : String) (gitRef : Option String) :
    Except Content.Fault Text.Bytes
  store (past : History) (c : Azure.Container) (blob : String) (archive : Archive) (contentType : String) :
    Except Failure String
  deploy (past : History) (name : String) (template parameters : Json) : Except Failure String

namespace Collaborators

variable (s : Collaborators)

/-- the answers of collaborators in a run that is cancelled at some time -/
def answer (c : Cancellation) (past : History) : (q : Question) → Answer q
  | .cancelled => c.hasCome past
  | .log _ => ()
  | .now => s.now past
  | .list repo path => c.reply past (s.list past repo path)
  | .file repo path gitRef => c.reply past (s.file past repo path gitRef)
  | .store k blob archive contentType => c.reply past (s.store past k blob archive contentType)
  | .deploy name template parameters => c.reply past (s.deploy past name template parameters)

/-- the exchanges and the result of a run that is cancelled at some time -/
def run {α : Type} (c : Cancellation) (x : Scene α) : History × α := x.play (s.answer c) []

/-- An answer that does not tell of the cancellation is the one without a cancellation. -/
theorem answer_eq {c : Cancellation} {past : History} {q : Question}
    (calm : ¬ Interrupts ⟨q, s.answer c past q⟩) : s.answer c past q = s.answer .never past q := by
  have kept {ε α : Type} {result : Except ε α} (answered : c.reply past result ≠ .abandoned) :
      c.reply past result = Cancellation.never.reply past result := by
    simp only [Cancellation.reply] at answered ⊢
    split at answered
    · exact absurd rfl answered
    · rename_i closed
      rw [if_neg closed, Cancellation.leavesOpen_never, if_neg Bool.false_ne_true]
  cases q with
  | cancelled => simpa [answer, Interrupts, Cancellation.hasCome] using calm
  | log => rfl
  | now => rfl
  | list => exact kept calm
  | file => exact kept calm
  | store => exact kept calm
  | deploy => exact kept calm

/-- Without a cancellation no answer tells of one. -/
theorem answer_never_calm (past : History) (q : Question) : ¬ Interrupts ⟨q, s.answer .never past q⟩ := by
  cases q <;> simp [answer, Interrupts, Cancellation.hasCome, Cancellation.reply, Cancellation.leavesOpen]

end Collaborators

/-- whether the run counts as checked for a cancellation behind a question; a check holds until the next call -/
def Question.keepsCheck (checked : Bool) : Question → Bool
  | .cancelled => true
  | .log _ => checked
  | .now => checked
  | _ => false

/-- A run heeds cancellations if it asks before each call whether it is cancelled, and if it calls nobody
behind an answer that tells of a cancellation. `R` ties the result that it then comes to to the results that it
can come to otherwise; `checked` says that it has been asked since the last call. -/
def Heeds {α : Type} (R : α → α → Prop) (checked : Bool) : Scene α → Prop
  | Dialogue.done _ => True
  | Dialogue.ask q next =>
    (∀ a, isCall ⟨q, a⟩ = true → checked = true) ∧
    (∀ a, Interrupts ⟨q, a⟩ → ∀ h r, (next a).Runs h r → calls h = [] ∧
      ∀ a', ¬ Interrupts ⟨q, a'⟩ → ∀ h' r', (next a').Runs h' r' → R r r') ∧
    ∀ a, ¬ Interrupts ⟨q, a⟩ → Heeds R (q.keepsCheck checked) (next a)

section

variable {α β : Type} {R : α → α → Prop} {c : Cancellation} {past h : History}

theorem calls_cons_call {e : Exchange Answer} (call : isCall e = true) : calls (e :: h) = e :: calls h := by
  rw [History.calls_cons, if_pos call]

theorem calls_cons_quiet {e : Exchange Answer} (quiet : isCall e = false) : calls (e :: h) = calls h := by
  rw [History.calls_cons, quiet, if_neg Bool.false_ne_true]

theorem isRespected_of_quiet (quiet : calls h = []) : c.IsRespected past h := by
  rintro before e after rfl call
  rw [History.calls_append, calls_cons_call call] at quiet
  exact absurd quiet (by simp)

theorem isRespected_cons {e : Exchange Answer} (first : isCall e = true → c.hasCome past = false)
    (rest : c.IsRespected (past ++ [e]) h) : c.IsRespected past (e :: h) := by
  intro before e' after same call
  rcases List.cons_eq_append_iff.1 same with ⟨rfl, same⟩ | ⟨before', rfl, rfl⟩
  · obtain ⟨rfl, rfl⟩ := List.cons.inj same
    simpa using first call
  · simpa using rest before' e' after rfl call

/-- Whether the run is cancelled can only change with a call. -/
theorem hasCome_append_single {e : Exchange Answer} (quiet : isCall e = false) :
    c.hasCome (past ++ [e]) = c.hasCome past := by
  have same : calls (past ++ [e]) = calls past := by
    rw [History.calls_append, calls_cons_quiet quiet]
    exact List.append_nil _
  cases c <;> simp only [Cancellation.hasCome, same]

/-- Where a check counts behind a question, the run is not cancelled, unless the answer tells of it. -/
theorem hasCome_of_keepsCheck (s : Collaborators) {q : Question} {checked : Bool}
    (fresh : checked = true → c.hasCome past = false) (calm : ¬ Interrupts ⟨q, s.answer c past q⟩)
    (counts : q.keepsCheck checked = true) : c.hasCome (past ++ [⟨q, s.answer c past q⟩]) = false := by
  cases q with
  | cancelled =>
    rw [hasCome_append_single rfl]
    simpa [Collaborators.answer, Interrupts] using calm
  | log | now =>
    rw [hasCome_append_single rfl]
    exact fresh counts
  | list | file | store | deploy => cases counts

/-- **A run that heeds cancellations.** Beside the run of the same collaborators without a cancellation, it
begins no call once it is cancelled, its calls are the first ones of the other run, and it comes to the same
result, or to one that it may come to for the cancellation. -/
theorem Heeds.play (s : Collaborators) {x : Scene α} {checked : Bool} (heeds : Heeds R checked x)
    (fresh : checked = true → c.hasCome past = false) :
    c.IsRespected past (x.play (s.answer c) past).1 ∧
    (calls (x.play (s.answer c) past).1).map (·.1) <+:
      (calls (x.play (s.answer .never) past).1).map (·.1) ∧
    ((x.play (s.answer c) past).2 = (x.play (s.answer .never) past).2 ∨
      R (x.play (s.answer c) past).2 (x.play (s.answer .never) past).2) := by
  induction x generalizing past checked with
  | done a => exact ⟨isRespected_of_quiet rfl, List.prefix_rfl, .inl rfl⟩
  | ask q next ih =>
    obtain ⟨asks, stops, goes_on⟩ := heeds
    have begun : isCall ⟨q, s.answer c past q⟩ = true → c.hasCome past = false :=
      fun call => fresh (asks _ call)
    have same_kind : isCall ⟨q, s.answer c past q⟩ = isCall ⟨q, s.answer .never past q⟩ := rfl
    by_cases told : Interrupts ⟨q, s.answer c past q⟩
    · obtain ⟨quiet, result⟩ := stops _ told _ _ (Dialogue.runs_play (s.answer c) _ (next _))
      refine ⟨isRespected_cons begun (isRespected_of_quiet quiet), ?_,
        .inr (result _ (s.answer_never_calm past q) _ _ (Dialogue.runs_play _ _ _))⟩
      rw [Dialogue.play_ask, Dialogue.play_ask]
      cases call : isCall ⟨q, s.answer c past q⟩ with
      | false =>
        rw [calls_cons_quiet call, quiet]
        exact List.nil_prefix
      | true =>
        rw [calls_cons_call call, calls_cons_call (same_kind ▸ call), quiet]
        exact List.prefix_append [q] _
    · rw [Dialogue.play_ask, Dialogue.play_ask, ← s.answer_eq told]
      obtain ⟨respected, first_calls, result⟩ := ih _ (goes_on _ told) (hasCome_of_keepsCheck s fresh told)
      refine ⟨isRespected_cons begun respected, ?_, result⟩
      cases call : isCall ⟨q, s.answer c past q⟩ with
      | false =>
        rw [calls_cons_quiet call, calls_cons_quiet call]
        exact first_calls
      | true =>
        rw [calls_cons_call call, calls_cons_call call]
        exact (List.prefix_cons_inj q).2 first_calls

/-! ## Which runs heed cancellations -/

theorem heeds_pure (a : α) (checked : Bool) : Heeds R checked (pure a) := trivial

/-- A check is not needed where it is not asked for. -/
theorem Heeds.unchecked {x : Scene α} (heeds : Heeds R false x) (checked : Bool) : Heeds R checked x := by
  cases checked with
  | false => exact heeds
  | true =>
    induction x with
    | done a => trivial
    | ask q next ih =>
      obtain ⟨-, stops, goes_on⟩ := heeds
      refine ⟨fun _ _ => rfl, stops, fun a calm => ?_⟩
      cases q with
      | log | now => exact ih a (goes_on a calm)
      | _ => exact goes_on a calm

theorem exists_calm (q : Question) : ∃ a : Answer q, ¬ Interrupts ⟨q, a⟩ := by
  cases q with
  | cancelled => exact ⟨false, by simp [Interrupts]⟩
  | log => exact ⟨(), id⟩
  | now => exact ⟨⟨0⟩, id⟩
  | list => exact ⟨.answered (.ok []), nofun⟩
  | file => exact ⟨.answered (.ok []), nofun⟩
  | store => exact ⟨.answered (.ok ""), nofun⟩
  | deploy => exact ⟨.answered (.ok ""), nofun⟩

theorem exists_run (x : Scene α) : ∃ h a, x.Runs h a :=
  ⟨_, _, Dialogue.runs_reply (fun q => (exists_calm q).choose) x⟩

/-- Two runs in sequence heed cancellations if both do, and if the second one calls nobody where the first one
stopped. -/
theorem Heeds.bind {S : β → β → Prop} {x : Scene α} {f : α → Scene β} {checked : Bool}
    (hx : Heeds R checked x) (hf : ∀ h a, x.Runs h a → Heeds S false (f a))
    (stops : ∀ a h' a', R a a' → x.Runs h' a' → ∀ h b, (f a).Runs h b → calls h = [] ∧
      ∀ h' b', (f a').Runs h' b' → S b b') : Heeds S checked (x >>= f) := by
  induction x generalizing checked with
  | done a => exact (hf [] a ⟨rfl, rfl⟩).unchecked checked
  | ask q next ih =>
    obtain ⟨asks, stopped, goes_on⟩ := hx
    refine ⟨asks, fun a told h b run => ?_, fun a calm => ?_⟩
    · obtain ⟨v, h₁, h₂, rfl, run₁, run₂⟩ := runs_bind.1 run
      obtain ⟨quiet₁, related⟩ := stopped a told h₁ v run₁
      have ends {a' : Answer q} (calm : ¬ Interrupts ⟨q, a'⟩) {h' : History} {v' : α}
          (run' : (next a').Runs h' v') := stops v _ v' (related a' calm h' v' run') ⟨a', h', rfl, run'⟩ h₂ b run₂
      refine ⟨?_, fun a' calm h' b' run' => ?_⟩
      · obtain ⟨a', calm⟩ := exists_calm q
        obtain ⟨h', v', run'⟩ := exists_run (next a')
        rw [History.calls_append, quiet₁, (ends calm run').1, List.append_nil]
      · obtain ⟨v', h₃, h₄, rfl, run₃, run₄⟩ := runs_bind.1 run'
        exact (ends calm run₃).2 h₄ b' run₄
    · exact ih a (goes_on a calm) (fun h v run => hf _ v ⟨a, h, rfl, run⟩)
        fun v h' v' related run' => stops v _ v' related ⟨a, h', rfl, run'⟩

theorem heeds_log {e : Log.Event} {checked : Bool} {S : Unit → Unit → Prop} :
    Heeds S checked (Scene.supervisor.log e) :=
  ⟨nofun, nofun, fun _ _ => trivial⟩

/-- Behind a question that no cancellation answers, a run has to heed cancellations itself. -/
theorem Heeds.after {S : β → β → Prop} {x : Scene α} {f : α → Scene β} {checked : Bool}
    (hx : Heeds (fun _ _ => False) checked x) (hf : ∀ h a, x.Runs h a → Heeds S false (f a)) :
    Heeds S checked (x >>= f) :=
  hx.bind hf fun _ _ _ impossible => impossible.elim

theorem heeds_question {q : Question} {P : Answer q → Prop} (told : ∀ a, Interrupts ⟨q, a⟩ → P a) :
    Heeds (fun a _ => P a) true (Scene.ask q) := by
  refine ⟨fun _ _ => rfl, ?_, fun _ _ => trivial⟩
  rintro a stop h r ⟨rfl, rfl⟩
  exact ⟨rfl, fun _ _ _ _ _ => told _ stop⟩

/-! The calls of collaborators: a call tells of a cancellation by being left open. -/

section Calls

variable {repo : Repository} {path name blob contentType : String} {gitRef : Option String}
  {k : Azure.Container} {archive : Archive} {template parameters : Json}

theorem heeds_list : Heeds (fun r _ => r = .abandoned) true (Scene.source.list repo path) :=
  heeds_question (q := .list repo path) fun _ => id

theorem heeds_file : Heeds (fun r _ => r = .abandoned) true (Scene.source.file repo path gitRef) :=
  heeds_question (q := .file repo path gitRef) fun _ => id

end Calls

/-- the result is a cancellation, whatever it would be otherwise -/
def Cancelled (r _ : Except Failure α) : Prop := IsCancellation r

/-- A run that asks whether it is cancelled, and then ends. -/
theorem heeds_check {x : Scene (Except Failure α)} {checked : Bool} (hx : Heeds Cancelled true x) :
    Heeds Cancelled checked
      (Scene.supervisor.cancelled >>= fun stop => if stop then pure (.error .cancelled) else x) := by
  refine ⟨nofun, ?_, fun stop calm => ?_⟩
  · rintro stop rfl h r ⟨rfl, rfl⟩
    exact ⟨rfl, fun _ _ _ _ _ => ⟨_, rfl, rfl⟩⟩
  · obtain rfl : stop = false := by simpa [Interrupts] using calm
    exact hx

theorem heeds_attempt {ε : Type} {toFailure : ε → Failure} {call : Scene (Reply ε α)}
    (hc : Heeds (fun r _ => r = .abandoned) true call) {checked : Bool} :
    Heeds Cancelled checked (Scene.supervisor.attempt toFailure call) := by
  refine heeds_check (hc.bind (fun _ _ _ => heeds_pure _ _) ?_)
  rintro r h' r' rfl - h b ⟨rfl, rfl⟩
  exact ⟨rfl, fun _ _ _ => ⟨_, rfl, rfl⟩⟩

/-- A run that goes on only from a result that is no cancellation heeds cancellations if its parts do. -/
theorem Heeds.then {x : Scene (Except Failure α)} {f : Except Failure α → Scene (Except Failure β)}
    {checked : Bool} (hx : Heeds Cancelled checked x) (hf : ∀ h a, x.Runs h a → Heeds Cancelled false (f a))
    (stops : ∀ e, e.category = .cancelled → ∃ e' : Failure, e'.category = .cancelled ∧
      f (.error e) = pure (.error e')) : Heeds Cancelled checked (x >>= f) := by
  refine hx.bind hf ?_
  rintro _ h' a' ⟨e, rfl, cancelled⟩ - h b run
  obtain ⟨e', cancelled', same⟩ := stops e cancelled
  rw [same] at run
  obtain ⟨rfl, rfl⟩ := run
  exact ⟨rfl, fun _ _ _ => ⟨e', rfl, cancelled'⟩⟩

end

end HookFlow
