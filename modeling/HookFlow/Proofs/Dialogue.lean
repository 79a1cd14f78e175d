import HookFlow.Deployment.Batch
import HookFlow.Loader
/-!
Runs as dialogues: what a run asks its surroundings, in order, and what it is answered.

A run calls collaborators, asks whether it is cancelled and reports events. `Dialogue` is the monad of such
runs with the answers left open, so a statement about all histories of a dialogue is a statement about every
behaviour of the collaborators, whatever they remember and however they change.

Results:
- `runs_bind`: a history of two computations in sequence is a history of the first and then one of the second.
- `runs_reply`: surroundings that answer from the question alone lead every run to an end.
-/

namespace HookFlow

/-- a computation that asks questions `q : Q` and goes on with their answers -/
inductive Dialogue {Q : Type} (A : Q → Type) (α : Type) : Type where
  | done (a : α)
  | ask (q : Q) (next : A q → Dialogue A α)

/-- a question with its answer -/
abbrev Exchange {Q : Type} (A : Q → Type) := (q : Q) × A q

namespace Dialogue

variable {Q : Type} {A : Q → Type} {α β : Type}

def bind : Dialogue A α → (α → Dialogue A β) → Dialogue A β
  | .done a, f => f a
  | .ask q next, f => .ask q fun a => (next a).bind f

instance : Monad (Dialogue A) where
  pure := .done
  bind := Dialogue.bind

/-- one question, with its answer as the result -/
def question (q : Q) : Dialogue A (A q) := .ask q .done

/-- `x.Runs h a`: the exchanges `h` lead `x` to the result `a` -/
def Runs : Dialogue A α → List (Exchange A) → α → Prop
  | .done a, h, r => h = [] ∧ a = r
  | .ask q next, h, r => ∃ a t, h = ⟨q, a⟩ :: t ∧ (next a).Runs t r

/-- what comes of a dialogue whose questions are always answered alike -/
def reply (answer : (q : Q) → A q) : Dialogue A α → α
  | .done a => a
  | .ask q next => (next (answer q)).reply answer

/-- the exchanges of a dialogue whose questions are always answered alike -/
def replies (answer : (q : Q) → A q) : Dialogue A α → List (Exchange A)
  | .done _ => []
  | .ask q next => ⟨q, answer q⟩ :: (next (answer q)).replies answer

theorem id_map (x : Dialogue A α) : id <$> x = x := by
  induction x with
  | done a => rfl
  | ask q next ih => exact congrArg (Dialogue.ask q) (funext ih)

theorem bind_assoc {γ : Type} (x : Dialogue A α) (f : α → Dialogue A β) (g : β → Dialogue A γ) :
    x >>= f >>= g = x >>= fun a => f a >>= g := by
  induction x with
  | done a => rfl
  | ask q next ih => exact congrArg (Dialogue.ask q) (funext ih)

instance : LawfulMonad (Dialogue A) := .mk' _ id_map (fun _ _ => rfl) bind_assoc

/-! ## Rules for runs -/

@[simp] theorem runs_pure {a r : α} {h : List (Exchange A)} :
    (pure a : Dialogue A α).Runs h r ↔ h = [] ∧ a = r := Iff.rfl

@[simp] theorem runs_question {q : Q} {r : A q} {h : List (Exchange A)} :
    (question q).Runs h r ↔ h = [⟨q, r⟩] := by
  constructor
  · rintro ⟨a, t, rfl, rfl, rfl⟩
    rfl
  · rintro rfl
    exact ⟨r, [], rfl, rfl, rfl⟩

theorem runs_bind {x : Dialogue A α} {f : α → Dialogue A β} {h : List (Exchange A)} {b : β} :
    (x >>= f).Runs h b ↔ ∃ a h₁ h₂, h = h₁ ++ h₂ ∧ x.Runs h₁ a ∧ (f a).Runs h₂ b := by
  induction x generalizing h with
  | done a =>
    constructor
    · intro run
      exact ⟨a, [], h, rfl, ⟨rfl, rfl⟩, run⟩
    · rintro ⟨a', h₁, h₂, rfl, ⟨rfl, rfl⟩, run⟩
      exact run
  | ask q next ih =>
    constructor
    · rintro ⟨a, t, rfl, run⟩
      obtain ⟨v, h₁, h₂, rfl, run₁, run₂⟩ := (ih a).1 run
      exact ⟨v, ⟨q, a⟩ :: h₁, h₂, rfl, ⟨a, h₁, rfl, run₁⟩, run₂⟩
    · rintro ⟨v, h₁, h₂, rfl, ⟨a, t, rfl, run₁⟩, run₂⟩
      exact ⟨a, t ++ h₂, rfl, (ih a).2 ⟨v, t, h₂, rfl, run₁, run₂⟩⟩

theorem runs_map {x : Dialogue A α} {f : α → β} {h : List (Exchange A)} {b : β} :
    (f <$> x).Runs h b ↔ ∃ a, x.Runs h a ∧ f a = b := by
  change (x >>= fun a => pure (f a)).Runs h b ↔ _
  simp only [runs_bind, runs_pure]
  constructor
  · rintro ⟨a, h₁, h₂, rfl, run, rfl, rfl⟩
    exact ⟨a, by simpa using run, rfl⟩
  · rintro ⟨a, run, rfl⟩
    exact ⟨a, h, [], by simp, run, rfl, rfl⟩

theorem runs_reply (answer : (q : Q) → A q) (x : Dialogue A α) :
    x.Runs (x.replies answer) (x.reply answer) := by
  induction x with
  | done a => exact ⟨rfl, rfl⟩
  | ask q next ih => exact ⟨_, _, rfl, ih _⟩

theorem answer_of_mem_replies {answer : (q : Q) → A q} {x : Dialogue A α} {e : Exchange A}
    (he : e ∈ x.replies answer) : e.2 = answer e.1 := by
  induction x with
  | done a => cases he
  | ask q next ih =>
    rcases List.mem_cons.1 he with rfl | he
    · rfl
    · exact ih _ he

end Dialogue

end HookFlow
