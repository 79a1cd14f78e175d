import HookFlow.Yaml.Read
/-!
Records: what holds of the record that the reading of fields starts from, and is kept by the reader of each field,
holds of the record that is read.

Results:
- `record_keeps`: the rule for records.
-/

namespace HookFlow.Yaml

theorem Reader.bind_eq_ok {α β : Type} {x : Reader α} {f : α → Reader β} {n n' : Nat} {b : β} :
    (x >>= f).run n = .ok (b, n') ↔ ∃ a k, x.run n = .ok (a, k) ∧ (f a).run k = .ok (b, n') := by
  rw [StateT.run_bind]
  cases ran : x.run n with
  | error fault => simp [bind, Except.bind]
  | ok p =>
    obtain ⟨a, k⟩ := p
    constructor
    · intro rest
      exact ⟨a, k, rfl, rest⟩
    · rintro ⟨_, _, ⟨⟩, rest⟩
      exact rest

namespace Document

/-- What is read from a document is what the reader makes of its root. -/
theorem reader_of_read {d : Document} {α : Type} {reader : Node → Reader α} {a : α} (read : d.read reader = .ok a) :
    ∃ n, (reader d.root).run 0 = .ok (a, n) := by
  cases ran : (reader d.root).run 0 with
  | error fault =>
    simp only [Document.read, ran] at read
    cases read
  | ok p =>
    obtain ⟨b, n⟩ := p
    simp only [Document.read, ran, bind, Except.bind] at read
    split at read
    · cases read
      exact ⟨n, rfl⟩
    · cases read

variable {d : Document} {α : Type} {fields : List (String × (α → Node → Reader α))} {P : α → Prop}

/-- every field is read into records with the property such that they keep it -/
def Keeps (P : α → Prop) (fields : List (String × (α → Node → Reader α))) : Prop :=
  ∀ name read, fields.lookup name = some read → ∀ a v n b n', P a → (read a v).run n = .ok (b, n') → P b

theorem fieldsFrom_keeps (keeps : Keeps P fields) {seen : List String} {a b : α} {entries : List (Node × Node)}
    {n n' : Nat} (start : P a) (ran : (d.fieldsFrom fields seen a entries).run n = .ok (b, n')) : P b := by
  induction entries generalizing seen a n with
  | nil =>
    obtain ⟨rfl, -⟩ := Prod.mk.inj (Except.ok.inj ran)
    exact start
  | cons e rest ih =>
    obtain ⟨k, v⟩ := e
    obtain ⟨name, n₁, -, ran₁⟩ := Reader.bind_eq_ok.1 ran
    cases found : fields.lookup name with
    | none =>
      simp only [found] at ran₁
      obtain ⟨_, n₂, -, ran₂⟩ := Reader.bind_eq_ok.1 ran₁
      exact ih start ran₂
    | some read =>
      simp only [found] at ran₁
      split at ran₁
      · cases ran₁
      · obtain ⟨a', n₂, given, ran₂⟩ := Reader.bind_eq_ok.1 ran₁
        exact ih (keeps name read found a v n₁ a' n₂ start given) ran₂

/-- **A record keeps what its fields keep.** -/
theorem record_keeps (keeps : Keeps P fields) {start b : α} {node : Node} {n n' : Nat} (holds : P start)
    (ran : (d.record start fields node).run n = .ok (b, n')) : P b := by
  obtain ⟨entries, k, -, ran₁⟩ := Reader.bind_eq_ok.1 ran
  exact fieldsFrom_keeps keeps holds ran₁

end Document

end HookFlow.Yaml
