import Mathlib.Data.List.Forall2
/-!
Computations that may fail: what is known of the parts from the whole.

Results:
- `bind_eq_ok`, `bind_eq_error`: how two computations in sequence end.
- `map_eq_ok`, `map_eq_error`: how a computation ends whose result is changed.
- `mapError_eq_ok`, `mapError_eq_error`: how one ends whose error is changed.
- `mapM_eq_ok`, `mapM_eq_error`: how a computation for each item of a list ends; it stops at the first error.
- `eq_ok_of_toOption`: a result without its error.
-/

namespace HookFlow

variable {ε α β : Type}

theorem bind_eq_ok {x : Except ε α} {f : α → Except ε β} {b : β} :
    (x >>= f) = .ok b ↔ ∃ a, x = .ok a ∧ f a = .ok b := by
  cases x with
  | error e => simp [bind, Except.bind]
  | ok a => simp [bind, Except.bind]

theorem bind_eq_error {x : Except ε α} {f : α → Except ε β} {e : ε} :
    (x >>= f) = .error e ↔ x = .error e ∨ ∃ a, x = .ok a ∧ f a = .error e := by
  cases x with
  | error e' => simp [bind, Except.bind]
  | ok a => simp [bind, Except.bind]

theorem map_eq_ok {x : Except ε α} {f : α → β} {b : β} : x.map f = .ok b ↔ ∃ a, x = .ok a ∧ f a = b := by
  cases x with
  | error e => simp [Except.map]
  | ok a => simp [Except.map]

theorem map_eq_error {x : Except ε α} {f : α → β} {e : ε} : x.map f = .error e ↔ x = .error e := by
  cases x with
  | error e' => simp [Except.map]
  | ok a => simp [Except.map]

theorem mapError_eq_ok {ε' : Type} {x : Except ε α} {g : ε → ε'} {a : α} : x.mapError g = .ok a ↔ x = .ok a := by
  cases x with
  | error e => simp [Except.mapError]
  | ok b => simp [Except.mapError]

theorem mapError_eq_error {ε' : Type} {x : Except ε α} {g : ε → ε'} {e' : ε'} :
    x.mapError g = .error e' ↔ ∃ e, x = .error e ∧ g e = e' := by
  cases x with
  | error e => simp [Except.mapError]
  | ok b => simp [Except.mapError]

theorem mapM_eq_ok {f : α → Except ε β} {xs : List α} {ys : List β} :
    xs.mapM f = .ok ys ↔ List.Forall₂ (fun x y => f x = .ok y) xs ys := by
  induction xs generalizing ys with
  | nil =>
    rw [List.mapM_nil, List.forall₂_nil_left_iff]
    exact ⟨fun same => (Except.ok.inj same).symm, fun same => congrArg Except.ok same.symm⟩
  | cons x rest ih =>
    rw [List.mapM_cons, bind_eq_ok, List.forall₂_cons_left_iff]
    constructor
    · rintro ⟨y, one, later⟩
      obtain ⟨others, many, same⟩ := bind_eq_ok.1 later
      exact ⟨y, others, one, ih.1 many, (Except.ok.inj same).symm⟩
    · rintro ⟨y, others, one, many, rfl⟩
      exact ⟨y, one, bind_eq_ok.2 ⟨others, ih.2 many, rfl⟩⟩

theorem mapM_eq_error {f : α → Except ε β} {xs : List α} {e : ε} :
    xs.mapM f = .error e ↔ ∃ before x after ys,
      xs = before ++ x :: after ∧ List.Forall₂ (fun x y => f x = .ok y) before ys ∧ f x = .error e := by
  induction xs with
  | nil =>
    constructor
    · intro failed
      cases failed
    · rintro ⟨before, x, after, ys, cut, -, -⟩
      exact absurd cut (by simp)
  | cons first rest ih =>
    rw [List.mapM_cons, bind_eq_error]
    constructor
    · rintro (here | ⟨y, one, later⟩)
      · exact ⟨[], first, rest, [], rfl, .nil, here⟩
      · rcases bind_eq_error.1 later with behind | ⟨others, -, never⟩
        · obtain ⟨before, x, after, ys, rfl, good, bad⟩ := ih.1 behind
          exact ⟨first :: before, x, after, y :: ys, rfl, .cons one good, bad⟩
        · cases never
    · rintro ⟨before, x, after, ys, cut, good, bad⟩
      cases good with
      | nil =>
        cases cut
        exact .inl bad
      | cons one others =>
        cases cut
        exact .inr ⟨_, one, bind_eq_error.2 (.inl (ih.2 ⟨_, x, after, _, rfl, others, bad⟩))⟩

theorem eq_ok_of_toOption {r : Except ε α} {a : α} (same : r.toOption = some a) : r = .ok a := by
  cases r with
  | ok b => exact congrArg _ (Option.some.inj same)
  | error f => cases same

end HookFlow
