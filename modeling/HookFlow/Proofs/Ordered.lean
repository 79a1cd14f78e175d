import HookFlow.Ordered
import Mathlib.Data.List.Basic
import Mathlib.Data.List.Nodup
/-!
Lists of named values: what comes of putting entries in.

A name that is put in is there once. So no name comes twice in what is gathered from entries, and entries that have no
name twice are gathered as they are, in their order.

Results:
- `distinct_ofEntries`: no name comes twice.
- `mem_ofEntries`: nothing is gathered that was not given.
- `ofEntries_eq_self`: entries with distinct names stay as they are.
- `lookup_putSorted`, `lookup_putSorted_of_ne`: a value that is put in is found, and no other one is touched.
-/

namespace HookFlow.Ordered

variable {α : Type} {k : String} {v : α} {entries : List (String × α)}

/-- A name that is there keeps its place, and another one comes behind all. -/
theorem names_put (k : String) (v : α) (entries : List (String × α)) :
    (put k v entries).map Prod.fst =
      if k ∈ entries.map Prod.fst then entries.map Prod.fst else entries.map Prod.fst ++ [k] := by
  induction entries with
  | nil => rfl
  | cons e rest ih =>
    rw [put, List.map_cons]
    by_cases here : e.1 = k
    · rw [if_pos here, if_pos (here ▸ List.mem_cons_self), List.map_cons, here]
    · have behind : k ∈ e.1 :: rest.map Prod.fst ↔ k ∈ rest.map Prod.fst := by
        simp [Ne.symm here]
      rw [if_neg here, List.map_cons, ih]
      by_cases held : k ∈ rest.map Prod.fst
      · rw [if_pos held, if_pos (behind.2 held)]
      · rw [if_neg held, if_neg (mt behind.1 held), List.cons_append]

theorem distinct_put (distinct : (entries.map Prod.fst).Nodup) : ((put k v entries).map Prod.fst).Nodup := by
  rw [names_put]
  split
  · exact distinct
  next fresh =>
    refine List.nodup_append.2 ⟨distinct, List.nodup_singleton k, fun a ha b hb same => fresh ?_⟩
    rw [← List.mem_singleton.1 hb, ← same]
    exact ha

theorem mem_put {e : String × α} (held : e ∈ put k v entries) : e = (k, v) ∨ e ∈ entries := by
  induction entries with
  | nil => exact .inl (List.mem_singleton.1 held)
  | cons first rest ih =>
    rw [put] at held
    split at held
    · exact (List.mem_cons.1 held).imp_right (List.mem_cons_of_mem _)
    · rcases List.mem_cons.1 held with rfl | later
      · exact .inr List.mem_cons_self
      · exact (ih later).imp_right (List.mem_cons_of_mem _)

theorem put_fresh (fresh : k ∉ entries.map Prod.fst) : put k v entries = entries ++ [(k, v)] := by
  induction entries with
  | nil => rfl
  | cons e rest ih =>
    obtain ⟨other, later⟩ := not_or.1 (mt List.mem_cons.2 fresh)
    rw [put, if_neg (Ne.symm other), ih later, List.cons_append]

/-! ## Many entries -/

theorem foldl_put_keeps {P : List (String × α) → Prop} (keeps : ∀ acc e, e ∈ entries → P acc → P (put e.1 e.2 acc))
    {acc : List (String × α)} (start : P acc) : P (entries.foldl (fun acc e => put e.1 e.2 acc) acc) := by
  induction entries generalizing acc with
  | nil => exact start
  | cons e rest ih =>
    exact ih (fun acc e he => keeps acc e (List.mem_cons_of_mem _ he)) (keeps acc e List.mem_cons_self start)

/-- **No name comes twice.** -/
theorem distinct_ofEntries (entries : List (String × α)) : ((ofEntries entries).map Prod.fst).Nodup :=
  foldl_put_keeps (P := fun acc => (acc.map Prod.fst).Nodup) (fun _ _ _ => distinct_put) List.nodup_nil

/-- Nothing is gathered that was not given. -/
theorem mem_ofEntries {e : String × α} (held : e ∈ ofEntries entries) : e ∈ entries := by
  have given : ∀ e ∈ ofEntries entries, e ∈ entries :=
    foldl_put_keeps (P := fun acc => ∀ e ∈ acc, e ∈ entries)
      (fun acc e he all e' he' => (mem_put he').elim (fun same => same ▸ he) (all e')) nofun
  exact given e held

/-- **Entries with distinct names stay as they are.** -/
theorem ofEntries_eq_self (distinct : (entries.map Prod.fst).Nodup) : ofEntries entries = entries := by
  have gather (acc : List (String × α)) (whole : ((acc ++ entries).map Prod.fst).Nodup) :
      entries.foldl (fun acc e => put e.1 e.2 acc) acc = acc ++ entries := by
    clear distinct
    induction entries generalizing acc with
    | nil => exact (List.append_nil acc).symm
    | cons e rest ih =>
      have fresh : e.1 ∉ acc.map Prod.fst := by
        rw [List.map_append, List.nodup_append] at whole
        exact fun held => whole.2.2 e.1 held e.1 (List.mem_map_of_mem List.mem_cons_self) rfl
      rw [List.foldl_cons, put_fresh fresh, ih _ (by simpa using whole)]
      simp
  exact gather [] distinct

/-! ## Ascending lists -/

theorem lookup_putSorted (k : String) (v : α) (entries : List (String × α)) :
    (putSorted k v entries).lookup k = some v := by
  induction entries with
  | nil => simp [putSorted]
  | cons e rest ih =>
    simp only [putSorted]
    split
    · exact List.lookup_cons_self
    · split
      · exact List.lookup_cons_self
      · rename_i differs
        rw [List.lookup_cons, beq_false_of_ne differs]
        exact ih

theorem lookup_putSorted_of_ne {j : String} (other : j ≠ k) :
    (putSorted k v entries).lookup j = entries.lookup j := by
  have passed (rest : List (String × α)) : List.lookup j ((k, v) :: rest) = rest.lookup j := by
    rw [List.lookup_cons, beq_false_of_ne other]
  induction entries with
  | nil => exact passed []
  | cons e rest ih =>
    simp only [putSorted]
    split
    · exact passed _
    · split
      next same =>
        rw [passed, List.lookup_cons, ← same, beq_false_of_ne other]
      · rw [List.lookup_cons, List.lookup_cons, ih]

end HookFlow.Ordered
