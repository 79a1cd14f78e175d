/-!
Lists in which nothing comes twice.

Results:
- `nodup_eraseDups`: what is left when repetitions are taken out.
- `mem_of_lookup`, `lookup_of_mem`: a key leads to a value that it comes with, and to its own if it comes once.
-/

namespace HookFlow

variable {α β : Type} [BEq α] [LawfulBEq α]

theorem nodup_eraseDups (l : List α) : l.eraseDups.Nodup := by
  cases l with
  | nil => simp
  | cons a rest =>
    rw [List.eraseDups_cons, List.nodup_cons, List.mem_eraseDups]
    exact ⟨by simp, nodup_eraseDups _⟩
termination_by l.length
decreasing_by
  have shorter := List.length_filter_le (fun b => !b == a) rest
  simp
  omega

theorem mem_of_lookup {entries : List (α × β)} {key : α} {value : β} (found : entries.lookup key = some value) :
    (key, value) ∈ entries := by
  obtain ⟨before, after, rfl, -⟩ := List.lookup_eq_some_iff.1 found
  exact List.mem_append_right before List.mem_cons_self

theorem lookup_of_mem {entries : List (α × β)} (distinct : (entries.map Prod.fst).Nodup) {key : α} {value : β}
    (held : (key, value) ∈ entries) : entries.lookup key = some value := by
  obtain ⟨before, after, rfl⟩ := List.append_of_mem held
  refine List.lookup_eq_some_iff.2 ⟨before, after, rfl, fun e he => ?_⟩
  rw [List.map_append, List.nodup_append] at distinct
  refine bne_iff_ne.2 fun same => ?_
  exact distinct.2.2 e.1 (List.mem_map_of_mem he) key (by simp) same.symm

end HookFlow
