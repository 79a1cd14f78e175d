import HookFlow.Proofs.Ordered
import HookFlow.Proofs.Yaml.Record
/-!
What readers give: properties of everything that can be read.

A property of the results of a reader is carried through sequences, dictionaries and records. The names of a dictionary
are distinct whatever the document says.

Results:
- `Gives.bind` and the rules beside it.
- `gives_dictionary`: no name comes twice.
- `gives_record`: the rule for records.
-/

namespace HookFlow.Yaml

variable {α β : Type} {P : α → Prop} {Q : β → Prop}

namespace Reader

/-- whether all results of a reader have a property -/
def Gives (P : α → Prop) (x : Reader α) : Prop := ∀ n a n', x.run n = .ok (a, n') → P a

theorem gives_any (x : Reader α) : Gives (fun _ => True) x := fun _ _ _ _ => trivial

theorem gives_pure {a : α} (ha : P a) : Gives P (pure a : Reader α) := by
  intro n b n' ran
  obtain ⟨rfl, -⟩ := Prod.mk.inj (Except.ok.inj ran)
  exact ha

theorem gives_throw (f : Fault) : Gives P (throw f : Reader α) := nofun

theorem Gives.bind {x : Reader α} {f : α → Reader β} (hx : Gives P x) (hf : ∀ a, P a → Gives Q (f a)) :
    Gives Q (x >>= f) := by
  intro n b n' ran
  obtain ⟨a, k, first, later⟩ := bind_eq_ok.1 ran
  exact hf a (hx n a k first) k b n' later

theorem Gives.mono {x : Reader α} (hx : Gives P x) {P' : α → Prop} (weaker : ∀ a, P a → P' a) : Gives P' x :=
  fun n a n' ran => weaker a (hx n a n' ran)

theorem gives_mapM {f : β → Reader α} (each : ∀ b, Gives P (f b)) (items : List β) :
    Gives (fun as => ∀ a ∈ as, P a) (items.mapM f) := by
  induction items with
  | nil => exact gives_pure nofun
  | cons b rest ih =>
    rw [List.mapM_cons]
    refine (each b).bind fun a first => ih.bind fun as others => ?_
    exact gives_pure (List.forall_mem_cons.2 ⟨first, others⟩)

end Reader

namespace Document

open Reader (Gives gives_any gives_pure gives_mapM)

variable {d : Document}

theorem gives_sequence {read : Node → Reader α} (each : ∀ n, Gives P (read n)) (n : Node) :
    Gives (fun as => ∀ a ∈ as, P a) (d.sequence read n) :=
  (gives_any _).bind fun items _ => gives_mapM each items

/-- **No name comes twice in a dictionary**, and its values are what is read. -/
theorem gives_dictionary {read : Node → Reader α} (each : ∀ n, Gives P (read n)) (n : Node) :
    Gives (fun es => (es.map Prod.fst).Nodup ∧ ∀ e ∈ es, P e.2) (d.dictionary read n) := by
  refine (gives_any _).bind fun entries _ => ?_
  have pairs : Gives (fun es => ∀ e ∈ es, P e.2) (entries.mapM fun e => do return (← d.text e.1, ← read e.2)) :=
    gives_mapM (fun e => (gives_any _).bind fun name _ => (each e.2).bind fun a ha =>
      gives_pure (P := fun e : String × α => P e.2) ha) entries
  refine pairs.bind fun es held => gives_pure ⟨Ordered.distinct_ofEntries es, fun e he => ?_⟩
  exact held e (Ordered.mem_ofEntries he)

theorem gives_optionalDictionary (depth : Nat) (n : Node) :
    Gives (fun es => (es.map Prod.fst).Nodup) (d.optionalDictionary depth n) := by
  refine (gives_any _).bind fun n' _ => (gives_any _).bind fun absent _ => ?_
  have there : Gives (fun es => (es.map Prod.fst).Nodup) (d.dictionary (d.value depth) n') :=
    (gives_dictionary (fun n => gives_any _) n').mono fun es held => held.1
  split
  · exact gives_pure List.nodup_nil
  · exact there

/-- **A record has what its fields keep.** -/
theorem gives_record {fields : List (String × (α → Node → Reader α))}
    (keeps : ∀ name read, fields.lookup name = some read → ∀ a v, P a → Gives P (read a v)) {start : α}
    (holds : P start) (n : Node) : Gives P (d.record start fields n) :=
  fun _ _ _ ran => record_keeps (fun name read found a v k b k' ha => keeps name read found a v ha k b k') holds ran

theorem gives_read {read : Node → Reader α} (each : ∀ n, Gives P (read n)) {a : α} (done : d.read read = .ok a) :
    P a := by
  obtain ⟨n, ran⟩ := reader_of_read done
  exact each d.root 0 a n ran

end Document

end HookFlow.Yaml
