import HookFlow.Flow
import HookFlow.Proofs.Json.Spelling
import HookFlow.Proofs.Ordered
/-!
Flows as JSON: what is written is read back.

A flow is written with all its parts but empty sources, and these are what is read where there is none. Inputs are read
in their order, a repeated name keeps its first place. So a flow is read back as it was if no step has two inputs of one
name, and that is true of every flow that is read.

Results:
- `Flow.ofJson?_toJson`: a flow is read back.
- `Flow.proper_of_ofJson?`: what is read has no input twice.
- `Flow.decode?_spelled`, `Flow.decodeAll?_spelled`: every text that spells a flow, or a list of them, is read as it.
-/

namespace HookFlow

open Json (Wordy Spells)

/-- whether the inputs have distinct names -/
def Inputs.Distinct (inputs : Inputs) : Prop := (inputs.map Prod.fst).Nodup

/-- whether no step of a flow has two inputs of one name -/
def Flow.IsProper (f : Flow) : Prop := ∀ s ∈ f.steps, s.inputs.Distinct

instance (inputs : Inputs) : Decidable inputs.Distinct := inferInstanceAs (Decidable (List.Nodup _))

instance (f : Flow) : Decidable f.IsProper := inferInstanceAs (Decidable (∀ s ∈ f.steps, s.inputs.Distinct))

theorem mapM_eq_some {α β : Type} {f : α → Option β} {g : α → β} {l : List α} (each : ∀ a ∈ l, f a = some (g a)) :
    l.mapM f = some (l.map g) := by
  induction l with
  | nil => rfl
  | cons a rest ih =>
    obtain ⟨first, others⟩ := List.forall_mem_cons.1 each
    rw [List.mapM_cons, first, ih others]
    rfl

/-- What is written one by one is read back one by one. -/
theorem mapM_written {α β : Type} {write : α → β} {read : β → Option α} {l : List α}
    (each : ∀ a ∈ l, read (write a) = some a) : (l.map write).mapM read = some l := by
  rw [List.mapM_map]
  exact (mapM_eq_some each).trans (congrArg some (List.map_id l))

theorem of_mem_mapM {α β : Type} {f : α → Option β} {l : List α} {bs : List β} (read : l.mapM f = some bs) {b : β}
    (hb : b ∈ bs) : ∃ a ∈ l, f a = some b := by
  induction l generalizing bs with
  | nil =>
    cases read
    cases hb
  | cons a rest ih =>
    rw [List.mapM_cons] at read
    obtain ⟨first, one, read⟩ := Option.bind_eq_some_iff.1 read
    obtain ⟨others, many, made⟩ := Option.bind_eq_some_iff.1 read
    cases made
    rcases List.mem_cons.1 hb with rfl | later
    · exact ⟨a, List.mem_cons_self, one⟩
    · obtain ⟨a', held, step⟩ := ih many later
      exact ⟨a', List.mem_cons_of_mem _ held, step⟩

/-! ## Records -/

namespace Json

/-- the members of a record whose fields may be left out -/
def given (fields : List (String × Option Json)) : List (String × Json) :=
  fields.filterMap fun f => f.2.map fun v => (f.1, v)

theorem given_append (fields fields' : List (String × Option Json)) :
    given (fields ++ fields') = given fields ++ given fields' := List.filterMap_append

theorem filter_given_other {name : String} {fields : List (String × Option Json)}
    (other : name ∉ fields.map Prod.fst) : (given fields).filter (fun m => m.1 = name) = [] := by
  refine List.filter_eq_nil_iff.2 fun m hm same => other ?_
  obtain ⟨f, hf, made⟩ := List.mem_filterMap.1 hm
  obtain ⟨v, -, rfl⟩ := Option.map_eq_some_iff.1 made
  exact of_decide_eq_true same ▸ List.mem_map_of_mem hf

/-- **A record is read as it is written**: every field, or that it is left out. -/
theorem record?_given (fields : List (String × Option Json)) (distinct : (fields.map Prod.fst).Nodup) :
    record? (fields.map Prod.fst) (.object (given fields)) = some (fields.map Prod.snd) := by
  rw [record?, List.mapM_map]
  refine mapM_eq_some fun f hf => ?_
  obtain ⟨before, after, rfl⟩ := List.append_of_mem hf
  rw [List.map_append, List.map_cons, List.nodup_append] at distinct
  obtain ⟨-, behind, apart⟩ := distinct
  have none : (given before).filter (fun m => m.1 = f.1) = [] :=
    filter_given_other fun held => apart _ held _ List.mem_cons_self rfl
  have none' : (given after).filter (fun m => m.1 = f.1) = [] := filter_given_other (List.nodup_cons.1 behind).1
  have whole : given (before ++ f :: after) = given before ++ ((f.2.map fun v => (f.1, v)).toList ++ given after) := by
    rw [given_append]
    cases found : f.2 <;> simp [given, found]
  rw [Function.comp_apply, whole, List.filter_append, List.filter_append, none, none']
  cases f.2 <;> simp

end Json

/-! ## Values -/

theorem Trigger.ofJson?_toJson (t : Trigger) : Trigger.ofJson? t.toJson = some t := by
  have fields : t.toJson.record? ["event", "actions"] =
      some [some (.text t.event), some (.list (t.actions.map .text))] :=
    Json.record?_given [("event", some (.text t.event)), ("actions", some (.list (t.actions.map .text)))] (by simp)
  have actions : (t.actions.map Json.text).mapM Json.text? = some t.actions := mapM_written fun _ _ => rfl
  rw [ofJson?, fields]
  simp [Json.required, Json.withDefault, Json.text?, Json.list?, actions]

theorem Inputs.ofJson?_toJson {inputs : Inputs} (distinct : inputs.Distinct) :
    Inputs.ofJson? (.object (inputs.map fun e => (e.1, .text e.2))) = some inputs := by
  have entries : (inputs.map fun e => (e.1, Json.text e.2)).mapM (fun m => do return (m.1, ← m.2.text?)) =
      some inputs := mapM_written fun _ _ => rfl
  rw [ofJson?, entries]
  exact congrArg some (Ordered.ofEntries_eq_self distinct)

/-- A step with an empty source is written without one, and that is what is read if there is none. -/
theorem Step.ofJson?_toJson {s : Step} (distinct : s.inputs.Distinct) : Step.ofJson? s.toJson = some s := by
  obtain ⟨held, same⟩ : ∃ held, held = Json.object (s.inputs.map fun e => (e.1, .text e.2)) := ⟨_, rfl⟩
  have inputs : Json.withDefault [] Inputs.ofJson? (some held) = some s.inputs :=
    same ▸ Inputs.ofJson?_toJson distinct
  obtain ⟨source?, written, source⟩ : ∃ source?,
      s.toJson = .object (Json.given [("name", some (.text s.name)), ("source_code", source?), ("inputs", some held)]) ∧
        Json.withDefault "" Json.text? source? = some s.source := by
    by_cases empty : s.source.isEmpty = true
    · exact ⟨none, by simp [toJson, empty, Json.given, same], by simp [Json.withDefault, String.isEmpty_iff.1 empty]⟩
    · exact ⟨some (.text s.source), by simp [toJson, empty, Json.given, same], rfl⟩
  have fields : s.toJson.record? ["name", "source_code", "inputs"] = some [some (.text s.name), source?, some held] :=
    written ▸ Json.record?_given [("name", some (.text s.name)), ("source_code", source?), ("inputs", some held)]
      (by simp)
  rw [ofJson?, fields]
  simp [Json.required, Json.text?, source, inputs]

theorem Flow.ofJson?_toJson {f : Flow} (proper : f.IsProper) : Flow.ofJson? f.toJson = some f := by
  have fields : f.toJson.record? ["name", "triggers", "steps"] =
      some [some (.text f.name), some (.list (f.triggers.map Trigger.toJson)),
        some (.list (f.steps.map Step.toJson))] :=
    Json.record?_given [("name", some (.text f.name)), ("triggers", some (.list (f.triggers.map Trigger.toJson))),
      ("steps", some (.list (f.steps.map Step.toJson)))] (by simp)
  have triggers : (f.triggers.map Trigger.toJson).mapM Trigger.ofJson? = some f.triggers :=
    mapM_written fun t _ => t.ofJson?_toJson
  have steps : (f.steps.map Step.toJson).mapM Step.ofJson? = some f.steps :=
    mapM_written fun s hs => Step.ofJson?_toJson (proper s hs)
  rw [ofJson?, fields]
  simp [Json.required, Json.text?, Json.list?, triggers, steps]

/-! ## What is read -/

theorem Inputs.distinct_of_ofJson? {v : Json} {inputs : Inputs} (read : Inputs.ofJson? v = some inputs) :
    inputs.Distinct := by
  cases v with
  | object members =>
    obtain ⟨entries, -, made⟩ := Option.bind_eq_some_iff.1 read
    cases made
    exact Ordered.distinct_ofEntries entries
  | _ => cases read

theorem Step.distinct_of_ofJson? {v : Json} {s : Step} (read : Step.ofJson? v = some s) : s.inputs.Distinct := by
  obtain ⟨fields, -, read⟩ := Option.bind_eq_some_iff.1 read
  split at read
  next name? source? inputs? =>
    obtain ⟨name, -, read⟩ := Option.bind_eq_some_iff.1 read
    obtain ⟨source, -, read⟩ := Option.bind_eq_some_iff.1 read
    obtain ⟨inputs, held, made⟩ := Option.bind_eq_some_iff.1 read
    cases made
    cases inputs? with
    | none =>
      cases held
      exact List.nodup_nil
    | some v => exact Inputs.distinct_of_ofJson? held
  · cases read

/-- **What is read as a flow has no input twice.** -/
theorem Flow.proper_of_ofJson? {v : Json} {f : Flow} (read : Flow.ofJson? v = some f) : f.IsProper := by
  obtain ⟨fields, -, read⟩ := Option.bind_eq_some_iff.1 read
  split at read
  next name? triggers? steps? =>
    obtain ⟨name, -, read⟩ := Option.bind_eq_some_iff.1 read
    obtain ⟨triggers, -, read⟩ := Option.bind_eq_some_iff.1 read
    obtain ⟨steps, held, made⟩ := Option.bind_eq_some_iff.1 read
    cases made
    cases steps? with
    | none => cases held
    | some v =>
      obtain ⟨items, -, each⟩ := Option.bind_eq_some_iff.1 held
      intro s hs
      obtain ⟨item, -, step⟩ := of_mem_mapM each hs
      exact Step.distinct_of_ofJson? step
  · cases read

/-! ## Texts -/

theorem Trigger.wordy_toJson (t : Trigger) : Wordy t.toJson := by
  refine .object (List.forall_mem_cons.2 ⟨.text _, List.forall_mem_singleton.2 (.list ?_)⟩)
  exact List.forall_mem_map.2 fun s _ => .text s

theorem Step.wordy_toJson (s : Step) : Wordy s.toJson := by
  have inputs : Wordy (.object (s.inputs.map fun e => (e.1, .text e.2))) :=
    .object (List.forall_mem_map.2 fun e _ => .text e.2)
  rw [toJson]
  split
  · exact .object (by simp [inputs, Wordy.text])
  · exact .object (by simp [inputs, Wordy.text])

theorem Flow.wordy_toJson (f : Flow) : Wordy f.toJson := by
  have triggers : Wordy (.list (f.triggers.map Trigger.toJson)) :=
    .list (List.forall_mem_map.2 fun t _ => t.wordy_toJson)
  have steps : Wordy (.list (f.steps.map Step.toJson)) := .list (List.forall_mem_map.2 fun s _ => s.wordy_toJson)
  exact .object (by simp [triggers, steps, Wordy.text])

namespace Flow

theorem wordy_list (flows : List Flow) : Wordy (.list (flows.map toJson)) :=
  .list (List.forall_mem_map.2 fun f _ => f.wordy_toJson)

/-- the flow that a text writes -/
def decode? (text : String) : Option Flow := (Json.parse? text).bind ofJson?

/-- the flows that a text writes as one list -/
def decodeAll? (text : String) : Option (List Flow) :=
  (Json.parse? text).bind fun v => v.list?.bind fun items => items.mapM ofJson?

/-- **Every text that spells a flow is read as that flow.** -/
theorem decode?_spelled {f : Flow} (proper : f.IsProper) {cs : List Char} (spelled : Spells f.toJson cs) :
    decode? (String.ofList cs) = some f := by
  have read := Json.parseChars?_spelled spelled Json.blank_nil
  rw [List.append_nil] at read
  rw [decode?, Json.parse?, String.toList_ofList, read]
  exact ofJson?_toJson proper

/-- **Every text that spells a list of flows is read as these**, also with a line end behind it. -/
theorem decodeAll?_spelled {flows : List Flow} (proper : ∀ f ∈ flows, f.IsProper) {cs : List Char}
    (spelled : Spells (.list (flows.map toJson)) cs) : decodeAll? (String.ofList cs ++ "\n") = some flows := by
  have blank : Json.Blank ['\n'] := fun _ hc => List.mem_singleton.1 hc ▸ rfl
  have read := Json.parseChars?_spelled spelled blank
  have each : (flows.map toJson).mapM ofJson? = some flows := mapM_written fun f hf => ofJson?_toJson (proper f hf)
  have whole : (String.ofList cs ++ "\n").toList = cs ++ ['\n'] := by
    rw [String.toList_append, String.toList_ofList]
    rfl
  rw [decodeAll?, Json.parse?, whole, read]
  exact each

/-- Both written forms of a flow are read as that flow. -/
theorem decode?_written {f : Flow} (proper : f.IsProper) :
    decode? f.toJson.compact = some f ∧ decode? f.toJson.pretty = some f :=
  ⟨decode?_spelled proper (Json.spells_compact f.wordy_toJson),
    decode?_spelled proper (Json.spells_pretty 0 f.wordy_toJson)⟩

theorem proper_of_decode? {text : String} {f : Flow} (read : decode? text = some f) : f.IsProper := by
  obtain ⟨v, -, held⟩ := Option.bind_eq_some_iff.1 read
  exact proper_of_ofJson? held

end Flow

end HookFlow
