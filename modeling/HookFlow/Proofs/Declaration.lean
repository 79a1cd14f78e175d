import HookFlow.Declaration
import HookFlow.Proofs.Except
/-!
The grammar of trigger declarations: which values declare triggers, which triggers these are, and what is
reported of every other value.

The grammar is written down without the functions that read it. `Declares` relates a value to the triggers that
it stands for, and `Offends` a value to the fault of its first offending item. Tags are set aside where the
reader sets them aside, around an event name, the details of an event and an action; a value without tags is its
own bare value. A tag around the whole declaration, or around the `types` of an event, is an offence.

Results:
- `triggers_grammar`: the triggers of a workflow are those that the grammar gives, and a workflow without triggers
  fails with the fault of its first offending item.
Below it, one equivalence for each rule of the grammar:
- `action_eq_ok`, `actions_eq_ok`, `entry_eq_ok`, `ofValue_eq_ok`: what is accepted.
- `actions_eq_error`, `entry_eq_error`, `ofValue_eq_error`: what is reported.
-/

namespace HookFlow

open Yaml (Value)

namespace Declaration

/-! ## The grammar -/

/-- what a value of `types` names: one action, or several with repeats and in their order -/
inductive Names : Value → List String → Prop where
  | one (a : String) : Names (.text a) [a]
  | several {items : List Value} {as : List String} (texts : List.Forall₂ (fun v a => v.bare = .text a) items as) :
      Names (.sequence items) as

/-- details that limit nothing: no mapping, or a mapping without `types` -/
def Unlimited (v : Value) : Prop := ∀ entries, v.bare = .mapping entries → ∀ e ∈ entries, e.1.isText "types" = false

/-- details with `types`, the first of them; a mapping that was read has no key twice -/
inductive Limited (v : Value) : Value → Prop where
  | intro {before after : List (Value × Value)} {types : Value}
      (mapping : v.bare = .mapping (before ++ (.text "types", types) :: after))
      (first : ∀ e ∈ before, e.1.isText "types" = false) : Limited v types

/-- the actions that the details of an event name -/
inductive Details : Value → List String → Prop where
  | unlimited {v : Value} (without : Unlimited v) : Details v []
  | limited {v types : Value} {as : List String} (found : Limited v types) (named : Names types as) : Details v as

/-- an entry of a declaration and the trigger that it stands for -/
structure Entry (e : Value × Value) (t : Trigger) : Prop where
  event : e.1.bare = .text t.event
  actions : Details e.2 t.actions

/-- a value of `on` and the triggers that it declares, in the order of the document -/
inductive Declares : Value → List Trigger → Prop where
  | event (name : String) : Declares (.text name) [⟨name, []⟩]
  | events {entries : List (Value × Value)} {ts : List Trigger} (each : List.Forall₂ Entry entries ts) :
      Declares (.mapping entries) ts

/-- what stands in the way in a value of `types`: its first item that is no text, or the value itself -/
inductive Misnames (event : String) : Value → Fault → Prop where
  | item {before after : List Value} {v : Value} {as : List String}
      (texts : List.Forall₂ (fun v a => v.bare = .text a) before as) (bad : ∀ a, v.bare ≠ .text a) :
      Misnames event (.sequence (before ++ v :: after)) (.typesEntry event v.kind)
  | types {v : Value} (noText : ∀ a, v ≠ .text a) (noSequence : ∀ items, v ≠ .sequence items) :
      Misnames event v (.types event v.kind)

/-- what stands in the way in an entry: its key, or else its `types` -/
inductive EntryOffends : Value × Value → Fault → Prop where
  | key {e : Value × Value} (bad : ∀ a, e.1.bare ≠ .text a) : EntryOffends e (.eventKey e.1.kind)
  | types {e : Value × Value} {name : String} {types : Value} {fault : Fault} (event : e.1.bare = .text name)
      (found : Limited e.2 types) (bad : Misnames name types fault) : EntryOffends e fault

/-- the fault of the first offending item of a value of `on`: all entries before it stand for triggers -/
inductive Offends : Value → Fault → Prop where
  | declaration {v : Value} (noText : ∀ a, v ≠ .text a) (noMapping : ∀ entries, v ≠ .mapping entries) :
      Offends v (.declaration v.kind)
  | entry {before after : List (Value × Value)} {e : Value × Value} {ts : List Trigger} {fault : Fault}
      (good : List.Forall₂ Entry before ts) (bad : EntryOffends e fault) :
      Offends (.mapping (before ++ e :: after)) fault

/-! ## Values read as texts, and the search for `types` -/

variable {event : String} {v types : Value} {e : Value × Value} {as : List String} {fault : Fault}

theorem text?_eq_some {a : String} : v.text? = some a ↔ v.bare = .text a := by
  unfold Value.text?
  split
  next s same => rw [same, Option.some.injEq, Value.text.injEq]
  next other => exact iff_of_false (fun same => nomatch same) (other a)

theorem text?_eq_none : v.text? = none ↔ ∀ a, v.bare ≠ .text a := by
  rw [Option.eq_none_iff_forall_ne_some]
  exact forall_congr' fun a => not_congr text?_eq_some

theorem isText_eq_true {s : String} : v.isText s = true ↔ v = .text s := by
  unfold Value.isText
  split
  next t => rw [beq_iff_eq, Value.text.injEq]
  next other => exact iff_of_false Bool.false_ne_true (other s)

/-- the entry of `types` among details, if there is one -/
def search (v : Value) : Option (Value × Value) := (v.entries?.getD []).find? (·.1.isText "types")

theorem search_eq_none : search v = none ↔ Unlimited v := by
  unfold search Unlimited Value.entries?
  split
  next entries same => simp [same]
  next other => exact iff_of_true rfl fun entries same => absurd same (other entries)

theorem search_eq_some : (∃ k, search v = some (k, types)) ↔ Limited v types := by
  unfold search Value.entries?
  constructor
  · rintro ⟨k, found⟩
    split at found
    next entries same =>
      obtain ⟨here, before, after, rfl, first⟩ := List.find?_eq_some_iff_append.1 found
      cases isText_eq_true.1 here
      exact .intro same fun e among => by simpa using first e among
    · cases found
  · rintro ⟨mapping, first⟩
    rw [mapping]
    refine ⟨.text "types", List.find?_eq_some_iff_append.2 ⟨rfl, _, _, rfl, fun e among => ?_⟩⟩
    rw [first e among]
    rfl

/-! ## What is accepted and what is reported, rule by rule -/

theorem action_eq_ok {a : String} : action event v = .ok a ↔ v.bare = .text a := by
  rw [← text?_eq_some, action]
  cases v.text? with
  | none => simp
  | some b => simp

theorem action_eq_error : action event v = .error fault ↔ (∀ a, v.bare ≠ .text a) ∧ fault = .typesEntry event v.kind := by
  rw [← text?_eq_none, action]
  cases v.text? with
  | none => simp [eq_comm]
  | some b => simp

theorem actions_unlimited (without : Unlimited v) : actions event v = .ok [] := by
  have none : (v.entries?.getD []).find? (·.1.isText "types") = none := search_eq_none.2 without
  rw [actions, none]

/-- Once `types` is found, it alone decides. -/
theorem actions_limited (found : Limited v types) :
    (∀ as, actions event v = .ok as ↔ Names types as) ∧
      ∀ fault, actions event v = .error fault ↔ Misnames event types fault := by
  obtain ⟨k, found⟩ := search_eq_some.2 found
  have here : (v.entries?.getD []).find? (·.1.isText "types") = some (k, types) := found
  rw [actions, here]
  split
  next none => cases none
  next a same =>
    cases same
    refine ⟨fun as => ⟨?_, ?_⟩, fun fault => ⟨?_, ?_⟩⟩
    · rintro ⟨⟩
      exact .one a
    · rintro ⟨⟩
      rfl
    · rintro ⟨⟩
    · rintro (_ | ⟨noText, _⟩)
      exact absurd rfl (noText a)
  next items same =>
    cases same
    simp only [mapM_eq_ok, mapM_eq_error, action_eq_ok, action_eq_error]
    refine ⟨fun as => ⟨?_, ?_⟩, fun fault => ⟨?_, ?_⟩⟩
    · exact .several
    · rintro (_ | texts)
      exact texts
    · rintro ⟨before, x, after, as, rfl, texts, bad, rfl⟩
      exact .item texts bad
    · rintro (⟨texts, bad⟩ | ⟨_, noSequence⟩)
      · exact ⟨_, _, _, _, rfl, texts, bad, rfl⟩
      · exact absurd rfl (noSequence items)
  next noText noSequence same =>
    cases same
    refine ⟨fun as => ⟨?_, ?_⟩, fun fault => ⟨?_, ?_⟩⟩
    · rintro ⟨⟩
    · rintro (_ | _)
      · exact (noText _ rfl).elim
      · exact (noSequence _ rfl).elim
    · rintro ⟨⟩
      exact .types noText noSequence
    · rintro (_ | _)
      · exact (noSequence _ rfl).elim
      · rfl

/-- Details either limit nothing or have `types`. -/
theorem limited_or_not (v : Value) : Unlimited v ∨ ∃ types, Limited v types := by
  cases found : search v with
  | none => exact .inl (search_eq_none.1 found)
  | some e => exact .inr ⟨e.2, search_eq_some.1 ⟨e.1, found⟩⟩

theorem actions_eq_ok : actions event v = .ok as ↔ Details v as := by
  constructor
  · intro accepted
    rcases limited_or_not v with without | ⟨types, found⟩
    · cases (actions_unlimited without).symm.trans accepted
      exact .unlimited without
    · exact .limited found (((actions_limited found).1 as).1 accepted)
  · rintro (without | ⟨found, named⟩)
    · exact actions_unlimited without
    · exact ((actions_limited found).1 as).2 named

theorem actions_eq_error :
    actions event v = .error fault ↔ ∃ types, Limited v types ∧ Misnames event types fault := by
  constructor
  · intro refused
    rcases limited_or_not v with without | ⟨types, found⟩
    · cases (actions_unlimited without).symm.trans refused
    · exact ⟨types, found, ((actions_limited found).2 fault).1 refused⟩
  · rintro ⟨types, found, bad⟩
    exact ((actions_limited found).2 fault).2 bad

theorem entry_eq_ok {named : String × List String} :
    Declaration.entry e = .ok named ↔ Entry e ⟨named.1, named.2⟩ := by
  unfold Declaration.entry
  split
  next name key =>
    rw [text?_eq_some] at key
    rw [map_eq_ok]
    constructor
    · rintro ⟨as, accepted, rfl⟩
      exact ⟨key, actions_eq_ok.1 accepted⟩
    · rintro ⟨event, details⟩
      cases key.symm.trans event
      exact ⟨named.2, actions_eq_ok.2 details, rfl⟩
  next key => exact iff_of_false (fun same => nomatch same) fun good => text?_eq_none.1 key _ good.event

theorem entry_eq_error : Declaration.entry e = .error fault ↔ EntryOffends e fault := by
  unfold Declaration.entry
  split
  next name key =>
    rw [text?_eq_some] at key
    rw [map_eq_error, actions_eq_error]
    constructor
    · rintro ⟨types, found, bad⟩
      exact .types key found bad
    · rintro (noText | ⟨event, found, bad⟩)
      · exact absurd key (noText name)
      · cases key.symm.trans event
        exact ⟨_, found, bad⟩
  next key =>
    rw [text?_eq_none] at key
    constructor
    · rintro ⟨⟩
      exact .key key
    · rintro (_ | ⟨event, _, _⟩)
      · rfl
      · exact absurd event (key _)

/-- Entries are read one by one, in their order. -/
theorem entries_eq_ok {entries : List (Value × Value)} {ts : List Trigger} :
    (∃ named, entries.mapM Declaration.entry = .ok named ∧ (Declaration.events named).triggers = ts) ↔
      List.Forall₂ Entry entries ts := by
  constructor
  · rintro ⟨named, read, rfl⟩
    refine List.forall₂_map_right_iff.2 ((mapM_eq_ok.1 read).imp fun e t good => ?_)
    exact entry_eq_ok.1 good
  · intro each
    refine ⟨ts.map fun t => (t.event, t.actions), mapM_eq_ok.2 ?_, ?_⟩
    · exact List.forall₂_map_right_iff.2 (each.imp fun e t good => entry_eq_ok.2 good)
    · rw [Declaration.triggers, List.map_map]
      exact List.map_id ts

theorem ofValue_eq_ok {ts : List Trigger} : (ofValue v).map triggers = .ok ts ↔ Declares v ts := by
  rw [map_eq_ok]
  unfold ofValue
  split
  next name =>
    constructor
    · rintro ⟨d, ⟨⟩, rfl⟩
      exact .event name
    · rintro ⟨⟩
      exact ⟨_, rfl, rfl⟩
  next entries =>
    simp only [map_eq_ok]
    constructor
    · rintro ⟨d, ⟨named, read, rfl⟩, same⟩
      exact .events (entries_eq_ok.1 ⟨named, read, same⟩)
    · rintro (_ | each)
      obtain ⟨named, read, same⟩ := entries_eq_ok.2 each
      exact ⟨_, ⟨named, read, rfl⟩, same⟩
  next noText noMapping =>
    constructor
    · rintro ⟨d, ⟨⟩, -⟩
    · rintro (_ | _)
      · exact (noText _ rfl).elim
      · exact (noMapping _ rfl).elim

theorem ofValue_eq_error : ofValue v = .error fault ↔ Offends v fault := by
  unfold ofValue
  split
  next name =>
    constructor
    · rintro ⟨⟩
    · rintro ⟨noText, _⟩
      exact absurd rfl (noText name)
  next entries =>
    rw [map_eq_error, mapM_eq_error]
    constructor
    · rintro ⟨before, e, after, named, rfl, good, bad⟩
      have triggers := entries_eq_ok.1 ⟨named, mapM_eq_ok.2 good, rfl⟩
      exact .entry triggers (entry_eq_error.1 bad)
    · rintro (⟨_, noMapping⟩ | ⟨good, bad⟩)
      · exact absurd rfl (noMapping entries)
      · obtain ⟨named, read, -⟩ := entries_eq_ok.2 good
        exact ⟨_, _, _, named, rfl, mapM_eq_ok.1 read, entry_eq_error.2 bad⟩
  next noText noMapping =>
    constructor
    · rintro ⟨⟩
      exact .declaration noText noMapping
    · rintro (_ | _)
      · rfl
      · exact (noMapping _ rfl).elim

end Declaration

open Declaration

/-- **A workflow has exactly the triggers that the grammar gives to its declaration, in the order of the document.**
Every other declaration is refused as an unrecognised shape, and the message is that of its first offending item. -/
theorem triggers_grammar (w : Workflow) :
    (∀ ts, w.triggers = .ok ts ↔ Declares w.declared ts) ∧
      ∀ f, w.triggers = .error f ↔ ∃ fault, Offends w.declared fault ∧ f = .unrecognizedShape fault.message := by
  have spelled : w.triggers = ((ofValue w.declared).map triggers).mapError fun f => .unrecognizedShape f.message := by
    unfold Workflow.triggers Workflow.declaration
    cases ofValue w.declared with
    | ok d => rfl
    | error fault => rfl
  constructor
  · intro ts
    rw [← ofValue_eq_ok, spelled]
    cases (ofValue w.declared).map triggers with
    | ok ts' => simp [Except.mapError]
    | error fault => simp [Except.mapError]
  · intro f
    simp only [← ofValue_eq_error, spelled]
    cases ofValue w.declared with
    | ok d => simp [Except.mapError, Except.map]
    | error fault => simp [Except.mapError, Except.map, eq_comm]

/-- the first of two offences is reported, a tag is looked through -/
example :
    ofValue (.mapping [(.tagged "e" (.text "push"), .null),
      (.text "issues", .mapping [(.text "types", .sequence [.text "opened", .bool true])]), (.null, .null)]) =
      .error (.typesEntry "issues" "bool") := rfl

end HookFlow
