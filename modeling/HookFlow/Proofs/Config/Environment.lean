import HookFlow.Config.File
import HookFlow.Proofs.Except
import HookFlow.Proofs.Text.Split
import HookFlow.Proofs.Text.Trim
/-!
What the environment changes in a configuration.

Eight fields have a variable. Seven of them hold one value: the variable gives it unless it is blank, and then the
field stays as it was. The eighth is the list of ignored actors: whenever its variable is set, the list is what the
variable names, be it nothing. No other field changes, and only then is the configuration checked.

`Overridden` says so field by field, without the functions that do it. It leaves one configuration only
(`overridden_iff`), so it says what the environment comes to.

Results:
- `override_override`: what the environment gives is given once and for all.
- `load_overridden`: which configuration a run starts with, and when none.
- `load_overridden_repaired`: an address in the file that would be refused gives way to one in the environment.
-/

namespace HookFlow.Config

/-- the fields with one value that a variable can give -/
inductive Setting where
  | token
  | apiUrl
  | webhookSecret
  | subscription
  | resourceGroup
  | accessToken
  | runtimeDir
  deriving DecidableEq, Repr

namespace Setting

/-- the variable that gives the field -/
def name : Setting → String
  | token => "GITHUB_TOKEN"
  | apiUrl => "FSB_GITHUB_API_URL"
  | webhookSecret => "FSB_WEBHOOK_SECRET"
  | subscription => "AZ_SUBSCRIPTION"
  | resourceGroup => "AZ_RESOURCE_GROUP"
  | accessToken => "AZURE_ACCESS_TOKEN"
  | runtimeDir => "FSB_RUNTIME_DIR"

/-- what a configuration has in the field; two of the fields may be empty -/
def value (c : Config) : Setting → Option String
  | token => c.github.token
  | apiUrl => some c.github.apiUrl
  | webhookSecret => some c.codegen.webhookSecret
  | subscription => some c.azure.subscription
  | resourceGroup => some c.azure.resourceGroup
  | accessToken => c.azure.accessToken
  | runtimeDir => some c.package.runtimeDir

end Setting

/-- the variable that lists the ignored actors -/
def actorsName : String := "FSB_IGNORED_ACTORS"

/-- the configuration with nothing in the eight fields that have a variable -/
def others (c : Config) : Config where
  github := { c.github with token := none, apiUrl := "" }
  codegen := { webhookSecret := "", options := { c.codegen.options with ignoredActors := [] } }
  azure := { c.azure with subscription := "", resourceGroup := "", accessToken := none }
  package := { c.package with runtimeDir := "" }

/-- Configurations with the same in the eight fields and in all others are the same. -/
theorem eq_of_fields {c d : Config} (rest : c.others = d.others) (single : ∀ s : Setting, s.value c = s.value d)
    (actors : c.codegen.options.ignoredActors = d.codegen.options.ignoredActors) : c = d := by
  obtain ⟨⟨_, _, _, _⟩, ⟨_, ⟨_, _, _⟩⟩, ⟨_, _, _, _, _, _, _⟩, ⟨_, _⟩⟩ := c
  obtain ⟨⟨_, _, _, _⟩, ⟨_, ⟨_, _, _⟩⟩, ⟨_, _, _, _, _, _, _⟩, ⟨_, _⟩⟩ := d
  have token := single .token
  have apiUrl := single .apiUrl
  have webhookSecret := single .webhookSecret
  have subscription := single .subscription
  have resourceGroup := single .resourceGroup
  have accessToken := single .accessToken
  have runtimeDir := single .runtimeDir
  simp only [Setting.value, Option.some.injEq] at token apiUrl webhookSecret
  simp only [Setting.value, Option.some.injEq] at subscription resourceGroup accessToken runtimeDir
  simp only [others, mk.injEq, Github.mk.injEq, Codegen.mk.injEq, Azure.mk.injEq, Package.mk.injEq,
    Handler.Options.mk.injEq, true_and] at rest actors ⊢
  simp only [rest, token, apiUrl, webhookSecret, subscription, resourceGroup, accessToken, runtimeDir, actors, and_self]

/-- `actors` are the pieces of a list between its commas, trimmed and in order; empty ones do not count -/
def Lists (list : String) (actors : List String) : Prop :=
  ∃ pieces : List (List Char), pieces ≠ [] ∧ (∀ p ∈ pieces, ',' ∉ p) ∧ [','].intercalate pieces = list.toList ∧
    actors = (pieces.map fun p => Text.trim (String.ofList p)).filter (· ≠ "")

/-- `new` is `old` with what the environment gives -/
structure Overridden (env : Environment) (old new : Config) : Prop where
  given : ∀ (s : Setting) (v : String), env.lookup s.name = some v → ¬ Text.Blanks v.toList → s.value new = some v
  kept : ∀ s : Setting, (∀ v, env.lookup s.name = some v → Text.Blanks v.toList) → s.value new = s.value old
  listed : ∀ list, env.lookup actorsName = some list → Lists list new.codegen.options.ignoredActors
  unlisted : env.lookup actorsName = none → new.codegen.options.ignoredActors = old.codegen.options.ignoredActors
  rest : new.others = old.others

/-! ## Variables -/

theorem allBlank_iff {v : String} : Text.allBlank v = true ↔ Text.Blanks v.toList := List.all_eq_true

theorem given?_eq_some {env : Environment} {name v : String} :
    given? env name = some v ↔ env.lookup name = some v ∧ ¬ Text.Blanks v.toList := by
  rw [given?, Option.filter_eq_some_iff, ← allBlank_iff, Bool.not_eq_true', Bool.not_eq_true]

theorem given?_eq_none {env : Environment} {name : String} :
    given? env name = none ↔ ∀ v, env.lookup name = some v → Text.Blanks v.toList := by
  simp only [given?, Option.filter_eq_none_iff, Bool.not_eq_true, Bool.not_eq_false', allBlank_iff]

/-- There is one list of actors for a text. -/
theorem lists_iff {list : String} {actors : List String} : Lists list actors ↔ actors = actorsOf list := by
  have named (pieces : List (List Char)) :
      (pieces.map fun cs => String.ofList (Text.trimChars cs)).filter (fun a => !a.isEmpty) =
        (pieces.map fun p => Text.trim (String.ofList p)).filter (· ≠ "") := by
    simp only [Text.trim, String.toList_ofList]
    refine List.filter_congr fun a _ => ?_
    rw [Bool.eq_iff_iff, Bool.not_eq_true', ← Bool.not_eq_true, String.isEmpty_iff, decide_eq_true_eq]
  rw [actorsOf, named]
  constructor
  · rintro ⟨pieces, some, free, made, rfl⟩
    obtain ⟨first, later, rfl⟩ := List.exists_cons_of_ne_nil some
    obtain ⟨one, others⟩ := List.forall_mem_cons.1 free
    rw [← made, Text.splitChars_join one others]
  · rintro rfl
    exact ⟨Text.splitChars ',' list.toList, Text.splitChars_ne_nil _ _, Text.splitChars_free _,
      Text.intercalate_splitChars _ _, rfl⟩

/-! ## Configurations -/

/-- What a field holds once the environment has given what it gives. -/
theorem value_override (env : Environment) (c : Config) (s : Setting) :
    s.value (override env c) = (given? env s.name).or (s.value c) := by
  cases s with
  | token => rfl
  | accessToken => rfl
  | _ =>
    simp only [Setting.value, Setting.name, override, Github.override, Codegen.override, Azure.override,
      Package.override]
    cases given? env _ <;> rfl

/-- Who is ignored once the environment has given what it gives. -/
theorem ignoredActors_override (env : Environment) (c : Config) : (override env c).codegen.options.ignoredActors =
    ((env.lookup actorsName).map actorsOf).getD c.codegen.options.ignoredActors := rfl

theorem overridden_override (env : Environment) (c : Config) : Overridden env c (override env c) where
  given s v set filled := by rw [value_override, given?_eq_some.2 ⟨set, filled⟩, Option.some_or]
  kept s blank := by rw [value_override, given?_eq_none.2 blank, Option.none_or]
  listed list set := by rw [ignoredActors_override, set, Option.map_some, Option.getD_some, lists_iff]
  unlisted unset := by rw [ignoredActors_override, unset, Option.map_none, Option.getD_none]
  rest := rfl

/-- The environment leaves one configuration only. -/
theorem Overridden.unique {env : Environment} {old new new' : Config} (one : Overridden env old new)
    (other : Overridden env old new') : new = new' := by
  refine eq_of_fields (one.rest.trans other.rest.symm) (fun s => ?_) ?_
  · cases set : given? env s.name with
    | none => rw [one.kept s (given?_eq_none.1 set), other.kept s (given?_eq_none.1 set)]
    | some v =>
      obtain ⟨set, filled⟩ := given?_eq_some.1 set
      rw [one.given s v set filled, other.given s v set filled]
  · cases set : env.lookup actorsName with
    | none => rw [one.unlisted set, other.unlisted set]
    | some list => rw [lists_iff.1 (one.listed list set), lists_iff.1 (other.listed list set)]

theorem overridden_iff {env : Environment} {old new : Config} : Overridden env old new ↔ new = override env old :=
  ⟨fun done => done.unique (overridden_override env old), fun same => same ▸ overridden_override env old⟩

/-- What the environment gave already is not changed by it. -/
theorem Overridden.again {env : Environment} {old new : Config} (done : Overridden env old new) :
    Overridden env new new where
  given := done.given
  kept _ _ := rfl
  listed := done.listed
  unlisted _ := rfl
  rest := rfl

/-- **What the environment gives is given once and for all.** -/
theorem override_override (env : Environment) (c : Config) : override env (override env c) = override env c :=
  (overridden_iff.1 (overridden_override env c).again).symm

/-! ## The configuration of a run -/

/-- what a run starts from: what the file says, or the defaults if there is no file and none was named -/
inductive Starts (explicit : Option String) : Except OsFault Text.Bytes → Config → Prop
  | file {bytes : Text.Bytes} {text : String} {c : Config} (readable : Text.decode bytes = .ok text)
      (parses : parse? text = some c) : Starts explicit (.ok bytes) c
  | absent {fault : OsFault} (nowhere : fault = .notFound ∨ fault = .notDirectory) (unnamed : explicit = none) :
      Starts explicit (.error fault) {}

/-- Behind the file there are the environment and the checks, in this order. -/
theorem Starts.load_eq {env : Environment} {workspace : String} {explicit : Option String}
    {content : Except OsFault Text.Bytes} {base : Config} (starts : Starts explicit content base) :
    load env workspace explicit content = (override env base).validate.map fun _ => override env base := by
  have checked (c : Config) : (do c.validate; return c : Except Failure Config) = c.validate.map fun _ => c := by
    cases c.validate <;> rfl
  rw [← checked]
  cases starts with
  | file readable parses => simp only [load, ofFile, readable, parses]; rfl
  | absent nowhere unnamed =>
    subst unnamed
    rcases nowhere with rfl | rfl <;> rfl

/-- **Which configuration a run starts with**: what the file says, or the defaults, with what the environment gives,
provided that passes the checks. -/
theorem load_overridden {env : Environment} {workspace : String} {explicit : Option String}
    {content : Except OsFault Text.Bytes} {base : Config} (starts : Starts explicit content base) :
    ((∃ c, load env workspace explicit content = .ok c) ↔ (override env base).validate = .ok ()) ∧
      (∀ c, load env workspace explicit content = .ok c ↔ Overridden env base c ∧ c.validate = .ok ()) ∧
      (∀ c, Overridden env base c ↔ c = override env base) ∧
      ∀ c, override env (override env c) = override env c := by
  have loads (c : Config) : load env workspace explicit content = .ok c ↔
      (override env base).validate = .ok () ∧ override env base = c := by
    rw [starts.load_eq, map_eq_ok, Unique.exists_iff]
  refine ⟨⟨?_, ?_⟩, fun c => ?_, fun c => overridden_iff, override_override env⟩
  · rintro ⟨c, loaded⟩
    exact ((loads c).1 loaded).1
  · intro accepted
    exact ⟨_, (loads _).2 ⟨accepted, rfl⟩⟩
  · rw [loads, overridden_iff]
    constructor
    · rintro ⟨accepted, rfl⟩
      exact ⟨rfl, accepted⟩
    · rintro ⟨rfl, accepted⟩
      exact ⟨accepted, rfl⟩

/-- a file with an address that is none -/
def misspelt : List Char :=
  ['[', 'g', 'i', 't', 'h', 'u', 'b', ']', '\n', 'a', 'p', 'i', '_', 'u', 'r', 'l', '=', '"', 'x', '"']

/-- an environment with another address, a blank secret and a list with a gap -/
def repairs : Environment :=
  [("FSB_GITHUB_API_URL", "http://a"), ("FSB_WEBHOOK_SECRET", " "), ("FSB_IGNORED_ACTORS", "a, ,b")]

/-- The address in the file would be refused; the one in the environment counts, the blank secret does not. -/
theorem load_overridden_repaired :
    validate { github := { apiUrl := "x" } } ≠ .ok () ∧
      load repairs "." none (.ok (misspelt.map fun c => UInt8.ofNat c.toNat)) =
        .ok { github := { apiUrl := "http://a" }, codegen := { options := { ignoredActors := ["a", "b"] } } } := by
  have readable : Text.decode (misspelt.map fun c => UInt8.ofNat c.toNat) = .ok (String.ofList misspelt) := rfl
  have parses : parse? (String.ofList misspelt) = some { github := { apiUrl := "x" } } := by
    rw [parse?, Toml.parse?, String.toList_ofList]
    decide +kernel
  obtain ⟨-, loaded, overridden, -⟩ := @load_overridden repairs "." none _ _ (.file readable parses)
  refine ⟨by rw [validate]; decide +kernel, (loaded _).2 ⟨(overridden _).2 ?_, ?_⟩⟩
  · decide +kernel
  · rw [validate]
    decide +kernel

end HookFlow.Config
