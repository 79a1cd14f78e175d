import HookFlow.Proofs.Action.Resolving
import HookFlow.Proofs.Content.Address
import HookFlow.Proofs.Reference
/-!
Requests for actions: what a resolution asks a code host.

A resolution reads the metadata file of the action and then, if the action can be hosted, its entry point, both from the
repository and at the ref that the text names. The path of the entry point is the word of the action's author. It starts
with the directory of bundles, and the request for it lies below that directory if the path is literal.

Results:
- `resolve_fetches`: what a resolution sends.
- `Interface.requests_address`: every request for a file addresses it exactly if its path is literal, and entry points
  with literal paths are fetched from below the directory of bundles.
- `requests_address_elsewhere`: an entry point that is fetched from another repository.
-/

namespace HookFlow

open HookFlow.Action (Cache)
open Action.Resolving (Leads)
open Wire.History (sent sent_append)
open Content (Github Interface Addresses IsFollowUp addressOf IsName)

/-! ## References -/

theorem ActionReference.isName_of_run {s : String} (run : IsRun IsNameLetter s) : IsName s := by
  have dotless : '.' ∉ s.toList := run.not_mem (by decide)
  refine ⟨fun c hc => ?_, ?_, ?_⟩
  · have letter := isNameChar_iff.2 (run.2 c hc)
    rw [isNameChar, Bool.or_eq_true] at letter
    rcases letter with small | hyphen
    · exact .inl (Bool.or_eq_true_iff.2 (.inl (Bool.or_eq_true_iff.2 (.inr small))))
    · exact .inr (by simp [eq_of_beq hyphen])
  · rintro rfl
    exact dotless (by decide)
  · rintro rfl
    exact dotless (by decide)

/-- **The parts of a reference may name an owner and a repository.** -/
theorem ActionReference.parse?_names {uses : String} {reference : ActionReference}
    (parsed : parse? uses = some reference) : IsName reference.owner ∧ IsName reference.repo := by
  obtain ⟨-, published⟩ := parse?_eq_some.1 parsed
  exact ⟨isName_of_run published.owner, isName_of_run published.repo⟩

/-! ## Resolutions over a code host -/

/-- a resolver that reads a code host -/
def Action.Resolver.over (g : Github Wire) (metadataFile : String) : Action.Resolver Wire where
  source := g.source
  supervisor := Wire.supervisor
  metadataFile

/-- the repository of a reference -/
def ActionReference.repository (reference : ActionReference) : Repository := ⟨reference.owner, reference.repo⟩

/-- what a resolution of a reference sends: what reading the metadata file sends, and what reading the entry point sends
if the file describes an action that can be hosted -/
inductive Fetches (g : Github Wire) (metadataFile : String) (reference : ActionReference) :
    List (Http.Request × Except Http.Fault Http.Response) → Prop where
  | nothing : Fetches g metadataFile reference []
  | described {h : Wire.History} {v : Except Content.Fault Text.Bytes}
      (read : (g.file reference.repository metadataFile (some reference.gitRef)).Runs h v) :
      Fetches g metadataFile reference (sent h)
  | entered {h h' : Wire.History} {raw : Text.Bytes} {a : Action} {v : Except Content.Fault Text.Bytes}
      (read : (g.file reference.repository metadataFile (some reference.gitRef)).Runs h (.ok raw))
      (meant : Action.ofMetadata? raw = some a) (fit : a.isHostable = true)
      (entry : (g.file reference.repository a.main (some reference.gitRef)).Runs h' v) :
      Fetches g metadataFile reference (sent h ++ sent h')

section

variable {g : Github Wire} {metadataFile uses : String} {reference : ActionReference} {c c' : Cache} {h : Wire.History}

/-- A report sends nothing. -/
theorem log_sent {e : Log.Event} (told : (Wire.supervisor.log e).Runs h ()) : sent h = [] := by
  rw [runs_inquiry.1 told]
  rfl

/-- A file is not read if the run is cancelled before. -/
theorem read_sent {path : String} {r : Except Failure Text.Bytes}
    (read : (Action.Resolver.over g metadataFile).Reads uses reference path h r) :
    (sent h = [] ∧ ∃ e, r = .error e) ∨ ∃ h' v, sent h = sent h' ∧
      (g.file reference.repository path (some reference.gitRef)).Runs h' v ∧
      ∀ bytes, r = .ok bytes → v = .ok bytes := by
  cases read with
  | cancelled asked =>
    rw [runs_inquiry.1 asked]
    exact .inl ⟨rfl, _, rfl⟩
  | replied asked called settled =>
    obtain ⟨answer, h₁, h₂, rfl, answered, rfl, rfl⟩ := Dialogue.runs_bind.1 called
    rw [runs_inquiry.1 asked, List.append_nil]
    refine .inr ⟨h₁, answer, rfl, answered, fun bytes same => ?_⟩
    subst same
    cases answer with
    | error fault => cases settled
    | ok found =>
      cases settled
      rfl

/-- What looking up a reference sends. -/
theorem looks_fetches {r : Except Failure Action}
    (looks : (Action.Resolver.over g metadataFile).Looks uses reference h r) :
    Fetches g metadataFile reference (sent h) := by
  cases looks with
  | unread read =>
    rcases read_sent read with ⟨none, -⟩ | ⟨h', v, same, asked, -⟩
    · rw [none]
      exact .nothing
    · rw [same]
      exact .described asked
  | malformed read _ | unhosted read _ _ =>
    rcases read_sent read with ⟨-, _, ⟨⟩⟩ | ⟨h', v, same, asked, -⟩
    rw [same]
    exact .described asked
  | @hosted h₁ h₂ raw a w _ read meant fit entry _ =>
    rcases read_sent read with ⟨-, _, ⟨⟩⟩ | ⟨h', v, same, asked, ok⟩
    obtain rfl := ok raw rfl
    rw [sent_append, same]
    rcases read_sent entry with ⟨none, -⟩ | ⟨h'', w, more, entered, -⟩
    · rw [none, List.append_nil]
      exact .described asked
    · rw [more]
      exact .entered asked meant fit entered

/-- **What a resolution sends**: nothing, or what the reference that it is about takes. -/
theorem resolve_fetches {r : Except Failure Action}
    (run : Leads ((Action.Resolver.over g metadataFile).resolve uses) c h r c') :
    sent h = [] ∨ ∃ reference, ActionReference.parse? uses = some reference ∧
      Fetches g metadataFile reference (sent h) := by
  rcases Action.Resolver.leads_resolve run with ⟨_, -, told, -⟩ |
    ⟨-, ⟨reference, c₁, parsed, looked, -⟩ | ⟨-, told, -⟩⟩
  · exact .inl (log_sent told)
  · obtain ⟨⟨h₁, h₂, rfl, told, looks⟩, -⟩ := Action.Resolver.leads_look looked
    rw [sent_append, log_sent told]
    exact .inr ⟨reference, parsed, looks_fetches looks⟩
  · exact .inl (log_sent told)

end

/-! ## Where requests go -/

/-- the path of an entry point below the directory of bundles of a repository -/
def bundleAddress (base : String) (repo : Repository) (below : String) : String :=
  Github.withoutTrailingSlashes base ++ "/repos/" ++ repo.owner ++ "/" ++ repo.name ++ "/contents/dist/" ++ below

/-- The entry point of an action that can be hosted starts with the directory of bundles. -/
theorem Action.main_of_isHostable {a : Action} (fit : a.isHostable = true) : ∃ below, a.main = "dist/" ++ below := by
  rw [isHostable, Bool.and_eq_true] at fit
  obtain ⟨below, whole⟩ := List.isPrefixOf_iff_prefix.1 fit.2
  refine ⟨String.ofList below, ?_⟩
  rw [← String.toList_inj, String.toList_append, ← whole]
  exact congrArg (bundleRoot.toList ++ ·) (String.toList_ofList).symm

theorem Content.withoutLeadingSlashes_bundle (below : String) :
    Github.withoutLeadingSlashes ("dist/" ++ below) = "dist/" ++ below := by
  rw [← String.toList_inj, Github.withoutLeadingSlashes, String.toList_ofList, String.toList_append]
  rfl

theorem Content.addressOf_bundle (base : String) (repo : Repository) (below : String) :
    addressOf base repo ("dist/" ++ below) = bundleAddress base repo below := by
  rw [addressOf, withoutLeadingSlashes_bundle, bundleAddress, ← String.toList_inj]
  simp

namespace Content

variable {g : Github Wire} {origin base : String} {site : Url}

/-- The request for a file is sent first, and addresses the file exactly if its path is literal. -/
theorem Interface.file_sent (i : Interface g origin base site) {repo : Repository} (owner : IsName repo.owner)
    (name : IsName repo.name) {path : String} {gitRef : Option String} {h : Wire.History} {r : Except Fault Text.Bytes}
    (run : (g.file repo path gitRef).Runs h r) :
    ∃ q answer rest, sent h = (q, answer) :: rest ∧ IsFollowUp g.apiUrl g.token repo path answer rest ∧
      (Addresses site (addressOf base repo path) gitRef q ↔
        Url.IsLiteral (Github.withoutLeadingSlashes path).toList) := by
  obtain ⟨apiUrl, token, root, rfl, parsed, built⟩ := i.request
  obtain ⟨answer, rest, first, later⟩ := Github.sent_of_file (built repo path gitRef) run
  exact ⟨_, answer, rest, first, later, i.addresses_iff parsed owner name⟩

/-- The request for an entry point with a literal path goes below the directory of bundles. -/
theorem Interface.entry_sent (i : Interface g origin base site) {repo : Repository} (owner : IsName repo.owner)
    (name : IsName repo.name) {a : Action} (fit : a.isHostable = true) (literal : Url.IsLiteral a.main.toList)
    {gitRef : Option String} {h : Wire.History} {r : Except Fault Text.Bytes}
    (run : (g.file repo a.main gitRef).Runs h r) :
    ∃ below q answer rest, a.main = "dist/" ++ below ∧ sent h = (q, answer) :: rest ∧
      IsFollowUp g.apiUrl g.token repo a.main answer rest ∧
      Addresses site (bundleAddress base repo below) gitRef q := by
  obtain ⟨below, main⟩ := Action.main_of_isHostable fit
  obtain ⟨q, answer, rest, first, later, addresses⟩ := i.file_sent owner name run
  rw [main, withoutLeadingSlashes_bundle, addressOf_bundle, ← main] at addresses
  exact ⟨below, q, answer, rest, main, first, later, addresses.2 literal⟩

/-- **Every request for a file addresses it exactly if its path is literal.** Take a code host whose interface lies
behind an origin, at a path that stands for itself. Reading a file sends a request first, and after it at most one for
the link in its answer. The first one asks the host for the file that is meant, at the ref that is meant, exactly if
the path is literal. A resolution sends nothing, or the text is a reference, and then it sends what reading the
metadata file and the entry point of the reference takes. If an action can be hosted and its entry point has a literal
path, the request for that goes below the directory of bundles of the repository that the text names, at the ref that
it names. -/
theorem Interface.requests_address (i : Interface g origin base site) :
    (∀ repo path gitRef h r, IsName repo.owner → IsName repo.name → (g.file repo path gitRef).Runs h r →
      ∃ q answer rest, sent h = (q, answer) :: rest ∧ IsFollowUp g.apiUrl g.token repo path answer rest ∧
        (Addresses site (addressOf base repo path) gitRef q ↔
          Url.IsLiteral (Github.withoutLeadingSlashes path).toList)) ∧
    ∀ metadataFile uses c h r c', Leads ((Action.Resolver.over g metadataFile).resolve uses) c h r c' →
      sent h = [] ∨ ∃ reference, ActionReference.parse? uses = some reference ∧
        Fetches g metadataFile reference (sent h) ∧
        ∀ (a : Action) (h' : Wire.History) (v : Except Fault Text.Bytes), a.isHostable = true →
          Url.IsLiteral a.main.toList →
          (g.file reference.repository a.main (some reference.gitRef)).Runs h' v →
          ∃ below q answer rest, a.main = "dist/" ++ below ∧ sent h' = (q, answer) :: rest ∧
            IsFollowUp g.apiUrl g.token reference.repository a.main answer rest ∧
            Addresses site (bundleAddress base reference.repository below) (some reference.gitRef) q := by
  refine ⟨fun repo path gitRef h r owner name run => i.file_sent owner name run,
    fun metadataFile uses c h r c' run => ?_⟩
  rcases resolve_fetches run with none | ⟨reference, parsed, fetches⟩
  · exact .inl none
  · obtain ⟨owner, name⟩ := ActionReference.parse?_names parsed
    exact .inr ⟨reference, parsed, fetches, fun a h' v fit literal run => i.entry_sent owner name fit literal run⟩

/-! A code host, and an action that may be published there. -/

def publishedHost : Github Wire := .asking "http://mockhost:9" none

def publishedSite : Url := { scheme := "http", host := some (.domain "mockhost"), port := some 9, path := "/" }

/-- the answers of that code host, which has the metadata of the action and nothing else -/
def publishedAnswer (metadata : Option Text.Bytes) : (q : Inquiry) → q.Answer
  | .cancelled => false
  | .log _ => ()
  | .now => ⟨0⟩
  | .pause => ()
  | .send r =>
    match metadata.filter fun _ => r.url.path == "/repos/a/b/contents/action.yml" with
    | some bytes => .ok ⟨200, Text.encode ("\x7b\"encoding\":\"base64\",\"content\":\"" ++
        String.ofList (Text.encode64 bytes) ++ "\"\x7d")⟩
    | none => .ok ⟨404, []⟩

/-- metadata that names an entry point -/
def published (main : String) : Text.Bytes := Text.encode ("runs: \x7busing: node12, main: " ++ main ++ "\x7d")

/-- a resolution of the action -/
def publishedResolution : Wire (Except Failure Action × Cache) :=
  ((Action.Resolver.over publishedHost "action.yml").resolve "a/b@v1").run.run []

/-- where requests go, and with which query -/
def targets (h : Wire.History) : List (String × Option String) := (sent h).map fun e => (e.1.url.path, e.1.url.query)

theorem publishedHost_interface : Interface publishedHost "http://mockhost:9" "" publishedSite where
  start := by decide +kernel
  rooted := nofun
  plain := by decide
  valid := by decide +kernel
  made := ⟨none, rfl⟩

/-- An action is looked for in its repository, and its entry point below the directory of bundles. -/
theorem requests_address_published :
    Interface publishedHost "http://mockhost:9" "" publishedSite ∧ IsName "a" ∧ IsName "b" ∧
      Url.IsLiteral "dist/index.js".toList ∧
      (∃ q answer rest, sent ((publishedHost.file ⟨"a", "b"⟩ "dist/index.js" (some "v1")).replies
          (publishedAnswer none)) = (q, answer) :: rest ∧
        Addresses publishedSite "/repos/a/b/contents/dist/index.js" (some "v1") q) ∧
      targets (publishedResolution.replies (publishedAnswer none)) =
        [("/repos/a/b/contents/action.yml", some "ref=v1")] ∧
      ∃ reference, ActionReference.parse? "a/b@v1" = some reference ∧
        Fetches publishedHost "action.yml" reference (sent (publishedResolution.replies (publishedAnswer none))) := by
  have owner : IsName "a" := by decide
  have name : IsName "b" := by decide
  have literal : Url.IsLiteral "dist/index.js".toList := by decide +kernel
  have asked : targets (publishedResolution.replies (publishedAnswer none)) =
      [("/repos/a/b/contents/action.yml", some "ref=v1")] := by decide +kernel
  obtain ⟨files, resolutions⟩ := publishedHost_interface.requests_address
  refine ⟨publishedHost_interface, owner, name, literal, ?_, asked, ?_⟩
  · obtain ⟨q, answer, rest, first, -, addresses⟩ := files ⟨"a", "b"⟩ "dist/index.js" (some "v1") _ _ owner name
      (Dialogue.runs_reply (publishedAnswer none) _)
    exact ⟨q, answer, rest, first, addresses.2 literal⟩
  · rcases resolutions "action.yml" "a/b@v1" [] _ _ _ (Action.Resolving.leads_reply _ _ _) with
      none | ⟨reference, parsed, fetches, -⟩
    · rw [targets, publishedResolution, none] at asked
      cases asked
    · exact ⟨reference, parsed, fetches⟩

/-- **An entry point that is fetched from elsewhere**: the action can be hosted, and what is asked for is a file of
another repository. -/
theorem requests_address_elsewhere :
    Interface publishedHost "http://mockhost:9" "" publishedSite ∧
      (Action.ofMetadata? (published "dist/../../../../c/d/contents/x")).map Action.isHostable = some true ∧
      targets (publishedResolution.replies
          (publishedAnswer (some (published "dist/../../../../c/d/contents/x")))) =
        [("/repos/a/b/contents/action.yml", some "ref=v1"), ("/repos/c/d/contents/x", some "ref=v1")] ∧
      ∀ e ∈ sent (publishedResolution.replies (publishedAnswer (some (published "dist/../../../../c/d/contents/x")))),
        ¬ Addresses publishedSite (addressOf "" ⟨"a", "b"⟩ "dist/../../../../c/d/contents/x") (some "v1") e.1 := by
  have asked : targets (publishedResolution.replies
      (publishedAnswer (some (published "dist/../../../../c/d/contents/x")))) =
        [("/repos/a/b/contents/action.yml", some "ref=v1"), ("/repos/c/d/contents/x", some "ref=v1")] := by
    decide +kernel
  refine ⟨publishedHost_interface, by decide +kernel, asked, fun e he addresses => ?_⟩
  have among : (e.1.url.path, e.1.url.query) ∈ targets (publishedResolution.replies
      (publishedAnswer (some (published "dist/../../../../c/d/contents/x")))) := List.mem_map_of_mem he
  have other : ∀ t ∈ [("/repos/a/b/contents/action.yml", some "ref=v1"), ("/repos/c/d/contents/x", some "ref=v1")],
      Url.readPath t.1 ≠ Text.encode (addressOf "" ⟨"a", "b"⟩ "dist/../../../../c/d/contents/x") := by
    decide +kernel
  rw [asked] at among
  exact other _ among addresses.path

end Content

end HookFlow
