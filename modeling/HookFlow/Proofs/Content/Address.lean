import HookFlow.Content.Github
import HookFlow.Proofs.Http.Pairs
import HookFlow.Proofs.Url.Origin
import HookFlow.Proofs.Wire
/-!
Addresses of files: where the request for a file goes.

The address of a path is put behind the origin of the interface as it is, with the ref as a pair of the query. So the
request asks for the file that is meant exactly if the path is literal: `?` and `#` end it, `\`, line breaks, dots and
escapes make it another one.

Results:
- `runs_get`, `runs_file`: what reading a file asks.
- `Interface.request`: the request can be built.
- `Interface.addresses_iff`: it addresses the file that is meant exactly if the path is literal.
-/

namespace HookFlow.Content

open Text (Bytes encode utf8)
open Http (formPairs withPairs)
open Url (IsLiteral IsVerbatim IsOrigin IsRooted readPath)

/-! ## A code host in open surroundings -/

namespace Github

/-- a code host in open surroundings -/
def asking (apiUrl : String) (token : Option String) : Github Wire where
  transport := Wire.transport
  supervisor := Wire.supervisor
  apiUrl
  token

/-- what is made of the answer to a question for the body at an address -/
def got (url : String) : Except Http.Fault Http.Response → Except Fault Bytes
  | .error f => .error (.network f.message)
  | .ok r => if Http.isSuccess r.status then .ok r.body else .error (.status r.status url)

variable {apiUrl : String} {token : Option String} {h : Wire.History}

/-- the request for the body at an address -/
def getRequest (token : Option String) (url : String) (pairs : List (String × String)) :
    Except Http.Fault Http.Request :=
  Http.Request.build .get url pairs (asking "" token).headers

/-- what is reported before a request -/
def getEvent (url : String) : Log.Event :=
  { level := .debug, origin := .content, message := "GET", fields := [("url", .quoted url)] }

/-- What a question for the body at an address amounts to. -/
theorem runs_get {url : String} {pairs : List (String × String)} {r : Except Fault Bytes} :
    ((asking apiUrl token).get url pairs).Runs h r ↔
      ∃ h' answer, h = ⟨.log (getEvent url), ()⟩ :: h' ∧
        (Wire.transport.carry (getRequest token url pairs)).Runs h' answer ∧ r = got url answer := by
  have whole : (asking apiUrl token).get url pairs = Wire.ask (.log (getEvent url)) >>= fun _ =>
      got url <$> Wire.transport.carry (getRequest token url pairs) := by
    refine congrArg (Wire.ask (.log (getEvent url)) >>= ·) (funext fun _ => ?_)
    refine congrArg (Wire.transport.carry (getRequest token url pairs) >>= ·) (funext fun answer => ?_)
    cases answer with
    | error f => rfl
    | ok r =>
      change (if Http.isSuccess r.status then pure (.ok r.body) else pure (.error (.status r.status url))) =
        Dialogue.done (got url (.ok r))
      rw [got]
      split <;> rfl
  rw [whole, Dialogue.runs_bind]
  constructor
  · rintro ⟨_, h₁, h₂, rfl, told, run⟩
    obtain ⟨answer, carried, rfl⟩ := Dialogue.runs_map.1 run
    rw [runs_inquiry.1 told]
    exact ⟨h₂, answer, rfl, carried, rfl⟩
  · rintro ⟨h', answer, rfl, carried, rfl⟩
    exact ⟨(), _, h', rfl, runs_inquiry.2 rfl, Dialogue.runs_map.2 ⟨answer, carried, rfl⟩⟩

/-- the request for a file -/
def fileRequest (apiUrl : String) (token : Option String) (repo : Repository) (path : String)
    (gitRef : Option String) : Except Http.Fault Http.Request :=
  getRequest token ((asking apiUrl token).contentsUrl repo path) (gitRef.map fun r => ("ref", r)).toList

/-- what an answer says about a file: its bytes, or where they are -/
def said (apiUrl : String) (repo : Repository) (path : String) (answer : Except Http.Fault Http.Response) :
    Except Fault (Bytes ⊕ String) :=
  (got ((asking apiUrl none).contentsUrl repo path) answer).bind (bytesOrLink path)

/-- what comes of what was said about a file -/
def followed (token : Option String) : Except Fault (Bytes ⊕ String) → Wire (Except Fault Bytes)
  | .error f => return .error f
  | .ok (.inl bytes) => return .ok bytes
  | .ok (.inr link) => (asking "" token).get link []

/-- **What reading a file asks**: one question for it, and one more if it is answered with a link. -/
theorem runs_file {repo : Repository} {path : String} {gitRef : Option String} {r : Except Fault Bytes}
    (run : ((asking apiUrl token).file repo path gitRef).Runs h r) :
    ∃ h₁ h₂ answer, h = ⟨.log (getEvent ((asking apiUrl token).contentsUrl repo path)), ()⟩ :: h₁ ++ h₂ ∧
      (Wire.transport.carry (fileRequest apiUrl token repo path gitRef)).Runs h₁ answer ∧
      (followed token (said apiUrl repo path answer)).Runs h₂ r := by
  obtain ⟨v, h₁, h₂, rfl, asked, rest⟩ := Dialogue.runs_bind.1 run
  obtain ⟨h₃, answer, rfl, carried, rfl⟩ := runs_get.1 asked
  refine ⟨h₃, h₂, answer, rfl, carried, ?_⟩
  have same : said apiUrl repo path answer =
      (got ((asking apiUrl token).contentsUrl repo path) answer).bind (bytesOrLink path) := rfl
  rw [same]
  cases what : (got ((asking apiUrl token).contentsUrl repo path) answer).bind (bytesOrLink path) with
  | error f =>
    rw [what] at rest
    exact rest
  | ok found =>
    rw [what] at rest
    cases found with
    | inl bytes => exact rest
    | inr link => exact rest

end Github

/-- what is sent behind the request for a file: nothing, or one request for the link in the answer -/
def IsFollowUp (apiUrl : String) (token : Option String) (repo : Repository) (path : String)
    (answer : Except Http.Fault Http.Response)
    (rest : List (Http.Request × Except Http.Fault Http.Response)) : Prop :=
  rest = [] ∨ ∃ link q answer', Github.said apiUrl repo path answer = .ok (.inr link) ∧
    Github.getRequest token link [] = .ok q ∧ rest = [(q, answer')]

namespace Github

variable {apiUrl : String} {token : Option String} {h : Wire.History}

/-- The request for a file is the first one that is sent. -/
theorem sent_of_file {repo : Repository} {path : String} {gitRef : Option String} {q : Http.Request}
    (built : fileRequest apiUrl token repo path gitRef = .ok q) {r : Except Fault Bytes}
    (run : ((asking apiUrl token).file repo path gitRef).Runs h r) :
    ∃ answer rest, h.sent = (q, answer) :: rest ∧ IsFollowUp apiUrl token repo path answer rest := by
  obtain ⟨h₁, h₂, answer, rfl, carried, later⟩ := runs_file run
  obtain ⟨f, failed, -⟩ | ⟨q', built', first⟩ := (sent_of_carry carried).2
  · rw [built] at failed
    cases failed
  rw [built] at built'
  obtain rfl := Except.ok.inj built'
  have whole : Wire.History.sent (⟨.log (getEvent ((asking apiUrl token).contentsUrl repo path)), ()⟩ :: h₁ ++ h₂) =
      Wire.History.sent h₁ ++ Wire.History.sent h₂ := Wire.History.sent_append h₁ h₂
  rw [whole, first]
  refine ⟨answer, Wire.History.sent h₂, rfl, ?_⟩
  rcases what : said apiUrl repo path answer with f | bytes | link
  · rw [what] at later
    obtain ⟨rfl, -⟩ := later
    exact .inl rfl
  · rw [what] at later
    obtain ⟨rfl, -⟩ := later
    exact .inl rfl
  · rw [what] at later
    obtain ⟨h₃, answer', rfl, linked, -⟩ := runs_get.1 later
    have inner : Wire.History.sent (⟨.log (getEvent link), ()⟩ :: h₃) = Wire.History.sent h₃ := rfl
    rw [inner]
    obtain ⟨f, -, none, -⟩ | ⟨q', built', more⟩ := (sent_of_carry linked).2
    · exact .inl none
    · exact .inr ⟨link, q', answer', what, built', more⟩

end Github

/-! ## Interfaces -/

/-- a code host whose interface lies behind an origin, at a path that stands for itself; `site` is the URL of both -/
structure Interface (g : Github Wire) (origin base : String) (site : Url) : Prop where
  start : IsOrigin origin.toList
  rooted : IsRooted base.toList
  plain : IsVerbatim base.toList
  valid : Url.parse? (origin ++ base) = some site
  made : ∃ token, Github.create Wire.transport Wire.supervisor (origin ++ base) token = .ok g

/-- whether a text may name an owner or a repository -/
def IsName (s : String) : Prop :=
  (∀ c ∈ s.toList, c.isAlphanum = true ∨ c ∈ ['-', '_', '.']) ∧ s ≠ "." ∧ s ≠ ".."

instance (s : String) : Decidable (IsName s) :=
  have : Decidable (∀ c ∈ s.toList, c.isAlphanum = true ∨ c ∈ ['-', '_', '.']) := List.decidableBAll _ _
  inferInstanceAs (Decidable (_ ∧ _))

/-- the path of a file below the path of an interface -/
def addressOf (base : String) (repo : Repository) (path : String) : String :=
  Github.withoutTrailingSlashes base ++ "/repos/" ++ repo.owner ++ "/" ++ repo.name ++ "/contents/" ++
    Github.withoutLeadingSlashes path

/-- a request that asks a host for what lies at a path, at a ref or at the default branch -/
structure Addresses (site : Url) (path : String) (gitRef : Option String) (q : Http.Request) : Prop where
  get : q.method = .get
  scheme : q.url.scheme = site.scheme
  host : q.url.host = site.host
  port : q.url.port = site.port
  path : readPath q.url.path = encode path
  unasked : gitRef = none → q.url.query = none
  pairs : formPairs (q.url.query.getD "") = (gitRef.map fun r => (encode "ref", encode r)).toList

theorem isVerbatim_name {s : String} (name : IsName s) : IsVerbatim s.toList := by
  obtain ⟨chars, one, two⟩ := name
  have other (sign : Char) (foreign : ¬ (sign.isAlphanum = true ∨ sign ∈ ['-', '_', '.'])) : sign ∉ s.toList :=
    fun hsign => foreign (chars sign hsign)
  have unescaped : Text.hasEscape s.toList = false := Text.hasEscape_of_not_mem (other '%' (by decide))
  have single : Text.splitChars '/' s.toList = [s.toList] := Text.splitChars_single (other '/' (by decide))
  refine ⟨fun c hc sign => ?_, unescaped, ?_⟩
  · simp only [List.mem_cons, List.not_mem_nil, or_false] at sign
    rcases sign with rfl | rfl | rfl | rfl | rfl | rfl <;> exact absurd (chars _ hc) (by decide)
  · rw [single, List.forall_mem_singleton]
    exact ⟨fun same => one (String.toList_inj.1 same), fun same => two (String.toList_inj.1 same)⟩

/-- A text that stands for itself does so without the slashes at its end. -/
theorem isVerbatim_trimmed {base : String} (plain : IsVerbatim base.toList) :
    IsVerbatim (Github.withoutTrailingSlashes base).toList := by
  have parts := List.takeWhile_append_dropWhile (p := (· == '/')) (l := base.toList.reverse)
  rw [Github.withoutTrailingSlashes, String.toList_ofList]
  have whole := congrArg List.reverse parts
  rw [List.reverse_append, List.reverse_reverse] at whole
  rw [← whole] at plain
  cases slashes : (base.toList.reverse.takeWhile (· == '/')).reverse with
  | nil =>
    rw [slashes, List.append_nil] at plain
    exact plain
  | cons c rest =>
    have among : c ∈ base.toList.reverse.takeWhile (· == '/') := by
      rw [← List.mem_reverse, slashes]
      exact List.mem_cons_self
    have slash : (c == '/') = true := List.all_eq_true.1 List.all_takeWhile c among
    obtain rfl := eq_of_beq slash
    rw [slashes] at plain
    exact (Url.isVerbatim_append.1 plain).1

theorem addressOf_toList (base : String) (repo : Repository) (path : String) :
    (addressOf base repo path).toList = (Github.withoutTrailingSlashes base).toList ++ '/' :: ("repos".toList ++
      '/' :: (repo.owner.toList ++ '/' :: (repo.name.toList ++ '/' :: ("contents".toList ++
        '/' :: (Github.withoutLeadingSlashes path).toList)))) := by
  simp [addressOf]

/-- **The path of a file is literal exactly if the path that is asked for is.** -/
theorem isLiteral_addressOf {base : String} (plain : IsVerbatim base.toList) {repo : Repository}
    (owner : IsName repo.owner) (name : IsName repo.name) {path : String} :
    IsLiteral (addressOf base repo path).toList ↔ IsLiteral (Github.withoutLeadingSlashes path).toList := by
  have repos : IsVerbatim "repos".toList := isVerbatim_name (by decide)
  have contents : IsVerbatim "contents".toList := isVerbatim_name (by decide)
  rw [addressOf_toList]
  simp only [Url.isLiteral_append, isVerbatim_trimmed plain, repos, isVerbatim_name owner, isVerbatim_name name,
    contents, true_and]

theorem addressOf_rooted {base : String} (rooted : IsRooted base.toList) (repo : Repository) (path : String) :
    ∃ rest, (addressOf base repo path).toList = '/' :: rest := by
  have front : (Github.withoutTrailingSlashes base).toList <+: base.toList := by
    have shorter := List.dropWhile_suffix (· == '/') (l := base.toList.reverse)
    rw [Github.withoutTrailingSlashes, String.toList_ofList, ← List.reverse_suffix, List.reverse_reverse]
    exact shorter
  rw [addressOf_toList]
  cases trimmed : (Github.withoutTrailingSlashes base).toList with
  | nil => exact ⟨_, rfl⟩
  | cons c rest =>
    rw [trimmed] at front
    obtain ⟨more, whole⟩ := front
    have first : c ∈ base.toList.head? := by
      rw [← whole]
      rfl
    exact ⟨_, by rw [rooted c first, List.cons_append]⟩

namespace Interface

variable {g : Github Wire} {origin base : String} {site : Url}

theorem contentsUrl_eq (i : Interface g origin base site) (repo : Repository) (path : String) :
    g.contentsUrl repo path = origin ++ addressOf base repo path := by
  obtain ⟨token, made⟩ := i.made
  rw [Github.create] at made
  split at made
  · cases made
    have trimmed : Github.withoutTrailingSlashes (origin ++ base) = origin ++ Github.withoutTrailingSlashes base := by
      rw [← String.toList_inj, String.toList_append]
      simp only [Github.withoutTrailingSlashes, String.toList_ofList, String.toList_append]
      exact Url.reverse_dropWhile_append i.start.last base.toList
    simp only [Github.contentsUrl, addressOf, trimmed, String.append_assoc]
  · cases made

/-- Headers hold what a header may hold, if the token can be sent in one. -/
theorem headers_sound {token : Option String}
    (fits : token.all (fun t => Http.isHeaderValue (Github.bearer t)) = true) :
    (Github.asking "" token).headers.all (fun h => Http.isHeaderValue h.2) = true := by
  have fixed : Http.isHeaderValue "application/vnd.github.v3+json" = true ∧
      Http.isHeaderValue Github.userAgent = true := by decide
  cases token with
  | none => simp [Github.headers, Github.asking, fixed]
  | some t =>
    have shown : Http.isHeaderValue (Github.bearer t) = true := fits
    simp [Github.headers, Github.asking, fixed, shown]

/-- **The request for a file can be built**, and goes to the address of the file behind the origin. -/
theorem request (i : Interface g origin base site) :
    ∃ apiUrl token root, g = .asking apiUrl token ∧ Url.parse? origin = some root ∧
      ∀ repo path gitRef, Github.fileRequest apiUrl token repo path gitRef =
        .ok { method := .get
              url := withPairs (Url.behind root (addressOf base repo path).toList)
                (gitRef.map fun r => ("ref", r)).toList
              headers := g.headers } := by
  obtain ⟨token, made⟩ := i.made
  have located := i.contentsUrl_eq
  have valid := i.valid
  rw [Url.parse?_append i.start i.rooted] at valid
  obtain ⟨root, parsed, -⟩ := Option.map_eq_some_iff.1 valid
  rw [Github.create] at made
  split at made
  · rename_i shown
    cases made
    refine ⟨_, token, root, rfl, parsed, fun repo path gitRef => ?_⟩
    obtain ⟨rest, slash⟩ := addressOf_rooted i.rooted repo path
    have rooted : IsRooted (addressOf base repo path).toList := by
      rw [slash]
      exact fun c hc => (Option.some.inj hc).symm
    have sound := headers_sound shown
    have web : ((Url.behind root (addressOf base repo path).toList).scheme == "http" ||
        (Url.behind root (addressOf base repo path).toList).scheme == "https") = true := by
      rcases i.start.scheme parsed with http | https
      · simp [Url.behind, http]
      · simp [Url.behind, https]
    have url : (Github.asking (Github.withoutTrailingSlashes (origin ++ base)) token).contentsUrl repo path =
        origin ++ addressOf base repo path := located repo path
    rw [Github.fileRequest, Github.getRequest, url, Http.Request.build, Url.parse?_append i.start rooted, parsed]
    simp only [Option.map_some, web, sound, Bool.and_self, if_true]
    rfl
  · cases made

/-- **The request for a file addresses it exactly if its path is literal.** -/
theorem addresses_iff (i : Interface g origin base site) {root : Url} (parsed : Url.parse? origin = some root)
    {repo : Repository} (owner : IsName repo.owner) (name : IsName repo.name) {path : String} {gitRef : Option String}
    {headers : List (String × String)} :
    Addresses site (addressOf base repo path) gitRef
        { method := .get
          url := withPairs (Url.behind root (addressOf base repo path).toList) (gitRef.map fun r => ("ref", r)).toList
          headers } ↔
      IsLiteral (Github.withoutLeadingSlashes path).toList := by
  rw [← isLiteral_addressOf i.plain owner name]
  have valid := i.valid
  rw [Url.parse?_append i.start i.rooted, parsed] at valid
  obtain rfl := Option.some.inj valid
  obtain ⟨rest, slash⟩ := addressOf_rooted i.rooted repo path
  have read : readPath (Url.behind root (addressOf base repo path).toList).path = encode (addressOf base repo path) ↔
      IsLiteral (addressOf base repo path).toList := by
    rw [Url.behind_path, Text.encode_eq_utf8, slash]
    exact Url.readPath_iff
  constructor
  · intro addresses
    have back := addresses.path
    rw [Http.withPairs_path] at back
    exact read.1 back
  · intro literal
    have bare := literal.behind_query root
    refine ⟨rfl, by simp, by simp, by simp, ?_, ?_, ?_⟩
    · rw [Http.withPairs_path]
      exact read.2 literal
    · rintro rfl
      simp [withPairs, bare]
    · rw [Http.formPairs_withPairs bare]
      cases gitRef <;> rfl

end Interface

end HookFlow.Content
