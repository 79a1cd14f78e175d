import HookFlow.Proofs.Azure.Grants
import HookFlow.Proofs.Azure.Settlement
import HookFlow.Proofs.Azure.Upload
import HookFlow.Proofs.Deployment.Failures
import HookFlow.Proofs.Url.Query
/-!
Deliveries of archives: what an upload sends, in which order, and what it hands out.

An upload asks for the keys of the account, and only if it is told one in base 64 it puts the bytes. Two links are made
with that key, for one blob and one expiry: the put goes to the one that grants writing, and the one that grants reading
alone is handed out, if the put is answered with success. Everything else is a failure of the deployment, so the batch
goes on behind it.

Results:
- `Client.lists_of_keyOf`: an answer from which a key is taken lists it first.
- `Sas.isLink_queryWith`: a storage reads a link as it was made.
- `upload_delivers`: what an upload sends and hands out, and how it fails.
-/

namespace HookFlow.Azure

open Text (Bytes encode encode64 isUnreserved)
open Http (isSuccess withPairs)
open Wire.History (sent times answers answers_eq_cons)

/-! ## Keys -/

namespace Client

/-- an answer that tells success and lists a key first -/
def Lists (key : String) (answer : Except Http.Fault Http.Response) : Prop :=
  ∃ resp v others, answer = .ok resp ∧ isSuccess resp.status = true ∧
    (Json.parse? (Text.decodeMarked resp.body)).bind Json.generic? = some v ∧ keysOfJson? v = some (key :: others)

variable {site : Site} {account what : String} {answer : Except Http.Fault Http.Response} {f : Failure}

theorem valueOf_eq_ok {resp : Http.Response} {v : Json} (told : valueOf what resp = .ok v) :
    isSuccess resp.status = true ∧ (v = .null ∨ (Json.parse? (Text.decodeMarked resp.body)).bind Json.generic? = some v) := by
  simp only [valueOf] at told
  split at told
  · cases told
  next success =>
    refine ⟨by simpa using success, ?_⟩
    split at told
    · cases told
      exact .inl rfl
    · split at told
      next found =>
        cases told
        exact .inr found
      · cases told

/-- **An answer from which a key is taken lists it first.** -/
theorem lists_of_keyOf {key : String} (listed : keyOf account answer = .ok key) : Lists key answer := by
  obtain ⟨v, told, first⟩ := bind_eq_ok.1 listed
  cases answer with
  | error f => cases told
  | ok resp =>
    obtain ⟨success, held⟩ := valueOf_eq_ok told
    unfold firstKey at first
    split at first
    · cases first
    · cases first
    next key' others keys =>
      cases first
      rcases held with rfl | found
      · cases keys
      · exact ⟨resp, v, others, rfl, success, found, keys⟩

/-- Without a key, the deployment has failed. -/
theorem keyOf_failed (refused : keyOf account answer = .error f) : f.category = .deployment := by
  rcases bind_eq_error.1 refused with unanswered | ⟨v, -, unlisted⟩
  · rcases answered_cases "listing storage keys" answer with ⟨v, told, -⟩ | ⟨message, told, -⟩
    · cases told.symm.trans unanswered
    · cases told.symm.trans unanswered
      rfl
  · unfold firstKey at unlisted
    split at unlisted
    · cases unlisted
      rfl
    · cases unlisted
      rfl
    · cases unlisted

/-- a request for the keys of an account -/
structure IsListing (site : Site) (account : String) (q : Http.Request) : Prop where
  post : q.method = .post
  url : ∃ u, Url.parse? ((asking site).keysUrl account) = some u ∧ q.url = withPairs u [("api-version", storageVersion)]

theorem isListing_of_built {q : Http.Request} (built : keysRequest site account = .ok q) : IsListing site account q := by
  obtain ⟨u, parsed, -, -, rfl⟩ := Http.Request.build_eq_ok.1 built
  exact ⟨rfl, u, parsed, rfl⟩

end Client

/-! ## Links -/

namespace Sas

/-- a query that a storage reads as the grant of some permissions on a blob until an instant, signed with a key -/
structure IsLink (key : Bytes) (c : Container) (blob permissions : String) (expiry : Instant) (query : String) : Prop where
  written : query = queryWith key c blob permissions expiry
  read : ∃ g, Grant.read? query = some g ∧ g.permissions = encode permissions ∧ g.expiry = encode expiry.render ∧
    g.Accepted key c blob

variable (key : Bytes) (c : Container) (blob permissions : String) (expiry : Instant)

/-- **A storage reads a link as it was made.** -/
theorem isLink_queryWith (letters : ∀ p ∈ permissions.toList, p.isAlpha = true) :
    IsLink key c blob permissions expiry (queryWith key c blob permissions expiry) :=
  ⟨rfl, _, read_queryWith key c blob permissions expiry letters, rfl, issued_expiry key c blob permissions expiry,
    accepted_issued key c blob permissions expiry⟩

theorem keepsInQuery_of_unreserved {d : Char} (ascii : d.toNat < 128)
    (kept : isUnreserved d = true ∨ d = '%' ∨ d.isAlphanum = true) : Url.keepsInQuery true d = true := by
  have each : ∀ n < 128, (isUnreserved (Char.ofNat n) = true ∨ Char.ofNat n = '%' ∨ (Char.ofNat n).isAlphanum = true) →
      Url.keepsInQuery true (Char.ofNat n) = true := by decide
  exact Text.forall_ascii (P := fun d => (isUnreserved d = true ∨ d = '%' ∨ d.isAlphanum = true) →
    Url.keepsInQuery true d = true) each ascii kept

theorem isQuery_escaped (s : String) : Url.IsQuery (escaped s).toList := by
  intro d hd
  rw [escaped_toList] at hd
  obtain ⟨ascii, kept⟩ := Text.mem_percentEncode hd
  exact ⟨ascii, keepsInQuery_of_unreserved ascii kept⟩

theorem queryWith_toList : (queryWith key c blob permissions expiry).toList = "sv=2019-12-12&spr=https&se=".toList ++
    ((escaped expiry.render).toList ++ ("&sr=b&sp=".toList ++ (permissions.toList ++ ("&sig=".toList ++
      (escaped (signature key (signedText c blob permissions expiry.render))).toList)))) := by
  simp [queryWith, version, protocol, resourceKind]

theorem queryWith_ne_empty : queryWith key c blob permissions expiry ≠ "" := by
  intro empty
  have chars := queryWith_toList key c blob permissions expiry
  rw [empty] at chars
  cases chars

/-- Nothing in a link is escaped. -/
theorem isQuery_queryWith (letters : ∀ p ∈ permissions.toList, p.isAlpha = true) :
    Url.IsQuery (queryWith key c blob permissions expiry).toList := by
  have plain : Url.IsQuery permissions.toList := by
    intro p hp
    obtain ⟨ascii, unreserved⟩ := unreserved_of_isAlpha (letters p hp)
    exact ⟨ascii, keepsInQuery_of_unreserved ascii (.inl unreserved)⟩
  rw [queryWith_toList]
  simp only [Url.IsQuery, List.forall_mem_append]
  exact ⟨Url.isQuery_of_all (by decide), isQuery_escaped _, Url.isQuery_of_all (by decide), plain,
    Url.isQuery_of_all (by decide), isQuery_escaped _⟩

end Sas

/-! ## Uploads -/

namespace BlobStore

/-- a request that puts bytes at an address through a link -/
structure IsPut (url link : String) (bytes : Bytes) (contentType : String) (q : Http.Request) : Prop where
  put : q.method = .put
  body : q.body = bytes
  kind : ("content-type", contentType) ∈ q.headers
  address : ∃ u, Url.parse? (url ++ "?" ++ link) = some u ∧ q.url = withPairs u []
  /-- behind an address without a query or a fragment of its own, the host is shown the link as it is -/
  query : (∀ c ∈ url.toList, c ∉ ['?', '#']) → q.url.query = some link

theorem withPairs_nil {u : Url} {query : String} (asked : u.query = some query) (some' : query ≠ "") :
    (withPairs u []).query = some query := by
  simp [withPairs, asked, some']

variable {url contentType link : String} {bytes : Bytes} {q : Http.Request}

theorem isPut_of_built (asked : Url.IsQuery link.toList) (some' : link ≠ "")
    (built : putRequest (url ++ "?" ++ link) bytes contentType = .ok q) : IsPut url link bytes contentType q := by
  obtain ⟨u, parsed, web, -, rfl⟩ := Http.Request.build_eq_ok.1 built
  refine ⟨rfl, rfl, by simp, ⟨u, parsed, rfl⟩, fun plain => ?_⟩
  exact withPairs_nil (Url.query_of_parse? plain asked parsed web) some'

theorem storedOf_cases (stored : Http.Response) :
    (isSuccess stored.status = true ∧ storedOf stored = .ok ()) ∨
      isSuccess stored.status = false ∧ ∃ message, storedOf stored = .error (.deployment message) := by
  unfold storedOf
  cases isSuccess stored.status with
  | true => exact .inl ⟨rfl, rfl⟩
  | false => exact .inr ⟨rfl, _, rfl⟩

theorem linkAnswered_eq_ok {answer : Except Http.Fault Http.Response} {handed : String} :
    linkAnswered link answer = .ok handed ↔
      handed = link ∧ ∃ stored, answer = .ok stored ∧ isSuccess stored.status = true := by
  rw [linkAnswered, map_eq_ok]
  constructor
  · rintro ⟨⟨⟩, put, rfl⟩
    cases answer with
    | error f => cases put
    | ok stored =>
      rcases storedOf_cases stored with ⟨success, -⟩ | ⟨-, message, refused⟩
      · exact ⟨rfl, stored, rfl, success⟩
      · cases refused.symm.trans put
  · rintro ⟨rfl, stored, rfl, success⟩
    exact ⟨(), if_pos success, rfl⟩

theorem linkAnswered_failed {answer : Except Http.Fault Http.Response} {f : Failure}
    (refused : linkAnswered link answer = .error f) : f.category = .deployment := by
  rw [linkAnswered, map_eq_error] at refused
  cases answer with
  | error fault =>
    cases refused
    rfl
  | ok stored =>
    rcases storedOf_cases stored with ⟨-, put⟩ | ⟨-, message, refused'⟩
    · cases put.symm.trans refused
    · cases refused'.symm.trans refused
      rfl

variable {site : Client.Site} {lifetime : Int} {endpoint blob : String} {c : Container} {h h' : Wire.History}
variable {answer : Except Http.Fault Http.Response}

/-- What the question for the keys leaves in a history. -/
theorem sent_of_listing (asked : (Wire.transport.carry (Client.keysRequest site c.account)).Runs h answer) :
    (h.sent = [] ∧ ∃ f, answer = .error f) ∨ ∃ q, h.sent = [(q, answer)] ∧ Client.IsListing site c.account q := by
  rcases (sent_of_carry asked).2 with ⟨f, -, none, rfl⟩ | ⟨q, built, one⟩
  · exact .inl ⟨none, f, rfl⟩
  · exact .inr ⟨q, one, Client.isListing_of_built built⟩

/-- what an upload does behind the question for the keys, which was told `answer`: nothing, or a put through one link,
whose answer decides whether another is handed out -/
inductive Delivers (url : String) (lifetime : Int) (c : Container) (blob : String) (bytes : Bytes) (contentType : String)
    (told : List Instant) (answer : Except Http.Fault Http.Response) :
    List (Http.Request × Except Http.Fault Http.Response) → Except UploadFault String → Prop where
  | nothing {r : Except UploadFault String} (none : ∀ link, r ≠ .ok link) :
      Delivers url lifetime c blob bytes contentType told answer [] r
  | put {key write read : String} {k : Bytes} {t expiry : Instant} {q : Http.Request}
      {answer' : Except Http.Fault Http.Response} {r : Except UploadFault String}
      (listed : Client.Lists key answer) (base64 : key.toList = encode64 k)
      (now : t ∈ told) (ahead : expiry? t lifetime = some expiry)
      (writes : Sas.IsLink k c blob "cw" expiry write) (reads : Sas.IsLink k c blob "r" expiry read)
      (put : IsPut url write bytes contentType q)
      (handed : ∀ link, r = .ok link ↔
        link = url ++ "?" ++ read ∧ ∃ stored, answer' = .ok stored ∧ isSuccess stored.status = true) :
      Delivers url lifetime c blob bytes contentType told answer [(q, answer')] r

variable {r : Except UploadFault String}

theorem not_handed {f : UploadFault} (link : String) : (.error f : Except UploadFault String) ≠ .ok link := nofun

/-- **The keys are asked for first**, and a put comes only behind a key. -/
theorem Uploads.delivers (u : Uploads site lifetime endpoint c blob bytes contentType h r) :
    (h.sent = [] ∧ ∀ link, r ≠ .ok link) ∨ ∃ q answer rest, h.sent = (q, answer) :: rest ∧
      Client.IsListing site c.account q ∧
      Delivers ((asking site lifetime endpoint).blobUrl c blob) lifetime c blob bytes contentType h.times answer rest r := by
  -- without a put nothing is sent behind the question
  have lone {h₁ : Wire.History} (h₂ : Wire.History) {answer : Except Http.Fault Http.Response}
      (asked : (Wire.transport.carry (Client.keysRequest site c.account)).Runs h₁ answer) (quiet : h₂.sent = [])
      (none : ∀ link, r ≠ .ok link) :
      ((h₁ ++ h₂).sent = [] ∧ ∀ link, r ≠ .ok link) ∨ ∃ q answer rest, (h₁ ++ h₂).sent = (q, answer) :: rest ∧
        Client.IsListing site c.account q ∧ Delivers ((asking site lifetime endpoint).blobUrl c blob) lifetime c blob
          bytes contentType (h₁ ++ h₂).times answer rest r := by
    rw [Wire.History.sent_append, quiet, List.append_nil]
    rcases sent_of_listing asked with ⟨unsent, -⟩ | ⟨q, one, listing⟩
    · exact .inl ⟨unsent, none⟩
    · exact .inr ⟨q, answer, [], one, listing, .nothing none⟩
  cases u with
  | @unlisted h₁ _ f asked refused =>
    have same := lone [] asked rfl not_handed
    rwa [List.append_nil] at same
  | endless asked listed beyond => exact lone _ asked rfl not_handed
  | unsigned asked listed ahead malformed => exact lone _ asked rfl not_handed
  | @put h₁ h₂ answer answer' key t expiry k asked listed ahead decoded stored =>
    have told : t ∈ Wire.History.times
        (h₁ ++ ⟨.now, t⟩ :: ⟨.log (putEvent ((asking site lifetime endpoint).blobUrl c blob)), ()⟩ :: h₂) := by
      simp [Wire.History.times]
    have behind : Wire.History.sent (h₁ ++ ⟨.now, t⟩ :: ⟨.log (putEvent ((asking site lifetime endpoint).blobUrl c blob)),
        ()⟩ :: h₂) = h₁.sent ++ h₂.sent := Wire.History.sent_append _ _
    rcases sent_of_listing asked with ⟨-, f, rfl⟩ | ⟨q, one, listing⟩
    · cases listed
    refine .inr ⟨q, answer, h₂.sent, by rw [behind, one, List.singleton_append], listing, ?_⟩
    have writes := Sas.isLink_queryWith k c blob "cw" expiry (by simp)
    have reads := Sas.isLink_queryWith k c blob "r" expiry (by simp)
    rcases (sent_of_carry stored).2 with ⟨f, -, unsent, rfl⟩ | ⟨q', built, sent⟩
    · rw [unsent]
      exact .nothing not_handed
    · rw [sent]
      refine .put (Client.lists_of_keyOf listed) (Text.decode64?_eq_some.1 decoded) told ahead writes reads
        (isPut_of_built (Sas.isQuery_queryWith k c blob "cw" expiry (by simp))
          (Sas.queryWith_ne_empty k c blob "cw" expiry) built) fun link => ?_
      rw [mapError_eq_ok, linkAnswered_eq_ok]

/-- **Every failure of an upload is one of the deployment.** -/
theorem Uploads.failed (u : Uploads site lifetime endpoint c blob bytes contentType h r)
    (within : ∀ t ∈ h.times, expiry? t lifetime ≠ none) {e : UploadFault} (failed : r = .error e) :
    ∃ f, e = .failure f ∧ f.category = .deployment := by
  have expressed := u.expressed within
  cases u with
  | unlisted asked refused =>
    cases failed
    exact ⟨_, rfl, Client.keyOf_failed refused⟩
  | endless asked listed beyond => exact absurd rfl expressed
  | unsigned asked listed ahead malformed =>
    cases failed
    exact ⟨_, rfl, rfl⟩
  | put asked listed ahead decoded stored =>
    obtain ⟨f, refused, rfl⟩ := mapError_eq_error.1 failed
    exact ⟨f, rfl, linkAnswered_failed refused⟩

end BlobStore

/-- **What an upload sends and hands out, and how it fails.** Let the clock be able to express the expiry. If anything is
sent, the first request asks for the keys of the account. A second one is sent only if the answer tells success and
lists a key in base 64 first; it puts the bytes through a link that grants creating and writing. What is handed out is
the same address with a link that grants reading alone, until the same instant and signed with the same key, and it is
handed out exactly if the put was answered with success. Every failure is one of the deployment, so a batch that is
told it by a store reports it for that flow and goes on. -/
theorem upload_delivers (site : Client.Site) (lifetime : Int) (endpoint : String) (c : Container) (blob : String)
    (bytes : Bytes) (contentType : String) {h : Wire.History} {r : Except UploadFault String}
    (run : ((BlobStore.asking site lifetime endpoint).upload c blob bytes contentType).Runs h r)
    (within : ∀ t ∈ h.times, expiry? t lifetime ≠ none) :
    (∀ q answer rest, h.sent = (q, answer) :: rest → Client.IsListing site c.account q ∧
      BlobStore.Delivers ((BlobStore.asking site lifetime endpoint).blobUrl c blob) lifetime c blob bytes contentType
        h.times answer rest r) ∧
    ((∃ link, r = .ok link) ↔
      ∃ q answer q' stored, h.sent = [(q, answer), (q', .ok stored)] ∧ isSuccess stored.status = true) ∧
    ∀ e, r = .error e → ∃ f, e = .failure f ∧ f.category = .deployment ∧
      ∀ converter container flows h' r' c' blob' archive contentType',
        ((Batch.asking converter container).deployAll flows).Runs h' r' →
        ⟨.store c' blob' archive contentType', .answered (.error f)⟩ ∈ h' →
        GoesOn converter container [] flows h' r' f := by
  have uploads := BlobStore.runs_upload run
  refine ⟨fun q answer rest sent => ?_, ⟨?_, ?_⟩, fun e failed => ?_⟩
  · rcases uploads.delivers with ⟨unsent, -⟩ | ⟨q', answer', rest', sent', listing, delivers⟩
    · cases unsent.symm.trans sent
    · cases sent'.symm.trans sent
      exact ⟨listing, delivers⟩
  · rintro ⟨link, rfl⟩
    rcases uploads.delivers with ⟨-, none⟩ | ⟨q, answer, rest, sent, listing, delivers⟩
    · exact absurd rfl (none link)
    · cases delivers with
      | nothing none => exact absurd rfl (none link)
      | put listed base64 now ahead writes reads put handed =>
        obtain ⟨-, stored, rfl, success⟩ := (handed link).1 rfl
        exact ⟨q, answer, _, stored, sent, success⟩
  · rintro ⟨q, answer, q', stored, sent, success⟩
    rcases uploads.delivers with ⟨unsent, -⟩ | ⟨q₁, answer₁, rest, sent', listing, delivers⟩
    · cases unsent.symm.trans sent
    · cases sent'.symm.trans sent
      cases delivers with
      | put listed base64 now ahead writes reads put handed =>
        exact ⟨_, (handed _).2 ⟨rfl, stored, rfl, success⟩⟩
  · obtain ⟨f, rfl, own⟩ := uploads.failed within failed
    exact ⟨f, rfl, own, fun _ _ _ _ _ _ _ _ _ batch met => deployAll_goesOn batch own met⟩

/-- A blob that is put in a storage is handed out for reading. -/
theorem upload_delivers_served :
    (∀ t ∈ times ((served 86400).replies servingAnswer), expiry? t 86400 ≠ none) ∧
      ∃ q q' k expiry read, sent ((served 86400).replies servingAnswer) = [(q, .ok listing), (q', .ok ⟨201, []⟩)] ∧
        q.method = .post ∧ q'.method = .put ∧ q'.body = [1] ∧ Sas.IsLink k ⟨"acc", "c"⟩ "z" "r" expiry read ∧
        (served 86400).reply servingAnswer = .ok ("https://b.test/c/z" ++ "?" ++ read) := by
  have within : ∀ t ∈ times ((served 86400).replies servingAnswer), expiry? t 86400 ≠ none := by
    intro t told
    rw [times_served _ t told]
    decide
  obtain ⟨first, -, -⟩ := upload_delivers servingSite 86400 "https://b.test" ⟨"acc", "c"⟩ "z" [1] "application/zip"
    (Dialogue.runs_reply servingAnswer (served 86400)) within
  have told : answers ((served 86400).replies servingAnswer) = [some listing, some ⟨201, []⟩] := by decide +kernel
  obtain ⟨q, rest, sent, later⟩ := answers_eq_cons told
  obtain ⟨listing, delivers⟩ := first q _ rest sent
  have address : (BlobStore.asking servingSite 86400 "https://b.test").blobUrl ⟨"acc", "c"⟩ "z" = "https://b.test/c/z" := by
    decide +kernel
  rw [address] at delivers
  cases delivers with
  | nothing => cases later
  | put listed base64 now ahead writes reads put handed =>
    obtain rfl := eq_ok_of_toOption (List.cons.inj later).1
    exact ⟨within, q, _, _, _, _, sent, listing.post, put.put, put.body, reads, (handed _).2 ⟨rfl, _, rfl, rfl⟩⟩

end HookFlow.Azure
