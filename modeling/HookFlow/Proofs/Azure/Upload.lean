import HookFlow.Proofs.Azure.Surroundings
import HookFlow.Proofs.Config
import HookFlow.Proofs.Except
/-!
Uploads: what one of them asks, and when the links that it makes expire.

The expiry of a link is the time of the upload and the hours that are configured. Three limits apply, none of which is
checked: hours that are too many for a signed word are taken for negative ones, a lifetime may not fit into a word of
milliseconds, and the expiry may lie beyond the years of the clock. The last of them is met first.

Results:
- `runs_upload`: the ways in which an upload ends.
- `expiry?_exact_iff`: links expire at the hour that is asked for exactly if a clock can express it.
- `upload_expires`: what then is sent and handed out.
- `upload_expires_wrapped`: hours that are accepted and go wrong.
-/

namespace HookFlow.Azure

open Text (Bytes decode64?)
open Wire.History (sent times)

namespace BlobStore

variable {site : Client.Site} {lifetime : Int} {endpoint : String} {h : Wire.History}

/-- what the answer to a put says -/
def putAnswered : Except Http.Fault Http.Response → Except Failure Unit
  | .error f => .error (.deployment s!"uploading zip: {f.message}")
  | .ok r => storedOf r

/-- the request that puts bytes at an address -/
def putRequest (url : String) (bytes : Bytes) (contentType : String) :
    Except Http.Fault Http.Request :=
  Http.Request.build .put url []
    [("x-ms-blob-type", "BlockBlob"), ("x-ms-version", Sas.version), ("content-type", contentType), ("accept", "*/*")]
    bytes

theorem put_eq (url : String) (bytes : Bytes) (contentType : String) :
    (asking site lifetime endpoint).put url bytes contentType =
      putAnswered <$> Wire.transport.carry (putRequest url bytes contentType) := by
  refine congrArg (Wire.transport.carry (putRequest url bytes contentType) >>= ·) (funext fun answer => ?_)
  cases answer <;> rfl

/-- what is reported before a blob is put at an address -/
def putEvent (url : String) : Log.Event :=
  { level := .debug, origin := .azure, message := "uploading blob", fields := [("blob_url", .bare url)] }

/-- what an upload comes to when the put is answered -/
def linkAnswered (link : String) (answer : Except Http.Fault Http.Response) : Except Failure String :=
  (putAnswered answer).map fun _ => link

/-- a key that is not written in base 64 -/
def malformedKey : Failure := .deployment "storage key is not base64: malformed text"

theorem runs_uploadWith {c : Container} {blob : String} {bytes : Bytes} {contentType key : String} {expiry : Instant}
    {r : Except Failure String}
    (run : ((asking site lifetime endpoint).uploadWith c blob bytes contentType key expiry).Runs h r) :
    (decode64? key.toList = none ∧ h = [] ∧ r = .error malformedKey) ∨
      ∃ k h' answer, decode64? key.toList = some k ∧
        (Wire.transport.carry (putRequest ((asking site lifetime endpoint).blobUrl c blob ++ "?" ++
          Sas.queryWith k c blob "cw" expiry) bytes contentType)).Runs h' answer ∧
        h = ⟨.log (putEvent ((asking site lifetime endpoint).blobUrl c blob)), ()⟩ :: h' ∧
        r = linkAnswered ((asking site lifetime endpoint).blobUrl c blob ++ "?" ++
          Sas.queryWith k c blob "r" expiry) answer := by
  rw [uploadWith, Sas.query, Sas.query] at run
  cases decoded : decode64? key.toList with
  | none =>
    rw [decoded] at run
    obtain ⟨rfl, rfl⟩ := run
    exact .inl ⟨rfl, rfl, rfl⟩
  | some k =>
    rw [decoded] at run
    obtain ⟨u, h₁, h₂, rfl, noted, later⟩ := Dialogue.runs_bind.1 run
    rw [Client.runs_note.1 noted]
    obtain ⟨stored, h₃, h₄, rfl, put, last⟩ := Dialogue.runs_bind.1 later
    rw [put_eq, Dialogue.runs_map] at put
    obtain ⟨answer, carried, rfl⟩ := put
    refine .inr ⟨k, h₃, answer, rfl, carried, ?_⟩
    rw [linkAnswered]
    cases said : putAnswered answer with
    | error f =>
      rw [said] at last
      obtain ⟨rfl, rfl⟩ := last
      exact ⟨by simp [putEvent], rfl⟩
    | ok u =>
      rw [said] at last
      obtain ⟨rfl, rfl⟩ := last
      exact ⟨by simp [putEvent], rfl⟩

/-- **The ways in which an upload ends**: no key is had, the expiry cannot be expressed, the key is not one, or the
bytes are put, and then the answer decides. -/
inductive Uploads (site : Client.Site) (lifetime : Int) (endpoint : String) (c : Container) (blob : String)
    (bytes : Bytes) (contentType : String) : Wire.History → Except UploadFault String → Prop
  | unlisted {h : Wire.History} {answer : Except Http.Fault Http.Response} {f : Failure}
      (asked : (Wire.transport.carry (Client.keysRequest site c.account)).Runs h answer)
      (refused : Client.keyOf c.account answer = .error f) :
      Uploads site lifetime endpoint c blob bytes contentType h (.error (.failure f))
  | endless {h : Wire.History} {answer : Except Http.Fault Http.Response} {key : String} {t : Instant}
      (asked : (Wire.transport.carry (Client.keysRequest site c.account)).Runs h answer)
      (listed : Client.keyOf c.account answer = .ok key) (beyond : expiry? t lifetime = none) :
      Uploads site lifetime endpoint c blob bytes contentType (h ++ [⟨.now, t⟩]) (.error .overflow)
  | unsigned {h : Wire.History} {answer : Except Http.Fault Http.Response} {key : String} {t expiry : Instant}
      (asked : (Wire.transport.carry (Client.keysRequest site c.account)).Runs h answer)
      (listed : Client.keyOf c.account answer = .ok key) (within : expiry? t lifetime = some expiry)
      (malformed : decode64? key.toList = none) :
      Uploads site lifetime endpoint c blob bytes contentType (h ++ [⟨.now, t⟩])
        (.error (.failure malformedKey))
  | put {h h' : Wire.History} {answer answer' : Except Http.Fault Http.Response} {key : String} {t expiry : Instant}
      {k : Bytes} (asked : (Wire.transport.carry (Client.keysRequest site c.account)).Runs h answer)
      (listed : Client.keyOf c.account answer = .ok key) (within : expiry? t lifetime = some expiry)
      (decoded : decode64? key.toList = some k)
      (stored : (Wire.transport.carry (putRequest ((asking site lifetime endpoint).blobUrl c blob ++ "?" ++
        Sas.queryWith k c blob "cw" expiry) bytes contentType)).Runs h' answer') :
      Uploads site lifetime endpoint c blob bytes contentType
        (h ++ ⟨.now, t⟩ :: ⟨.log (putEvent ((asking site lifetime endpoint).blobUrl c blob)), ()⟩ :: h')
        ((linkAnswered ((asking site lifetime endpoint).blobUrl c blob ++ "?" ++ Sas.queryWith k c blob "r" expiry)
          answer').mapError .failure)

theorem runs_upload {c : Container} {blob : String} {bytes : Bytes} {contentType : String}
    {r : Except UploadFault String}
    (run : ((asking site lifetime endpoint).upload c blob bytes contentType).Runs h r) :
    Uploads site lifetime endpoint c blob bytes contentType h r := by
  rw [upload, Dialogue.runs_bind] at run
  obtain ⟨listing, h₁, h₂, rfl, first, later⟩ := run
  obtain ⟨answer, asked, listed⟩ := Client.runs_storageKey.1 first
  cases listing with
  | error f =>
    obtain ⟨rfl, rfl⟩ := later
    rw [List.append_nil]
    exact .unlisted asked listed
  | ok key =>
    obtain ⟨t, h₃, h₄, rfl, told, last⟩ := Dialogue.runs_bind.1 later
    rw [runs_inquiry.1 told]
    cases within : expiry? t lifetime with
    | none =>
      simp only [asking, within, Dialogue.runs_pure] at last
      obtain ⟨rfl, rfl⟩ := last
      exact .endless asked listed within
    | some expiry =>
      simp only [asking, within] at last
      obtain ⟨outcome, h₅, h₆, rfl, put, rfl, rfl⟩ := Dialogue.runs_bind.1 last
      rcases runs_uploadWith put with ⟨malformed, rfl, rfl⟩ | ⟨k, h', answer', decoded, stored, rfl, rfl⟩
      · exact .unsigned asked listed within malformed
      · rw [List.append_nil]
        exact .put asked listed within decoded stored

variable {c : Container} {blob : String} {bytes : Bytes} {contentType : String} {r : Except UploadFault String}

/-- An upload does not stop the program at a time from which a lifetime can be expressed. -/
theorem Uploads.expressed (u : Uploads site lifetime endpoint c blob bytes contentType h r)
    (within : ∀ t ∈ h.times, expiry? t lifetime ≠ none) : r ≠ .error .overflow := by
  cases u with
  | unlisted asked refused => nofun
  | @endless _ _ _ t asked listed beyond => exact absurd beyond (within t (by simp [Wire.History.times]))
  | unsigned asked listed expressed malformed => nofun
  | @put _ _ _ answer' key t expiry k asked listed expressed decoded stored =>
    cases linkAnswered ((asking site lifetime endpoint).blobUrl c blob ++ "?" ++ Sas.queryWith k c blob "r" expiry)
      answer' with
    | error f => nofun
    | ok link => nofun

/-- No more than one request is sent before the put. -/
theorem sent_of_keys {answer : Except Http.Fault Http.Response}
    (asked : (Wire.transport.carry (Client.keysRequest site c.account)).Runs h answer) : h.sent.length ≤ 1 := by
  rcases (sent_of_carry asked).2 with ⟨f, -, same, -⟩ | ⟨q, -, same⟩
  · rw [same]
    exact Nat.zero_le 1
  · rw [same]
    exact Nat.le_refl 1

/-- **An upload with two answers that tell success makes two links that expire together.** -/
theorem Uploads.stored (u : Uploads site lifetime endpoint c blob bytes contentType h r)
    {q q' : Http.Request} {listed stored : Http.Response} {key : String} {k : Bytes}
    (sent : h.sent = [(q, .ok listed), (q', .ok stored)]) (granted : Client.keyOf c.account (.ok listed) = .ok key)
    (decoded : decode64? key.toList = some k) (success : Http.isSuccess stored.status = true) :
    ∃ t ∈ h.times, ∃ expiry, expiry? t lifetime = some expiry ∧
      putRequest ((asking site lifetime endpoint).blobUrl c blob ++ "?" ++ Sas.queryWith k c blob "cw" expiry) bytes
        contentType = .ok q' ∧
      r = .ok ((asking site lifetime endpoint).blobUrl c blob ++ "?" ++ Sas.queryWith k c blob "r" expiry) := by
  -- without a put there is no second request
  have lone {h₁ : Wire.History} (h₂ : Wire.History) {answer : Except Http.Fault Http.Response}
      (asked : (Wire.transport.carry (Client.keysRequest site c.account)).Runs h₁ answer) (none : h₂.sent = [])
      (whole : (h₁ ++ h₂).sent = [(q, .ok listed), (q', .ok stored)]) : False := by
    have few := sent_of_keys asked
    rw [Wire.History.sent_append, none, List.append_nil] at whole
    rw [whole] at few
    exact absurd few (Nat.not_succ_le_self 1)
  cases u with
  | unlisted asked refused => exact (lone [] asked rfl (by rwa [List.append_nil])).elim
  | endless asked listed' beyond => exact (lone _ asked rfl sent).elim
  | unsigned asked listed' expressed malformed => exact (lone _ asked rfl sent).elim
  | @put h₁ h' answer answer' key' t expiry k' asked listed' expressed decoded' put =>
    have behind : (h₁ ++ ⟨.now, t⟩ :: ⟨.log (putEvent ((asking site lifetime endpoint).blobUrl c blob)), ()⟩ ::
        h' : Wire.History).sent = h₁.sent ++ h'.sent := Wire.History.sent_append _ _
    rw [behind] at sent
    obtain ⟨-, ⟨f, -, -, rfl⟩ | ⟨q₁, -, first⟩⟩ := sent_of_carry asked
    · cases listed'
    obtain ⟨-, ⟨f, -, second, -⟩ | ⟨q₂, built, second⟩⟩ := sent_of_carry put
    · rw [first, second] at sent
      cases sent
    · rw [first, second] at sent
      cases sent
      rw [listed', Except.ok.injEq] at granted
      subst granted
      rw [decoded', Option.some_inj] at decoded
      subst decoded
      refine ⟨t, by simp [Wire.History.times], expiry, expressed, built, ?_⟩
      rw [linkAnswered, putAnswered, storedOf, if_pos success]
      rfl

end BlobStore

/-! ## Lifetimes -/

theorem toInt_toInt64 (hours : UInt64) : hours.toInt64.toInt = (hours.toNat : Int).bmod 18446744073709551616 := by
  rw [UInt64.toInt64, Int64.toInt, Int64.toBitVec, BitVec.toInt_eq_toNat_bmod]
  rfl

/-- A number of hours that is not too large is not mistaken for a negative one. -/
theorem lifetime?_eq {hours : UInt64} (short : hours.toNat ≤ 2562047788015) :
    lifetime? hours = some (3600 * (hours.toNat : Int)) := by
  have signed : hours.toInt64.toInt = hours.toNat := by
    rw [toInt_toInt64, Int.bmod_eq_of_le] <;> omega
  rw [lifetime?]
  simp only [signed]
  rw [if_pos (by omega), Int.mul_comm]

theorem isExpressible_iff {t : Instant} :
    t.isExpressible = true ↔ -8334601228800 ≤ t.seconds ∧ t.seconds ≤ 8210266876799 := by
  rw [Instant.isExpressible, Bool.and_eq_true, decide_eq_true_iff, decide_eq_true_iff]
  rfl

/-- **Links expire at the hour that is asked for exactly if a clock can express it.** -/
theorem expiry?_exact_iff {hours : UInt64} {t : Instant} (present : t.isExpressible = true) :
    (∃ lifetime, lifetime? hours = some lifetime ∧ expiry? t lifetime = some (t.add (3600 * hours.toNat))) ↔
      (t.add (3600 * hours.toNat)).isExpressible = true := by
  constructor
  · rintro ⟨lifetime, -, within⟩
    obtain ⟨same, expressible⟩ := Option.filter_eq_some_iff.1 within
    exact expressible
  · intro expressible
    have short : hours.toNat ≤ 2562047788015 := by
      have low := (isExpressible_iff.1 present).1
      have high : t.seconds + 3600 * hours.toNat ≤ 8210266876799 := (isExpressible_iff.1 expressible).2
      omega
    refine ⟨_, lifetime?_eq short, ?_⟩
    rw [expiry?, Option.filter_eq_some_iff]
    exact ⟨rfl, expressible⟩

/-! ## Whole uploads -/

/-- **An upload whose expiry a clock can express makes links that expire then.** Take a configuration that is accepted
and a time, and let the clock be able to express the time as many hours ahead as the configuration says, which is later.
Then the lifetime of links is had, and no upload at that time stops the program. If both answers of the storage tell
success, the first with a key, the put goes to a link that grants writing, and the result is a link that grants
reading; both expire exactly then. -/
theorem upload_expires {config : Config} (valid : config.validate = .ok ()) {t : Instant}
    (present : t.isExpressible = true)
    (expressible : (t.add (3600 * config.azure.sasExpiryHours.toNat)).isExpressible = true) :
    t.seconds < (t.add (3600 * config.azure.sasExpiryHours.toNat)).seconds ∧
    ∃ lifetime, lifetime? config.azure.sasExpiryHours = some lifetime ∧
      ∀ (site : Client.Site) (endpoint : String) (c : Container) (blob : String) (bytes : Bytes)
        (contentType : String) (h : Wire.History) (r : Except UploadFault String),
        ((BlobStore.asking site lifetime endpoint).upload c blob bytes contentType).Runs h r →
        (∀ t' ∈ h.times, t' = t) →
        r ≠ .error .overflow ∧
        ∀ q listed q' stored key k, h.sent = [(q, .ok listed), (q', .ok stored)] →
          Client.keyOf c.account (.ok listed) = .ok key → decode64? key.toList = some k →
          Http.isSuccess stored.status = true →
          let url := (BlobStore.asking site lifetime endpoint).blobUrl c blob
          let expiry := t.add (3600 * config.azure.sasExpiryHours.toNat)
          BlobStore.putRequest (url ++ "?" ++ Sas.queryWith k c blob "cw" expiry) bytes contentType = .ok q' ∧
            r = .ok (url ++ "?" ++ Sas.queryWith k c blob "r" expiry) := by
  obtain ⟨-, -, -, -, some', -⟩ := Config.validate_eq_ok.1 valid
  have later : 0 < config.azure.sasExpiryHours.toNat := by
    refine Nat.pos_of_ne_zero fun none => some' ?_
    rw [← UInt64.toNat_inj, none]
    rfl
  obtain ⟨lifetime, expressed, within⟩ := (expiry?_exact_iff present).2 expressible
  refine ⟨?_, lifetime, expressed, ?_⟩
  · simp only [Instant.add]
    omega
  intro site endpoint c blob bytes contentType h r run clock
  have uploads := BlobStore.runs_upload run
  refine ⟨uploads.expressed fun t' told => ?_, fun q listed q' stored key k sent granted decoded success => ?_⟩
  · rw [clock t' told, within]
    nofun
  · obtain ⟨t', told, expiry, expressed', put, link⟩ := uploads.stored sent granted decoded success
    rw [clock t' told, within, Option.some_inj] at expressed'
    subst expressed'
    exact ⟨put, link⟩

/-! A storage that answers with a key and takes what is put, on the first day of 1970. -/

def listing : Http.Response := ⟨200, Text.encode "\x7b\"keys\":[\x7b\"value\":\"AQID\"\x7d]\x7d"⟩

/-- the answers of that storage -/
def servingAnswer : (q : Inquiry) → q.Answer
  | .cancelled => false
  | .log _ => ()
  | .now => ⟨0⟩
  | .pause => ()
  | .send r => .ok (if r.method = .post then listing else ⟨201, []⟩)

def servingSite : Client.Site := ⟨"https://m.test", "sub", "rg", "t"⟩

/-- a configuration with a lifetime of links -/
def lasting (hours : UInt64) : Config where
  codegen := { webhookSecret := "s3cret" }
  azure := { sasExpiryHours := hours }

/-- a blob that is put in the storage -/
def served (lifetime : Int) : Wire (Except UploadFault String) :=
  (BlobStore.asking servingSite lifetime "https://b.test").upload ⟨"acc", "c"⟩ "z" [1] "application/zip"

theorem times_served {α : Type} (x : Wire α) : ∀ t ∈ Wire.History.times (x.replies servingAnswer), t = ⟨0⟩ := by
  intro t told
  obtain ⟨⟨q, a⟩, among, same⟩ := List.mem_filterMap.1 told
  have answer := Dialogue.answer_of_mem_replies among
  cases q with
  | now => exact (Option.some.inj same).symm.trans answer
  | _ => cases same

/-- The links of a day expire when it is over. -/
theorem upload_expires_daily :
    (lasting 24).validate = .ok () ∧ (⟨0⟩ : Instant).isExpressible = true ∧
      ((⟨0⟩ : Instant).add (3600 * (lasting 24).azure.sasExpiryHours.toNat)).isExpressible = true ∧
      (served 86400).reply servingAnswer =
        .ok ("https://b.test/c/z?" ++ Sas.queryWith [1, 2, 3] ⟨"acc", "c"⟩ "z" "r" ⟨86400⟩) := by
  have valid : (lasting 24).validate = .ok () := Config.validate_eq_ok.2 (by decide +kernel)
  have present : (⟨0⟩ : Instant).isExpressible = true := by decide
  have expressible : ((⟨0⟩ : Instant).add (3600 * (lasting 24).azure.sasExpiryHours.toNat)).isExpressible = true := by
    decide
  refine ⟨valid, present, expressible, ?_⟩
  obtain ⟨-, lifetime, expressed, each⟩ := upload_expires valid present expressible
  have day : lifetime? (lasting 24).azure.sasExpiryHours = some 86400 := by decide
  rw [day, Option.some_inj] at expressed
  subst expressed
  have answers : (sent ((served 86400).replies servingAnswer)).map (fun e => e.2.toOption) =
      [some listing, some ⟨201, []⟩] := by decide +kernel
  have granted : Client.keyOf "acc" (.ok listing) = .ok "AQID" := eq_ok_of_toOption (by decide +kernel)
  obtain ⟨-, links⟩ := each servingSite "https://b.test" ⟨"acc", "c"⟩ "z" [1] "application/zip" _ _
    (Dialogue.runs_reply servingAnswer (served 86400)) (times_served _)
  obtain ⟨⟨q, first⟩, rest, split, said, later⟩ := List.map_eq_cons_iff.1 answers
  obtain ⟨⟨q', second⟩, rest', rfl, said', none⟩ := List.map_eq_cons_iff.1 later
  cases List.map_eq_nil_iff.1 none
  cases first with
  | error f => cases said
  | ok r =>
    cases second with
    | error f => cases said'
    | ok r' =>
      cases said
      cases said'
      exact (links q listing q' ⟨201, []⟩ "AQID" [1, 2, 3] split granted (by decide +kernel) rfl).2

/-- **Lifetimes that are accepted and go wrong**: one that stops the program before anything is uploaded, and one that
is taken for minus one hour, so that its links have expired when they are made. -/
theorem upload_expires_wrapped :
    (lasting 9223372036854775807).validate = .ok () ∧
      lifetime? (lasting 9223372036854775807).azure.sasExpiryHours = none ∧
      (lasting 18446744073709551615).validate = .ok () ∧
      ∃ lifetime, lifetime? (lasting 18446744073709551615).azure.sasExpiryHours = some lifetime ∧
        expiry? ⟨0⟩ lifetime = some ⟨-3600⟩ := by
  have endless : (lasting 9223372036854775807).validate = .ok () := Config.validate_eq_ok.2 (by decide +kernel)
  have wrapped : (lasting 18446744073709551615).validate = .ok () := Config.validate_eq_ok.2 (by decide +kernel)
  exact ⟨endless, by decide, wrapped, -3600, by decide, by decide⟩

end HookFlow.Azure
