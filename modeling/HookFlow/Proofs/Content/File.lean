import HookFlow.Proofs.Content.Address
import HookFlow.Proofs.Flow
import HookFlow.Proofs.Json.Spelling
import HookFlow.Proofs.Text.Base64
/-!
The bytes of a file: what reading a file comes to, once the code host has answered.

An answer holds the bytes in base 64, with blanks put in anywhere, or a link under which they are. Of bytes in
base 64 exactly one text without blanks is read, so padding that is left out or unused bits that are set are refused,
and nothing else is asked. A link is followed once, and its answer counts as it is.

Results:
- `unwrap?_eq_some`: a text stands for some bytes exactly if it is their text with blanks put in.
- `FileAnswer.described`: the code host can give every answer about a file.
- `Github.file_content`: what reading a file comes to.
-/

namespace HookFlow.Content

open Text (Bytes encode64 digit64)
open Http (isSuccess withPairs)
open Wire.History (sent sent_append answers answers_eq_cons)

/-! ## Wrapped texts -/

/-- a text with blanks put anywhere between, before and behind its characters -/
inductive Wraps : List Char → List Char → Prop where
  | nil : Wraps [] []
  | char {c : Char} {cs ds : List Char} (rest : Wraps cs ds) : Wraps (c :: cs) (c :: ds)
  | blank {c : Char} {cs ds : List Char} (blank : c ∈ [' ', '\t', '\n', '\x0c', '\r']) (rest : Wraps cs ds) :
      Wraps cs (c :: ds)

theorem isWrap_iff {c : Char} : isWrap c = true ↔ c ∈ [' ', '\t', '\n', '\x0c', '\r'] := by
  simp [isWrap, or_assoc]

/-- A text without blanks is all that is left of it when blanks are taken out. -/
theorem Wraps.unblanked {cs ds : List Char} (wraps : Wraps cs ds) (solid : ∀ c ∈ cs, isWrap c = false) :
    ds.filter (!isWrap ·) = cs := by
  induction wraps with
  | nil => rfl
  | char rest ih =>
    obtain ⟨first, others⟩ := List.forall_mem_cons.1 solid
    rw [List.filter_cons_of_pos (by rw [first]; rfl), ih others]
  | blank blank rest ih =>
    rw [List.filter_cons_of_neg (by rw [isWrap_iff.2 blank]; decide), ih solid]

theorem wraps_unblanked (ds : List Char) : Wraps (ds.filter (!isWrap ·)) ds := by
  induction ds with
  | nil => exact .nil
  | cons c rest ih =>
    cases blank : isWrap c with
    | true =>
      rw [List.filter_cons_of_neg (by rw [blank]; decide)]
      exact .blank (isWrap_iff.1 blank) ih
    | false =>
      rw [List.filter_cons_of_pos (by rw [blank]; rfl)]
      exact .char ih

theorem solid_of_mem_encode64 {bytes : Bytes} : ∀ c ∈ encode64 bytes, isWrap c = false := by
  intro c hc
  rcases Text.mem_encode64 hc with rfl | ⟨n, small, rfl⟩
  · rfl
  · clear hc
    revert n
    decide

theorem unblanked_iff_wraps {bytes : Bytes} {ds : List Char} :
    ds.filter (!isWrap ·) = encode64 bytes ↔ Wraps (encode64 bytes) ds := by
  constructor
  · intro same
    rw [← same]
    exact wraps_unblanked ds
  · intro wraps
    exact wraps.unblanked solid_of_mem_encode64

/-- **A text stands for some bytes exactly if it is their text with blanks put in.** -/
theorem unwrap?_eq_some {content : String} {bytes : Bytes} :
    unwrap? content = some bytes ↔ Wraps (encode64 bytes) content.toList := by
  rw [unwrap?, Text.decode64?_eq_some, unblanked_iff_wraps]

/-! ## Answers about files -/

namespace FileAnswer

/-- whether the body of an answer holds this about a file -/
def IsIn (a : FileAnswer) (body : Bytes) : Prop := (Json.parseBytes? body).bind ofJson? = some a

/-- the answer as a JSON value -/
def toJson (a : FileAnswer) : Json :=
  .object (Json.given [("content", some (.text a.content)), ("encoding", some (.text a.encoding)),
    ("download_url", a.downloadUrl.map .text)])

theorem ofJson?_toJson (a : FileAnswer) : ofJson? a.toJson = some a := by
  have fields : a.toJson.record? ["content", "encoding", "download_url"] =
      some [some (.text a.content), some (.text a.encoding), a.downloadUrl.map .text] :=
    Json.record?_given [("content", some (.text a.content)), ("encoding", some (.text a.encoding)),
      ("download_url", a.downloadUrl.map .text)] (by simp)
  obtain ⟨content, encoding, link⟩ := a
  rw [ofJson?, fields]
  cases link with
  | none => rfl
  | some url => rfl

theorem wordy_toJson (a : FileAnswer) : Json.Wordy a.toJson := by
  refine .object fun m hm => ?_
  obtain ⟨f, hf, made⟩ := List.mem_filterMap.1 hm
  obtain ⟨v, held, rfl⟩ := Option.map_eq_some_iff.1 made
  simp only [List.mem_cons, List.not_mem_nil, or_false] at hf
  rcases hf with rfl | rfl | rfl
  · cases held
    exact .text _
  · cases held
    exact .text _
  · obtain ⟨url, -, rfl⟩ := Option.map_eq_some_iff.1 held
    exact .text url

/-- **The code host can give every answer about a file.** -/
theorem described (a : FileAnswer) : a.IsIn (Text.encode a.toJson.compact) := by
  have read := Json.parseChars?_spelled (Json.spells_compact a.wordy_toJson) Json.blank_nil
  rw [List.append_nil] at read
  rw [IsIn, Json.parseBytes?, Text.decode_encode]
  simp only [Json.parse?, Json.compact, String.toList_ofList, read]
  exact a.ofJson?_toJson

end FileAnswer

/-! ## Reading a file -/

/-- what comes of the answer to a request for what lies at an address -/
inductive Brings (url : String) : Except Http.Fault Http.Response → Except Fault Bytes → Prop where
  | body {r : Http.Response} (success : isSuccess r.status = true) : Brings url (.ok r) (.ok r.body)
  | refused {r : Http.Response} (failure : isSuccess r.status = false) :
      Brings url (.ok r) (.error (.status r.status url))
  | unanswered (f : Http.Fault) : Brings url (.error f) (.error (.network f.message))

theorem Brings.of_success {url : String} {r : Http.Response} {v : Except Fault Bytes} (brings : Brings url (.ok r) v)
    (success : isSuccess r.status = true) : v = .ok r.body := by
  cases brings with
  | body => rfl
  | refused failure => cases success.symm.trans failure

theorem brings_got (url : String) (answer : Except Http.Fault Http.Response) : Brings url answer (Github.got url answer) := by
  cases answer with
  | error f => exact .unanswered f
  | ok r =>
    rw [Github.got]
    cases success : isSuccess r.status with
    | true => exact .body success
    | false => exact .refused success

namespace Github

variable {apiUrl path : String} {token gitRef : Option String} {repo : Repository} {a : FileAnswer}
variable {h : Wire.History} {r : Except Fault Bytes} {q : Http.Request} {resp : Http.Response}
variable {rest : List (Http.Request × Except Http.Fault Http.Response)}

/-- What is sent behind the answer about a file, and the result, come from what the answer says. -/
theorem file_answered (run : ((asking apiUrl token).file repo path gitRef).Runs h r)
    (answered : sent h = (q, .ok resp) :: rest) (success : isSuccess resp.status = true) :
    ∃ h', rest = sent h' ∧ (followed token (bytesOrLink path resp.body)).Runs h' r := by
  obtain ⟨h₁, h₂, answer, rfl, carried, later⟩ := runs_file run
  have whole : sent (⟨.log (getEvent ((asking apiUrl token).contentsUrl repo path)), ()⟩ :: h₁ ++ h₂) =
      sent h₁ ++ sent h₂ := sent_append h₁ h₂
  rw [whole] at answered
  rcases (sent_of_carry carried).2 with ⟨f, -, none, rfl⟩ | ⟨q', -, first⟩
  · obtain ⟨rfl, -⟩ := later
    rw [none] at answered
    cases answered
  · rw [first] at answered
    cases answered
    refine ⟨h₂, rfl, ?_⟩
    have said : said apiUrl repo path (.ok resp) = bytesOrLink path resp.body := by
      rw [said, got, if_pos success]
      rfl
    rw [← said]
    exact later

/-- the request for what lies at a URL, with nothing added to it -/
def requestAt (token : Option String) (u : Url) : Http.Request where
  method := .get
  url := withPairs u []
  headers := (asking "" token).headers

/-- A link is followed once. -/
theorem link_followed {url : String} (run : (followed token (.ok (.inr url))).Runs h r) :
    (sent h = [] ∧ (∃ f : Http.Fault, r = .error (.network f.message)) ∧ ∀ q, getRequest token url [] ≠ .ok q) ∨
      ∃ u answer, Url.parse? url = some u ∧ sent h = [(requestAt token u, answer)] ∧ Brings url answer r := by
  obtain ⟨h', answer, rfl, carried, rfl⟩ := runs_get.1 run
  have inner : sent (⟨.log (getEvent url), ()⟩ :: h') = sent h' := rfl
  rw [inner]
  rcases (sent_of_carry carried).2 with ⟨f, unbuilt, none, rfl⟩ | ⟨q, built, one⟩
  · refine .inl ⟨none, ⟨f, rfl⟩, fun q built => ?_⟩
    cases unbuilt.symm.trans built
  · obtain ⟨u, parsed, -, -, rfl⟩ := Http.Request.build_eq_ok.1 built
    exact .inr ⟨u, answer, parsed, one, brings_got url answer⟩

/-- **What reading a file comes to, once the code host has answered.** Bytes in base 64 are the result exactly if the
content is their text with blanks put in; every other content is malformed, and in both cases nothing else is asked.
With another encoding there is one more request, for the link, and its answer is the result; without a link the answer
is malformed. The code host can give every answer, so this is about every list of bytes and every way to wrap it. -/
theorem file_content (apiUrl : String) (token : Option String) (repo : Repository) (path : String)
    (gitRef : Option String) (a : FileAnswer) :
    (∃ body, a.IsIn body) ∧
      ∀ h r q resp rest, ((asking apiUrl token).file repo path gitRef).Runs h r →
        sent h = (q, .ok resp) :: rest → isSuccess resp.status = true → a.IsIn resp.body →
        (a.encoding = "base64" → rest = [] ∧
          (∀ bytes, Wraps (encode64 bytes) a.content.toList → r = .ok bytes) ∧
          (∀ bytes, r = .ok bytes → a.content.toList.filter (!isWrap ·) = encode64 bytes) ∧
          ((∀ bytes, a.content.toList.filter (!isWrap ·) ≠ encode64 bytes) → ∃ text, r = .error (.malformed text))) ∧
        (a.encoding ≠ "base64" →
          (a.downloadUrl = none → rest = [] ∧ ∃ text, r = .error (.malformed text)) ∧
          ∀ url, a.downloadUrl = some url →
            (rest = [] ∧ (∃ text, r = .error (.network text)) ∧ ∀ q', getRequest token url [] ≠ .ok q') ∨
              ∃ u answer, Url.parse? url = some u ∧ rest = [(requestAt token u, answer)] ∧ Brings url answer r) := by
  refine ⟨⟨_, a.described⟩, fun h r q resp rest run answered success told => ?_⟩
  obtain ⟨h', rfl, later⟩ := file_answered run answered success
  have read : (Json.parseBytes? resp.body).bind FileAnswer.ofJson? = some a := told
  rw [bytesOrLink, read] at later
  constructor
  · intro base64
    simp only [base64, beq_self_eq_true, if_true] at later
    cases found : unwrap? a.content with
    | some bytes =>
      rw [found] at later
      obtain ⟨rfl, rfl⟩ := later
      have wraps := unwrap?_eq_some.1 found
      refine ⟨rfl, fun bytes' wraps' => ?_, fun bytes' same => ?_, fun none => ?_⟩
      · cases found.symm.trans (unwrap?_eq_some.2 wraps')
        rfl
      · cases same
        exact unblanked_iff_wraps.2 wraps
      · exact absurd (unblanked_iff_wraps.2 wraps) (none bytes)
    | none =>
      rw [found] at later
      obtain ⟨rfl, rfl⟩ := later
      refine ⟨rfl, fun bytes wraps => ?_, nofun, fun _ => ⟨_, rfl⟩⟩
      cases found.symm.trans (unwrap?_eq_some.2 wraps)
  · intro other
    simp only [beq_eq_false_iff_ne.2 other, Bool.false_eq_true, if_false] at later
    constructor
    · intro unlinked
      rw [unlinked] at later
      obtain ⟨rfl, rfl⟩ := later
      exact ⟨rfl, _, rfl⟩
    · intro url linked
      rw [linked] at later
      rcases link_followed later with ⟨none, ⟨f, rfl⟩, unbuilt⟩ | followed
      · exact .inl ⟨none, ⟨_, rfl⟩, unbuilt⟩
      · exact .inr followed

/-! A file in base 64 that is wrapped into lines, and one that is too large for that. -/

/-- a code host that has one answer about files, and the same bytes under every link -/
def hostAnswer (a : FileAnswer) (linked : Bytes) : (q : Inquiry) → q.Answer
  | .cancelled => false
  | .log _ => ()
  | .now => ⟨0⟩
  | .pause => ()
  | .send r => .ok ⟨200, if r.url.path == "/linked" then linked else Text.encode a.toJson.compact⟩

def wrappedFile : FileAnswer := { content := "aGVs\nbG8=\n", encoding := "base64" }

def largeFile : FileAnswer := { encoding := "none", downloadUrl := some "http://mockhost:9/linked" }

/-- reading a file of that code host -/
def reading : Wire (Except Fault Bytes) := (asking "http://mockhost:9" none).file ⟨"a", "b"⟩ "f" none

theorem file_content_wrapped :
    (∃ q, sent (reading.replies (hostAnswer wrappedFile [])) = [(q, .ok ⟨200, Text.encode wrappedFile.toJson.compact⟩)]) ∧
      reading.reply (hostAnswer wrappedFile []) = .ok (Text.encode "hello") ∧
      (∃ q u, sent (reading.replies (hostAnswer largeFile [1, 2])) =
        [(q, .ok ⟨200, Text.encode largeFile.toJson.compact⟩), (requestAt none u, .ok ⟨200, [1, 2]⟩)] ∧
        Url.parse? "http://mockhost:9/linked" = some u) ∧
      reading.reply (hostAnswer largeFile [1, 2]) = .ok [1, 2] := by
  have wrapped : answers (reading.replies (hostAnswer wrappedFile [])) =
      [some ⟨200, Text.encode wrappedFile.toJson.compact⟩] := by decide +kernel
  have large : answers (reading.replies (hostAnswer largeFile [1, 2])) =
      [some ⟨200, Text.encode largeFile.toJson.compact⟩, some ⟨200, [1, 2]⟩] := by decide +kernel
  have wraps : Wraps (encode64 (Text.encode "hello")) wrappedFile.content.toList :=
    unblanked_iff_wraps.1 (by decide +kernel)
  obtain ⟨q, rest, sent, -⟩ := answers_eq_cons wrapped
  obtain ⟨rfl, bytes, -⟩ := ((file_content _ _ _ _ _ wrappedFile).2 _ _ q _ rest (Dialogue.runs_reply _ _) sent rfl
    wrappedFile.described).1 rfl
  obtain ⟨q', rest', sent', later⟩ := answers_eq_cons large
  refine ⟨⟨q, sent⟩, bytes _ wraps, ?_⟩
  rcases ((file_content _ _ _ _ _ largeFile).2 _ _ q' _ rest' (Dialogue.runs_reply _ _) sent' rfl
    largeFile.described).2 (by decide) |>.2 _ rfl with ⟨rfl, -⟩ | ⟨u, answer, parsed, rfl, brings⟩
  · cases later
  · obtain rfl := eq_ok_of_toOption (List.cons.inj later).1
    exact ⟨⟨q', u, sent', parsed⟩, brings.of_success rfl⟩

end Github

end HookFlow.Content
