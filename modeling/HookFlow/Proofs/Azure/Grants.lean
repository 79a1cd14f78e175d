import HookFlow.Azure.Sas
import HookFlow.Proofs.Instant
import HookFlow.Proofs.Text.Base64
import HookFlow.Proofs.Text.Percent
/-!
Signed links as a storage reads them.

A storage cuts the query of a link at `&` and each part at its first `=`, undoes the escapes of the values, and puts the
signed text together again from what it has read and from the blob that is asked for. It grants what the link says if
the signature is the one of this text. A link is read as it was meant, so it is good for its blob. And the text tells its
fifteen lines apart, its lines tell what they name, so the same signature is good for nothing else, unless two texts that
differ have the same keyed digest.

Results:
- `read_queryWith`: a link whose permissions are letters is read as it was issued.
- `signature_queryWith`: whatever the permissions are, a link is read, and with the signature that was issued.
- `accepted_issued`: what is issued for a blob is accepted for it.
- `eq_of_signed`: a text is signed for one grant on one blob only.
- `query_verified`: all of this for the query that is handed out.
-/

namespace HookFlow.Azure.Sas

open HookFlow.Text

/-! ## The verifier -/

/-- what a link says, with escapes undone and the signature decoded -/
structure Grant where
  permissions : Bytes
  expiry : Bytes
  protocol : Bytes
  version : Bytes
  resourceKind : Bytes
  signature : Bytes
  deriving DecidableEq

/-- the name of a part of a query, and its value with escapes undone -/
def pairOf (part : List Char) : List Char × Bytes :=
  (part.takeWhile (· != '='), percentDecode (utf8 ((part.dropWhile (· != '=')).drop 1)))

/-- the names and values of a query -/
def pairs (query : String) : List (List Char × Bytes) := (splitChars '&' query.toList).map pairOf

/-- the value of a name in a query; the last one counts -/
def value? (query : String) (name : String) : Option Bytes := (pairs query).reverse.lookup name.toList

/-- the bytes that a value in base 64 stands for -/
def bytes64? (value : Bytes) : Option Bytes := decode64? (value.map fun b => Char.ofNat b.toNat)

/-- what the query of a link says -/
def Grant.read? (query : String) : Option Grant := do
  let permissions ← value? query "sp"
  let expiry ← value? query "se"
  let protocol ← value? query "spr"
  let version ← value? query "sv"
  let resourceKind ← value? query "sr"
  let signature ← (value? query "sig").bind bytes64?
  return { permissions, expiry, protocol, version, resourceKind, signature }

/-- the lines that are signed for a grant on a blob -/
def Grant.lines (g : Grant) (c : Container) (blob : String) : List Bytes :=
  [g.permissions, [], g.expiry, encode (resource c blob), [], [], g.protocol, g.version, g.resourceKind, [], [], [], [],
    [], []]

/-- the text that is signed for a grant on a blob -/
def Grant.signed (g : Grant) (c : Container) (blob : String) : Bytes := [10].intercalate (g.lines c blob)

/-- A grant is accepted for a blob if its signature is the one of the text that is signed for it. -/
def Grant.Accepted (g : Grant) (key : Bytes) (c : Container) (blob : String) : Prop :=
  Hash.hmacSha256 key (g.signed c blob) = g.signature

instance (g : Grant) (key : Bytes) (c : Container) (blob : String) : Decidable (g.Accepted key c blob) :=
  inferInstanceAs (Decidable (_ = _))

/-- Two texts are told apart by their keyed digests. -/
def Apart (key text text' : Bytes) : Prop := Hash.hmacSha256 key text = Hash.hmacSha256 key text' → text = text'

/-- the grant that a link is made for -/
def Grant.issued (key : Bytes) (c : Container) (blob permissions : String) (expiry : Instant) : Grant where
  permissions := encode permissions
  expiry := encode expiry.render
  protocol := encode Sas.protocol
  version := encode Sas.version
  resourceKind := encode Sas.resourceKind
  signature := Hash.hmacSha256 key (encode (signedText c blob permissions expiry.render))

theorem issued_expiry (key : Bytes) (c : Container) (blob permissions : String) (expiry : Instant) :
    (Grant.issued key c blob permissions expiry).expiry = encode expiry.render := by
  rw [Grant.issued]

theorem length_lines (g : Grant) (c : Container) (blob : String) : (g.lines c blob).length = 15 := by
  rw [Grant.lines]
  rfl

/-! ## Reading what was written -/

/-- a part of a query as it is written -/
def partOf (p : String × String) : List Char := p.1.toList ++ '=' :: (escaped p.2).toList

theorem escaped_toList (s : String) : (escaped s).toList = percentEncode isUnreserved s.toList := String.toList_ofList

/-- Letters, digits and signs without a meaning are written as they are. -/
theorem escaped_eq {s : String} (plain : ∀ c ∈ s.toList, c.toNat < 128 ∧ isUnreserved c = true) : escaped s = s := by
  rw [escaped, percentEncode_kept plain, String.ofList_toList]

theorem not_mem_escaped {sign : Char} (hsign : sign ∈ ['&', '=']) (s : String) : sign ∉ (escaped s).toList := by
  rw [escaped_toList]
  intro among
  obtain ⟨-, kept⟩ := mem_percentEncode among
  revert kept
  simp only [List.mem_cons, List.not_mem_nil, or_false] at hsign
  rcases hsign with rfl | rfl <;> decide

/-- **A part is read back.** -/
theorem pairOf_partOf {name : String} (plain : '=' ∉ name.toList) (s : String) :
    pairOf (partOf (name, s)) = (name.toList, encode s) := by
  rw [pairOf, partOf, takeWhile_cut plain, dropWhile_cut plain, List.drop_one, List.tail_cons, escaped_toList]
  exact congrArg (Prod.mk name.toList) (percentDecode_encoded (by decide) s.toList)

/-- A signature is read back. -/
theorem bytes64?_signature (key : Bytes) (text : String) :
    bytes64? (encode (signature key text)) = some (Hash.hmacSha256 key (encode text)) := by
  have chars : (encode (signature key text)).map (fun b => Char.ofNat b.toNat) =
      encode64 (Hash.hmacSha256 key (encode text)) := by
    rw [encode_eq_utf8, signature, String.toList_ofList, utf8_ascii fun c hc => ascii_of_mem_encode64 hc, List.map_map]
    refine (List.map_congr_left fun c hc => ?_).trans (List.map_id _)
    simp only [Function.comp, toNat_ofNat_ascii (ascii_of_mem_encode64 hc), Char.ofNat_toNat, id]
  rw [bytes64?, chars, decode64?_encode64]

/-- A part is read alone. -/
theorem pairs_partOf (name : String) (free : '&' ∉ name.toList ∧ '=' ∉ name.toList) (s : String) :
    (splitChars '&' (partOf (name, s))).map pairOf = [(name.toList, encode s)] := by
  have single : '&' ∉ partOf (name, s) := by
    rw [partOf, List.mem_append, List.mem_cons]
    rintro (front | same | value)
    · exact free.1 front
    · exact absurd same (by decide)
    · exact not_mem_escaped (by decide) s value
  rw [splitChars_single single, List.map_singleton, pairOf_partOf free.2]

/-- The pairs of a link are those that it is written for, but the permissions may make up any number of pairs. -/
theorem pairs_queryWith (key : Bytes) (c : Container) (blob permissions : String) (expiry : Instant) :
    pairs (queryWith key c blob permissions expiry) =
      [("sv".toList, encode version), ("spr".toList, encode protocol), ("se".toList, encode expiry.render),
        ("sr".toList, encode resourceKind)] ++
      ((splitChars '&' ("sp=".toList ++ permissions.toList)).map pairOf ++
      [("sig".toList, encode (signature key (signedText c blob permissions expiry.render)))]) := by
  have plain : escaped version = version ∧ escaped protocol = protocol ∧ escaped resourceKind = resourceKind := by
    decide +kernel
  have chars : (queryWith key c blob permissions expiry).toList =
      ['&'].intercalate [partOf ("sv", version), partOf ("spr", protocol), partOf ("se", expiry.render),
        partOf ("sr", resourceKind), "sp=".toList ++ permissions.toList,
        partOf ("sig", signature key (signedText c blob permissions expiry.render))] := by
    simp [queryWith, partOf, plain]
  rw [pairs, chars, splitChars_intercalate, List.map_flatMap]
  simp only [List.flatMap_cons, List.flatMap_nil, pairs_partOf "sv" (by decide),
    pairs_partOf "spr" (by decide), pairs_partOf "se" (by decide), pairs_partOf "sr" (by decide),
    pairs_partOf "sig" (by decide)]
  rfl

section

variable (key : Bytes) (c : Container) (blob permissions : String) (expiry : Instant)

theorem value?_sig : value? (queryWith key c blob permissions expiry) "sig" =
    some (encode (signature key (signedText c blob permissions expiry.render))) := by
  rw [value?, pairs_queryWith]
  simp

/-- **A link is read, whatever its permissions are, and with the signature that was issued.** -/
theorem signature_queryWith : ∃ g, Grant.read? (queryWith key c blob permissions expiry) = some g ∧
    g.signature = (Grant.issued key c blob permissions expiry).signature := by
  have free : '&' ∉ "sp=".toList := by decide
  obtain ⟨front, others, pieces⟩ := splitChars_front free permissions.toList
  have names : (pairs (queryWith key c blob permissions expiry)).map Prod.fst =
      ["sv".toList, "spr".toList, "se".toList, "sr".toList, "sp".toList] ++
        ((others.map pairOf).map Prod.fst ++ ["sig".toList]) := by
    rw [pairs_queryWith, pieces, List.map_append, List.map_append]
    rfl
  have present (name : String)
      (among : name.toList ∈ ["sv".toList, "spr".toList, "se".toList, "sr".toList, "sp".toList]) :
      ∃ value, value? (queryWith key c blob permissions expiry) name = some value := by
    have whole := List.mem_append_left ((others.map pairOf).map Prod.fst ++ ["sig".toList]) among
    rw [← names] at whole
    obtain ⟨pair, hpair, same⟩ := List.mem_map.1 whole
    rw [← Option.isSome_iff_exists, value?, List.lookup_isSome_iff]
    exact ⟨pair, List.mem_reverse.2 hpair, beq_iff_eq.2 same.symm⟩
  obtain ⟨granted, hp⟩ := present "sp" (by decide)
  obtain ⟨time, he⟩ := present "se" (by decide)
  obtain ⟨protocol, hspr⟩ := present "spr" (by decide)
  obtain ⟨version, hv⟩ := present "sv" (by decide)
  obtain ⟨kind, hr⟩ := present "sr" (by decide)
  refine ⟨⟨granted, time, protocol, version, kind, _⟩, ?_, rfl⟩
  simp [Grant.read?, hp, he, hspr, hv, hr, value?_sig, bytes64?_signature, Grant.issued]

theorem unreserved_of_isAlpha {p : Char} (letter : p.isAlpha = true) : p.toNat < 128 ∧ isUnreserved p = true := by
  refine ⟨?_, by simp [isUnreserved, Char.isAlphanum, letter]⟩
  have last : p.val ≤ 'z'.val := by
    rcases Bool.or_eq_true_iff.1 letter with upper | lower
    · exact UInt32.le_trans (of_decide_eq_true upper).2 (by decide)
    · exact of_decide_eq_true (Bool.and_eq_true_iff.1 lower).2
  exact (UInt32.le_iff_toNat_le.1 last).trans_lt (by decide)

/-- **A link whose permissions are letters is read as it was issued.** -/
theorem read_queryWith (letters : ∀ p ∈ permissions.toList, p.isAlpha = true) :
    Grant.read? (queryWith key c blob permissions expiry) = some (.issued key c blob permissions expiry) := by
  have plain : escaped permissions = permissions := escaped_eq fun p hp => unreserved_of_isAlpha (letters p hp)
  have part : "sp=".toList ++ permissions.toList = partOf ("sp", permissions) := by simp [partOf, plain]
  have value (name : String) : value? (queryWith key c blob permissions expiry) name =
      List.lookup name.toList [("sig".toList, encode (signature key (signedText c blob permissions expiry.render))),
        ("sp".toList, encode permissions), ("sr".toList, encode resourceKind), ("se".toList, encode expiry.render),
        ("spr".toList, encode protocol), ("sv".toList, encode version)] := by
    rw [value?, pairs_queryWith, part, pairs_partOf _ (by decide)]
    rfl
  simp [Grant.read?, value, List.lookup_cons, bytes64?_signature, Grant.issued]

end

/-! ## The text that is signed -/

theorem encode_intercalate (parts : List String) :
    encode ("\n".intercalate parts) = [10].intercalate (parts.map encode) := by
  rw [encode_eq_utf8, String.toList_intercalate]
  induction parts with
  | nil => rfl
  | cons p parts ih =>
    cases parts with
    | nil => simp [encode_eq_utf8]
    | cons q parts =>
      simp only [List.map_cons, List.intercalate_cons_cons, utf8_append] at ih ⊢
      rw [ih]
      rfl

/-- What is signed for the grant that is issued is the signed text. -/
theorem signed_issued (key : Bytes) (c : Container) (blob permissions : String) (expiry : Instant) :
    (Grant.issued key c blob permissions expiry).signed c blob =
      encode (signedText c blob permissions expiry.render) := by
  rw [signedText, encode_intercalate, Grant.signed, Grant.lines, Grant.issued]
  simp only [List.map_cons, List.map_nil]
  rfl

/-- **What is issued for a blob is accepted for it.** -/
theorem accepted_issued (key : Bytes) (c : Container) (blob permissions : String) (expiry : Instant) :
    (Grant.issued key c blob permissions expiry).Accepted key c blob := by
  rw [Grant.Accepted, signed_issued]
  rfl

/-- The names of a blob are told apart by its path. -/
theorem resource_inj {c c' : Container} {blob blob' : String}
    (account : '/' ∉ c.account.toList) (account' : '/' ∉ c'.account.toList) (single : '/' ∉ blob.toList)
    (single' : '/' ∉ blob'.toList) (same : resource c blob = resource c' blob') : c = c' ∧ blob = blob' := by
  have toList (c : Container) (blob : String) : (resource c blob).toList =
      "/blob/".toList ++ (c.account.toList ++ '/' :: (c.name.toList ++ '/' :: blob.toList)) := by
    simp [resource]
  have chars := congrArg String.toList same
  rw [toList, toList] at chars
  obtain ⟨accounts, path⟩ := cut_first account account' (List.append_cancel_left chars)
  obtain ⟨names, blobs⟩ := cut_last single single' path
  refine ⟨?_, String.toList_inj.1 blobs⟩
  obtain ⟨a, n⟩ := c
  obtain ⟨a', n'⟩ := c'
  rw [Container.mk.injEq]
  exact ⟨String.toList_inj.1 accounts, String.toList_inj.1 names⟩

/-- With a slash in the account, two blobs have one path. -/
example : resource ⟨"a/b", "c"⟩ "z" = resource ⟨"a", "b/c"⟩ "z" := by decide

/-- **A text is signed for one grant on one blob only**, if the names and permissions have no line breaks, and account
and blob no slashes. Nothing is asked of the lines of the other grant: they are as many, so they cannot hold breaks. -/
theorem eq_of_signed {g g' : Grant} {c c' : Container} {blob blob' : String}
    (lines : ∀ line ∈ g.lines c blob, 10 ∉ line) (account : '/' ∉ c.account.toList) (single : '/' ∉ blob.toList)
    (account' : '/' ∉ c'.account.toList) (single' : '/' ∉ blob'.toList) (signature : g'.signature = g.signature)
    (same : g'.signed c' blob' = g.signed c blob) : g' = g ∧ c' = c ∧ blob' = blob := by
  have each : g.lines c blob = g'.lines c' blob' :=
    intercalate_inj lines (by rw [length_lines, length_lines]) same.symm
  simp only [Grant.lines, List.cons.injEq] at each
  obtain ⟨permissions, -, expiry, path, -, -, protocol, version, kind, -⟩ := each
  obtain ⟨rfl, rfl⟩ := resource_inj account account' single single' (String.toList_inj.1 (utf8_inj path))
  refine ⟨?_, rfl, rfl⟩
  cases g
  cases g'
  rw [Grant.mk.injEq]
  exact ⟨permissions.symm, expiry.symm, protocol.symm, version.symm, kind.symm, signature⟩

/-- names and permissions that keep to their places in a signed text -/
structure Plain (c : Container) (blob permissions : String) : Prop where
  account : '/' ∉ c.account.toList ∧ '\n' ∉ c.account.toList
  container : '\n' ∉ c.name.toList
  blob : '/' ∉ blob.toList ∧ '\n' ∉ blob.toList
  permissions : '\n' ∉ permissions.toList

theorem not_mem_encode {s : String} (free : '\n' ∉ s.toList) : 10 ∉ encode s :=
  mt (mem_utf8 (c := '\n') (by decide)).1 free

theorem not_mem_lines {c : Container} {blob permissions : String} (plain : Plain c blob permissions) (key : Bytes)
    (expiry : Instant) : ∀ line ∈ (Grant.issued key c blob permissions expiry).lines c blob, 10 ∉ line := by
  have time : '\n' ∉ expiry.render.toList := by
    intro among
    rcases Instant.mem_render among with digit | sign
    · exact absurd digit (by decide)
    · exact absurd sign (by decide)
  have path : '\n' ∉ (resource c blob).toList := by
    simp [resource, plain.account.2, plain.container, plain.blob.2]
  have none : (10 : UInt8) ∉ ([] : Bytes) := List.not_mem_nil
  simp only [Grant.lines, Grant.issued, List.forall_mem_cons]
  exact ⟨not_mem_encode plain.permissions, none, not_mem_encode time, not_mem_encode path, none, none, by decide,
    by decide, by decide, none, none, none, none, none, none, fun _ more => absurd more List.not_mem_nil⟩

/-! ## Queries -/

/-- **A link is good for what it was made for, and for nothing else.** With a key that is padded base 64 a query is handed
out, and a storage reads a grant in it. If the permissions are letters, this is the grant that was issued, and it is
accepted for the blob. If names and permissions keep to their places, another grant with the same signature is accepted
for no other blob, and it is the one that was issued, which no other instant expires; here the texts that are signed for
the two must be told apart by their digests. With any other key there is no query, but a failure of the deployment. -/
theorem query_verified (c : Container) (blob permissions : String) (expiry : Instant) :
    (∀ (accountKey : String) (key : Bytes), accountKey.toList = encode64 key →
      ∃ q g, query c blob accountKey permissions expiry = .ok q ∧ Grant.read? q = some g ∧
        ((∀ p ∈ permissions.toList, p.isAlpha = true) →
          g = .issued key c blob permissions expiry ∧ g.Accepted key c blob) ∧
        (Plain c blob permissions → ∀ (g' : Grant) (c' : Container) (blob' : String),
          '/' ∉ c'.account.toList → '/' ∉ blob'.toList → g'.signature = g.signature → g'.Accepted key c' blob' →
          Apart key (g'.signed c' blob') (encode (signedText c blob permissions expiry.render)) →
          c' = c ∧ blob' = blob ∧ g' = .issued key c blob permissions expiry ∧
            ∀ expiry', g'.expiry = encode expiry'.render → expiry' = expiry)) ∧
    ∀ accountKey : String, (∀ key, accountKey.toList ≠ encode64 key) →
      ∃ f, query c blob accountKey permissions expiry = .error f ∧ f.category = .deployment := by
  constructor
  · intro accountKey key written
    obtain ⟨g, read, signature⟩ := signature_queryWith key c blob permissions expiry
    refine ⟨_, g, ?_, read, ?_, ?_⟩
    · rw [query, decode64?_eq_some.2 written]
    · intro letters
      rw [read_queryWith key c blob permissions expiry letters, Option.some_inj] at read
      subst read
      exact ⟨rfl, accepted_issued key c blob permissions expiry⟩
    · intro plain g' c' blob' account' single' alike accepted apart
      have text : g'.signed c' blob' = (Grant.issued key c blob permissions expiry).signed c blob := by
        rw [signed_issued]
        refine apart (accepted.trans ?_)
        rw [alike, signature]
        rfl
      obtain ⟨rfl, rfl, rfl⟩ := eq_of_signed (not_mem_lines plain key expiry) plain.account.1 plain.blob.1 account'
        single' (alike.trans signature) text
      refine ⟨rfl, rfl, rfl, fun expiry' time => ?_⟩
      rw [issued_expiry, encode_eq_utf8, encode_eq_utf8] at time
      exact (Instant.render_inj (String.toList_inj.1 (utf8_inj time))).symm
  · intro accountKey malformed
    have unread : decode64? accountKey.toList = none :=
      Option.eq_none_iff_forall_ne_some.2 fun key read => malformed key (decode64?_eq_some.1 read)
    rw [query, unread]
    exact ⟨_, rfl, rfl⟩

/-- the link to read a blob for a day -/
def reading : Grant := .issued [1, 2, 3] ⟨"acc", "c"⟩ "z" "r" ⟨86400⟩

/-- the link to read a blob, with writing put in it -/
def forged : Grant := { reading with permissions := encode "rw" }

/-- A link to read a blob for a day is good for that, and does not become one to write it. -/
theorem query_verified_reading :
    ∃ q, query ⟨"acc", "c"⟩ "z" "AQID" "r" ⟨86400⟩ = .ok q ∧ Grant.read? q = some reading ∧
      reading.Accepted [1, 2, 3] ⟨"acc", "c"⟩ "z" ∧ ¬ forged.Accepted [1, 2, 3] ⟨"acc", "c"⟩ "z" := by
  obtain ⟨q, g, handed, read, letters, unique⟩ :=
    (query_verified ⟨"acc", "c"⟩ "z" "r" ⟨86400⟩).1 "AQID" [1, 2, 3] (by decide)
  obtain ⟨same, accepted⟩ := letters (List.all_eq_true.1 (by decide))
  have alike : forged.signature = g.signature := by rw [same, forged, reading]
  have plain : Plain ⟨"acc", "c"⟩ "z" "r" := ⟨by decide, by decide, by decide, by decide⟩
  have differ : Hash.hmacSha256 [1, 2, 3] (forged.signed ⟨"acc", "c"⟩ "z") ≠
      Hash.hmacSha256 [1, 2, 3] (encode (signedText ⟨"acc", "c"⟩ "z" "r" (⟨86400⟩ : Instant).render)) := by
    decide +kernel
  subst same
  refine ⟨q, handed, read, accepted, fun good => ?_⟩
  obtain ⟨-, -, issued, -⟩ := unique plain forged _ _ (by decide) (by decide) alike good fun same => absurd same differ
  have permissions : encode "rw" = encode "r" := by
    simpa only [forged, reading, Grant.issued] using congrArg Grant.permissions issued
  exact absurd permissions (by decide)

end HookFlow.Azure.Sas
