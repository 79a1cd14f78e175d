import HookFlow.Text.Utf8
/-!
Decoded bytes are the bytes of the text: whatever `decode` makes of some bytes is written with these bytes
again, and what is written is read back. Each form of a sequence, of one to four bytes, is one lemma about the
number that its bytes spell, and one about how they are read.

Results:
- `encode_of_decode`: the text that bytes decode to encodes to these bytes.
- `decode_encode`: the bytes of a text decode to it.
-/

namespace HookFlow.Text

theorem ofNat_eq_byte {b : UInt8} {n : Nat} (same : n = b.toNat) : UInt8.ofNat n = b := by
  rw [same, UInt8.ofNat_toNat]

theorem toNat_ofNat_byte {n : Nat} (small : n < 256) : (UInt8.ofNat n).toNat = n := Nat.mod_eq_of_lt small

theorem isContinuation_range {b : UInt8} (continues : isContinuation b = true) :
    128 ≤ b.toNat ∧ b.toNat ≤ 191 := by
  simpa [isContinuation, UInt8.le_iff_toNat_le] using continues

theorem isSecond_range {lead b : UInt8} (follows : isSecond lead b = true) :
    128 ≤ b.toNat ∧ b.toNat ≤ 191 ∧ (lead.toNat = 224 → 160 ≤ b.toNat) ∧ (lead.toNat = 237 → b.toNat ≤ 159) ∧
      (lead.toNat = 240 → 144 ≤ b.toNat) ∧ (lead.toNat = 244 → b.toNat ≤ 143) := by
  have number (n : UInt8) : lead = n ↔ lead.toNat = n.toNat := UInt8.toNat_inj.symm
  simp only [isSecond, isContinuation, number, UInt8.le_iff_toNat_le, UInt8.reduceToNat] at follows
  repeat' split at follows
  all_goals simp only [Bool.and_eq_true, decide_eq_true_eq] at follows
  all_goals omega

/-! The characters that sequences of one to four bytes spell. -/

/-- the bytes of the character with a number -/
def bytesOf (n : Nat) : Bytes := String.utf8EncodeChar (Char.ofNat n)

theorem val_ofNat {n : Nat} (valid : n.isValidChar) : (Char.ofNat n).val.toNat = n := by
  have same : Char.ofNat n = Char.ofNatAux n valid := dif_pos valid
  rw [same]
  rfl

theorem bytesOf_one {b : UInt8} (lead : b < 0x80) : bytesOf b.toNat = [b] := by
  have small : b.toNat < 128 := UInt8.lt_iff_toNat_lt.1 lead
  have number := val_ofNat (n := b.toNat) (.inl (by omega))
  simp only [bytesOf, String.utf8EncodeChar, number]
  rw [if_pos (by omega), UInt8.ofNat_toNat]

theorem bytesOf_two {b b₁ : UInt8} (lead : ¬ b < 0xC2) (lead' : b < 0xE0) (second : isContinuation b₁ = true) :
    bytesOf (b.toNat % 32 * 64 + payload b₁) = [b, b₁] := by
  have range := isContinuation_range second
  simp only [UInt8.lt_iff_toNat_lt, UInt8.reduceToNat] at lead lead'
  simp only [payload]
  have number := val_ofNat (n := b.toNat % 32 * 64 + b₁.toNat % 64) (.inl (by omega))
  simp only [bytesOf, String.utf8EncodeChar, number]
  rw [if_neg (by omega), if_pos (by omega), ofNat_eq_byte (b := b) (by omega),
    ofNat_eq_byte (b := b₁) (by omega)]

theorem bytesOf_three {b b₁ b₂ : UInt8} (lead : ¬ b < 0xE0) (lead' : b < 0xF0) (second : isSecond b b₁ = true)
    (third : isContinuation b₂ = true) :
    bytesOf ((b.toNat % 16 * 64 + payload b₁) * 64 + payload b₂) = [b, b₁, b₂] := by
  have range₁ := isSecond_range second
  have range₂ := isContinuation_range third
  simp only [UInt8.lt_iff_toNat_lt, UInt8.reduceToNat] at lead lead'
  simp only [payload]
  have valid : ((b.toNat % 16 * 64 + b₁.toNat % 64) * 64 + b₂.toNat % 64).isValidChar := by
    simp only [Nat.isValidChar]
    omega
  simp only [bytesOf, String.utf8EncodeChar, val_ofNat valid]
  rw [if_neg (by omega), if_neg (by omega), if_pos (by omega), ofNat_eq_byte (b := b) (by omega),
    ofNat_eq_byte (b := b₁) (by omega), ofNat_eq_byte (b := b₂) (by omega)]

theorem bytesOf_four {b b₁ b₂ b₃ : UInt8} (lead : ¬ b < 0xF0) (lead' : b < 0xF5) (second : isSecond b b₁ = true)
    (third : isContinuation b₂ = true) (fourth : isContinuation b₃ = true) :
    bytesOf (((b.toNat % 8 * 64 + payload b₁) * 64 + payload b₂) * 64 + payload b₃) = [b, b₁, b₂, b₃] := by
  have range₁ := isSecond_range second
  have range₂ := isContinuation_range third
  have range₃ := isContinuation_range fourth
  simp only [UInt8.lt_iff_toNat_lt, UInt8.reduceToNat] at lead lead'
  simp only [payload]
  have valid : (((b.toNat % 8 * 64 + b₁.toNat % 64) * 64 + b₂.toNat % 64) * 64 + b₃.toNat % 64).isValidChar := by
    simp only [Nat.isValidChar]
    omega
  simp only [bytesOf, String.utf8EncodeChar, val_ofNat valid]
  rw [if_neg (by omega), if_neg (by omega), if_neg (by omega), ofNat_eq_byte (b := b) (by omega),
    ofNat_eq_byte (b := b₁) (by omega), ofNat_eq_byte (b := b₂) (by omega), ofNat_eq_byte (b := b₃) (by omega)]

/-! ## Whole lists of bytes -/

theorem flatMap_push {acc : List Char} {n : Nat} {bs : Bytes} (spelled : bytesOf n = bs) (rest : Bytes) :
    (Char.ofNat n :: acc).reverse.flatMap String.utf8EncodeChar ++ rest =
      acc.reverse.flatMap String.utf8EncodeChar ++ (bs ++ rest) := by
  subst spelled
  simp [bytesOf]

/-- The characters behind those in `acc` are written with the bytes that were read. -/
theorem decodeFrom_bytes {acc cs : List Char} {i : Nat} {bytes : Bytes}
    (decoded : decodeFrom acc i bytes = .ok cs) :
    cs.flatMap String.utf8EncodeChar = acc.reverse.flatMap String.utf8EncodeChar ++ bytes := by
  fun_induction decodeFrom acc i bytes with
  | case1 acc i =>
    cases decoded
    simp
  | case2 acc i b rest lead ih => exact (ih decoded).trans (flatMap_push (bytesOf_one lead) rest)
  | case5 acc i b _ lead lead' b₁ rest second ih =>
    exact (ih decoded).trans (flatMap_push (bytesOf_two lead lead' second) rest)
  | case9 acc i b _ _ lead lead' b₁ second b₂ rest third ih =>
    exact (ih decoded).trans (flatMap_push (bytesOf_three lead lead' second third) rest)
  | case15 acc i b _ _ _ lead lead' b₁ second b₂ third b₃ rest fourth ih =>
    exact (ih decoded).trans (flatMap_push (bytesOf_four lead lead' second third fourth) rest)
  | _ => cases decoded

/-- **Decoded bytes are the bytes of the text.** -/
theorem encode_of_decode {bytes : Bytes} {s : String} (decoded : decode bytes = .ok s) : encode s = bytes := by
  simp only [decode] at decoded
  cases chars : decodeFrom [] 0 bytes with
  | error fault =>
    rw [chars] at decoded
    cases decoded
  | ok cs =>
    rw [chars] at decoded
    cases decoded
    simpa [encode] using decodeFrom_bytes chars

/-! ## Characters that are written -/

theorem isContinuation_ofNat {n : Nat} (low : 128 ≤ n) (high : n ≤ 191) : isContinuation (UInt8.ofNat n) = true := by
  have same := toNat_ofNat_byte (n := n) (by omega)
  simp [isContinuation, UInt8.le_iff_toNat_le, same, low, high]

theorem isSecond_ofNat {l n : Nat} (lead : l < 256) (low : 128 ≤ n) (high : n ≤ 191) (overlong : l = 224 → 160 ≤ n)
    (surrogate : l = 237 → n ≤ 159) (overlong' : l = 240 → 144 ≤ n) (large : l = 244 → n ≤ 143) :
    isSecond (UInt8.ofNat l) (UInt8.ofNat n) = true := by
  have same := toNat_ofNat_byte (n := n) (by omega)
  have same' := toNat_ofNat_byte lead
  have number (m : UInt8) : UInt8.ofNat l = m ↔ l = m.toNat := by rw [← UInt8.toNat_inj, same']
  simp only [isSecond, isContinuation, number, UInt8.le_iff_toNat_le, UInt8.reduceToNat, same]
  repeat' split
  all_goals simp only [Bool.and_eq_true, decide_eq_true_eq]
  all_goals omega

variable (acc : List Char) (i : Nat) (rest : Bytes)

theorem decodeFrom_two {b b₁ : UInt8} (lead : 0xC2 ≤ b.toNat) (lead' : b.toNat < 0xE0)
    (second : isContinuation b₁ = true) :
    decodeFrom acc i (b :: b₁ :: rest) = decodeFrom (Char.ofNat (b.toNat % 32 * 64 + payload b₁) :: acc) (i + 2) rest := by
  have more : ¬ b < 0x80 ∧ ¬ b < 0xC2 ∧ b < 0xE0 := by
    simp only [UInt8.lt_iff_toNat_lt, UInt8.reduceToNat]
    omega
  rw [decodeFrom.eq_def]
  simp only [more, second, if_true, if_false]

theorem decodeFrom_three {b b₁ b₂ : UInt8} (lead : 0xE0 ≤ b.toNat) (lead' : b.toNat < 0xF0)
    (second : isSecond b b₁ = true) (third : isContinuation b₂ = true) :
    decodeFrom acc i (b :: b₁ :: b₂ :: rest) =
      decodeFrom (Char.ofNat ((b.toNat % 16 * 64 + payload b₁) * 64 + payload b₂) :: acc) (i + 3) rest := by
  have more : ¬ b < 0x80 ∧ ¬ b < 0xC2 ∧ ¬ b < 0xE0 ∧ b < 0xF0 := by
    simp only [UInt8.lt_iff_toNat_lt, UInt8.reduceToNat]
    omega
  rw [decodeFrom.eq_def]
  simp only [more, second, third, if_true, if_false]

theorem decodeFrom_four {b b₁ b₂ b₃ : UInt8} (lead : 0xF0 ≤ b.toNat) (lead' : b.toNat < 0xF5)
    (second : isSecond b b₁ = true) (third : isContinuation b₂ = true) (fourth : isContinuation b₃ = true) :
    decodeFrom acc i (b :: b₁ :: b₂ :: b₃ :: rest) =
      decodeFrom (Char.ofNat (((b.toNat % 8 * 64 + payload b₁) * 64 + payload b₂) * 64 + payload b₃) :: acc) (i + 4)
        rest := by
  have more : ¬ b < 0x80 ∧ ¬ b < 0xC2 ∧ ¬ b < 0xE0 ∧ ¬ b < 0xF0 ∧ b < 0xF5 := by
    simp only [UInt8.lt_iff_toNat_lt, UInt8.reduceToNat]
    omega
  rw [decodeFrom.eq_def]
  simp only [more, second, third, fourth, if_true, if_false]

theorem payload_ofNat {n : Nat} (small : n < 256) : payload (UInt8.ofNat n) = n % 64 := by
  rw [payload, toNat_ofNat_byte small]

/-- The bytes of a character are read as this character. -/
theorem decodeFrom_char (c : Char) :
    ∃ j, decodeFrom acc i (String.utf8EncodeChar c ++ rest) = decodeFrom (c :: acc) j rest := by
  have valid : c.toNat.isValidChar := c.valid
  have back : Char.ofNat c.toNat = c := Char.ofNat_toNat c
  have range : c.toNat < 1114112 ∧ (c.toNat < 55296 ∨ 57343 < c.toNat) := by
    simp only [Nat.isValidChar] at valid
    omega
  have number : c.val.toNat = c.toNat := rfl
  simp only [String.utf8EncodeChar, number]
  generalize c.toNat = v at *
  split
  · refine ⟨i + 1, ?_⟩
    have same := toNat_ofNat_byte (n := v) (by omega)
    have small : UInt8.ofNat v < 0x80 := by
      simp only [UInt8.lt_iff_toNat_lt, UInt8.reduceToNat, same]
      omega
    rw [List.singleton_append, decodeFrom.eq_def]
    simp only [small, same, back, if_true]
  split
  · refine ⟨i + 2, ?_⟩
    have lead := toNat_ofNat_byte (n := v / 64 % 32 + 192) (by omega)
    have second := isContinuation_ofNat (n := v % 64 + 128) (by omega) (by omega)
    have whole : (v / 64 % 32 + 192) % 32 * 64 + (v % 64 + 128) % 64 = v := by omega
    rw [List.cons_append, List.cons_append, List.nil_append, decodeFrom_two acc i rest (by omega) (by omega) second,
      lead, payload_ofNat (by omega), whole, back]
  split
  · refine ⟨i + 3, ?_⟩
    have lead := toNat_ofNat_byte (n := v / 4096 % 16 + 224) (by omega)
    have second := isSecond_ofNat (l := v / 4096 % 16 + 224) (n := v / 64 % 64 + 128) (by omega) (by omega) (by omega)
      (by omega) (by omega) (by omega) (by omega)
    have third := isContinuation_ofNat (n := v % 64 + 128) (by omega) (by omega)
    have whole : ((v / 4096 % 16 + 224) % 16 * 64 + (v / 64 % 64 + 128) % 64) * 64 + (v % 64 + 128) % 64 = v := by omega
    rw [List.cons_append, List.cons_append, List.cons_append, List.nil_append,
      decodeFrom_three acc i rest (by omega) (by omega) second third, lead, payload_ofNat (by omega),
      payload_ofNat (by omega), whole, back]
  · refine ⟨i + 4, ?_⟩
    have lead := toNat_ofNat_byte (n := v / 262144 % 8 + 240) (by omega)
    have second := isSecond_ofNat (l := v / 262144 % 8 + 240) (n := v / 4096 % 64 + 128) (by omega) (by omega) (by omega)
      (by omega) (by omega) (by omega) (by omega)
    have third := isContinuation_ofNat (n := v / 64 % 64 + 128) (by omega) (by omega)
    have fourth := isContinuation_ofNat (n := v % 64 + 128) (by omega) (by omega)
    have whole : (((v / 262144 % 8 + 240) % 8 * 64 + (v / 4096 % 64 + 128) % 64) * 64 + (v / 64 % 64 + 128) % 64) * 64 +
        (v % 64 + 128) % 64 = v := by omega
    rw [List.cons_append, List.cons_append, List.cons_append, List.cons_append, List.nil_append,
      decodeFrom_four acc i rest (by omega) (by omega) second third fourth, lead, payload_ofNat (by omega),
      payload_ofNat (by omega), payload_ofNat (by omega), whole, back]

theorem decodeFrom_chars (acc cs : List Char) (i : Nat) :
    decodeFrom acc i (cs.flatMap String.utf8EncodeChar) = .ok (acc.reverse ++ cs) := by
  induction cs generalizing acc i with
  | nil => simp [decodeFrom]
  | cons c rest ih =>
    obtain ⟨j, read⟩ := decodeFrom_char acc i (rest.flatMap String.utf8EncodeChar) c
    rw [List.flatMap_cons, read, ih]
    simp

/-- **The bytes of a text are read as this text.** -/
theorem decode_encode (s : String) : decode (encode s) = .ok s := by
  rw [decode, encode, decodeFrom_chars]
  exact congrArg Except.ok String.ofList_toList

end HookFlow.Text
