import HookFlow.Proofs.Text.Ascii
import HookFlow.Proofs.Text.Order
import HookFlow.Text.Percent
/-!
Percent encoding: what is written is read back.

An escape is read back to its byte, and every byte but `%` stands for itself. So a text comes back unless `%` is kept
and two hexadecimal digits follow it by chance, and then it comes back shorter.

Results:
- `mem_utf8`: which ASCII bytes a text is written with.
- `mem_percentEncode`: the characters that are written.
- `percentDecode_encoded`: a text comes back if `%` is not kept.
- `percentDecode_encoded_iff`: where `%` and the digits are kept, a text comes back exactly if it holds no escape.
-/

namespace HookFlow.Text

/-! ## Bytes of a text -/

/-- the bytes of some characters -/
def utf8 (cs : List Char) : Bytes := cs.flatMap String.utf8EncodeChar

@[simp] theorem utf8_nil : utf8 [] = [] := rfl

@[simp] theorem utf8_cons (c : Char) (cs : List Char) : utf8 (c :: cs) = String.utf8EncodeChar c ++ utf8 cs := rfl

@[simp] theorem utf8_append (as bs : List Char) : utf8 (as ++ bs) = utf8 as ++ utf8 bs := List.flatMap_append

theorem encode_eq_utf8 (s : String) : encode s = utf8 s.toList := rfl

/-- Texts with the same bytes are the same. -/
theorem utf8_inj {as bs : List Char} (same : utf8 as = utf8 bs) : as = bs := by
  rcases lt_trichotomy as bs with less | eq | less
  · have bytes : utf8 as < utf8 bs := flatMap_lt less
    exact absurd (same ▸ bytes) (List.lt_irrefl _)
  · exact eq
  · have bytes : utf8 bs < utf8 as := flatMap_lt less
    exact absurd (same ▸ bytes) (List.lt_irrefl _)

theorem utf8_length_le {as bs : List Char} (part : as.Sublist bs) : (utf8 as).length ≤ (utf8 bs).length := by
  induction part with
  | slnil => exact Nat.le_refl 0
  | cons b _ ih =>
    rw [utf8_cons, List.length_append]
    omega
  | cons_cons b _ ih =>
    rw [utf8_cons, utf8_cons, List.length_append, List.length_append]
    omega

/-- A part of a text that takes as many bytes is the text. -/
theorem eq_of_utf8_length {as bs : List Char} (part : as.Sublist bs) (size : (utf8 bs).length ≤ (utf8 as).length) :
    as = bs := by
  induction part with
  | slnil => rfl
  | cons b part ih =>
    have fewer := utf8_length_le part
    have some := List.length_pos_of_ne_nil (String.utf8EncodeChar_ne_nil (c := b))
    rw [utf8_cons, List.length_append] at size
    omega
  | cons_cons b part ih =>
    rw [utf8_cons, utf8_cons, List.length_append, List.length_append] at size
    rw [ih (by omega)]

theorem utf8EncodeChar_ascii {c : Char} (ascii : c.toNat < 128) : String.utf8EncodeChar c = [UInt8.ofNat c.toNat] := by
  have small : c.val.toNat ≤ 127 := Nat.le_of_lt_succ ascii
  rw [String.utf8EncodeChar]
  exact if_pos small

theorem toNat_ofNat_ascii {c : Char} (ascii : c.toNat < 128) : (UInt8.ofNat c.toNat).toNat = c.toNat :=
  Nat.mod_eq_of_lt (by omega)

theorem utf8_ascii {cs : List Char} (ascii : ∀ c ∈ cs, c.toNat < 128) :
    utf8 cs = cs.map fun c => UInt8.ofNat c.toNat := by
  induction cs with
  | nil => rfl
  | cons c cs ih =>
    obtain ⟨first, later⟩ := List.forall_mem_cons.1 ascii
    rw [utf8_cons, utf8EncodeChar_ascii first, ih later]
    rfl

/-- An ASCII character is written with its own byte, and no other character is written with that byte. -/
theorem mem_utf8EncodeChar {c d : Char} (ascii : c.toNat < 128) :
    UInt8.ofNat c.toNat ∈ String.utf8EncodeChar d ↔ c = d := by
  constructor
  · intro among
    have bound := number_lt d
    have number (n : Nat) (small : n < 256) : UInt8.ofNat c.toNat = UInt8.ofNat n ↔ c.toNat = n :=
      ofNat_eq_ofNat (by omega) small
    have same : c.toNat = d.val.toNat := by
      unfold String.utf8EncodeChar at among
      generalize d.val.toNat = n at among bound ⊢
      dsimp only at among
      repeat' split at among
      all_goals
        simp (disch := omega) only [List.mem_cons, List.not_mem_nil, or_false, number] at among
      all_goals omega
    exact Char.toNat_inj.1 same
  · rintro rfl
    rw [utf8EncodeChar_ascii ascii]
    exact List.mem_singleton_self _

theorem mem_utf8 {c : Char} (ascii : c.toNat < 128) {cs : List Char} : UInt8.ofNat c.toNat ∈ utf8 cs ↔ c ∈ cs := by
  simp only [utf8, List.mem_flatMap, mem_utf8EncodeChar ascii, exists_eq_right']

/-! ## Single characters and bytes -/

theorem hexByte?_ascii {c : Char} (ascii : c.toNat < 128) : hexByte? (UInt8.ofNat c.toNat) = hexValue? c := by
  rw [hexByte?, toNat_ofNat_ascii ascii, Char.ofNat_toNat]

theorem upperHexDigit_ascii {n : Nat} (small : n < 16) :
    (upperHexDigit n).toNat < 128 ∧ (upperHexDigit n).isAlphanum = true ∧ hexValue? (upperHexDigit n) = some n := by
  revert n
  decide

/-- A byte that does not open an escape stands for itself. -/
theorem percentDecode_plain {b : UInt8} (plain : b ≠ 0x25) (rest : Bytes) :
    percentDecode (b :: rest) = b :: percentDecode rest :=
  percentDecode.eq_3 b rest fun _ _ _ opens _ => plain opens

/-- An escape is read back to its byte. -/
theorem percentDecode_percentByte (b : UInt8) (rest : Bytes) :
    percentDecode (utf8 (percentByte b) ++ rest) = b :: percentDecode rest := by
  have byte : b.toNat < 256 := UInt8.toNat_lt_size b
  obtain ⟨ascii, -, high⟩ := upperHexDigit_ascii (show b.toNat / 16 < 16 by omega)
  obtain ⟨ascii', -, low⟩ := upperHexDigit_ascii (show b.toNat % 16 < 16 by omega)
  have value : UInt8.ofNat (b.toNat / 16 * 16 + b.toNat % 16) = b := by
    rw [show b.toNat / 16 * 16 + b.toNat % 16 = b.toNat by omega, UInt8.ofNat_toNat]
  have written : utf8 (percentByte b) ++ rest = 0x25 :: UInt8.ofNat (upperHexDigit (b.toNat / 16)).toNat ::
      UInt8.ofNat (upperHexDigit (b.toNat % 16)).toNat :: rest := by
    simp only [percentByte, utf8_cons, utf8_nil, utf8EncodeChar_ascii ascii, utf8EncodeChar_ascii ascii']
    rfl
  rw [written, percentDecode.eq_2]
  simp only [hexByte?_ascii ascii, hexByte?_ascii ascii', high, low, value]

theorem percentDecode_percentBytes (bs rest : Bytes) :
    percentDecode (utf8 (bs.flatMap percentByte) ++ rest) = bs ++ percentDecode rest := by
  induction bs with
  | nil => rfl
  | cons b bs ih =>
    rw [List.flatMap_cons, utf8_append, List.append_assoc, percentDecode_percentByte, ih, List.cons_append]

/-! ## Escapes -/

/-- whether a text starts with an escape -/
def startsEscape : List Char → Bool
  | '%' :: a :: b :: _ => (hexValue? a).isSome && (hexValue? b).isSome
  | _ => false

/-- whether a text holds an escape -/
def hasEscape : List Char → Bool
  | [] => false
  | c :: cs => startsEscape (c :: cs) || hasEscape cs

theorem startsEscape_eq_true {cs : List Char} (starts : startsEscape cs = true) :
    ∃ a b rest, cs = '%' :: a :: b :: rest ∧ (hexValue? a).isSome = true ∧ (hexValue? b).isSome = true := by
  unfold startsEscape at starts
  split at starts
  · rw [Bool.and_eq_true] at starts
    exact ⟨_, _, _, rfl, starts.1, starts.2⟩
  · cases starts

theorem hasEscape_of_not_mem {cs : List Char} (unsigned : '%' ∉ cs) : hasEscape cs = false := by
  induction cs with
  | nil => rfl
  | cons c cs ih =>
    obtain ⟨first, later⟩ := not_or.1 (mt List.mem_cons.2 unsigned)
    rw [hasEscape, ih later, Bool.or_false, Bool.eq_false_iff]
    intro starts
    obtain ⟨a, b, rest, same, -⟩ := startsEscape_eq_true starts
    exact first (List.cons.inj same).1.symm

/-- A block of a text without an escape holds none. -/
theorem hasEscape_of_infix {block cs : List Char} (within : block <:+: cs) (plain : hasEscape cs = false) :
    hasEscape block = false := by
  have later (as bs : List Char) (plain : hasEscape (as ++ bs) = false) : hasEscape bs = false := by
    induction as with
    | nil => exact plain
    | cons a as ih =>
      rw [List.cons_append, hasEscape, Bool.or_eq_false_iff] at plain
      exact ih plain.2
  have earlier (as bs : List Char) (plain : hasEscape (as ++ bs) = false) : hasEscape as = false := by
    induction as with
    | nil => rfl
    | cons a as ih =>
      rw [List.cons_append, hasEscape, Bool.or_eq_false_iff] at plain
      rw [hasEscape, ih plain.2, Bool.or_false, Bool.eq_false_iff]
      intro starts
      obtain ⟨x, y, rest, same, high, low⟩ := startsEscape_eq_true starts
      obtain ⟨rfl, rfl⟩ := List.cons.inj same
      simp [startsEscape, high, low] at plain
  obtain ⟨front, back, rfl⟩ := within
  exact later front block (earlier _ back plain)

/-- A sign that belongs to no escape keeps the escapes on its two sides apart. -/
theorem hasEscape_append {sign : Char} (sign_plain : sign ≠ '%' ∧ hexValue? sign = none) (as bs : List Char) :
    hasEscape (as ++ sign :: bs) = (hasEscape as || hasEscape bs) := by
  obtain ⟨percent, digit⟩ := sign_plain
  have none (cs : List Char) : startsEscape (sign :: cs) = false := by
    rw [Bool.eq_false_iff]
    intro starts
    obtain ⟨x, y, rest, same, -⟩ := startsEscape_eq_true starts
    exact percent (List.cons.inj same).1
  induction as with
  | nil => simp [hasEscape, none]
  | cons a as ih =>
    have start : startsEscape (a :: (as ++ sign :: bs)) = startsEscape (a :: as) := by
      by_cases opens : a = '%'
      · subst opens
        match as with
        | [] => cases bs <;> simp [startsEscape, digit]
        | [x] => simp [startsEscape, digit]
        | x :: y :: as => rfl
      · simp [startsEscape, opens]
    rw [List.cons_append, hasEscape, hasEscape, start, ih, Bool.or_assoc]

theorem ascii_of_hexValue? {c : Char} (digit : (hexValue? c).isSome = true) : c.toNat < 128 := by
  rw [hexValue?] at digit
  split at digit
  · rename_i range
    exact ascii_of_le range.2 (by decide)
  split at digit
  · rename_i range
    exact ascii_of_le range.2 (by decide)
  split at digit
  · rename_i range
    exact ascii_of_le range.2 (by decide)
  · cases digit

section

variable {keep : Char → Bool}

/-- the bytes of an escaped text -/
def escaped (keep : Char → Bool) (cs : List Char) : Bytes := utf8 (percentEncode keep cs)

theorem escaped_kept {c : Char} (ascii : c.toNat < 128) (kept : keep c = true) (cs : List Char) :
    escaped keep (c :: cs) = UInt8.ofNat c.toNat :: escaped keep cs := by
  have single : percentChar keep c = [c] := if_pos ⟨ascii, kept⟩
  rw [escaped, percentEncode, List.flatMap_cons, single, List.singleton_append, utf8_cons, utf8EncodeChar_ascii ascii]
  rfl

theorem escaped_changed {c : Char} (changed : ¬ (c.toNat < 128 ∧ keep c = true)) (cs : List Char) :
    escaped keep (c :: cs) = utf8 ((String.utf8EncodeChar c).flatMap percentByte) ++ escaped keep cs := by
  have bytes : percentChar keep c = (String.utf8EncodeChar c).flatMap percentByte := if_neg changed
  rw [escaped, percentEncode, List.flatMap_cons, bytes, utf8_append]
  rfl

/-- What is written for a text that is not empty starts with its first character, or with `%`. -/
theorem escaped_head {c : Char} {cs : List Char} {b : UInt8} {rest : Bytes}
    (written : escaped keep (c :: cs) = b :: rest) :
    b = 0x25 ∨ (c.toNat < 128 ∧ b = UInt8.ofNat c.toNat ∧ rest = escaped keep cs) := by
  by_cases kept : c.toNat < 128 ∧ keep c = true
  · rw [escaped_kept kept.1 kept.2, List.cons.injEq] at written
    exact .inr ⟨kept.1, written.1.symm, written.2.symm⟩
  · rw [escaped_changed kept] at written
    cases bytes : String.utf8EncodeChar c with
    | nil => exact absurd bytes String.utf8EncodeChar_ne_nil
    | cons b' bs =>
      rw [bytes, List.flatMap_cons, utf8_append, List.append_assoc] at written
      exact .inl (List.cons.inj written).1.symm

theorem hexByte?_percent : hexByte? 0x25 = none := by decide

/-- A `%` that opens no escape is read as itself. -/
theorem percentDecode_percent {cs : List Char} (plain : startsEscape ('%' :: cs) = false) :
    percentDecode (0x25 :: escaped keep cs) = 0x25 :: percentDecode (escaped keep cs) := by
  rcases written : escaped keep cs with _ | ⟨b, _ | ⟨b', rest⟩⟩
  · exact percentDecode.eq_3 _ _ fun _ _ _ _ more => by cases more
  · exact percentDecode.eq_3 _ _ fun _ _ _ _ more => by cases more
  · have undigital : hexByte? b = none ∨ hexByte? b' = none := by
      cases cs with
      | nil => cases written
      | cons c cs =>
        rcases escaped_head written with rfl | ⟨ascii, rfl, later⟩
        · exact .inl hexByte?_percent
        cases cs with
        | nil => cases later
        | cons d cs =>
          rcases escaped_head later.symm with rfl | ⟨ascii', rfl, -⟩
          · exact .inr hexByte?_percent
          rw [hexByte?_ascii ascii, hexByte?_ascii ascii']
          rw [startsEscape, Bool.and_eq_false_iff] at plain
          simpa using plain
    rw [percentDecode.eq_2]
    rcases undigital with none | none
    · rw [none]
    · rw [none]
      cases hexByte? b <;> rfl

/-- **A character is read back** unless it is a `%` that opens an escape. -/
theorem percentDecode_escaped_cons {c : Char} {cs : List Char}
    (plain : keep '%' = true → startsEscape (c :: cs) = false) :
    percentDecode (escaped keep (c :: cs)) = String.utf8EncodeChar c ++ percentDecode (escaped keep cs) := by
  by_cases kept : c.toNat < 128 ∧ keep c = true
  · rw [escaped_kept kept.1 kept.2, utf8EncodeChar_ascii kept.1]
    by_cases percent : c = '%'
    · subst percent
      exact percentDecode_percent (plain kept.2)
    · refine percentDecode_plain (fun opens => percent ?_) _
      have same := congrArg UInt8.toNat opens
      rw [toNat_ofNat_ascii kept.1] at same
      exact Char.toNat_inj.1 same
  · rw [escaped_changed kept, percentDecode_percentBytes]

/-- **A text comes back if `%` is not kept.** -/
theorem percentDecode_encoded (changed : keep '%' = false) (cs : List Char) :
    percentDecode (escaped keep cs) = utf8 cs := by
  induction cs with
  | nil => exact percentDecode.eq_1
  | cons c cs ih =>
    rw [percentDecode_escaped_cons fun kept => absurd kept (by simp [changed]), ih, utf8_cons]

/-- **A text without an escape comes back.** -/
theorem percentDecode_unescaped {cs : List Char} (plain : hasEscape cs = false) :
    percentDecode (escaped keep cs) = utf8 cs := by
  induction cs with
  | nil => exact percentDecode.eq_1
  | cons c cs ih =>
    rw [hasEscape, Bool.or_eq_false_iff] at plain
    rw [percentDecode_escaped_cons fun _ => plain.1, ih plain.2, utf8_cons]

/-! ## Escapes that are kept -/

/-- The bytes that are read back are no more than those of the text, and fewer if it holds an escape. -/
theorem length_percentDecode (percent : keep '%' = true)
    (digits : ∀ c, (hexValue? c).isSome = true → keep c = true) (cs : List Char) :
    (percentDecode (escaped keep cs)).length + (if hasEscape cs then 1 else 0) ≤ (utf8 cs).length := by
  match cs with
  | [] => exact Nat.le_of_eq (congrArg List.length percentDecode.eq_1)
  | c :: cs =>
    cases starts : startsEscape (c :: cs) with
    | false =>
      have ih := length_percentDecode percent digits cs
      rw [percentDecode_escaped_cons fun _ => starts, hasEscape, starts, Bool.false_or, utf8_cons, List.length_append,
        List.length_append]
      omega
    | true =>
      obtain ⟨a, b, rest, same, high, low⟩ := startsEscape_eq_true starts
      obtain ⟨rfl, rfl⟩ := List.cons.inj same
      have ih := length_percentDecode percent digits rest
      have ascii := ascii_of_hexValue? high
      have ascii' := ascii_of_hexValue? low
      obtain ⟨x, value⟩ := Option.isSome_iff_exists.1 high
      obtain ⟨y, value'⟩ := Option.isSome_iff_exists.1 low
      have read : percentDecode (escaped keep ('%' :: a :: b :: rest)) =
          UInt8.ofNat (x * 16 + y) :: percentDecode (escaped keep rest) := by
        rw [escaped_kept (by decide) percent, escaped_kept ascii (digits a high), escaped_kept ascii' (digits b low)]
        refine (percentDecode.eq_2 _ _ _).trans ?_
        simp only [hexByte?_ascii ascii, hexByte?_ascii ascii', value, value']
      rw [read, hasEscape, starts, Bool.true_or, if_pos rfl]
      simp only [utf8_cons, utf8EncodeChar_ascii ascii, utf8EncodeChar_ascii ascii',
        utf8EncodeChar_ascii (show ('%').toNat < 128 by decide), List.length_append, List.length_cons, List.length_nil]
      omega

/-- **Where `%` and the digits are kept, a text comes back exactly if it holds no escape.** -/
theorem percentDecode_encoded_iff (percent : keep '%' = true)
    (digits : ∀ c, (hexValue? c).isSome = true → keep c = true) {cs : List Char} :
    percentDecode (escaped keep cs) = utf8 cs ↔ hasEscape cs = false := by
  constructor
  · intro back
    have bound := length_percentDecode percent digits cs
    rw [back] at bound
    cases escapes : hasEscape cs with
    | false => rfl
    | true =>
      rw [escapes, if_pos rfl] at bound
      omega
  · exact percentDecode_unescaped

end

/-! ## What is written -/

/-- A text that is kept stays as it is. -/
theorem percentEncode_kept {keep : Char → Bool} {cs : List Char} (kept : ∀ c ∈ cs, c.toNat < 128 ∧ keep c = true) :
    percentEncode keep cs = cs := by
  induction cs with
  | nil => rfl
  | cons c cs ih =>
    obtain ⟨first, later⟩ := List.forall_mem_cons.1 kept
    have single : percentChar keep c = [c] := if_pos first
    rw [percentEncode, List.flatMap_cons, single]
    exact congrArg (c :: ·) (ih later)

/-- **The characters that are written** are kept ones, or belong to an escape. -/
theorem mem_percentEncode {keep : Char → Bool} {cs : List Char} {d : Char} (hd : d ∈ percentEncode keep cs) :
    d.toNat < 128 ∧ (keep d = true ∨ d = '%' ∨ d.isAlphanum = true) := by
  obtain ⟨c, -, hd⟩ := List.mem_flatMap.1 hd
  rw [percentChar] at hd
  split at hd
  · rename_i kept
    obtain rfl := List.mem_singleton.1 hd
    exact ⟨kept.1, .inl kept.2⟩
  · obtain ⟨b, -, hd⟩ := List.mem_flatMap.1 hd
    have byte : b.toNat < 256 := UInt8.toNat_lt_size b
    obtain ⟨ascii, letter, -⟩ := upperHexDigit_ascii (show b.toNat / 16 < 16 by omega)
    obtain ⟨ascii', letter', -⟩ := upperHexDigit_ascii (show b.toNat % 16 < 16 by omega)
    simp only [percentByte, List.mem_cons, List.not_mem_nil, or_false] at hd
    rcases hd with rfl | rfl | rfl
    · exact ⟨by decide, .inr (.inl rfl)⟩
    · exact ⟨ascii, .inr (.inr letter)⟩
    · exact ⟨ascii', .inr (.inr letter')⟩

end HookFlow.Text
