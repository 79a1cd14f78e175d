import HookFlow.Text.Utf8
import Mathlib.Data.String.Basic
/-!
The order of texts is the order of their bytes: UTF-8 writes a greater character with greater bytes, whatever
follows. So a list of names that ascends character by character ascends byte by byte as well.

Results:
- `utf8EncodeChar_lt`: one character.
- `encode_lt`: whole texts.
-/

namespace HookFlow.Text

theorem ofNat_lt_ofNat {m n : Nat} (small : m < 256) (small' : n < 256) : UInt8.ofNat m < UInt8.ofNat n ↔ m < n := by
  rw [UInt8.lt_iff_toNat_lt, UInt8.toNat_ofNat_of_lt' small, UInt8.toNat_ofNat_of_lt' small']

theorem ofNat_eq_ofNat {m n : Nat} (small : m < 256) (small' : n < 256) : UInt8.ofNat m = UInt8.ofNat n ↔ m = n := by
  rw [← UInt8.toNat_inj, UInt8.toNat_ofNat_of_lt' small, UInt8.toNat_ofNat_of_lt' small']

theorem number_lt (c : Char) : c.val.toNat < 0x110000 := by
  rcases c.valid with low | ⟨-, high⟩
  · exact Nat.lt_trans low (by decide)
  · exact high

/-- the digits of a number to the base 64 -/
theorem digits (n : Nat) : n / 4096 = n / 64 / 64 ∧ n / 262144 = n / 64 / 64 / 64 := by omega

/-- **A greater character is written with greater bytes.** A sequence with more bytes has a greater first byte; among
sequences of one length the bytes are digits, the highest first. -/
theorem utf8EncodeChar_lt {c d : Char} (less : c < d) (cs ds : Bytes) :
    String.utf8EncodeChar c ++ cs < String.utf8EncodeChar d ++ ds := by
  have numbers : c.val.toNat < d.val.toNat := UInt32.lt_iff_toNat_lt.1 less
  have bound := number_lt d
  unfold String.utf8EncodeChar
  generalize c.val.toNat = m at numbers
  generalize d.val.toNat = n at numbers bound
  simp only [digits]
  repeat' split
  all_goals
    simp (disch := omega) only [List.cons_append, List.nil_append, List.cons_lt_cons_iff, ofNat_lt_ofNat,
      ofNat_eq_ofNat]
  all_goals omega

theorem append_lt_append {as bs : Bytes} (cs : Bytes) (less : as < bs) : cs ++ as < cs ++ bs := by
  induction cs with
  | nil => exact less
  | cons c cs ih => exact List.cons_lt_cons_iff.2 (.inr ⟨rfl, ih⟩)

theorem flatMap_lt {cs ds : List Char} (less : cs < ds) :
    cs.flatMap String.utf8EncodeChar < ds.flatMap String.utf8EncodeChar := by
  induction ds generalizing cs with
  | nil => exact absurd less (List.not_lt_nil cs)
  | cons d ds ih =>
    cases cs with
    | nil =>
      rw [List.flatMap_nil, List.flatMap_cons]
      obtain ⟨b, rest, bytes⟩ := List.exists_cons_of_ne_nil (String.utf8EncodeChar_ne_nil (c := d))
      rw [bytes]
      exact List.nil_lt_cons b _
    | cons c cs =>
      rw [List.flatMap_cons, List.flatMap_cons]
      rcases List.cons_lt_cons_iff.1 less with first | ⟨rfl, later⟩
      · exact utf8EncodeChar_lt first _ _
      · exact append_lt_append _ (ih later)

/-- **A greater text has greater bytes.** -/
theorem encode_lt {s t : String} (less : s < t) : encode s < encode t :=
  flatMap_lt (String.lt_iff_toList_lt.1 less)

end HookFlow.Text
