import HookFlow.Deployment.Name
import HookFlow.Proofs.Text.Ascii
import HookFlow.Proofs.Text.Percent
import HookFlow.Proofs.Text.Utf8
/-!
Deployment names as names of storage accounts.

A flow's name gives its ASCII letters and digits to the deployment name, in small letters, and nothing else. So all
characters of a deployment name are one byte long, and cutting it at a number of bytes never cuts through a character.
Behind the lead there is room for 21 characters: two flows share a deployment name exactly if they agree on these.

Results:
- `truncated_ascii`: a text of ASCII characters can be cut at any byte.
- `cleaned_eq`: what a flow's name gives to the deployment name.
- `name_storable`: deployment names name storage accounts, and when two flows share one.
-/

namespace HookFlow

/-- the beginning of a text that is `n` bytes long, or the whole text if it is shorter; a fault if the cut is inside a
character -/
def Text.truncated (n : Nat) (s : String) : Except Utf8Fault String := decode ((encode s).take n)

/-- **A text of ASCII characters can be cut at any byte.** -/
theorem Text.truncated_ascii {s : String} (ascii : ∀ c ∈ s.toList, c.toNat < 128) (n : Nat) :
    truncated n s = .ok (String.ofList (s.toList.take n)) := by
  have front : ∀ c ∈ s.toList.take n, c.toNat < 128 := fun c hc => ascii c (List.mem_of_mem_take hc)
  have bytes : (encode s).take n = encode (String.ofList (s.toList.take n)) := by
    rw [encode_eq_utf8, encode_eq_utf8, String.toList_ofList, utf8_ascii ascii, utf8_ascii front, List.map_take]
  rw [truncated, bytes, decode_encode]

/-- Of another text the cut may go through a character. -/
example : (Text.truncated 2 (String.ofList ['a', 'ä'])).toOption = none := by
  rw [Text.truncated, Text.encode_eq_utf8, String.toList_ofList]
  decide

namespace Deployment

/-! ## What a name is made of -/

/-- a character that the name of a storage account may hold: a small letter or a digit, both of them ASCII -/
def IsAccountLetter (c : Char) : Prop := ('a' ≤ c ∧ c ≤ 'z') ∨ ('0' ≤ c ∧ c ≤ '9')

instance (c : Char) : Decidable (IsAccountLetter c) := inferInstanceAs (Decidable (_ ∨ _))

/-- what a character of a flow's name gives to the deployment name: a capital letter gives its small letter, and what
is no letter or digit of ASCII gives nothing -/
def accountLetter? (c : Char) : Option Char :=
  if IsAccountLetter c then some c
  else if 'A' ≤ c ∧ c ≤ 'Z' then some (Char.ofNat (c.toNat + 32))
  else none

/-- the ASCII letters and digits of a text in small letters -/
def accountLetters (s : String) : List Char := s.toList.filterMap accountLetter?

theorem isNameChar_iff {c : Char} : isNameChar c = true ↔ IsAccountLetter c ∨ ('A' ≤ c ∧ c ≤ 'Z') := by
  have letters : isNameChar c = (c.isUpper || c.isLower || c.isDigit) := rfl
  rw [letters, Bool.or_eq_true, Bool.or_eq_true, Text.isUpper_iff, Text.isLower_iff, Text.isDigit_iff, IsAccountLetter]
  tauto

theorem ascii_of_isNameChar {c : Char} (kept : isNameChar c = true) : c.toNat < 128 := by
  have range : c ≤ 'z' ∨ c ≤ '9' ∨ c ≤ 'Z' := by
    rcases isNameChar_iff.1 kept with (small | digit) | capital
    · exact .inl small.2
    · exact .inr (.inl digit.2)
    · exact .inr (.inr capital.2)
  rcases range with below | below | below
  all_goals exact Text.ascii_of_le below (by decide)

/-- A character gives what the two steps give that select characters and make them small. -/
theorem accountLetter?_eq (c : Char) : accountLetter? c = if isNameChar c = true then some c.toLower else none := by
  by_cases ascii : c.toNat < 128
  · have each : ∀ n < 128, accountLetter? (Char.ofNat n) =
        if isNameChar (Char.ofNat n) = true then some (Char.ofNat n).toLower else none := by decide
    exact Text.forall_ascii (P := fun c => accountLetter? c = if isNameChar c = true then some c.toLower else none)
      each ascii
  · have dropped : ¬ isNameChar c = true := fun kept => ascii (ascii_of_isNameChar kept)
    obtain ⟨other, small⟩ := not_or.1 (mt isNameChar_iff.2 dropped)
    rw [accountLetter?, if_neg other, if_neg small, if_neg dropped]

/-- **What a flow's name gives to the deployment name.** -/
theorem cleaned_eq (flow : String) : cleaned flow = accountLetters flow := by
  unfold cleaned accountLetters
  induction flow.toList with
  | nil => rfl
  | cons c rest ih =>
    rw [List.filter_cons, List.filterMap_cons, accountLetter?_eq]
    split
    · exact congrArg (c.toLower :: ·) ih
    · exact ih

theorem isAccountLetter_of_given {c d : Char} (given : accountLetter? c = some d) : IsAccountLetter d := by
  have kept : isNameChar c = true := by
    by_contra dropped
    rw [accountLetter?_eq, if_neg dropped] at given
    cases given
  have each : ∀ n < 128, (accountLetter? (Char.ofNat n)).all (fun d => decide (IsAccountLetter d)) = true := by decide
  have here := Text.forall_ascii (P := fun c => (accountLetter? c).all (fun d => decide (IsAccountLetter d)) = true) each
    (ascii_of_isNameChar kept)
  rw [given] at here
  exact of_decide_eq_true here

theorem isAccountLetter_of_mem {flow : String} {d : Char} (held : d ∈ accountLetters flow) : IsAccountLetter d := by
  obtain ⟨c, -, given⟩ := List.mem_filterMap.1 held
  exact isAccountLetter_of_given given

/-! ## Whole names -/

/-- What follows the lead. -/
theorem toList_name (flow : String) : (name flow).toList = nameLead.toList ++ (accountLetters flow).take 21 := by
  rw [name, String.toList_ofList, cleaned_eq, List.take_append, List.take_of_length_le]
  · rfl
  · decide

/-- **Deployment names name storage accounts.** The cut that limits a name goes through no character. What comes of it is
the lead and 21 characters at most, small letters and digits of ASCII. Two flows share a name exactly if the first 21 ASCII
letters and digits of their names are the same up to case. -/
theorem name_storable (flow other : String) :
    Text.truncated maxNameLength (nameLead ++ String.ofList (accountLetters flow)) = .ok (name flow) ∧
      (∃ tail, (name flow).toList = ['d', 's', 'p'] ++ tail ∧ tail.length ≤ 21 ∧ ∀ c ∈ tail, IsAccountLetter c) ∧
      (name flow = name other ↔ (accountLetters flow).take 21 = (accountLetters other).take 21) := by
  refine ⟨?_, ⟨(accountLetters flow).take 21, ?_, ?_, ?_⟩, ?_⟩
  · have letters : (nameLead ++ String.ofList (accountLetters flow)).toList = nameLead.toList ++ accountLetters flow := by
      rw [String.toList_append, String.toList_ofList]
    have ascii : ∀ c ∈ nameLead.toList ++ accountLetters flow, c.toNat < 128 := by
      intro c hc
      rcases List.mem_append.1 hc with lead | tail
      · have each : nameLead.toList.all (fun c => decide (c.toNat < 128)) = true := by decide
        exact of_decide_eq_true (List.all_eq_true.1 each c lead)
      · exact ascii_of_isNameChar (isNameChar_iff.2 (.inl (isAccountLetter_of_mem tail)))
    rw [Text.truncated_ascii (letters ▸ ascii), letters, name, cleaned_eq]
  · rw [toList_name]
    rfl
  · exact List.length_take_le 21 _
  · intro c hc
    exact isAccountLetter_of_mem (List.mem_of_mem_take hc)
  · rw [← String.toList_inj, toList_name, toList_name, List.append_cancel_left_eq]

end Deployment
end HookFlow
