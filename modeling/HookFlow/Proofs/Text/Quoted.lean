import HookFlow.Text.Quoted
/-!
String literals: what is written is read back.

Every character is escaped on its own, in one of three ways, and the reader takes each of them back to that
character, whatever follows. So a literal ends where it was meant to end.

Results:
- `escape_cases`: the three ways in which a character is written.
- `literal?_escaped`: the reader stops behind the closing quote and has the text.
- `literalFrom?_append`: a literal that ends does not depend on what follows.
- `quoteChars_printable`: a literal has no character below U+0020, so it lies on one line.
-/

namespace HookFlow.Text

/-! ## One character -/

theorem hexValue?_hexDigit {n : Nat} (small : n < 16) : hexValue? (hexDigit n) = some n := by
  revert n
  decide

theorem hexDigit_printable {n : Nat} (small : n < 16) : 0x20 ≤ (hexDigit n).toNat := by
  revert n
  decide

theorem hexDigit_ne {n : Nat} (small : n < 16) : hexDigit n ≠ '"' ∧ hexDigit n ≠ '\\' := by
  revert n
  decide

/-- **A character is written in one of three ways**: behind a backslash, as a number, or as itself. -/
theorem escape_cases (c : Char) :
    (∃ e, escape c = ['\\', e] ∧ plainEscape? e = some c ∧ e ≠ 'u' ∧ 0x20 ≤ e.toNat) ∨
      (c.toNat < 0x20 ∧
        escape c = ['\\', 'u', '0', '0', hexDigit (c.toNat / 16), hexDigit (c.toNat % 16)]) ∨
      (escape c = [c] ∧ c ≠ '"' ∧ c ≠ '\\' ∧ 0x20 ≤ c.toNat) := by
  by_cases short : c ∈ ['"', '\\', '\x08', '\x0c', '\n', '\r', '\t']
  · left
    simp only [List.mem_cons, List.not_mem_nil, or_false] at short
    rcases short with rfl | rfl | rfl | rfl | rfl | rfl | rfl
    all_goals exact ⟨_, rfl, rfl, by decide, by decide⟩
  · right
    simp only [List.mem_cons, List.not_mem_nil, or_false, not_or] at short
    obtain ⟨quote, slash, h₁, h₂, h₃, h₄, h₅⟩ := short
    by_cases control : c.toNat < 0x20
    · exact .inl ⟨control, by simp [escape, *]⟩
    · exact .inr ⟨by simp [escape, *], quote, slash, Nat.le_of_not_lt control⟩

theorem escape_printable {c d : Char} (hd : d ∈ escape c) : 0x20 ≤ d.toNat := by
  rcases escape_cases c with ⟨e, written, -, -, printable⟩ | ⟨control, written⟩ | ⟨written, -, -, printable⟩
  · rw [written] at hd
    simp only [List.mem_cons, List.not_mem_nil, or_false] at hd
    rcases hd with rfl | rfl
    · decide
    · exact printable
  · rw [written] at hd
    simp only [List.mem_cons, List.not_mem_nil, or_false] at hd
    rcases hd with rfl | rfl | rfl | rfl | rfl | rfl
    · decide
    · decide
    · decide
    · decide
    · exact hexDigit_printable (by omega)
    · exact hexDigit_printable (by omega)
  · rw [written, List.mem_singleton] at hd
    rw [hd]
    exact printable

theorem hex4?_control {n : Nat} (small : n < 0x20) :
    hex4? '0' '0' (hexDigit (n / 16)) (hexDigit (n % 16)) = some n := by
  have zero : hexValue? '0' = some 0 := by decide
  simp only [hex4?, zero, hexValue?_hexDigit (show n / 16 < 16 by omega),
    hexValue?_hexDigit (show n % 16 < 16 by omega), Option.bind_eq_bind, Option.bind_some]
  exact congrArg some (by omega)

/-- What was written for a character is read as that character. -/
theorem literalFrom?_escape (g : Gathered) (c : Char) (rest : List Char) :
    literalFrom? g (escape c ++ rest) = literalFrom? (g.push c) rest := by
  rcases escape_cases c with ⟨e, written, plain, other, -⟩ | ⟨control, written⟩ | ⟨written, quote, slash, printable⟩
  · rw [written]
    simp [literalFrom?, plain, other]
  · rw [written]
    simp [literalFrom?, hex4?_control control, show c.toNat < 0xD800 by omega]
  · rw [written]
    simp [literalFrom?, slash, Nat.not_lt.2 printable]

/-! ## The whole literal -/

theorem literalFrom?_escaped (cs acc : List Char) (rest : List Char) :
    literalFrom? (some acc) (cs.flatMap escape ++ '"' :: rest) = some (some (acc.reverse ++ cs), rest) := by
  induction cs generalizing acc with
  | nil => simp [literalFrom?]
  | cons c cs ih =>
    rw [List.flatMap_cons, List.append_assoc, literalFrom?_escape]
    simpa [Gathered.push] using ih (c :: acc)

/-- **The reader stops behind the closing quote and has the text.** -/
theorem literal?_escaped (cs rest : List Char) :
    literal? (cs.flatMap escape ++ '"' :: rest) = some (some cs, rest) :=
  literalFrom?_escaped cs [] rest

/-- What can be read does not end in the middle of an escape. -/
theorem escape_whole {g : Gathered} {cs more rest : List Char} {r : Gathered × List Char} {a b c d : Char}
    (read : literalFrom? g cs = some r) (same : cs ++ more = '\\' :: 'u' :: a :: b :: c :: d :: rest) :
    ∃ rest', cs = '\\' :: 'u' :: a :: b :: c :: d :: rest' := by
  rcases cs with _ | ⟨slash, _ | ⟨u, digits⟩⟩
  · cases read
  · obtain ⟨rfl, -⟩ := List.cons.inj same
    simp [literalFrom?] at read
  · obtain ⟨rfl, behind⟩ := List.cons.inj same
    obtain ⟨rfl, four⟩ := List.cons.inj behind
    rcases digits with _ | ⟨a', _ | ⟨b', _ | ⟨c', _ | ⟨d', rest'⟩⟩⟩⟩
    case cons.cons.cons.cons =>
      cases four
      exact ⟨rest', rfl⟩
    all_goals simp [literalFrom?, plainEscape?] at read

/-- **What follows a literal does not change it.** -/
theorem literalFrom?_append {g : Gathered} {cs rest : List Char} {x : Option (List Char)}
    (read : literalFrom? g cs = some (x, rest)) (more : List Char) :
    literalFrom? g (cs ++ more) = some (x, rest ++ more) := by
  fun_induction literalFrom? g cs with
  | case1 => cases read
  | case2 g cs =>
    cases read
    simp [literalFrom?]
  | case3 => cases read
  | case4 g a b c d cs m number plain ih =>
    simp only [List.cons_append, literalFrom?, number, plain, if_true]
    exact ih read
  | case5 g a b c d cs m number half low ih =>
    simp only [List.cons_append, literalFrom?, number, half, low, if_false, if_true]
    exact ih read
  | case6 => cases read
  | case7 g a b c d m number half high a' b' c' d' cs m' number' low ih =>
    simp only [List.cons_append, literalFrom?, number, half, high, number', low, if_false, and_self, if_true]
    exact ih read
  | case8 g a b c d m number half high a' b' c' d' cs m' number' other ih =>
    simp only [List.cons_append, literalFrom?, number, half, high, number', other, if_false]
    exact ih read
  | case9 g a b c d m number half high cs other ih =>
    have alone : ∀ a b c d rest', cs ++ more = '\\' :: 'u' :: a :: b :: c :: d :: rest' → False := by
      intro a b c d rest' same
      obtain ⟨rest'', whole⟩ := escape_whole read same
      exact other a b c d rest'' whole
    simp only [List.cons_append, literalFrom?, number, half, high, if_false]
    exact ih read
  | case10 g e cs long c short ih =>
    have other : e ≠ 'u' := by
      rintro rfl
      cases short
    rw [List.cons_append, List.cons_append, literalFrom?.eq_4 _ _ _ (fun a b c d rest same => absurd same other), short]
    exact ih read
  | case11 => cases read
  | case12 => cases read
  | case13 g c cs quote slash slash' plain ih =>
    have solid : c ≠ '\\' := fun same => plain (.inl same)
    rw [List.cons_append, literalFrom?.eq_5 _ _ _ quote (fun _ _ _ _ _ same => absurd same solid)
      (fun _ _ same => absurd same solid), if_neg plain]
    exact ih read

/-- **A literal lies on one line.** -/
theorem quoteChars_printable (cs : List Char) {d : Char} (hd : d ∈ quoteChars cs) : 0x20 ≤ d.toNat := by
  simp only [quoteChars, List.mem_cons, List.mem_append, List.mem_flatMap, List.not_mem_nil, or_false] at hd
  rcases hd with rfl | ⟨c, -, hc⟩ | rfl
  · decide
  · exact escape_printable hc
  · decide

end HookFlow.Text
