import HookFlow.Proofs.Script.Lexer
/-!
String literals of scripts, and what is written as one.

A script reads more as a literal than `quote` writes: escapes with two digits, with four or with any number of them in
braces, line breaks that are left out, control characters as they are. The value of a literal is a list of units of 16
bits, in which a character past U+FFFF is two. The reader goes over a literal one character at a time.

Both readers, this one and the one for JSON, take what is written for a text to that text and stop behind its closing
quote, whatever follows. So a text is told apart from every other one by its literal, and no text ends its own literal.

Results:
- `unitsFrom?_escape`: what is written for a character is read as this character.
- `literalUnits?_append`: a literal that ends does not depend on what follows.
- `quote_read`: what both readers make of a literal.
-/

namespace HookFlow.Script

open Text

/-! ## The reader -/

/-- the units of 16 bits for a code point -/
def unitsOf (n : Nat) : List Nat :=
  if n < 0x10000 then [n] else [0xD800 + (n - 0x10000) / 0x400, 0xDC00 + (n - 0x10000) % 0x400]

/-- a text in units of 16 bits -/
def units (cs : List Char) : List Nat := cs.flatMap fun c => unitsOf c.toNat

/-- where a reader is inside a literal -/
inductive Inside where
  | plain
  /-- behind a backslash -/
  | escape
  /-- behind `\u` -/
  | unicode
  /-- in a number of which as many digits are left -/
  | digits (left n : Nat)
  /-- in a number in braces -/
  | braced (n : Option Nat)
  /-- behind `\0`, where no other digit may stand -/
  | behindZero
  /-- behind a carriage return that is left out; a line feed goes with it -/
  | behindReturn
  deriving DecidableEq, Repr

namespace Inside

/-- whether a quote ends the literal here -/
def mayEnd : Inside → Bool
  | .plain | .behindZero | .behindReturn => true
  | _ => false

/-- a character that is neither a quote nor part of an escape -/
def ofPlain? (c : Char) : Option (Inside × List Nat) :=
  if c = '\\' then some (.escape, [])
  else if c = '\n' ∨ c = '\r' then none
  else some (.plain, unitsOf c.toNat)

/-- the character that a letter behind a backslash stands for -/
def escaped (c : Char) : Char :=
  if c = 'b' then '\x08' else if c = 't' then '\t' else if c = 'n' then '\n' else if c = 'v' then '\x0b'
  else if c = 'f' then '\x0c' else if c = 'r' then '\r' else c

/-- a character behind a backslash; the escapes that only old scripts may use are refused -/
def ofEscaped? (c : Char) : Option (Inside × List Nat) :=
  if c = 'u' then some (.unicode, [])
  else if c = 'x' then some (.digits 2 0, [])
  else if c = '0' then some (.behindZero, [0])
  else if c.isDigit then none
  else if c = '\r' then some (.behindReturn, [])
  else if isLineEnd c then some (.plain, [])
  else some (.plain, unitsOf (escaped c).toNat)

/-- a digit of a number of which as many digits are left -/
def ofDigit? (left n : Nat) (c : Char) : Option (Inside × List Nat) :=
  (hexValue? c).map fun d => if left = 1 then (.plain, [n * 16 + d]) else (.digits (left - 1) (n * 16 + d), [])

/-- one character: where the reader is behind it, and the units that it completes -/
def step? : Inside → Char → Option (Inside × List Nat)
  | .plain, c => ofPlain? c
  | .escape, c => ofEscaped? c
  | .unicode, c => if c = '\x7b' then some (.braced none, []) else ofDigit? 4 0 c
  | .digits left n, c => ofDigit? left n c
  | .braced n, c =>
    if c = '\x7d' then n.bind fun n => if n < 0x110000 then some (.plain, unitsOf n) else none
    else (hexValue? c).map fun d => (.braced (some (n.getD 0 * 16 + d)), [])
  | .behindZero, c => if c.isDigit then none else ofPlain? c
  | .behindReturn, c => if c = '\n' then some (.plain, []) else ofPlain? c

end Inside

/-- the value of the rest of a literal, with the text behind its closing quote -/
def unitsFrom? (i : Inside) : List Char → Option (List Nat × List Char)
  | [] => none
  | c :: rest =>
    if c = '"' ∧ i.mayEnd then some ([], rest)
    else (i.step? c).bind fun next => (unitsFrom? next.1 rest).map fun r => (next.2 ++ r.1, r.2)

/-- the value of the literal that a script starts with, with the text behind it -/
def literalUnits? : List Char → Option (List Nat × List Char)
  | '"' :: rest => unitsFrom? .plain rest
  | _ => none

/-- the value of the JSON literal that a text starts with, with the text behind it -/
def literalText? : List Char → Option (Option (List Char) × List Char)
  | '"' :: rest => literal? rest
  | _ => none

/-! ## What is written -/

theorem unitsFrom?_cons {i i' : Inside} {c : Char} {us : List Nat} (inside : ¬ (c = '"' ∧ i.mayEnd))
    (first : i.step? c = some (i', us)) (rest : List Char) :
    unitsFrom? i (c :: rest) = (unitsFrom? i' rest).map fun r => (us ++ r.1, r.2) := by
  rw [unitsFrom?, if_neg inside, first, Option.bind_some]

/-- A character that completes no unit. -/
theorem unitsFrom?_open {i i' : Inside} {c : Char} (inside : ¬ (c = '"' ∧ i.mayEnd))
    (first : i.step? c = some (i', [])) (rest : List Char) : unitsFrom? i (c :: rest) = unitsFrom? i' rest := by
  rw [unitsFrom?_cons inside first]
  simp

/-- A short escape means the same in scripts as in JSON. -/
theorem ofEscaped?_of_plainEscape? {e c : Char} (short : plainEscape? e = some c) :
    Inside.escape.step? e = some (.plain, unitsOf c.toNat) := by
  unfold plainEscape? at short
  repeat' split at short
  all_goals cases short
  all_goals
    subst_vars
    decide

theorem unitsFrom?_digit {left n d : Nat} {c : Char} (value : hexValue? c = some d) (more : left ≠ 1)
    (rest : List Char) : unitsFrom? (.digits left n) (c :: rest) = unitsFrom? (.digits (left - 1) (n * 16 + d)) rest := by
  have read : (Inside.digits left n).step? c = some (.digits (left - 1) (n * 16 + d), []) := by
    simp [Inside.step?, Inside.ofDigit?, value, more]
  exact unitsFrom?_open (by simp [Inside.mayEnd]) read rest

/-- A number of four digits is the unit that it names. -/
theorem unitsFrom?_control {n : Nat} (small : n < 0x20) (rest : List Char) :
    unitsFrom? .plain (['\\', 'u', '0', '0', hexDigit (n / 16), hexDigit (n % 16)] ++ rest) =
      (unitsFrom? .plain rest).map fun r => (unitsOf n ++ r.1, r.2) := by
  have zero : hexValue? '0' = some 0 := by decide
  have high := hexValue?_hexDigit (show n / 16 < 16 by omega)
  have low := hexValue?_hexDigit (show n % 16 < 16 by omega)
  have opened (cs : List Char) : unitsFrom? .plain ('\\' :: 'u' :: '0' :: cs) = unitsFrom? (.digits 3 0) cs := by
    calc unitsFrom? .plain ('\\' :: 'u' :: '0' :: cs)
      _ = unitsFrom? .escape ('u' :: '0' :: cs) := unitsFrom?_open (by decide) (by decide) _
      _ = unitsFrom? .unicode ('0' :: cs) := unitsFrom?_open (by decide) (by decide) _
      _ = unitsFrom? (.digits 3 0) cs := unitsFrom?_open (by decide) (by decide) _
  have last : (Inside.digits 1 (n / 16)).step? (hexDigit (n % 16)) = some (.plain, unitsOf n) := by
    have whole : n / 16 * 16 + n % 16 = n := by omega
    simp [Inside.step?, Inside.ofDigit?, low, whole, unitsOf, show n < 0x10000 by omega]
  calc unitsFrom? .plain (['\\', 'u', '0', '0', hexDigit (n / 16), hexDigit (n % 16)] ++ rest)
    _ = unitsFrom? (.digits 3 0) ('0' :: hexDigit (n / 16) :: hexDigit (n % 16) :: rest) := opened _
    _ = unitsFrom? (.digits 2 0) (hexDigit (n / 16) :: hexDigit (n % 16) :: rest) := unitsFrom?_digit zero (by decide) _
    _ = unitsFrom? (.digits 1 (n / 16)) (hexDigit (n % 16) :: rest) := by
      rw [unitsFrom?_digit high (by decide), Nat.zero_mul, Nat.zero_add]
    _ = (unitsFrom? .plain rest).map fun r => (unitsOf n ++ r.1, r.2) :=
      unitsFrom?_cons (by simp [Inside.mayEnd]) last rest

/-- **What is written for a character is read as this character.** -/
theorem unitsFrom?_escape (c : Char) (rest : List Char) :
    unitsFrom? .plain (escape c ++ rest) = (unitsFrom? .plain rest).map fun r => (unitsOf c.toNat ++ r.1, r.2) := by
  rcases escape_cases c with ⟨e, written, short, -, -⟩ | ⟨control, written⟩ | ⟨written, quote, slash, printable⟩
  · have opened : unitsFrom? .plain ('\\' :: e :: rest) = unitsFrom? .escape (e :: rest) :=
      unitsFrom?_open (by decide) (by decide) _
    rw [written, List.cons_append, List.cons_append, List.nil_append, opened]
    exact unitsFrom?_cons (by simp [Inside.mayEnd]) (ofEscaped?_of_plainEscape? short) rest
  · rw [written]
    exact unitsFrom?_control control rest
  · have feed : ¬ (c = '\n' ∨ c = '\r') := by
      rintro (rfl | rfl) <;> exact absurd printable (by decide)
    have read : Inside.plain.step? c = some (.plain, unitsOf c.toNat) := by
      simp only [Inside.step?, Inside.ofPlain?, slash, feed, if_false]
    rw [written, List.singleton_append]
    exact unitsFrom?_cons (fun ends => quote ends.1) read rest

theorem unitsFrom?_escaped (cs rest : List Char) :
    unitsFrom? .plain (cs.flatMap escape ++ '"' :: rest) = some (units cs, rest) := by
  induction cs with
  | nil => rfl
  | cons c cs ih =>
    rw [List.flatMap_cons, List.append_assoc, unitsFrom?_escape, ih]
    rfl

/-! ## Where literals end -/

/-- What follows a literal does not change it. -/
theorem unitsFrom?_append {i : Inside} {cs rest : List Char} {us : List Nat} (read : unitsFrom? i cs = some (us, rest))
    (more : List Char) : unitsFrom? i (cs ++ more) = some (us, rest ++ more) := by
  induction cs generalizing i us with
  | nil => cases read
  | cons c cs ih =>
    rw [List.cons_append]
    by_cases ends : c = '"' ∧ i.mayEnd
    · rw [unitsFrom?, if_pos ends] at read ⊢
      cases read
      rfl
    · rw [unitsFrom?, if_neg ends] at read ⊢
      obtain ⟨next, first, later⟩ := Option.bind_eq_some_iff.1 read
      obtain ⟨r, inner, same⟩ := Option.map_eq_some_iff.1 later
      cases same
      rw [first, Option.bind_some, ih inner]
      rfl

theorem literalUnits?_append {cs rest : List Char} {us : List Nat} (read : literalUnits? cs = some (us, rest))
    (more : List Char) : literalUnits? (cs ++ more) = some (us, rest ++ more) := by
  unfold literalUnits? at read
  split at read
  · exact unitsFrom?_append read more
  · cases read

theorem literalText?_append {cs rest : List Char} {value : Option (List Char)}
    (read : literalText? cs = some (value, rest)) (more : List Char) :
    literalText? (cs ++ more) = some (value, rest ++ more) := by
  unfold literalText? at read
  split at read
  · exact literalFrom?_append read more
  · cases read

/-! ## The literal of a text -/

theorem quote_append (v : String) (rest : List Char) :
    (quote v).toList ++ rest = '"' :: (v.toList.flatMap escape ++ '"' :: rest) := by
  rw [quote, String.toList_ofList, quoteChars, List.cons_append, List.append_assoc, List.singleton_append]

theorem literalText?_quote (v : String) (rest : List Char) :
    literalText? ((quote v).toList ++ rest) = some (some v.toList, rest) := by
  rw [quote_append]
  exact literal?_escaped v.toList rest

theorem literalUnits?_quote (v : String) (rest : List Char) :
    literalUnits? ((quote v).toList ++ rest) = some (units v.toList, rest) := by
  rw [quote_append]
  exact unitsFrom?_escaped v.toList rest

/-- **Literals tell texts apart**, whatever follows them. -/
theorem quote_append_inj {v w : String} {rest rest' : List Char} :
    (quote v).toList ++ rest = (quote w).toList ++ rest' ↔ v = w ∧ rest = rest' := by
  constructor
  · intro same
    have read := literalText?_quote v rest
    rw [same, literalText?_quote w rest'] at read
    obtain ⟨value, behind⟩ := Prod.mk.inj (Option.some.inj read)
    exact ⟨(String.toList_inj.1 (Option.some.inj value)).symm, behind.symm⟩
  · rintro ⟨rfl, rfl⟩
    rfl

/-- **What is read of the literal of a text.** It lies on one line. The readers of JSON and of scripts both take it to the
text and leave what follows it, and neither ends it before its last character. Another text has another literal, whatever
follows the two. -/
theorem quote_read (v : String) (rest : List Char) :
    (∀ c ∈ (quote v).toList, 0x20 ≤ c.toNat) ∧
      literalText? ((quote v).toList ++ rest) = some (some v.toList, rest) ∧
      literalUnits? ((quote v).toList ++ rest) = some (units v.toList, rest) ∧
      (∀ front last, (quote v).toList = front ++ last → last ≠ [] →
        literalText? front = none ∧ literalUnits? front = none) ∧
      ∀ w rest', (quote v).toList ++ rest = (quote w).toList ++ rest' ↔ v = w ∧ rest = rest' := by
  refine ⟨?_, literalText?_quote v rest, literalUnits?_quote v rest, ?_, fun w rest' => quote_append_inj⟩
  · intro c hc
    rw [quote, String.toList_ofList] at hc
    exact quoteChars_printable v.toList hc
  · intro front last cut more
    have text := literalText?_quote v []
    have script := literalUnits?_quote v []
    rw [List.append_nil, cut] at text script
    constructor
    · apply Option.eq_none_iff_forall_ne_some.2
      intro read early
      rw [literalText?_append early last] at text
      exact more (List.append_eq_nil_iff.1 (Prod.mk.inj (Option.some.inj text)).2).2
    · apply Option.eq_none_iff_forall_ne_some.2
      intro read early
      rw [literalUnits?_append early last] at script
      exact more (List.append_eq_nil_iff.1 (Prod.mk.inj (Option.some.inj script)).2).2

/-- A script may write the same text in other ways, with a line break that is left out among them. -/
example : literalUnits? "\"\\x41\\u\x7b1F600\x7d\\\r\n\\0\" + b".toList =
    some (units ['A', '😀', '\x00'], " + b".toList) := by
  decide

end HookFlow.Script
