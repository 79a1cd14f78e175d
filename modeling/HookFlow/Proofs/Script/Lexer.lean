import HookFlow.Proofs.Text.Quoted
/-!
Source text as tokens.

The lexer goes over a text one character at a time and knows the part of JavaScript that handlers are written
in: names and numbers, punctuators, string literals and comments to the end of the line. It is a machine with a
mode, so what it makes of a text is put together from what it makes of the parts.

Results:
- `Scans.append`: two parts in sequence give the tokens of both.
- `scans_quote`: a literal that is written by `quote` is one token, whatever its text is.
- `scans_word`, `scans_comment`: a name is one token, and a comment is none as long as its line goes on.
-/

namespace HookFlow.Script

open Text

/-- a piece of source text that means something -/
inductive Token where
  /-- a name, a keyword or a number -/
  | word (s : String)
  | mark (s : String)
  /-- a string literal, by its value -/
  | text (s : String)
  deriving DecidableEq, Repr

/-- what the lexer is in the middle of -/
inductive Mode where
  | start
  | word (cs : List Char)
  | mark (cs : List Char)
  /-- a literal in double quotes, perhaps right behind a backslash -/
  | literal (cs : List Char) (escaped : Bool)
  /-- a literal in single quotes -/
  | single (cs : List Char)
  | slash
  | comment
  /-- in a text that is not understood -/
  | stuck
  deriving DecidableEq, Repr

/-- the characters that end a line, and with it a comment -/
def isLineEnd (c : Char) : Bool := c == '\n' || c == '\r' || c == '\u2028' || c == '\u2029'

def isBlank (c : Char) : Bool := c == ' ' || c == '\t' || isLineEnd c

def isWordChar (c : Char) : Bool := c.isAlphanum || c == '_' || c == '$'

/-- the punctuators; what one of them starts with is one of them as well -/
def marks : List String :=
  ["(", ")", "[", "]", "\x7b", "\x7d", ";", ",", ".", ":", "?", "??", "?.", "!", "!=", "!==", "=", "==", "===", "=>",
    "&", "&&", "|", "||"]

/-- the mode that a character leads to between two tokens -/
def begin (c : Char) : Mode :=
  if isBlank c then .start
  else if isWordChar c then .word [c]
  else if c = '"' then .literal [] false
  else if c = '\'' then .single []
  else if c = '/' then .slash
  else if String.singleton c ∈ marks then .mark [c]
  else .stuck

/-- one character: the mode that it leads to, and the tokens that it completes -/
def step : Mode → Char → Mode × List Token
  | .start, c => (begin c, [])
  | .word cs, c =>
    if isWordChar c then (.word (cs ++ [c]), []) else (begin c, [.word (String.ofList cs)])
  | .mark cs, c =>
    if String.ofList (cs ++ [c]) ∈ marks then (.mark (cs ++ [c]), [])
    else (begin c, [.mark (String.ofList cs)])
  | .literal cs escaped, c =>
    if c = '\n' ∨ c = '\r' then (.stuck, [])
    else if escaped then (.literal (cs ++ [c]) false, [])
    else if c = '"' then
      match literal? (cs ++ [c]) with
      | some (some value, []) => (.start, [.text (String.ofList value)])
      | _ => (.stuck, [])
    else (.literal (cs ++ [c]) (c == '\\'), [])
  | .single cs, c =>
    if c = '\n' ∨ c = '\r' ∨ c = '\\' then (.stuck, [])
    else if c = '\'' then (.start, [.text (String.ofList cs)])
    else (.single (cs ++ [c]), [])
  | .slash, c => (if c = '/' then .comment else .stuck, [])
  | .comment, c => (if isLineEnd c then .start else .comment, [])
  | .stuck, _ => (.stuck, [])

/-- the mode after some characters, and the tokens that they complete -/
def scan : Mode → List Char → Mode × List Token
  | m, [] => (m, [])
  | m, c :: rest =>
    let (next, done) := step m c
    let (last, more) := scan next rest
    (last, done ++ more)

/-- the tokens of a text -/
def tokens? (text : String) : Option (List Token) :=
  match scan .start (text.toList ++ ['\n']) with
  | (.start, ts) => some ts
  | _ => none

/-- the tokens of a text that is understood -/
def code (text : String) : List Token := (tokens? text).getD []

/-! A literal text is rewritten to its letters before the kernel reads it, which else decodes its bytes one by one. -/

/-- the tokens of some letters -/
def lex? (letters : List Char) : Option (List Token) :=
  match scan .start (letters ++ ['\n']) with
  | (.start, ts) => some ts
  | _ => none

theorem tokens?_ofList (letters : List Char) : tokens? (String.ofList letters) = lex? letters := by
  rw [tokens?, String.toList_ofList, lex?]

theorem code_ofList (letters : List Char) : code (String.ofList letters) = (lex? letters).getD [] := by
  rw [code, tokens?_ofList]

/-! ## Putting texts together -/

/-- `Scans m cs ts m'`: the characters `cs` complete the tokens `ts` and lead from `m` to `m'` -/
def Scans (m : Mode) (cs : List Char) (ts : List Token) (m' : Mode) : Prop := scan m cs = (m', ts)

instance (m m' : Mode) (cs : List Char) (ts : List Token) : Decidable (Scans m cs ts m') :=
  inferInstanceAs (Decidable (_ = _))

variable {m m' m'' : Mode} {as bs cs : List Char} {ts us : List Token}

theorem Scans.nil : Scans m [] [] m := rfl

theorem Scans.cons {c : Char} (first : step m c = (m', ts)) (rest : Scans m' cs us m'') :
    Scans m (c :: cs) (ts ++ us) m'' := by
  simp only [Scans, scan, first]
  rw [show scan m' cs = (m'', us) from rest]

theorem scan_append (m : Mode) (as bs : List Char) :
    scan m (as ++ bs) = ((scan (scan m as).1 bs).1, (scan m as).2 ++ (scan (scan m as).1 bs).2) := by
  induction as generalizing m with
  | nil => simp [scan]
  | cons a as ih => simp [scan, ih]

theorem Scans.append (first : Scans m as ts m') (second : Scans m' bs us m'') :
    Scans m (as ++ bs) (ts ++ us) m'' := by
  rw [Scans] at first second ⊢
  rw [scan_append, first, second]

/-- A relation between two sequences that holds of parts holds of lists of parts. -/
theorem flatMap_related {α β γ : Type} {R : List β → List γ → Prop} (empty : R [] [])
    (joined : ∀ {bs cs bs' cs'}, R bs cs → R bs' cs' → R (bs ++ bs') (cs ++ cs')) {items : List α}
    {left : α → List β} {right : α → List γ} (each : ∀ a ∈ items, R (left a) (right a)) :
    R (items.flatMap left) (items.flatMap right) := by
  induction items with
  | nil => exact empty
  | cons a rest ih =>
    obtain ⟨first, later⟩ := List.forall_mem_cons.1 each
    rw [List.flatMap_cons, List.flatMap_cons]
    exact joined first (ih later)

theorem Scans.tokens? {text : String} (scans : Scans .start text.toList ts .start) :
    tokens? text = some ts := by
  have ends : Scans .start (text.toList ++ ['\n']) (ts ++ []) .start := scans.append rfl
  rw [Scans] at ends
  simp [Script.tokens?, ends]

/-! ## Literals -/

theorem literal_step {c : Char} (printable : 0x20 ≤ c.toNat) (quote : c ≠ '"') (raw : List Char) :
    step (.literal raw false) c = (.literal (raw ++ [c]) (c == '\\'), []) := by
  have feed : ¬ (c = '\n' ∨ c = '\r') := by
    rintro (rfl | rfl) <;> exact absurd printable (by decide)
  simp [step, feed, quote]

theorem escaped_step {c : Char} (printable : 0x20 ≤ c.toNat) (raw : List Char) :
    step (.literal raw true) c = (.literal (raw ++ [c]) false, []) := by
  have feed : ¬ (c = '\n' ∨ c = '\r') := by
    rintro (rfl | rfl) <;> exact absurd printable (by decide)
  simp [step, feed]

/-- Characters that stand for themselves do not end a literal. -/
theorem scans_plain {cs : List Char} (plain : ∀ c ∈ cs, 0x20 ≤ c.toNat ∧ c ≠ '"' ∧ c ≠ '\\')
    (raw : List Char) : Scans (.literal raw false) cs [] (.literal (raw ++ cs) false) := by
  induction cs generalizing raw with
  | nil => simpa using Scans.nil
  | cons c cs ih =>
    obtain ⟨⟨printable, quote, slash⟩, later⟩ := List.forall_mem_cons.1 plain
    have first : step (.literal raw false) c = (.literal (raw ++ [c]) false, []) := by
      rw [literal_step printable quote]
      simp [slash]
    have rest := ih later (raw ++ [c])
    rw [List.append_assoc] at rest
    exact Scans.cons first rest

/-- A character behind a backslash does not end a literal. -/
theorem scans_backslash {c : Char} (printable : 0x20 ≤ c.toNat) (raw : List Char) :
    Scans (.literal raw false) ['\\', c] [] (.literal (raw ++ ['\\', c]) false) := by
  have first : step (.literal raw false) '\\' = (.literal (raw ++ ['\\']) true, []) :=
    literal_step (by decide) (by decide) raw
  have second := escaped_step printable (raw ++ ['\\'])
  rw [List.append_assoc] at second
  exact Scans.cons first (Scans.cons second .nil)

/-- What is written for one character does not end a literal. -/
theorem scans_escape (raw : List Char) (c : Char) :
    Scans (.literal raw false) (escape c) [] (.literal (raw ++ escape c) false) := by
  rcases escape_cases c with ⟨e, written, -, -, printable⟩ | ⟨control, written⟩ | ⟨written, quote, slash, printable⟩
  · rw [written]
    exact scans_backslash printable raw
  · have high : c.toNat / 16 < 16 := by omega
    have low : c.toNat % 16 < 16 := by omega
    have digits : ∀ d ∈ ['0', '0', hexDigit (c.toNat / 16), hexDigit (c.toNat % 16)],
        0x20 ≤ d.toNat ∧ d ≠ '"' ∧ d ≠ '\\' := by
      simp only [List.forall_mem_cons]
      exact ⟨by decide, by decide, ⟨hexDigit_printable high, hexDigit_ne high⟩,
        ⟨hexDigit_printable low, hexDigit_ne low⟩, nofun⟩
    have number := (scans_backslash (c := 'u') (by decide) raw).append (scans_plain digits _)
    rw [List.append_assoc] at number
    rw [written]
    exact number
  · rw [written]
    exact scans_plain (by simp [printable, quote, slash]) raw

theorem scans_escaped (cs raw : List Char) :
    Scans (.literal raw false) (cs.flatMap escape) [] (.literal (raw ++ cs.flatMap escape) false) := by
  induction cs generalizing raw with
  | nil => simpa using Scans.nil
  | cons c cs ih =>
    rw [List.flatMap_cons, ← List.append_assoc]
    exact (scans_escape raw c).append (ih _)

/-- A literal ends where it was meant to end. -/
theorem scans_literal (s : String) :
    Scans (.literal [] false) (s.toList.flatMap escape ++ ['"']) [.text s] .start := by
  have closes : step (.literal (s.toList.flatMap escape) false) '"' = (.start, [.text s]) := by
    simp [step, literal?_escaped s.toList []]
  exact (scans_escaped s.toList []).append (Scans.cons closes .nil)

/-- **A literal that is written by `quote` is one token.** -/
theorem scans_quote (s : String) : Scans .start (quote s).toList [.text s] .start := by
  have whole := Scans.cons (show step .start '"' = (.literal [] false, []) by decide) (scans_literal s)
  simpa [quote, quoteChars] using whole

/-! ## Names, comments and lists -/

/-- whether a text stays on the line that it is written into -/
def IsOneLine (s : String) : Prop := ∀ c ∈ s.toList, isLineEnd c = false

instance (s : String) : Decidable (IsOneLine s) := List.decidableBAll _ _

theorem scans_wordChars {cs : List Char} (word : ∀ c ∈ cs, isWordChar c) (read : List Char) :
    Scans (.word read) cs [] (.word (read ++ cs)) := by
  induction cs generalizing read with
  | nil => simpa using Scans.nil
  | cons c cs ih =>
    obtain ⟨first, later⟩ := List.forall_mem_cons.1 word
    have grows : step (.word read) c = (.word (read ++ [c]), []) := by simp [step, first]
    have rest := ih later (read ++ [c])
    rw [List.append_assoc] at rest
    exact Scans.cons grows rest

theorem begin_word {c : Char} (word : isWordChar c) : begin c = .word [c] := by
  have solid : isBlank c = false := by
    refine Bool.eq_false_iff.2 fun blank => ?_
    simp only [isBlank, isLineEnd, Bool.or_eq_true, beq_iff_eq] at blank
    rcases blank with (rfl | rfl) | (((rfl | rfl) | rfl) | rfl)
    all_goals exact absurd word (by decide)
  simp [begin, solid, word]

/-- **A name is one token, whatever its letters are.** -/
theorem scans_word {s : String} (named : s ≠ "") (word : ∀ c ∈ s.toList, isWordChar c) :
    Scans .start s.toList [] (.word s.toList) := by
  cases letters : s.toList with
  | nil => exact absurd (String.toList_eq_nil_iff.1 letters) named
  | cons c cs =>
    rw [letters] at word
    obtain ⟨first, later⟩ := List.forall_mem_cons.1 word
    have starts : step .start c = (.word [c], []) := by simp [step, begin_word first]
    exact Scans.cons starts (scans_wordChars later [c])

theorem scans_comment {cs : List Char} (single : ∀ c ∈ cs, isLineEnd c = false) :
    Scans .comment cs [] .comment := by
  induction cs with
  | nil => exact .nil
  | cons c cs ih =>
    obtain ⟨first, later⟩ := List.forall_mem_cons.1 single
    have goes : step .comment c = (.comment, []) := by simp [step, first]
    exact Scans.cons goes (ih later)

/-- A punctuator ends where the next character cannot go on with it. -/
theorem scans_behindMark {read cs : List Char} {c : Char} {ts : List Token} {m : Mode}
    (ends : String.ofList (read ++ [c]) ∉ marks) (rest : Scans .start (c :: cs) ts m) :
    Scans (.mark read) (c :: cs) (.mark (String.ofList read) :: ts) m := by
  have turns : step (.mark read) c = (begin c, [.mark (String.ofList read)]) := by simp only [step, ends, if_false]
  have later : Scans (begin c) cs ts m := rest
  exact Scans.cons turns later

/-- A name ends where the next character is none of a name. -/
theorem scans_behindWord {name : String} {cs : List Char} {c : Char} {ts : List Token} {m : Mode}
    (ends : isWordChar c = false) (rest : Scans .start (c :: cs) ts m) :
    Scans (.word name.toList) (c :: cs) (.word name :: ts) m := by
  have turns : step (.word name.toList) c = (begin c, [.word name]) := by simp [step, ends]
  have later : Scans (begin c) cs ts m := rest
  exact Scans.cons turns later

/-- Items with the same separator between them have their tokens with its tokens between them. -/
theorem scans_intercalate {α : Type} {sep : List Char} {marks : List Token}
    (between : Scans .start sep marks .start) {items : List α} {chars : α → List Char}
    {tokens : α → List Token} (each : ∀ a ∈ items, Scans .start (chars a) (tokens a) .start) :
    Scans .start (sep.intercalate (items.map chars)) (marks.intercalate (items.map tokens)) .start := by
  induction items with
  | nil => exact .nil
  | cons a rest ih =>
    obtain ⟨first, later⟩ := List.forall_mem_cons.1 each
    cases rest with
    | nil => simpa using first
    | cons b rest =>
      have whole := (first.append between).append (ih later)
      simpa only [List.map_cons, List.intercalate_cons_cons] using whole

example : tokens? "f(a['b'] === \"c\\n\"); // g" = some [.word "f", .mark "(", .word "a", .mark "[", .text "b",
    .mark "]", .mark "===", .text "c\n", .mark ")", .mark ";"] := by
  decide

end HookFlow.Script
