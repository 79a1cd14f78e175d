import HookFlow.Json.Parser
import HookFlow.Json.Printer
import HookFlow.Proofs.Text.Quoted
/-!
Spellings of JSON values: what the reader makes of them.

A value is spelled by a text if the text has its parts in order, with blanks between them. The compact form and the
laid-out form are two of its spellings, and the reader takes every spelling back to the value. All this is about values
that hold words only: numbers, which have a spelling of their own, are left out.

Results:
- `value?_spelled`: the reader stops behind the spelling of a value and has the value.
- `spells_compact`, `spells_pretty`: the two written forms.
- `parseChars?_spelled`: a spelling with blanks behind it is read back.
-/

namespace HookFlow.Json

open Text (quoteChars literal? literal?_escaped)

/-! ## Spellings -/

/-- whether there is nothing but blanks -/
def Blank (gap : List Char) : Prop := ∀ c ∈ gap, isSpace c = true

theorem blank_nil : Blank [] := List.forall_mem_nil _

mutual

/-- `Spells v cs`: the characters `cs` write the value `v`, with blanks between its parts -/
inductive Spells : Json → List Char → Prop where
  | null : Spells .null ['n', 'u', 'l', 'l']
  | bool (b : Bool) : Spells (.bool b) (boolWord b)
  | text (s : String) : Spells (.text s) (quoteChars s.toList)
  | nothing : Spells (.list []) ['[', ']']
  | list {v : Json} {vs : List Json} {gap cs ds : List Char} (blank : Blank gap) (first : Spells v cs)
      (others : SpellsItems vs ds) : Spells (.list (v :: vs)) ('[' :: (gap ++ (cs ++ ds)))
  | empty : Spells (.object []) ['\x7b', '\x7d']
  | object {n : String} {v : Json} {ms : List (String × Json)} {gap gap' cs ds : List Char} (blank : Blank gap)
      (blank' : Blank gap') (first : Spells v cs) (others : SpellsMembers ms ds) :
      Spells (.object ((n, v) :: ms)) ('\x7b' :: (gap ++ (quoteChars n.toList ++ ':' :: (gap' ++ (cs ++ ds)))))

/-- the same for the items of a list behind the first one, and the closing bracket -/
inductive SpellsItems : List Json → List Char → Prop where
  | nil {gap : List Char} (blank : Blank gap) : SpellsItems [] (gap ++ [']'])
  | cons {v : Json} {vs : List Json} {gap cs ds : List Char} (blank : Blank gap) (first : Spells v cs)
      (others : SpellsItems vs ds) : SpellsItems (v :: vs) (',' :: (gap ++ (cs ++ ds)))

/-- the same for the members of an object behind the first one, and the closing brace -/
inductive SpellsMembers : List (String × Json) → List Char → Prop where
  | nil {gap : List Char} (blank : Blank gap) : SpellsMembers [] (gap ++ ['\x7d'])
  | cons {n : String} {v : Json} {ms : List (String × Json)} {gap gap' cs ds : List Char} (blank : Blank gap)
      (blank' : Blank gap') (first : Spells v cs) (others : SpellsMembers ms ds) :
      SpellsMembers ((n, v) :: ms) (',' :: (gap ++ (quoteChars n.toList ++ ':' :: (gap' ++ (cs ++ ds)))))

end

/-! ## Reading -/

theorem skipSpace_blank {gap : List Char} (blank : Blank gap) {c : Char} (solid : isSpace c = false) (cs : List Char) :
    skipSpace (gap ++ c :: cs) = c :: cs := by
  rw [skipSpace, List.dropWhile_append_of_pos blank, List.dropWhile_cons_of_neg (by simp [solid])]

theorem skipSpace_all {gap : List Char} (blank : Blank gap) : skipSpace gap = [] := by
  rw [skipSpace, ← List.append_nil gap, List.dropWhile_append_of_pos blank]
  rfl

theorem skipSpace_solid {c : Char} (solid : isSpace c = false) (cs : List Char) : skipSpace (c :: cs) = c :: cs :=
  skipSpace_blank blank_nil solid cs

/-- A spelling starts with a sign that is no blank and closes nothing. -/
theorem Spells.start {v : Json} {cs : List Char} (spelled : Spells v cs) :
    ∃ c rest, cs = c :: rest ∧ isSpace c = false ∧ c ≠ ']' := by
  cases spelled with
  | bool b => cases b <;> exact ⟨_, _, rfl, by decide, by decide⟩
  | _ => exact ⟨_, _, rfl, by decide, by decide⟩

theorem value?_literal {gap : List Char} (blank : Blank gap) (s : String) (rest : List Char) (fuel : Nat) :
    value? (fuel + 1) (gap ++ (quoteChars s.toList ++ rest)) = some (.text s, rest) := by
  have whole : quoteChars s.toList ++ rest = '"' :: (s.toList.flatMap Text.escape ++ '"' :: rest) := by
    simp [quoteChars]
  rw [whole, value?, skipSpace_blank blank (by decide)]
  simp [literal?_escaped, ofLiteral]

theorem value?_bool {gap : List Char} (blank : Blank gap) (b : Bool) (rest : List Char) (fuel : Nat) :
    value? (fuel + 1) (gap ++ (boolWord b ++ rest)) = some (.bool b, rest) := by
  have start : ∃ c cs, boolWord b = c :: cs ∧ isSpace c = false := by
    cases b <;> exact ⟨_, _, rfl, by decide⟩
  obtain ⟨c, cs, word, solid⟩ := start
  rw [word, List.cons_append, value?, skipSpace_blank blank solid]
  cases b <;> cases word <;> rfl

theorem value?_list {gap gap' : List Char} (blank : Blank gap) (blank' : Blank gap') {c : Char}
    (solid : isSpace c = false) (other : c ≠ ']') (cs : List Char) (fuel : Nat) :
    value? (fuel + 1) (gap ++ '[' :: (gap' ++ c :: cs)) = (do
      let (v, rest) ← value? fuel (c :: cs)
      items? fuel [v] rest) := by
  rw [value?, skipSpace_blank blank (by decide)]
  simp only [skipSpace_blank blank' solid]
  split
  next same => exact absurd (List.cons.inj same).1 other
  next => rfl

theorem value?_object {gap gap' : List Char} (blank : Blank gap) (blank' : Blank gap') (n cs : List Char) (fuel : Nat) :
    value? (fuel + 1) (gap ++ '\x7b' :: (gap' ++ (quoteChars n ++ cs))) = (do
      let (n, v, rest) ← member? fuel (quoteChars n ++ cs)
      members? fuel [(n, v)] rest) := by
  rw [quoteChars, List.cons_append]
  rw [value?, skipSpace_blank blank (by decide)]
  simp only [skipSpace_blank blank' (show isSpace '"' = false by decide)]
  rfl

theorem mapM_named (ms : List (String × Json)) :
    ((ms.map fun m => (some m.1, m.2)).mapM fun m : Option String × Json => m.1.map fun n => (n, m.2)) = some ms := by
  rw [List.mapM_map]
  exact List.mapM_pure.trans (congrArg some (List.map_id ms))

mutual

/-- **The reader stops behind the spelling of a value and has the value.** -/
theorem value?_spelled {v : Json} {cs : List Char} (spelled : Spells v cs) {gap : List Char} (blank : Blank gap)
    (rest : List Char) {fuel : Nat} (enough : cs.length ≤ fuel) :
    value? fuel (gap ++ (cs ++ rest)) = some (v, rest) := by
  obtain ⟨fuel, rfl⟩ : ∃ f, fuel = f + 1 := by
    obtain ⟨c, cs, rfl, -⟩ := spelled.start
    exact ⟨fuel - 1, by simp at enough; omega⟩
  cases spelled with
  | null => rw [value?, List.cons_append, skipSpace_blank blank (by decide)]; rfl
  | bool b => exact value?_bool blank b rest fuel
  | text s => exact value?_literal blank s rest fuel
  | nothing => rw [value?, List.cons_append, skipSpace_blank blank (by decide)]; rfl
  | empty => rw [value?, List.cons_append, skipSpace_blank blank (by decide)]; rfl
  | @list v vs gap' cs ds blank' first others =>
    obtain ⟨c, cs, rfl, solid, other⟩ := first.start
    have here : (c :: cs).length ≤ fuel := by simp at enough ⊢; omega
    have later : ds.length ≤ fuel := by simp at enough ⊢; omega
    have read := value?_spelled first blank_nil (ds ++ rest) here
    have whole : gap ++ ('[' :: (gap' ++ (c :: cs ++ ds)) ++ rest) =
        gap ++ '[' :: (gap' ++ c :: (cs ++ (ds ++ rest))) := by simp
    rw [whole, value?_list blank blank' solid other]
    rw [List.nil_append, List.cons_append] at read
    rw [read]
    exact items?_spelled others [v] rest later
  | @object n v ms gap' gap'' cs ds blank' blank'' first others =>
    have here : (quoteChars n.toList ++ ':' :: (gap'' ++ cs)).length ≤ fuel := by simp at enough ⊢; omega
    have later : ds.length ≤ fuel := by simp at enough ⊢; omega
    have whole : gap ++ ('\x7b' :: (gap' ++ (quoteChars n.toList ++ ':' :: (gap'' ++ (cs ++ ds)))) ++ rest) =
        gap ++ '\x7b' :: (gap' ++ (quoteChars n.toList ++ ':' :: (gap'' ++ (cs ++ (ds ++ rest))))) := by simp
    have read : member? fuel (quoteChars n.toList ++ ':' :: (gap'' ++ (cs ++ (ds ++ rest)))) =
        some (some n, v, ds ++ rest) := member?_spelled first blank_nil blank'' (ds ++ rest) here
    rw [whole, value?_object blank blank', read]
    exact members?_spelled others [(n, v)] rest later
termination_by fuel

theorem items?_spelled {vs : List Json} {ds : List Char} (spelled : SpellsItems vs ds) (acc : List Json)
    (rest : List Char) {fuel : Nat} (enough : ds.length ≤ fuel) :
    items? fuel acc (ds ++ rest) = some (.list (acc.reverse ++ vs), rest) := by
  cases spelled with
  | nil blank =>
    obtain ⟨fuel, rfl⟩ : ∃ f, fuel = f + 1 := ⟨fuel - 1, by simp at enough; omega⟩
    rw [List.append_assoc, List.singleton_append, items?, skipSpace_blank blank (by decide), List.append_nil]
    rfl
  | @cons v vs gap cs ds blank first others =>
    obtain ⟨fuel, rfl⟩ : ∃ f, fuel = f + 1 := ⟨fuel - 1, by simp at enough; omega⟩
    have here : cs.length ≤ fuel := by simp at enough ⊢; omega
    have later : ds.length ≤ fuel := by simp at enough ⊢; omega
    have read := value?_spelled first blank (ds ++ rest) here
    have whole : ',' :: (gap ++ (cs ++ ds)) ++ rest = ',' :: (gap ++ (cs ++ (ds ++ rest))) := by simp
    have others' := items?_spelled others (v :: acc) rest later
    rw [List.reverse_cons, List.append_assoc, List.singleton_append] at others'
    rw [whole, items?, skipSpace_solid (by decide)]
    simp only [read]
    exact others'
termination_by fuel

theorem member?_spelled {n : String} {v : Json} {cs : List Char} (spelled : Spells v cs) {gap gap' : List Char}
    (blank : Blank gap) (blank' : Blank gap') (rest : List Char) {fuel : Nat}
    (enough : (quoteChars n.toList ++ ':' :: (gap' ++ cs)).length ≤ fuel) :
    member? fuel (gap ++ (quoteChars n.toList ++ ':' :: (gap' ++ (cs ++ rest)))) = some (some n, v, rest) := by
  obtain ⟨fuel, rfl⟩ : ∃ f, fuel = f + 1 := ⟨fuel - 1, by simp at enough; omega⟩
  have inside : cs.length ≤ fuel := by simp at enough ⊢; omega
  have read := value?_spelled spelled blank' rest inside
  have whole : quoteChars n.toList ++ ':' :: (gap' ++ (cs ++ rest)) =
      '"' :: (n.toList.flatMap Text.escape ++ '"' :: ':' :: (gap' ++ (cs ++ rest))) := by
    simp [quoteChars]
  rw [whole, member?, skipSpace_blank blank (by decide)]
  simp [literal?_escaped, skipSpace_solid (show isSpace ':' = false by decide), read]
termination_by fuel

theorem members?_spelled {ms : List (String × Json)} {ds : List Char} (spelled : SpellsMembers ms ds)
    (acc : List (String × Json)) (rest : List Char) {fuel : Nat} (enough : ds.length ≤ fuel) :
    members? fuel (acc.map fun m => (some m.1, m.2)) (ds ++ rest) = some (.object (acc.reverse ++ ms), rest) := by
  cases spelled with
  | nil blank =>
    obtain ⟨fuel, rfl⟩ : ∃ f, fuel = f + 1 := ⟨fuel - 1, by simp at enough; omega⟩
    rw [List.append_assoc, List.singleton_append, members?, skipSpace_blank blank (by decide), List.append_nil]
    simp only [← List.map_reverse, mapM_named]
  | @cons n v ms gap gap' cs ds blank blank' first others =>
    obtain ⟨fuel, rfl⟩ : ∃ f, fuel = f + 1 := ⟨fuel - 1, by simp at enough; omega⟩
    have here : (quoteChars n.toList ++ ':' :: (gap' ++ cs)).length ≤ fuel := by simp at enough ⊢; omega
    have later : ds.length ≤ fuel := by simp at enough ⊢; omega
    have whole : ',' :: (gap ++ (quoteChars n.toList ++ ':' :: (gap' ++ (cs ++ ds)))) ++ rest =
        ',' :: (gap ++ (quoteChars n.toList ++ ':' :: (gap' ++ (cs ++ (ds ++ rest))))) := by simp
    have read := member?_spelled (n := n) first blank blank' (ds ++ rest) here
    have others' := members?_spelled others ((n, v) :: acc) rest later
    rw [List.reverse_cons, List.append_assoc, List.singleton_append] at others'
    rw [whole, members?, skipSpace_solid (by decide)]
    simp only [read]
    exact others'
termination_by fuel

end

/-- **A spelling with blanks behind it is read back.** -/
theorem parseChars?_spelled {v : Json} {cs : List Char} (spelled : Spells v cs) {gap : List Char} (blank : Blank gap) :
    parseChars? (cs ++ gap) = some v := by
  have enough : cs.length ≤ 2 * (cs ++ gap).length + 2 := by
    rw [List.length_append]
    omega
  have read : value? (2 * (cs ++ gap).length + 2) (cs ++ gap) = some (v, gap) :=
    value?_spelled spelled blank_nil gap enough
  rw [parseChars?, read]
  simp [skipSpace_all blank]

/-! ## The written forms -/

/-- a value that holds words only -/
inductive Wordy : Json → Prop where
  | null : Wordy .null
  | bool (b : Bool) : Wordy (.bool b)
  | text (s : String) : Wordy (.text s)
  | list {items : List Json} (each : ∀ v ∈ items, Wordy v) : Wordy (.list items)
  | object {members : List (String × Json)} (each : ∀ m ∈ members, Wordy m.2) : Wordy (.object members)

mutual

/-- **The compact form is a spelling.** -/
theorem spells_compact : ∀ {v : Json}, Wordy v → Spells v v.compactChars
  | _, .null => .null
  | _, .bool b => .bool b
  | _, .text s => .text s
  | .list [], .list _ => .nothing
  | .list (v :: vs), .list each => by
    obtain ⟨first, others⟩ := List.forall_mem_cons.1 each
    rw [compactChars]
    exact .list blank_nil (spells_compact first) (spells_compactItems others)
  | .object [], .object _ => .empty
  | .object ((n, v) :: ms), .object each => by
    obtain ⟨first, others⟩ := List.forall_mem_cons.1 each
    rw [compactChars]
    exact .object blank_nil blank_nil (spells_compact first) (spells_compactMembers others)

theorem spells_compactItems : ∀ {vs : List Json}, (∀ v ∈ vs, Wordy v) → SpellsItems vs (compactItems vs)
  | [], _ => .nil blank_nil
  | v :: vs, each => by
    obtain ⟨first, others⟩ := List.forall_mem_cons.1 each
    rw [compactItems]
    exact .cons blank_nil (spells_compact first) (spells_compactItems others)

theorem spells_compactMembers : ∀ {ms : List (String × Json)}, (∀ m ∈ ms, Wordy m.2) →
    SpellsMembers ms (compactMembers ms)
  | [], _ => .nil blank_nil
  | (n, v) :: ms, each => by
    obtain ⟨first, others⟩ := List.forall_mem_cons.1 each
    rw [compactMembers]
    exact .cons blank_nil blank_nil (spells_compact first) (spells_compactMembers others)

end

theorem blank_newline (level : Nat) : Blank (newline level) := by
  intro c hc
  rcases List.mem_cons.1 hc with rfl | later
  · rfl
  · rw [List.eq_of_mem_replicate later]
    rfl

theorem blank_one : Blank [' '] := fun _ hc => List.mem_singleton.1 hc ▸ rfl

mutual

/-- **The laid-out form is a spelling.** -/
theorem spells_pretty (level : Nat) : ∀ {v : Json}, Wordy v → Spells v (v.prettyChars level)
  | _, .null => .null
  | _, .bool b => .bool b
  | _, .text s => .text s
  | .list [], .list _ => .nothing
  | .list (v :: vs), .list each => by
    obtain ⟨first, others⟩ := List.forall_mem_cons.1 each
    rw [prettyChars]
    exact .list (blank_newline _) (spells_pretty _ first) (spells_prettyItems _ others)
  | .object [], .object _ => .empty
  | .object ((n, v) :: ms), .object each => by
    obtain ⟨first, others⟩ := List.forall_mem_cons.1 each
    rw [prettyChars]
    exact .object (blank_newline _) blank_one (spells_pretty _ first) (spells_prettyMembers _ others)

theorem spells_prettyItems (level : Nat) : ∀ {vs : List Json}, (∀ v ∈ vs, Wordy v) →
    SpellsItems vs (prettyItems level vs)
  | [], _ => .nil (blank_newline _)
  | v :: vs, each => by
    obtain ⟨first, others⟩ := List.forall_mem_cons.1 each
    rw [prettyItems]
    exact .cons (blank_newline _) (spells_pretty _ first) (spells_prettyItems _ others)

theorem spells_prettyMembers (level : Nat) : ∀ {ms : List (String × Json)}, (∀ m ∈ ms, Wordy m.2) →
    SpellsMembers ms (prettyMembers level ms)
  | [], _ => .nil (blank_newline _)
  | (n, v) :: ms, each => by
    obtain ⟨first, others⟩ := List.forall_mem_cons.1 each
    rw [prettyMembers]
    exact .cons (blank_newline _) blank_one (spells_pretty _ first) (spells_prettyMembers _ others)

end

end HookFlow.Json
