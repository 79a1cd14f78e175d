import HookFlow.Proofs.Text.Order
import HookFlow.Proofs.Text.Percent
import HookFlow.Proofs.Text.Split
import HookFlow.Url.Basic
/-!
Paths of URLs, and what is read from them.

The path of a URL is written with a slash before each segment. Segments of dots are worked off, backslashes become
slashes, and what has no place in a path is escaped; escapes that are there stay, and are undone by whoever reads the
path. None of this makes what is read longer, so it has the length of the text only if nothing was done.

Results:
- `isDots_iff`: the segments that are worked off.
- `read_pathText_iff`: a path is read as the text that writes it exactly if the text holds neither a backslash, nor an
  escape, nor a segment of dots.
-/

namespace HookFlow.Url

open Text (encode utf8 escaped hasEscape hexValue? percentEncode percentDecode splitChars)

/-! ## Segments of dots -/

/-- whether a segment is worked off -/
def isDots (s : List Char) : Bool := isAbove s || isHere s

theorem toLower_cases (c : Char) : c.toLower = c ∨ c.toNat < 128 := by
  unfold Char.toLower
  split
  · rename_i upper
    exact .inr (Text.ascii_of_le (d := 'Z') upper.2 (by decide))
  · exact .inl rfl

/-- No letter is made a sign. -/
theorem eq_of_toLower {c d : Char} (lower : c.toLower = d) (other : d.isAlpha = false) : c = d := by
  subst lower
  rcases toLower_cases c with same | ascii
  · exact same.symm
  · have each : ∀ n < 128, (Char.ofNat n).toLower.isAlpha = false → Char.ofNat n = (Char.ofNat n).toLower := by decide
    exact Text.forall_ascii (P := fun c => c.toLower.isAlpha = false → c = c.toLower) each ascii other

theorem digit_of_toLower {c : Char} (lower : c.toLower = 'e') : (hexValue? c).isSome = true := by
  rcases toLower_cases c with same | ascii
  · rw [← same, lower]
    decide
  · have each : ∀ n < 128, (Char.ofNat n).toLower = 'e' → (hexValue? (Char.ofNat n)).isSome = true := by decide
    exact Text.forall_ascii (P := fun c => c.toLower = 'e' → (hexValue? c).isSome = true) each ascii lower

/-- An escape is one whatever the case of its letters. -/
theorem hasEscape_toLower {front back cs : List Char}
    (small : cs.map Char.toLower = front ++ ['%', '2', 'e'] ++ back) : hasEscape cs = true := by
  obtain ⟨cs₁, cs₂, rfl, small₁, small₂⟩ := List.map_eq_append_iff.1 small
  obtain ⟨a, b, rfl, small₃, small₄⟩ := List.map_eq_append_iff.1 small₁
  obtain ⟨x, rest, rfl, percent, more⟩ := List.map_eq_cons_iff.1 small₄
  obtain ⟨y, rest, rfl, two, more⟩ := List.map_eq_cons_iff.1 more
  obtain ⟨z, rest, rfl, letter, more⟩ := List.map_eq_cons_iff.1 more
  obtain rfl := List.map_eq_nil_iff.1 more
  obtain rfl := eq_of_toLower percent (by decide)
  obtain rfl := eq_of_toLower two (by decide)
  have opens : hasEscape ['%', '2', z] = true := by
    have two : (hexValue? '2').isSome = true := by decide
    simp [hasEscape, Text.startsEscape, two, digit_of_toLower letter]
  rw [← Bool.not_eq_false]
  intro plain
  have within : ['%', '2', z] <:+: a ++ ['%', '2', z] ++ cs₂ := ⟨a, cs₂, rfl⟩
  rw [Text.hasEscape_of_infix within plain] at opens
  cases opens

theorem toLower_eq_iff {s : List Char} {t : String} :
    (String.ofList s).toLower = t ↔ s.map Char.toLower = t.toList := by
  have lower : (String.ofList s).toLower = (String.ofList s).map Char.toLower := rfl
  rw [← String.toList_inj, lower, String.toList_map, String.toList_ofList]

/-- **The segments that are worked off**: among those without an escape, one dot and two. -/
theorem isDots_iff {s : List Char} (plain : hasEscape s = false) :
    isDots s = true ↔ s = ['.'] ∨ s = ['.', '.'] := by
  have escape (front back : List Char) : s.map Char.toLower ≠ front ++ ['%', '2', 'e'] ++ back := by
    intro small
    rw [hasEscape_toLower small] at plain
    cases plain
  have none (t : String) (front back : List Char) (written : t.toList = front ++ ['%', '2', 'e'] ++ back) :
      ((String.ofList s).toLower == t) = false := by
    rw [beq_eq_false_iff_ne, ne_eq, toLower_eq_iff, written]
    exact escape front back
  simp only [isDots, isAbove, isHere, none ".%2e" ['.'] [] rfl, none "%2e." [] ['.'] rfl,
    none "%2e%2e" [] ['%', '2', 'e'] rfl, none "%2e" [] [] rfl, Bool.or_false, Bool.or_eq_true, beq_iff_eq,
    toLower_eq_iff]
  constructor
  · rintro (two | one)
    · obtain ⟨a, rest, rfl, first, more⟩ := List.map_eq_cons_iff.1 two
      obtain ⟨b, rest, rfl, second, more⟩ := List.map_eq_cons_iff.1 more
      rw [eq_of_toLower first (by decide), eq_of_toLower second (by decide), List.map_eq_nil_iff.1 more]
      exact .inr rfl
    · obtain ⟨a, rest, rfl, first, more⟩ := List.map_eq_cons_iff.1 one
      rw [eq_of_toLower first (by decide), List.map_eq_nil_iff.1 more]
      exact .inl rfl
  · rintro (rfl | rfl)
    · exact .inr rfl
    · exact .inl rfl

/-! ## Working segments off -/

/-- A segment is kept; or it is worked off, and if it was the last one, an empty segment stands in its place. -/
theorem settled_cons (done : List (List Char)) (s : List Char) (rest : List (List Char)) :
    (isDots s = false ∧ settled done (s :: rest) = settled (s :: done) rest) ∨
      (isDots s = true ∧ ∃ kept, kept <:+ done ∧
        settled done (s :: rest) = settled (if rest.isEmpty then [] :: kept else kept) rest) := by
  cases above : isAbove s with
  | true =>
    refine .inr ⟨by simp [isDots, above], done.drop 1, List.drop_suffix 1 done, ?_⟩
    rw [settled, above, if_pos rfl]
  | false =>
    cases here : isHere s with
    | true =>
      refine .inr ⟨by simp [isDots, here], done, List.suffix_rfl, ?_⟩
      rw [settled, above, here, if_neg Bool.false_ne_true, if_pos rfl]
    | false =>
      refine .inl ⟨by simp [isDots, above, here], ?_⟩
      rw [settled, above, here, if_neg Bool.false_ne_true, if_neg Bool.false_ne_true]

theorem settled_undotted {done rest : List (List Char)} (undotted : ∀ s ∈ rest, isDots s = false) :
    settled done rest = done.reverse ++ rest := by
  induction rest generalizing done with
  | nil => exact (List.append_nil _).symm
  | cons s rest ih =>
    obtain ⟨first, others⟩ := List.forall_mem_cons.1 undotted
    rcases settled_cons done s rest with ⟨-, kept⟩ | ⟨dots, -⟩
    · rw [kept, ih others, List.reverse_cons, List.append_assoc, List.singleton_append]
    · rw [first] at dots
      cases dots

theorem settled_ne_nil {done rest : List (List Char)} (some : rest ≠ []) : settled done rest ≠ [] := by
  induction rest generalizing done with
  | nil => exact absurd rfl some
  | cons s rest ih =>
    rcases settled_cons done s rest with ⟨-, same⟩ | ⟨-, kept, -, same⟩
    all_goals
      rw [same]
      cases rest with
      | nil => simp [settled]
      | cons t rest => exact ih (List.cons_ne_nil _ _)

/-- the bytes that segments take with a slash before each of them -/
def weight (segments : List (List Char)) : Nat := (segments.flatMap utf8).length + segments.length

@[simp] theorem weight_nil : weight [] = 0 := rfl

@[simp] theorem weight_cons (s : List Char) (rest : List (List Char)) :
    weight (s :: rest) = (utf8 s).length + 1 + weight rest := by
  rw [weight, weight, List.flatMap_cons, List.length_append, List.length_cons]
  omega

theorem weight_reverse (segments : List (List Char)) : weight segments.reverse = weight segments := by
  rw [weight, weight, List.length_reverse, ((List.reverse_perm segments).flatMap_right utf8).length_eq]

theorem weight_append (as bs : List (List Char)) : weight (as ++ bs) = weight as + weight bs := by
  rw [weight, weight, weight, List.flatMap_append, List.length_append, List.length_append]
  omega

theorem dots_length {s : List Char} (dots : isDots s = true) : 1 ≤ (utf8 s).length := by
  cases s with
  | nil =>
    rcases (isDots_iff rfl).1 dots with none | none
    · cases none
    · cases none
  | cons c cs =>
    have some := List.length_pos_of_ne_nil (String.utf8EncodeChar_ne_nil (c := c))
    rw [Text.utf8_cons, List.length_append]
    omega

/-- **Working segments off makes a path shorter**, if there are segments of dots. -/
theorem weight_settled (done rest : List (List Char)) :
    weight (settled done rest) + (if rest.any isDots then 1 else 0) ≤ weight done + weight rest := by
  induction rest generalizing done with
  | nil => simp [settled, weight_reverse]
  | cons s rest ih =>
    rcases settled_cons done s rest with ⟨plain, same⟩ | ⟨dots, kept, ⟨dropped, rfl⟩, same⟩
    · have bound := ih (s :: done)
      rw [weight_cons] at bound
      rw [same, List.any_cons, plain, Bool.false_or, weight_cons]
      omega
    · have size := dots_length dots
      rw [same, List.any_cons, dots, Bool.true_or, if_pos rfl, weight_append, weight_cons]
      cases rest with
      | nil =>
        -- the slash of the segment is left, and the empty segment takes no more than that
        rw [List.isEmpty_nil, if_pos rfl, settled, weight_reverse, weight_cons, Text.utf8_nil, List.length_nil]
        omega
      | cons t rest =>
        have bound := ih kept
        rw [List.isEmpty_cons, if_neg Bool.false_ne_true]
        omega

/-! ## What is read from a path -/

/-- a character with a backslash as a slash -/
def slashed (c : Char) : Char := if c == '\\' then '/' else c

/-- a text that starts with a slash, with its segments settled -/
def settledText (cs : List Char) : List Char := '/' :: ['/'].intercalate (settled [] (splitChars '/' (cs.map slashed)))

theorem percentEncode_intercalate (segments : List (List Char)) :
    percentEncode keepsInPath (['/'].intercalate segments) =
      ['/'].intercalate (segments.map (percentEncode keepsInPath)) := by
  match segments with
  | [] => rfl
  | [s] => simp [List.intercalate_singleton]
  | s :: t :: rest =>
    have ih := percentEncode_intercalate (t :: rest)
    rw [List.map_cons] at ih
    rw [List.map_cons, List.map_cons, List.intercalate_cons_cons, List.intercalate_cons_cons, ← ih]
    simp only [percentEncode, List.flatMap_append]
    rfl

theorem pathText_toList (cs : List Char) :
    (pathText true ('/' :: cs)).toList = percentEncode keepsInPath (settledText cs) := by
  have chars : (pathText true ('/' :: cs)) = "/" ++ "/".intercalate
      ((settled [] (splitChars '/' (cs.map slashed))).map fun s => String.ofList (percentEncode keepsInPath s)) := rfl
  rw [chars, String.toList_append, String.toList_intercalate, List.map_map]
  have segments : (String.toList ∘ fun s => String.ofList (percentEncode keepsInPath s)) = percentEncode keepsInPath :=
    funext fun s => String.toList_ofList
  rw [segments]
  exact (congrArg ('/' :: ·) (percentEncode_intercalate _)).symm

/-- what is read from a path once its escapes are undone -/
def readPath (path : String) : Text.Bytes := percentDecode (encode path)

theorem readPath_pathText (cs : List Char) :
    readPath (pathText true ('/' :: cs)) = percentDecode (escaped keepsInPath (settledText cs)) := by
  rw [readPath, Text.encode_eq_utf8, pathText_toList]
  rfl

theorem length_join {segments : List (List Char)} (some : segments ≠ []) :
    (utf8 ('/' :: ['/'].intercalate segments)).length = weight segments := by
  have slash : (utf8 ['/']).length = 1 := by decide
  induction segments with
  | nil => exact absurd rfl some
  | cons s rest ih =>
    cases rest with
    | nil =>
      rw [List.intercalate_singleton, weight_cons, weight_nil, ← List.singleton_append, Text.utf8_append,
        List.length_append, slash]
      omega
    | cons t rest =>
      rw [List.intercalate_cons_cons, weight_cons, ← ih (List.cons_ne_nil _ _), ← List.singleton_append,
        Text.utf8_append, List.append_assoc, Text.utf8_append, List.singleton_append, List.length_append,
        List.length_append, slash]
      omega

theorem length_slashed (cs : List Char) : (utf8 (cs.map slashed)).length = (utf8 cs).length := by
  induction cs with
  | nil => rfl
  | cons c cs ih =>
    have same : (String.utf8EncodeChar (slashed c)).length = (String.utf8EncodeChar c).length := by
      rw [slashed]
      split
      · rename_i backslash
        rw [eq_of_beq backslash]
        decide
      · rfl
    rw [List.map_cons, Text.utf8_cons, Text.utf8_cons, List.length_append, List.length_append, ih, same]

theorem keepsInPath_digit {c : Char} (digit : (hexValue? c).isSome = true) : keepsInPath c = true := by
  have each : ∀ n < 128, (hexValue? (Char.ofNat n)).isSome = true → keepsInPath (Char.ofNat n) = true := by decide
  exact Text.forall_ascii (P := fun c => (hexValue? c).isSome = true → keepsInPath c = true) each
    (Text.ascii_of_hexValue? digit) digit

/-- What is read from a path is no longer than the text that writes it, and shorter if the text holds an escape or a
segment of dots. -/
theorem length_readPath (cs : List Char) :
    (readPath (pathText true ('/' :: cs))).length + (if hasEscape (settledText cs) then 1 else 0) +
      (if (splitChars '/' (cs.map slashed)).any isDots then 1 else 0) ≤ (utf8 ('/' :: cs)).length := by
  have segments := Text.splitChars_ne_nil '/' (cs.map slashed)
  have some : settled [] (splitChars '/' (cs.map slashed)) ≠ [] := settled_ne_nil segments
  have worked := weight_settled [] (splitChars '/' (cs.map slashed))
  rw [weight_nil, Nat.zero_add] at worked
  have decoded : (readPath (pathText true ('/' :: cs))).length + (if hasEscape (settledText cs) then 1 else 0) ≤
      weight (settled [] (splitChars '/' (cs.map slashed))) := by
    rw [readPath_pathText, ← length_join some]
    exact Text.length_percentDecode (by decide) (fun _ => keepsInPath_digit) (settledText cs)
  calc (readPath (pathText true ('/' :: cs))).length + (if hasEscape (settledText cs) then 1 else 0) +
        (if (splitChars '/' (cs.map slashed)).any isDots then 1 else 0)
      ≤ weight (settled [] (splitChars '/' (cs.map slashed))) +
        (if (splitChars '/' (cs.map slashed)).any isDots then 1 else 0) := Nat.add_le_add_right decoded _
    _ ≤ weight (splitChars '/' (cs.map slashed)) := worked
    _ = (utf8 ('/' :: cs.map slashed)).length := by rw [← length_join segments, Text.intercalate_splitChars]
    _ = (utf8 ('/' :: cs)).length := length_slashed ('/' :: cs)

/-- Slashes are put for backslashes, so a text stays as it is exactly if it has none. -/
theorem map_slashed_iff {cs : List Char} : cs.map slashed = cs ↔ '\\' ∉ cs := by
  constructor
  · intro unchanged backslash
    rw [← unchanged] at backslash
    obtain ⟨c, -, same⟩ := List.mem_map.1 backslash
    rw [slashed] at same
    split at same
    · exact absurd same (by decide)
    next other => exact other (beq_iff_eq.2 same)
  · intro forward
    refine (List.map_congr_left fun c hc => ?_).trans (List.map_id cs)
    have other : c ≠ '\\' := fun same => forward (same ▸ hc)
    simp [slashed, other]

/-- Nothing is worked off where no segment is dots. -/
theorem settledText_undotted {cs : List Char} (undotted : ∀ s ∈ splitChars '/' (cs.map slashed), isDots s = false) :
    settledText cs = '/' :: cs.map slashed := by
  rw [settledText, settled_undotted undotted, List.reverse_nil, List.nil_append, Text.intercalate_splitChars]

/-- Where a text has no escape, dots are dots in each of its segments. -/
theorem isDots_segment {cs s : List Char} (unescaped : hasEscape cs = false) (hs : s ∈ splitChars '/' cs) :
    isDots s = false ↔ s ≠ ['.'] ∧ s ≠ ['.', '.'] := by
  have block : hasEscape s = false := Text.hasEscape_of_infix ((Text.splitChars_infix cs).2 s hs) unescaped
  rw [Bool.eq_false_iff, ne_eq, isDots_iff block, not_or]

/-- **A path is read as the text that writes it** exactly if the text holds neither a backslash, nor an escape, nor a
segment of dots. -/
theorem read_pathText_iff {cs : List Char} :
    readPath (pathText true ('/' :: cs)) = utf8 ('/' :: cs) ↔
      '\\' ∉ cs ∧ hasEscape cs = false ∧ ∀ s ∈ splitChars '/' cs, s ≠ ['.'] ∧ s ≠ ['.', '.'] := by
  have slash : hasEscape ('/' :: cs) = hasEscape cs := Text.hasEscape_append (by decide) [] cs
  constructor
  · intro same
    -- what is read has the length of the text, so nothing was decoded and nothing worked off
    have bound := length_readPath cs
    rw [same] at bound
    have unescaped : hasEscape (settledText cs) = false := by
      rw [← Bool.not_eq_true]
      intro escape
      rw [if_pos escape] at bound
      omega
    have undotted : (splitChars '/' (cs.map slashed)).any isDots = false := by
      rw [← Bool.not_eq_true]
      intro dots
      rw [if_pos dots] at bound
      omega
    rw [List.any_eq_false] at undotted
    have whole := settledText_undotted fun s hs => Bool.eq_false_iff.2 (undotted s hs)
    rw [readPath_pathText, Text.percentDecode_unescaped unescaped, whole] at same
    have unchanged : cs.map slashed = cs := (List.cons.inj (Text.utf8_inj same)).2
    rw [whole, unchanged, slash] at unescaped
    rw [unchanged] at undotted
    exact ⟨map_slashed_iff.1 unchanged, unescaped, fun s hs =>
      (isDots_segment unescaped hs).1 (Bool.eq_false_iff.2 (undotted s hs))⟩
  · rintro ⟨forward, unescaped, undotted⟩
    have unchanged := map_slashed_iff.2 forward
    have whole : settledText cs = '/' :: cs.map slashed := by
      refine settledText_undotted fun s hs => ?_
      rw [unchanged] at hs
      exact (isDots_segment unescaped hs).2 (undotted s hs)
    rw [unchanged] at whole
    rw [readPath_pathText, whole, Text.percentDecode_unescaped (slash.trans unescaped)]

end HookFlow.Url
