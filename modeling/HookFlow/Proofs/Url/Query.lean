import HookFlow.Proofs.Url.Origin
import Mathlib.Data.List.TakeWhile
/-!
Queries that are put behind an address: the text behind the `?` is the query of the URL as it is, if the address has no
sign for a query or a fragment of its own and the text holds nothing that a query escapes.

Results:
- `query_of_parse?`: the query of a URL of the web.
-/

namespace HookFlow.Url

open Text (percentEncode_kept)

/-- a text that stands for itself as a query -/
def IsQuery (q : List Char) : Prop := ∀ c ∈ q, c.toNat < 128 ∧ keepsInQuery true c = true

variable {q : List Char}

theorem keepsInQuery_iff {c : Char} : keepsInQuery true c = true ↔
    ' ' < c ∧ c < '\x7f' ∧ c ∉ ['"', '#', '<', '>', '\''] := by
  simp [keepsInQuery, and_assoc]

/-- A constant text is tested, so that `decide` evaluates it and no other text. -/
theorem isQuery_of_all (all : (q.all fun c => c.toNat < 128 && keepsInQuery true c) = true) : IsQuery q := by
  simpa [IsQuery] using all

theorem IsQuery.visible (asked : IsQuery q) : ∀ c ∈ '?' :: q, ' ' < c :=
  List.forall_mem_cons.2 ⟨by decide, fun c hc => (keepsInQuery_iff.1 (asked c hc).2).1⟩

/-! ## Where the query stays -/

/-- What is taken away in front stops before the query. -/
theorem dropWhile_query {p : Char → Bool} (stop : p '?' = false) (a q : List Char) :
    (a ++ '?' :: q).dropWhile p = a.dropWhile p ++ '?' :: q := by
  rw [List.dropWhile_append]
  split
  next none => rw [List.isEmpty_iff.1 none, List.dropWhile_cons_of_neg (by simp [stop]), List.nil_append]
  next => rfl

/-- Blanks are left out of the address alone. -/
theorem tidied_query (asked : IsQuery q) (a : List Char) :
    ∃ a', (∀ c ∈ a', c ∈ a) ∧ tidied (a ++ '?' :: q) = a' ++ '?' :: q := by
  have start := dropWhile_query (p := fun c => decide (c ≤ ' ')) (by decide) a q
  have last (b : List Char) : ∀ c ∈ (b ++ '?' :: q).getLast?, decide (c ≤ ' ') = false := by
    intro c hc
    rw [List.getLast?_append_of_ne_nil _ (List.cons_ne_nil _ _)] at hc
    simpa using asked.visible c (List.mem_of_getLast? hc)
  have whole := reverse_dropWhile_append (last (a.dropWhile fun c => decide (c ≤ ' '))) []
  simp only [List.append_nil, List.reverse_nil, List.dropWhile_nil] at whole
  refine ⟨_, fun c hc => ?_, by
    rw [tidied, start, whole, List.filter_append, filter_visible asked.visible]⟩
  exact (List.dropWhile_sublist _).subset (List.mem_of_mem_filter hc)

/-- A scheme ends before the query. -/
theorem scheme?_query {a rest : List Char} {scheme : String} (plain : ∀ c ∈ a, c ∉ ['?', '#'])
    (found : scheme? (a ++ '?' :: q) = some (scheme, rest)) :
    ∃ r, rest = r ++ '?' :: q ∧ ∀ c ∈ r, c ∉ ['?', '#'] := by
  obtain ⟨c, name, whole, chars, -, -⟩ := scheme?_eq_some.1 found
  have asked : '?' ∈ rest := by
    have among : '?' ∈ c :: name ++ ':' :: rest := whole ▸ List.mem_append_right a List.mem_cons_self
    rcases List.mem_append.1 among with front | behind
    · exact absurd (chars _ front) (by decide)
    · exact (List.mem_cons.1 behind).resolve_left (by decide)
  obtain ⟨r, later, rfl, free⟩ := List.eq_append_cons_of_mem asked
  have free' : '?' ∉ c :: name ++ ':' :: r := by
    rw [List.mem_append, List.mem_cons (b := ':'), not_or, not_or]
    exact ⟨fun front => absurd (chars _ front) (by decide), by decide, free⟩
  have whole' : a ++ '?' :: q = (c :: name ++ ':' :: r) ++ '?' :: later := by
    rw [whole, List.append_assoc (c :: name), List.cons_append (a := ':')]
  obtain ⟨rfl, rfl⟩ := Text.cut_first (fun among => plain '?' among (by decide)) free' whole'
  exact ⟨r, rfl, fun d hd => plain d (List.mem_append_right _ (List.mem_cons_of_mem _ hd))⟩

theorem tail_query (asked : IsQuery q) {r : List Char} (plain : ∀ c ∈ r, c ∉ ['?', '#']) :
    (tail true (r ++ '?' :: q)).2.1 = some (String.ofList q) := by
  have unmarked : ∀ c ∈ '?' :: q, (!(c == '#')) = true := by
    refine List.forall_mem_cons.2 ⟨by decide, fun c hc => ?_⟩
    have other := (keepsInQuery_iff.1 (asked c hc).2).2.2
    simp only [List.mem_cons, not_or] at other
    simp [other.2.1]
  have cut : span (· == '#') ('?' :: q) = ('?' :: q, []) := by
    rw [span, List.takeWhile_eq_self_iff.2 unmarked, List.dropWhile_eq_nil_iff.2 unmarked]
  rw [tail_append plain, tail, cut]
  simp [span, percentEncode_kept asked]

/-! ## URLs of the web -/

theorem scheme_of_file? {cs : List Char} {u : Url} (found : file? cs = some u) : u.scheme = "file" := by
  simp only [file?] at found
  split at found
  · split at found
    · split at found
      · cases found
        rfl
      · split at found
        · cases found
          rfl
        · obtain ⟨host, -, made⟩ := Option.bind_eq_some_iff.1 found
          cases made
          rfl
    · cases found
      rfl
  · cases found
    rfl

/-- **The text behind an address and a `?` is the query of the URL.** -/
theorem query_of_parse? {a : String} {query : String} {u : Url} (plain : ∀ c ∈ a.toList, c ∉ ['?', '#'])
    (asked : IsQuery query.toList) (parsed : parse? (a ++ "?" ++ query) = some u)
    (web : u.scheme = "http" ∨ u.scheme = "https") : u.query = some query := by
  obtain ⟨a', among, tidy⟩ := tidied_query asked a.toList
  have chars : (a ++ "?" ++ query).toList = a.toList ++ '?' :: query.toList := by simp
  rw [parse?, chars, tidy] at parsed
  obtain ⟨⟨scheme, rest⟩, found, parsed⟩ := Option.bind_eq_some_iff.1 parsed
  obtain ⟨r, rfl, plain'⟩ := scheme?_query (fun c hc => plain c (among c hc)) found
  simp only at parsed
  split at parsed
  next file =>
    rw [scheme_of_file? parsed] at web
    exact absurd web (by decide)
  next =>
    split at parsed
    next known =>
      rw [(withAuthority?_parts parsed).2, known, dropWhile_query (by decide), tail_query asked, String.ofList_toList]
      exact fun c hc => plain' c ((List.dropWhile_sublist _).subset hc)
    next unknown =>
      have other : u.scheme = scheme := by
        split at parsed
        · exact (withAuthority?_parts parsed).1
        · cases parsed
          rfl
      rw [other] at web
      rcases web with rfl | rfl
      · exact absurd rfl unknown
      · exact absurd rfl unknown

end HookFlow.Url
