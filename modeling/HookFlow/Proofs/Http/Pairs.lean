import HookFlow.Http.Basic
import HookFlow.Proofs.Text.Percent
import HookFlow.Proofs.Text.Split
/-!
Pairs of a query: what is put behind a URL is what a form reader finds there.

The reader cuts a query at `&`, each part at its first `=`, and takes pluses for spaces before it undoes escapes. What
is written for a text holds none of these three signs but the pluses that stand for its spaces.

Results:
- `formBytes_pairText`: a text in a pair is read back.
- `formPairs_withPairs`: the pairs that are put behind a URL without a query are all that is found there.
-/

namespace HookFlow.Http

open Text (Bytes encode percentEncode percentDecode splitChars utf8 escaped mem_percentEncode)

/-- the bytes of a text in a pair, with spaces for pluses and escapes undone -/
def formBytes (cs : List Char) : Bytes := percentDecode (utf8 (cs.map fun c => if c == '+' then ' ' else c))

/-- the pair that a part of a query writes -/
def formPair (part : List Char) : Bytes × Bytes :=
  (formBytes (part.takeWhile (· != '=')), formBytes ((part.dropWhile (· != '=')).drop 1))

/-- the pairs that a query writes -/
def formPairs (query : String) : List (Bytes × Bytes) :=
  ((splitChars '&' query.toList).filter (!·.isEmpty)).map formPair

/-! Pairs change nothing but the query. -/

section

variable (u : Url) (pairs : List (String × String))

@[simp] theorem withPairs_scheme : (withPairs u pairs).scheme = u.scheme := rfl

@[simp] theorem withPairs_host : (withPairs u pairs).host = u.host := rfl

@[simp] theorem withPairs_port : (withPairs u pairs).port = u.port := rfl

@[simp] theorem withPairs_path : (withPairs u pairs).path = u.path := rfl

end

/-! ## One text -/

/-- what stays as it is in a pair, or becomes a plus -/
def keepsInForm (c : Char) : Bool := c == ' ' || keepsInPair c

theorem pairText_toList (s : String) :
    (pairText s).toList = (percentEncode keepsInForm s.toList).map fun c => if c == ' ' then '+' else c := by
  rw [pairText, String.toList_ofList]
  rfl

/-- Signs with a meaning are not kept. -/
theorem sign_escaped {sign d : Char} {cs : List Char} (hsign : sign ∈ ['+', '&', '='])
    (hd : d ∈ percentEncode keepsInForm cs) : d ≠ sign := by
  obtain ⟨-, kept⟩ := mem_percentEncode hd
  have foreign : keepsInForm sign = false ∧ sign ≠ '%' ∧ sign.isAlphanum = false := by
    simp only [List.mem_cons, List.not_mem_nil, or_false] at hsign
    rcases hsign with rfl | rfl | rfl <;> decide
  rintro rfl
  rcases kept with kept | percent | letter
  · exact absurd kept (by simp [foreign.1])
  · exact foreign.2.1 percent
  · exact absurd letter (by simp [foreign.2.2])

theorem not_mem_pairText {sign : Char} (hsign : sign ∈ ['&', '=']) (s : String) : sign ∉ (pairText s).toList := by
  rw [pairText_toList, List.mem_map]
  rintro ⟨d, hd, same⟩
  split at same
  · subst same
    revert hsign
    decide
  · exact sign_escaped (List.mem_cons_of_mem _ hsign) hd same

/-- **A text in a pair is read back.** -/
theorem formBytes_pairText (s : String) : formBytes (pairText s).toList = encode s := by
  have back : ((pairText s).toList.map fun c => if c == '+' then ' ' else c) = percentEncode keepsInForm s.toList := by
    rw [pairText_toList, List.map_map]
    refine (List.map_congr_left fun d hd => ?_).trans (List.map_id _)
    have other := sign_escaped (by decide : '+' ∈ ['+', '&', '=']) hd
    by_cases space : d = ' '
    · simp [space]
    · simp [space, other]
  rw [formBytes, back]
  exact Text.percentDecode_encoded (by decide) s.toList

/-! ## All pairs -/

/-- a pair as it is written -/
def written (p : String × String) : List Char := (pairText p.1).toList ++ '=' :: (pairText p.2).toList

theorem formPair_written (p : String × String) : formPair (written p) = (encode p.1, encode p.2) := by
  have plain : '=' ∉ (pairText p.1).toList := not_mem_pairText (by decide) p.1
  rw [formPair, written, Text.takeWhile_cut plain, Text.dropWhile_cut plain, List.drop_one, List.tail_cons,
    formBytes_pairText, formBytes_pairText]

theorem not_mem_written (p : String × String) : '&' ∉ written p := by
  rw [written, List.mem_append, List.mem_cons]
  rintro (name | same | value)
  · exact not_mem_pairText (by decide) p.1 name
  · exact absurd same (by decide)
  · exact not_mem_pairText (by decide) p.2 value

/-- **The pairs that are put behind a URL without a query are all that is found there.** -/
theorem formPairs_withPairs {u : Url} (bare : u.query = none) (pairs : List (String × String)) :
    formPairs ((withPairs u pairs).query.getD "") = pairs.map fun p => (encode p.1, encode p.2) := by
  cases pairs with
  | nil => simp [withPairs, bare, formPairs, splitChars]
  | cons p pairs =>
    have query : (withPairs u (p :: pairs)).query.getD "" =
        "&".intercalate ((p :: pairs).map fun p => pairText p.1 ++ "=" ++ pairText p.2) := by
      simp [withPairs, bare]
    have chars : ((withPairs u (p :: pairs)).query.getD "").toList =
        ['&'].intercalate (written p :: pairs.map written) := by
      rw [query, String.toList_intercalate, List.map_map]
      refine congrArg (List.intercalate ['&']) (List.map_congr_left fun q _ => ?_)
      simp [written]
    have parts : splitChars '&' ((withPairs u (p :: pairs)).query.getD "").toList = (p :: pairs).map written := by
      rw [chars, List.map_cons]
      refine Text.splitChars_join (not_mem_written p) fun part hpart => ?_
      obtain ⟨q, -, rfl⟩ := List.mem_map.1 hpart
      exact not_mem_written q
    have full : ∀ part ∈ (p :: pairs).map written, (!part.isEmpty) = true := by
      intro part hpart
      obtain ⟨q, -, rfl⟩ := List.mem_map.1 hpart
      simp [written]
    rw [formPairs, parts, List.filter_eq_self.2 full, List.map_map]
    exact List.map_congr_left fun q _ => formPair_written q

end HookFlow.Http
