import HookFlow.Proofs.Url.Path
/-!
URLs that start with an origin: what stands behind it decides the path, the query and the fragment, and nothing else.

An origin is a scheme of the web and an authority. Behind it, blanks at the end and line breaks are left out, a `#` and
a `?` end the path, and the rest is the path. So a text behind an origin is read as a path exactly if it is literal.

Results:
- `parse?_append`: what a URL with an origin is.
- `readPath_iff`: a path behind an origin is read as the text that writes it exactly if the text is literal.
-/

namespace HookFlow.Url

open Text (utf8 hasEscape splitChars)

/-! ## Origins -/

/-- a scheme of the web with an authority, and nothing else -/
structure IsOrigin (o : List Char) : Prop where
  visible : ∀ c ∈ o, ' ' < c
  web : ∃ scheme rest, scheme? o = some (scheme, rest) ∧ (scheme = "http" ∨ scheme = "https") ∧
    rest.dropWhile (isSlash true) ≠ [] ∧ ∀ c ∈ rest.dropWhile (isSlash true), c ∉ ['/', '\\', '?', '#']

instance (o : List Char) : Decidable (IsOrigin o) :=
  match found : scheme? o with
  | none => isFalse fun origin => by
    obtain ⟨_, _, same, -⟩ := origin.web
    cases found.symm.trans same
  | some (scheme, rest) =>
    have : Decidable (∀ c ∈ o, ' ' < c) := List.decidableBAll _ _
    have : Decidable (∀ c ∈ rest.dropWhile (isSlash true), c ∉ ['/', '\\', '?', '#']) := List.decidableBAll _ _
    decidable_of_iff ((∀ c ∈ o, ' ' < c) ∧ (scheme = "http" ∨ scheme = "https") ∧ rest.dropWhile (isSlash true) ≠ [] ∧
        ∀ c ∈ rest.dropWhile (isSlash true), c ∉ ['/', '\\', '?', '#'])
      ⟨fun ⟨visible, web⟩ => ⟨visible, scheme, rest, found, web⟩, fun ⟨visible, _, _, same, web⟩ => by
        cases found.symm.trans same
        exact ⟨visible, web⟩⟩

/-- whether a text may follow an origin: it is empty or starts with a slash -/
def IsRooted (t : List Char) : Prop := ∀ c ∈ t.head?, c = '/'

/-- a text without what is left out at its end and within it -/
def tidiedEnd (t : List Char) : List Char :=
  (t.reverse.dropWhile fun c => decide (c ≤ ' ')).reverse.filter fun c => c ≠ '\t' && c ≠ '\n' && c ≠ '\r'

/-- the part of a text that writes a path -/
def front (t : List Char) : List Char := (tail true (tidiedEnd t)).1

/-- a URL with another text behind its origin -/
def behind (u : Url) (t : List Char) : Url :=
  { u with path := pathText true (front t), query := (tail true (tidiedEnd t)).2.1,
           fragment := (tail true (tidiedEnd t)).2.2 }

@[simp] theorem behind_scheme (u : Url) (t : List Char) : (behind u t).scheme = u.scheme := rfl

@[simp] theorem behind_host (u : Url) (t : List Char) : (behind u t).host = u.host := rfl

@[simp] theorem behind_port (u : Url) (t : List Char) : (behind u t).port = u.port := rfl

theorem behind_path (u : Url) (t : List Char) : (behind u t).path = pathText true (front t) := rfl

/-- What is taken away at the end is not taken from a front that ends otherwise. -/
theorem reverse_dropWhile_append {p : Char → Bool} {as : List Char} (stop : ∀ c ∈ as.getLast?, p c = false)
    (bs : List Char) : ((as ++ bs).reverse.dropWhile p).reverse = as ++ (bs.reverse.dropWhile p).reverse := by
  have kept : as.reverse.dropWhile p = as.reverse := by
    cases reversed : as.reverse with
    | nil => rfl
    | cons c rest =>
      have last : c ∈ as.getLast? := by rw [← List.head?_reverse, reversed]; rfl
      exact List.dropWhile_cons_of_neg (by simp [stop c last])
  rw [List.reverse_append, List.dropWhile_append]
  split
  · rename_i none
    rw [kept, List.isEmpty_iff.1 none, List.reverse_reverse, List.reverse_nil, List.append_nil]
  · rw [List.reverse_append, List.reverse_reverse]

theorem filter_visible {o : List Char} (visible : ∀ c ∈ o, ' ' < c) :
    o.filter (fun c => c ≠ '\t' && c ≠ '\n' && c ≠ '\r') = o := by
  refine List.filter_eq_self.2 fun c hc => ?_
  have above := visible c hc
  have other (d : Char) (low : d ≤ ' ') : c ≠ d := fun same => absurd (same ▸ above) (not_lt.2 low)
  simp [other '\t' (by decide), other '\n' (by decide), other '\r' (by decide)]

/-- Nothing is left out of what is visible. -/
theorem tidiedEnd_append {o : List Char} (visible : ∀ c ∈ o, ' ' < c) (t : List Char) :
    tidiedEnd (o ++ t) = o ++ tidiedEnd t := by
  have stop : ∀ c ∈ o.getLast?, decide (c ≤ ' ') = false := fun c hc => by
    simpa using visible c (List.mem_of_getLast? hc)
  rw [tidiedEnd, reverse_dropWhile_append stop, List.filter_append, filter_visible visible]
  rfl

theorem tidied_append {o : List Char} (some : o ≠ []) (visible : ∀ c ∈ o, ' ' < c) (t : List Char) :
    tidied (o ++ t) = o ++ tidiedEnd t := by
  have start : (o ++ t).dropWhile (fun c => decide (c ≤ ' ')) = o ++ t := by
    cases o with
    | nil => exact absurd rfl some
    | cons c cs => exact List.dropWhile_cons_of_neg (by simpa using visible c List.mem_cons_self)
  rw [tidied, start]
  exact tidiedEnd_append visible t

theorem rooted_tidiedEnd {t : List Char} (rooted : IsRooted t) : IsRooted (tidiedEnd t) := by
  cases t with
  | nil => exact nofun
  | cons c cs =>
    obtain rfl := rooted c rfl
    have same := tidiedEnd_append (List.forall_mem_singleton.2 (by decide : ' ' < '/')) cs
    rw [List.singleton_append, List.singleton_append] at same
    rw [same]
    intro d hd
    exact (Option.some.inj hd).symm

/-- a character of a scheme -/
def isSchemeChar (c : Char) : Bool := c.isAlphanum || c == '+' || c == '-' || c == '.'

theorem scheme?_eq_some {cs rest : List Char} {scheme : String} :
    scheme? cs = some (scheme, rest) ↔ ∃ c name, cs = c :: name ++ ':' :: rest ∧
      (∀ d ∈ c :: name, isSchemeChar d = true) ∧ c.isAlpha = true ∧ (String.ofList (c :: name)).toLower = scheme := by
  constructor
  · intro found
    simp only [scheme?] at found
    split at found
    · rename_i c name rest' taken left
      split at found
      · rename_i alpha
        rw [taken] at found left
        change cs.takeWhile isSchemeChar = c :: name at taken
        cases found
        obtain ⟨after, whole⟩ := List.takeWhile_prefix isSchemeChar (l := cs)
        rw [taken] at whole
        rw [← whole, List.drop_left] at left
        refine ⟨c, name, by rw [← whole, left], fun d hd => ?_, alpha, rfl⟩
        rw [← taken] at hd
        exact List.all_eq_true.1 List.all_takeWhile d hd
      · cases found
    · cases found
  · rintro ⟨c, name, rfl, all, alpha, rfl⟩
    have taken : (c :: name ++ ':' :: rest).takeWhile isSchemeChar = c :: name := by
      rw [List.takeWhile_append_of_pos all, List.takeWhile_cons_of_neg (by decide), List.append_nil]
    simp only [scheme?]
    split
    · rename_i taken' left
      cases taken.symm.trans taken'
      rw [taken', List.drop_left] at left
      cases left
      rw [taken', if_pos alpha]
    · rename_i other
      refine absurd ?_ (other c name rest taken)
      exact (congrArg (fun front => List.drop (List.length front) _) taken).trans List.drop_left

theorem scheme?_append {cs rest : List Char} {scheme : String} (found : scheme? cs = some (scheme, rest))
    (t : List Char) : scheme? (cs ++ t) = some (scheme, rest ++ t) := by
  obtain ⟨c, name, rfl, all, alpha, lower⟩ := scheme?_eq_some.1 found
  exact scheme?_eq_some.2 ⟨c, name, by simp, all, alpha, lower⟩

/-- A query and a fragment begin behind what holds neither of their signs. -/
theorem tail_append {a : List Char} (plain : ∀ c ∈ a, c ∉ ['?', '#']) (t : List Char) :
    tail true (a ++ t) = (a ++ (tail true t).1, (tail true t).2) := by
  have cut (sign : Char) (hsign : sign ∈ ['?', '#']) (t : List Char) :
      span (· == sign) (a ++ t) = (a ++ (span (· == sign) t).1, (span (· == sign) t).2) := by
    have other : ∀ c ∈ a, (!(c == sign)) = true := by
      intro c hc
      have differs : c ≠ sign := fun same => plain c hc (same ▸ hsign)
      simp [differs]
    simp only [span, List.takeWhile_append_of_pos other, List.dropWhile_append_of_pos other]
  simp only [tail, cut '#' (by decide), cut '?' (by decide)]

theorem span_authority {a t : List Char} (plain : ∀ c ∈ a, c ∉ ['/', '\\']) (rooted : IsRooted t) :
    span (isSlash true) (a ++ t) = (a, t) := by
  have other : ∀ c ∈ a, (!isSlash true c) = true := by
    intro c hc
    have differs := plain c hc
    simp only [List.mem_cons, List.not_mem_nil, or_false, not_or] at differs
    simp [isSlash, differs.1, differs.2]
  have stop : t.takeWhile (!isSlash true ·) = [] ∧ t.dropWhile (!isSlash true ·) = t := by
    cases t with
    | nil => exact ⟨rfl, rfl⟩
    | cons c cs =>
      obtain rfl := rooted c rfl
      exact ⟨rfl, rfl⟩
  rw [span, List.takeWhile_append_of_pos other, List.dropWhile_append_of_pos other, stop.1, stop.2, List.append_nil]

theorem rooted_tail {t : List Char} (rooted : IsRooted t) : IsRooted (tail true t).1 := by
  cases t with
  | nil => exact nofun
  | cons c cs =>
    obtain rfl := rooted c rfl
    intro d hd
    exact (Option.some.inj hd).symm

theorem withAuthority?_append {scheme : String} (web : isWeb scheme = true) {a t : List Char}
    (plain : ∀ c ∈ a, c ∉ ['/', '\\', '?', '#']) (rooted : IsRooted t) :
    withAuthority? scheme (a ++ t) = (withAuthority? scheme a).map fun u =>
      { u with path := pathText true (tail true t).1, query := (tail true t).2.1, fragment := (tail true t).2.2 } := by
  have slashless : ∀ c ∈ a, c ∉ ['/', '\\'] := fun c hc slash => plain c hc (List.mem_append_left ['?', '#'] slash)
  have signless : ∀ c ∈ a, c ∉ ['?', '#'] := fun c hc sign => plain c hc (List.mem_append_right ['/', '\\'] sign)
  have whole := span_authority slashless (rooted_tail rooted)
  have alone := span_authority slashless (t := []) nofun
  have cut := tail_append signless t
  have bare : tail true a = (a, none, none) := by
    have empty := tail_append signless []
    rw [List.append_nil] at empty
    exact empty.trans (congrArg (·, none, none) (List.append_nil a))
  rw [List.append_nil] at alone
  simp only [withAuthority?, web, cut, whole, bare, alone, Bool.true_or, Bool.and_true, if_true]
  generalize cutCredentials a = parts
  cases port? scheme ((parts.2.drop (hostChars false parts.2).length).drop 1) with
  | none => rfl
  | some port =>
    -- a host is there, or there is no URL in either case
    by_cases hostless : (hostChars false parts.2).isEmpty = true
    · simp [hostless]
    · cases webHost? (hostChars false parts.2) with
      | none => simp [hostless]
      | some host => simp [hostless]

/-- A URL with an authority has its scheme, and the query that is cut off before the authority is looked at. -/
theorem withAuthority?_parts {scheme : String} {cs : List Char} {u : Url} (found : withAuthority? scheme cs = some u) :
    u.scheme = scheme ∧ u.query = (tail (isWeb scheme) cs).2.1 := by
  simp only [withAuthority?, Option.bind_eq_bind, Option.bind_eq_some_iff] at found
  obtain ⟨port, -, found⟩ := found
  split at found
  all_goals
    obtain ⟨host, -, found⟩ := Option.bind_eq_some_iff.1 found
    split at found
    · cases found
    · cases found
      exact ⟨rfl, rfl⟩

/-- A URL with an origin is read from its authority on. -/
theorem IsOrigin.parse?_eq {o : List Char} (origin : IsOrigin o) :
    ∃ scheme a, (scheme = "http" ∨ scheme = "https") ∧ (∀ c ∈ a, c ∉ ['/', '\\', '?', '#']) ∧
      ∀ t, parse? (String.ofList (o ++ t)) = withAuthority? scheme (a ++ tidiedEnd t) := by
  obtain ⟨scheme, rest, found, web, some, plain⟩ := origin.web
  have full : o ≠ [] := by
    rintro rfl
    cases found
  refine ⟨scheme, rest.dropWhile (isSlash true), web, plain, fun t => ?_⟩
  have unslashed : (rest ++ tidiedEnd t).dropWhile (isSlash true) = rest.dropWhile (isSlash true) ++ tidiedEnd t := by
    rw [List.dropWhile_append, if_neg (by simpa using some)]
  rw [parse?, String.toList_ofList, tidied_append full origin.visible, scheme?_append found, ← unslashed]
  rcases web with rfl | rfl <;> rfl

/-- An origin does not end in a slash. -/
theorem IsOrigin.last {o : List Char} (origin : IsOrigin o) : ∀ c ∈ o.getLast?, (c == '/') = false := by
  obtain ⟨scheme, rest, found, -, some, plain⟩ := origin.web
  obtain ⟨c, name, rfl, -⟩ := scheme?_eq_some.1 found
  obtain ⟨slashes, whole⟩ := List.dropWhile_suffix (isSlash true) (l := rest)
  intro d hd
  have front : c :: name ++ ':' :: rest = (c :: name ++ ':' :: slashes) ++ rest.dropWhile (isSlash true) := by
    rw [List.append_assoc, List.cons_append (a := ':'), whole]
  rw [front, List.getLast?_append_of_ne_nil _ some] at hd
  have other := plain d (List.mem_of_getLast? hd)
  simp only [List.mem_cons, not_or] at other
  exact beq_eq_false_iff_ne.2 other.1

/-- **What a URL with an origin is**: the text behind the origin decides the path, the query and the fragment. -/
theorem parse?_append {o t : String} (origin : IsOrigin o.toList) (rooted : IsRooted t.toList) :
    parse? (o ++ t) = (parse? o).map (behind · t.toList) := by
  obtain ⟨scheme, a, web, plain, parsed⟩ := origin.parse?_eq
  have known : isWeb scheme = true := by rcases web with rfl | rfl <;> decide
  have alone := parsed []
  have nothing : tidiedEnd [] = [] := rfl
  rw [nothing, List.append_nil, List.append_nil, String.ofList_toList] at alone
  have whole := parsed t.toList
  rw [← String.toList_append, String.ofList_toList] at whole
  rw [alone, whole, withAuthority?_append known plain (rooted_tidiedEnd rooted)]
  rfl

theorem IsOrigin.scheme {o : String} (origin : IsOrigin o.toList) {u : Url} (valid : parse? o = some u) :
    u.scheme = "http" ∨ u.scheme = "https" := by
  obtain ⟨scheme, a, web, -, parsed⟩ := origin.parse?_eq
  have alone := parsed []
  rw [List.append_nil, String.ofList_toList, valid] at alone
  rw [(withAuthority?_parts alone.symm).1]
  exact web

/-! ## Literal texts -/

/-- a text that stands for itself within a path -/
structure IsVerbatim (t : List Char) : Prop where
  /-- none of its characters ends a path, counts as a slash or is left out -/
  plain : ∀ c ∈ t, c ∉ ['?', '#', '\\', '\t', '\n', '\r']
  unescaped : hasEscape t = false
  undotted : ∀ s ∈ splitChars '/' t, s ≠ ['.'] ∧ s ≠ ['.', '.']

instance (t : List Char) : Decidable (IsVerbatim t) :=
  have : Decidable (∀ c ∈ t, c ∉ ['?', '#', '\\', '\t', '\n', '\r']) := List.decidableBAll _ _
  have : Decidable (∀ s ∈ splitChars '/' t, s ≠ ['.'] ∧ s ≠ ['.', '.']) := List.decidableBAll _ _
  decidable_of_iff (_ ∧ _ ∧ _) ⟨fun ⟨plain, unescaped, undotted⟩ => ⟨plain, unescaped, undotted⟩,
    fun verbatim => ⟨verbatim.plain, verbatim.unescaped, verbatim.undotted⟩⟩

/-- a text that stands for itself at the end of a path -/
structure IsLiteral (t : List Char) : Prop extends IsVerbatim t where
  /-- nothing is left out at its end -/
  closed : ∀ c ∈ t.getLast?, ' ' < c

instance (t : List Char) : Decidable (IsLiteral t) :=
  have : Decidable (∀ c ∈ t.getLast?, ' ' < c) :=
    decidable_of_iff (t.getLast?.all (' ' < ·) = true) (by simp [Option.all_eq_true])
  decidable_of_iff (_ ∧ _) ⟨fun ⟨verbatim, closed⟩ => ⟨verbatim, closed⟩,
    fun literal => ⟨literal.toIsVerbatim, literal.closed⟩⟩

theorem isVerbatim_append {as bs : List Char} : IsVerbatim (as ++ '/' :: bs) ↔ IsVerbatim as ∧ IsVerbatim bs := by
  have escapes : hasEscape (as ++ '/' :: bs) = (hasEscape as || hasEscape bs) := Text.hasEscape_append (by decide) as bs
  have segments := Text.splitChars_append '/' as bs
  constructor
  · rintro ⟨plain, unescaped, undotted⟩
    rw [escapes, Bool.or_eq_false_iff] at unescaped
    rw [segments, List.forall_mem_append] at undotted
    rw [List.forall_mem_append, List.forall_mem_cons] at plain
    exact ⟨⟨plain.1, unescaped.1, undotted.1⟩, plain.2.2, unescaped.2, undotted.2⟩
  · rintro ⟨first, second⟩
    refine ⟨?_, ?_, ?_⟩
    · exact List.forall_mem_append.2 ⟨first.plain, List.forall_mem_cons.2 ⟨by decide, second.plain⟩⟩
    · rw [escapes, first.unescaped, second.unescaped, Bool.or_false]
    · rw [segments]
      exact List.forall_mem_append.2 ⟨first.undotted, second.undotted⟩

theorem isLiteral_append {as bs : List Char} : IsLiteral (as ++ '/' :: bs) ↔ IsVerbatim as ∧ IsLiteral bs := by
  have last : (as ++ '/' :: bs).getLast? = some (bs.getLast?.getD '/') := by
    rw [List.getLast?_append_of_ne_nil _ (List.cons_ne_nil _ _), List.getLast?_cons]
  constructor
  · rintro ⟨verbatim, closed⟩
    obtain ⟨first, second⟩ := isVerbatim_append.1 verbatim
    refine ⟨first, second, fun c hc => closed c ?_⟩
    rw [last, Option.mem_def.1 hc]
    rfl
  · rintro ⟨first, second, closed⟩
    refine ⟨isVerbatim_append.2 ⟨first, second⟩, fun c hc => ?_⟩
    rw [last] at hc
    cases final : bs.getLast? with
    | none =>
      rw [final] at hc
      cases hc
      decide
    | some d =>
      rw [final] at hc
      cases hc
      exact closed d final

theorem tidiedEnd_sublist (t : List Char) : (tidiedEnd t).Sublist t := by
  have fewer := (List.dropWhile_sublist (fun c => decide (c ≤ ' ')) (l := t.reverse)).reverse
  rw [List.reverse_reverse] at fewer
  exact List.filter_sublist.trans fewer

/-- A text is left as it is if it has no line breaks and ends visibly. -/
theorem tidiedEnd_eq_self_iff {t : List Char} :
    tidiedEnd t = t ↔ (∀ c ∈ t, c ∉ ['\t', '\n', '\r']) ∧ ∀ c ∈ t.getLast?, ' ' < c := by
  have last : t.getLast? = t.reverse.head? := by rw [List.head?_reverse]
  have kept (c : Char) : (c ≠ '\t' && c ≠ '\n' && c ≠ '\r') = true ↔ c ∉ ['\t', '\n', '\r'] := by
    simp [and_assoc]
  constructor
  · intro same
    have fewer := (List.dropWhile_sublist (fun c => decide (c ≤ ' ')) (l := t.reverse)).reverse
    rw [List.reverse_reverse] at fewer
    have more : (tidiedEnd t).Sublist (t.reverse.dropWhile fun c => decide (c ≤ ' ')).reverse := List.filter_sublist
    rw [same] at more
    have whole := fewer.antisymm more
    refine ⟨fun c hc => (kept c).1 ?_, fun c hc => ?_⟩
    · rw [tidiedEnd, whole] at same
      exact List.filter_eq_self.1 same c hc
    · rw [last] at hc
      obtain ⟨rest, reversed⟩ := List.head?_eq_some_iff.1 hc
      by_contra low
      have shorter := (List.dropWhile_sublist (fun c => decide (c ≤ ' ')) (l := rest)).length_le
      have size := congrArg List.length whole
      have all := congrArg List.length reversed
      rw [List.length_reverse, reversed, List.dropWhile_cons_of_pos (by simpa using low)] at size
      rw [List.length_reverse, List.length_cons] at all
      omega
  · rintro ⟨plain, closed⟩
    have stop : (t.reverse.dropWhile fun c => decide (c ≤ ' ')) = t.reverse := by
      cases reversed : t.reverse with
      | nil => rfl
      | cons c rest =>
        rw [last, reversed] at closed
        exact List.dropWhile_cons_of_neg (by simpa using closed c rfl)
    rw [tidiedEnd, stop, List.reverse_reverse]
    exact List.filter_eq_self.2 fun c hc => (kept c).2 (plain c hc)

/-- A text is all path if it holds neither of the signs that end one. -/
theorem tail_eq_self_iff {t : List Char} : (tail true t).1 = t ↔ ∀ c ∈ t, c ∉ ['?', '#'] := by
  constructor
  · intro same c hc
    have inner : (t.takeWhile (!· == '#')).Sublist t := List.takeWhile_sublist _
    have outer : ((t.takeWhile (!· == '#')).takeWhile (!· == '?')).Sublist (t.takeWhile (!· == '#')) :=
      List.takeWhile_sublist _
    have both : (t.takeWhile (!· == '#')).takeWhile (!· == '?') = t := same
    rw [both] at outer
    have whole := inner.antisymm outer
    have hash : (!(c == '#')) = true := List.all_eq_true.1 List.all_takeWhile c (whole.symm ▸ hc)
    rw [whole] at both
    have mark : (!(c == '?')) = true := List.all_eq_true.1 List.all_takeWhile c (both.symm ▸ hc)
    simp only [Bool.not_eq_true', beq_eq_false_iff_ne] at hash mark
    simp [hash, mark]
  · intro signless
    have whole := tail_append signless []
    rw [List.append_nil] at whole
    exact (congrArg Prod.fst whole).trans (List.append_nil t)

theorem tail_sublist (t : List Char) : ((tail true t).1).Sublist t :=
  (List.takeWhile_sublist _).trans (List.takeWhile_sublist _)

theorem front_eq_self_iff {t : List Char} : front t = t ↔ (∀ c ∈ t, c ∉ ['?', '#', '\t', '\n', '\r']) ∧
    ∀ c ∈ t.getLast?, ' ' < c := by
  have signs (c : Char) : c ∉ ['?', '#', '\t', '\n', '\r'] ↔ c ∉ ['?', '#'] ∧ c ∉ ['\t', '\n', '\r'] := by
    simp [and_assoc]
  simp only [signs, forall_and]
  constructor
  · intro same
    have outer : (front t).Sublist (tidiedEnd t) := tail_sublist (tidiedEnd t)
    rw [same] at outer
    have inner : tidiedEnd t = t := (tidiedEnd_sublist t).antisymm outer
    rw [front, inner] at same
    have plain := tidiedEnd_eq_self_iff.1 inner
    exact ⟨⟨tail_eq_self_iff.1 same, plain.1⟩, plain.2⟩
  · rintro ⟨⟨signless, plain⟩, closed⟩
    rw [front, tidiedEnd_eq_self_iff.2 ⟨plain, closed⟩]
    exact tail_eq_self_iff.2 signless

/-- Nothing is cut off from a literal text. -/
theorem IsLiteral.tail_eq {t : List Char} (literal : IsLiteral t) : tail true (tidiedEnd t) = (t, none, none) := by
  have inner : tidiedEnd t = t :=
    tidiedEnd_eq_self_iff.2 ⟨fun c hc sign => literal.plain c hc (by simp at sign ⊢; tauto), literal.closed⟩
  have signless : ∀ c ∈ t, c ∉ ['?', '#'] := fun c hc sign => literal.plain c hc (by simp at sign ⊢; tauto)
  have whole := tail_append signless []
  rw [inner]
  rw [List.append_nil] at whole
  exact whole.trans (congrArg (·, none, none) (List.append_nil t))

theorem IsLiteral.behind_query {t : List Char} (literal : IsLiteral t) (u : Url) : (behind u t).query = none := by
  rw [behind]
  simp only [literal.tail_eq]

theorem front_slash (t : List Char) : front ('/' :: t) = '/' :: front t := by
  have inner := tidiedEnd_append (List.forall_mem_singleton.2 (by decide : ' ' < '/')) t
  have outer := tail_append (List.forall_mem_singleton.2 (by decide : '/' ∉ ['?', '#'])) (tidiedEnd t)
  rw [List.singleton_append, List.singleton_append] at inner
  rw [front, inner]
  exact congrArg Prod.fst outer

/-- **A path behind an origin is read as the text that writes it** exactly if the text is literal. -/
theorem readPath_iff {t : List Char} :
    readPath (pathText true (front ('/' :: t))) = utf8 ('/' :: t) ↔ IsLiteral ('/' :: t) := by
  have escapes : hasEscape ('/' :: t) = hasEscape t := Text.hasEscape_append (by decide) [] t
  have segments : splitChars '/' ('/' :: t) = [] :: splitChars '/' t := rfl
  constructor
  · intro same
    -- what is cut off would be missing from what is read
    have whole : front t = t := by
      have bound := length_readPath (front t)
      rw [← front_slash, same, front_slash, Text.utf8_cons, Text.utf8_cons, List.length_append,
        List.length_append] at bound
      have part : (front t).Sublist t := (tail_sublist (tidiedEnd t)).trans (tidiedEnd_sublist t)
      exact Text.eq_of_utf8_length part (by omega)
    rw [front_slash, whole, read_pathText_iff] at same
    obtain ⟨forward, unescaped, undotted⟩ := same
    obtain ⟨plain, closed⟩ := front_eq_self_iff.1 ((front_slash t).trans (congrArg _ whole))
    refine ⟨⟨fun c hc sign => ?_, escapes.trans unescaped, ?_⟩, closed⟩
    · have other := plain c hc
      have backslash : c = '\\' := by
        simp only [List.mem_cons, List.not_mem_nil, or_false] at sign other
        tauto
      subst backslash
      rcases List.mem_cons.1 hc with slash | hc
      · exact absurd slash (by decide)
      · exact forward hc
    · rw [segments]
      exact List.forall_mem_cons.2 ⟨by decide, undotted⟩
  · intro literal
    have whole : front ('/' :: t) = '/' :: t := by rw [front, literal.tail_eq]
    have undotted := literal.undotted
    rw [segments] at undotted
    rw [whole, read_pathText_iff]
    refine ⟨fun backslash => literal.plain _ (List.mem_cons_of_mem _ backslash) (by decide), ?_, ?_⟩
    · rw [← escapes]
      exact literal.unescaped
    · exact (List.forall_mem_cons.1 undotted).2

end HookFlow.Url
