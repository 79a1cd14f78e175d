import HookFlow.Instant
import HookFlow.Proofs.Text.Split
/-!
Instants as they are written: no two have the same text.

A date leads back to the number of its day. The year of a day within its era is found by taking the leap days out first,
which gives the year in which the day lies because a year starts no later than its days and ends no earlier. The text
then gives the six numbers back: its signs tell where each of them ends, and zeros in front do not count.

Results:
- `yearStart_bounds`: a day lies in the year that is found for it.
- `dayOf_dateOf`, `instant_parts`: a date and a time of day lead back to their day and second.
- `render_inj`: instants with the same text are the same.
-/

namespace HookFlow.Instant

/-! ## The calendar -/

/-- the year of a day in an era -/
def yearOfEra (d : Nat) : Nat := (d - d / 1460 + d / 36524 - d / 146096) / 365

/-- the first day of a year in an era -/
def yearStart (y : Nat) : Nat := 365 * y + y / 4 - y / 100

theorem yearOfEra_mono {d d' : Nat} (le : d ≤ d') : yearOfEra d ≤ yearOfEra d' := by
  have fours : d - d / 1460 ≤ d' - d' / 1460 := by omega
  have centuries : d / 36524 ≤ d' / 36524 := Nat.div_le_div_right le
  refine Nat.div_le_div_right ?_
  omega

/-- **A day lies in the year that is found for it.** -/
theorem yearStart_bounds {d : Nat} (within : d < 146097) :
    yearOfEra d < 400 ∧ yearStart (yearOfEra d) ≤ d ∧ d < yearStart (yearOfEra d) + 366 := by
  have small : yearOfEra d < 400 := by
    simp only [yearOfEra]
    omega
  have before : ∀ y < 400, 0 < y → yearOfEra (yearStart y - 1) < y := by decide +kernel
  have behind : ∀ y < 400, y < yearOfEra (yearStart y + 366) := by decide +kernel
  refine ⟨small, ?_, ?_⟩
  · by_contra! early
    have some : 0 < yearOfEra d := by
      refine Nat.pos_of_ne_zero fun zero => ?_
      rw [zero] at early
      exact absurd early (Nat.not_lt_zero d)
    have at_most := yearOfEra_mono (Nat.le_sub_one_of_lt early)
    have fewer := before _ small some
    omega
  · by_contra! late
    have at_least := yearOfEra_mono late
    have more := behind _ small
    omega

/-- the month in which a day of a year lies, counted from March -/
def monthOfYear (d : Nat) : Nat := (5 * d + 2) / 153

/-- the first day of a month, counted from March -/
def monthStart (m : Nat) : Nat := (153 * m + 2) / 5

theorem monthStart_bounds {d : Nat} (within : d < 366) : monthOfYear d < 12 ∧ monthStart (monthOfYear d) ≤ d := by
  simp only [monthOfYear, monthStart]
  omega

/-- the number of the day with a year, a month and a day -/
def dayOf (date : Int × Nat × Nat) : Int :=
  let year := date.1 - (if date.2.1 ≤ 2 then 1 else 0)
  let fromMarch := if date.2.1 ≤ 2 then date.2.1 + 9 else date.2.1 - 3
  year / 400 * 146097 + ((yearStart (year % 400).toNat + monthStart fromMarch + date.2.2 : Nat) : Int) - 719469

/-- the date of a day of a month, where eras, years and months are counted from the first of March -/
def dateFrom (era : Int) (year month day : Nat) : Int × Nat × Nat :=
  let number := if month < 10 then month + 3 else month - 9
  (year + era * 400 + (if number ≤ 2 then 1 else 0), number, day)

theorem dateOf_eq (n : Int) :
    dateOf n =
      let d := ((n + 719468) % 146097).toNat
      let ofYear := d - yearStart (yearOfEra d)
      dateFrom ((n + 719468) / 146097) (yearOfEra d) (monthOfYear ofYear)
        (ofYear - monthStart (monthOfYear ofYear) + 1) := rfl

theorem dayOf_dateFrom {era : Int} {year month day : Nat} (hyear : year < 400) (hmonth : month < 12) :
    dayOf (dateFrom era year month day) =
      era * 146097 + ((yearStart year + monthStart month + day : Nat) : Int) - 719469 := by
  have eras : ((year : Int) + era * 400) / 400 = era := by omega
  have rest : ((year : Int) + era * 400) % 400 = year := by omega
  by_cases early : month < 10
  · have number : dateFrom era year month day = (year + era * 400, month + 3, day) := by
      simp only [dateFrom, if_pos early, if_neg (show ¬ month + 3 ≤ 2 by omega), Int.add_zero]
    simp only [number, dayOf, if_neg (show ¬ month + 3 ≤ 2 by omega), Int.sub_zero, Nat.add_sub_cancel, eras, rest,
      Int.toNat_natCast]
  · have number : dateFrom era year month day = (year + era * 400 + 1, month - 9, day) := by
      simp only [dateFrom, if_neg early, if_pos (show month - 9 ≤ 2 by omega)]
    simp only [number, dayOf, if_pos (show month - 9 ≤ 2 by omega), Int.add_sub_cancel,
      Nat.sub_add_cancel (show 9 ≤ month by omega), eras, rest, Int.toNat_natCast]

/-- **A date leads back to its day.** -/
theorem dayOf_dateOf (n : Int) : dayOf (dateOf n) = n := by
  have within : ((n + 719468) % 146097).toNat < 146097 := by omega
  obtain ⟨year, start, ends⟩ := yearStart_bounds within
  obtain ⟨month, start'⟩ := monthStart_bounds
    (d := ((n + 719468) % 146097).toNat - yearStart (yearOfEra ((n + 719468) % 146097).toNat)) (by omega)
  simp only [dateOf_eq, dayOf_dateFrom year month]
  omega

/-- the instant of a day of the calendar with a time of day -/
def Parts.instant (p : Parts) : Instant :=
  ⟨dayOf (p.year, p.month, p.day) * 86400 + ((p.hour * 60 + p.minute) * 60 + p.second : Nat)⟩

/-- **The parts of an instant lead back to it.** -/
theorem instant_parts (t : Instant) : t.parts.instant = t := by
  have day : dayOf (t.parts.year, t.parts.month, t.parts.day) = t.seconds / 86400 := dayOf_dateOf _
  have time : (t.parts.hour * 60 + t.parts.minute) * 60 + t.parts.second = (t.seconds % 86400).toNat := by
    simp only [parts]
    omega
  rw [Parts.instant, day, time]
  congr 1
  omega

/-! ## Numbers -/

theorem toList_padded (width n : Nat) :
    ∃ zeros, (padded width n).toList = List.replicate zeros '0' ++ Nat.toDigits 10 n := by
  refine ⟨width - (toString n).length, ?_⟩
  rw [padded, String.toList_append, String.toList_ofList]
  exact congrArg _ Nat.toList_repr

theorem isDigit_padded {width n : Nat} {c : Char} (hc : c ∈ (padded width n).toList) : c.isDigit = true := by
  obtain ⟨zeros, chars⟩ := toList_padded width n
  rw [chars, List.mem_append] at hc
  rcases hc with zero | digit
  · rw [(List.mem_replicate.1 zero).2]
    decide
  · exact Nat.isDigit_of_mem_toDigits (by decide) (by decide) digit

theorem not_mem_padded {width n : Nat} {c : Char} (sign : c.isDigit = false) : c ∉ (padded width n).toList := by
  intro among
  rw [isDigit_padded among] at sign
  cases sign

/-- Numbers of any width with the same text are the same. -/
theorem padded_inj {width n n' : Nat} (same : (padded width n).toList = (padded width n').toList) : n = n' := by
  have value (n : Nat) : Nat.ofDigitChars 10 (padded width n).toList 0 = n := by
    obtain ⟨zeros, chars⟩ := toList_padded width n
    rw [chars, Nat.ofDigitChars_append, Nat.ofDigitChars_replicate_zero, Nat.mul_zero,
      Nat.ofDigitChars_toDigits (by decide) (by decide)]
  rw [← value n, same, value n']

/-- the sign of a year -/
def yearSign (year : Int) : List Char := if year < 0 then ['-'] else if 9999 < year then ['+'] else []

theorem toList_yearText (year : Int) : (yearText year).toList = yearSign year ++ (padded 4 year.natAbs).toList := by
  rw [yearText, yearSign]
  split
  · rw [String.toList_append]
    rfl
  · split
    · rw [String.toList_append]
      rfl
    · exact (List.nil_append _).symm

theorem yearSign_ne_digit {year : Int} : ∀ c ∈ yearSign year, c.isDigit = false ∧ c ≠ 'T' := by
  rw [yearSign]
  split
  · exact List.forall_mem_singleton.2 (by decide)
  · split
    · exact List.forall_mem_singleton.2 (by decide)
    · exact List.forall_mem_nil _

theorem negative_of_yearSign {year : Int} : year < 0 ↔ yearSign year = ['-'] := by
  rw [yearSign]
  split
  · simp [*]
  · split <;> simp [*]

theorem filter_yearText (year : Int) : (yearText year).toList.filter Char.isDigit = (padded 4 year.natAbs).toList := by
  have sign : (yearSign year).filter Char.isDigit = [] := List.filter_eq_nil_iff.2 fun c hc => by
    simp [(yearSign_ne_digit c hc).1]
  rw [toList_yearText, List.filter_append, sign, List.nil_append]
  exact List.filter_eq_self.2 fun c hc => isDigit_padded hc

/-- Years with the same text are the same. -/
theorem yearText_inj {year year' : Int} (same : (yearText year).toList = (yearText year').toList) : year = year' := by
  have digits : (padded 4 year.natAbs).toList = (padded 4 year'.natAbs).toList := by
    rw [← filter_yearText, same, filter_yearText]
  have sign : yearSign year = yearSign year' := by
    rw [toList_yearText, toList_yearText, digits] at same
    exact List.append_cancel_right same
  have negative : year < 0 ↔ year' < 0 := by
    rw [negative_of_yearSign, sign, negative_of_yearSign]
  have size := padded_inj digits
  omega

/-! ## Texts -/

/-- The parts of an instant are written with signs between them. -/
theorem toList_render (t : Instant) :
    t.render.toList =
      ((yearText t.parts.year).toList ++ '-' :: (padded 2 t.parts.month).toList ++
        '-' :: (padded 2 t.parts.day).toList) ++ 'T' ::
      ((padded 2 t.parts.hour).toList ++ ':' :: ((padded 2 t.parts.minute).toList ++ ':' ::
        ((padded 2 t.parts.second).toList ++ 'Z' :: []))) := by
  simp [render]

/-- The characters of an instant are digits and five signs. -/
theorem mem_render {t : Instant} {c : Char} (hc : c ∈ t.render.toList) :
    c.isDigit = true ∨ c ∈ ['-', '+', 'T', ':', 'Z'] := by
  have sign {year : Int} (among : c ∈ yearSign year) : c ∈ ['-', '+', 'T', ':', 'Z'] := by
    rw [yearSign] at among
    split at among
    · rw [List.mem_singleton.1 among]
      decide
    · split at among
      · rw [List.mem_singleton.1 among]
        decide
      · cases among
  rw [toList_render, toList_yearText] at hc
  simp only [List.mem_append, List.mem_cons, List.not_mem_nil, or_false] at hc
  rcases hc with (((year | digit) | rfl | digit) | rfl | digit) | rfl | digit | rfl | digit | rfl | digit | rfl
  · exact .inr (sign year)
  all_goals first | exact .inl (isDigit_padded digit) | exact .inr (by decide)

/-- **Instants with the same text are the same.** -/
theorem render_inj {t t' : Instant} (same : t.render = t'.render) : t = t' := by
  have untimed (t : Instant) : 'T' ∉ (yearText t.parts.year).toList ++ '-' :: (padded 2 t.parts.month).toList ++
      '-' :: (padded 2 t.parts.day).toList := by
    have year : 'T' ∉ (yearText t.parts.year).toList := by
      rw [toList_yearText, List.mem_append]
      rintro (sign | digit)
      · exact (yearSign_ne_digit _ sign).2 rfl
      · exact not_mem_padded (by decide) digit
    simp [year, not_mem_padded (show ('T').isDigit = false by decide)]
  have minus {n : Nat} : '-' ∉ (padded 2 n).toList := not_mem_padded (by decide)
  have colon {n : Nat} : ':' ∉ (padded 2 n).toList := not_mem_padded (by decide)
  have zulu {n : Nat} : 'Z' ∉ (padded 2 n).toList := not_mem_padded (by decide)
  have chars := congrArg String.toList same
  rw [toList_render, toList_render] at chars
  obtain ⟨date, time⟩ := Text.cut_first (untimed t) (untimed t') chars
  obtain ⟨month, day⟩ := Text.cut_last minus minus date
  obtain ⟨year, month⟩ := Text.cut_last minus minus month
  obtain ⟨hour, time⟩ := Text.cut_first colon colon time
  obtain ⟨minute, second⟩ := Text.cut_first colon colon time
  obtain ⟨second, -⟩ := Text.cut_first zulu zulu second
  have parts : t.parts.instant = t'.parts.instant := by
    simp only [Parts.instant, yearText_inj year, padded_inj month, padded_inj day, padded_inj hour, padded_inj minute,
      padded_inj second]
  rwa [instant_parts, instant_parts] at parts

end HookFlow.Instant
