/-!
Instants, and how they are written.

An instant is a whole number of seconds since the start of 1970 in universal time. Its date is one of
the Gregorian calendar, carried on without end in both directions; days are counted from the first of
March, so that the leap day comes last in its year. A clock can express the years from -262143 to
262142.
-/

namespace HookFlow

/-- a point in universal time -/
structure Instant where
  /-- seconds since the start of 1970 -/
  seconds : Int
  deriving DecidableEq, Repr

/-- a day of the calendar with a time of day -/
structure Instant.Parts where
  year : Int
  month : Nat
  day : Nat
  hour : Nat
  minute : Nat
  second : Nat
  deriving DecidableEq, Repr

namespace Instant

/-- the first instant that a clock can express -/
def earliest : Instant := ⟨-8334601228800⟩

/-- the last instant that a clock can express -/
def latest : Instant := ⟨8210266876799⟩

/-- whether a clock can express an instant -/
def isExpressible (t : Instant) : Bool :=
  earliest.seconds ≤ t.seconds && t.seconds ≤ latest.seconds

/-- the instant some seconds later -/
def add (t : Instant) (seconds : Int) : Instant := ⟨t.seconds + seconds⟩

/-- Year, month and day of the day with number `n`, counted from the start of 1970. An era is four
hundred years, after which the calendar repeats. -/
def dateOf (n : Int) : Int × Nat × Nat :=
  let z := n + 719468
  let era := z / 146097
  let dayOfEra := (z % 146097).toNat
  let yearOfEra :=
    (dayOfEra - dayOfEra / 1460 + dayOfEra / 36524 - dayOfEra / 146096) / 365
  let dayOfYear := dayOfEra - (365 * yearOfEra + yearOfEra / 4 - yearOfEra / 100)
  let monthFromMarch := (5 * dayOfYear + 2) / 153
  let day := dayOfYear - (153 * monthFromMarch + 2) / 5 + 1
  let month := if monthFromMarch < 10 then monthFromMarch + 3 else monthFromMarch - 9
  let year := (yearOfEra : Int) + era * 400 + (if month ≤ 2 then 1 else 0)
  (year, month, day)

/-- an instant on the calendar and the clock -/
def parts (t : Instant) : Parts :=
  let (year, month, day) := dateOf (t.seconds / 86400)
  let s := (t.seconds % 86400).toNat
  { year, month, day, hour := s / 3600, minute := s / 60 % 60, second := s % 60 }

/-- a number with zeros in front up to a width -/
def padded (width n : Nat) : String :=
  let s := toString n
  String.ofList (List.replicate (width - s.length) '0') ++ s

/-- a year of at least four digits, with a sign unless it is from 0 to 9999 -/
def yearText (year : Int) : String :=
  let digits := padded 4 year.natAbs
  if year < 0 then "-" ++ digits
  else if 9999 < year then "+" ++ digits
  else digits

/-- an instant as `2020-04-29T12:00:00Z` -/
def render (t : Instant) : String :=
  let p := t.parts
  "-".intercalate [yearText p.year, padded 2 p.month, padded 2 p.day] ++ "T" ++
    ":".intercalate [padded 2 p.hour, padded 2 p.minute, padded 2 p.second] ++ "Z"

/-- an instant as `20200429T120000Z` -/
def stamp (t : Instant) : String :=
  let p := t.parts
  yearText p.year ++ padded 2 p.month ++ padded 2 p.day ++ "T" ++
    padded 2 p.hour ++ padded 2 p.minute ++ padded 2 p.second ++ "Z"

end Instant

end HookFlow
