/-!
Labels of domain names in their ASCII form, behind `xn--`.

The plain characters of a label come first, then a hyphen if there are any; what follows are numbers
of base 36 with varying thresholds, each of which says how far to go to the next place and character
to insert. Only reading is done here, to tell whether a label has a Unicode form.
-/

namespace HookFlow.Url.Punycode

/-- the value of a digit -/
def digit? (c : Char) : Option Nat :=
  if 'a' ≤ c && c ≤ 'z' then some (c.toNat - 'a'.toNat)
  else if '0' ≤ c && c ≤ '9' then some (c.toNat - '0'.toNat + 26)
  else none

/-- the threshold of the digit with weight number `k` -/
def threshold (k bias : Nat) : Nat := max 1 (min 26 (k - bias))

/-- The number that digits write from weight number `k` on, and the digits behind it. -/
def number? (bias : Nat) (k weight sum : Nat) : List Char → Option (Nat × List Char)
  | [] => none
  | c :: rest =>
    match digit? c with
    | none => none
    | some d =>
      let t := threshold k bias
      let sum := sum + d * weight
      if d < t then some (sum, rest) else number? bias (k + 36) (weight * (36 - t)) sum rest

/-- a number made small for the next bias, with the weights that this takes -/
def shrink : Nat → Nat → Nat → Nat × Nat
  | 0, k, delta => (k, delta)
  | fuel + 1, k, delta => if 455 < delta then shrink fuel (k + 36) (delta / 35) else (k, delta)

/-- the bias behind a number -/
def adapt (delta count : Nat) (first : Bool) : Nat :=
  let delta := if first then delta / 700 else delta / 2
  let delta := delta + delta / count
  let (k, delta) := shrink (delta + 1) 0 delta
  k + 36 * delta / (delta + 38)

/-- the label with the characters that the digits insert into `out`; the last one was `code`, right
before `place` -/
def insert? : Nat → Nat → Nat → Nat → List Char → List Char → Option (List Char)
  | 0, _, _, _, _, _ => none
  | fuel + 1, bias, code, place, out, cs =>
    if cs.isEmpty then some out
    else do
      let (delta, rest) ← number? bias 36 1 0 cs
      let count := out.length + 1
      let code := code + (place + delta) / count
      let spot := (place + delta) % count
      if !code.isValidChar then none
      insert? fuel (adapt delta count (place == 0)) code (spot + 1)
        (out.take spot ++ Char.ofNat code :: out.drop spot) rest

/-- the Unicode form of what stands behind `xn--` -/
def decode? (cs : List Char) : Option (List Char) :=
  let digits := (cs.reverse.takeWhile (· ≠ '-')).reverse
  let plain := cs.take (cs.length - digits.length - 1)
  if digits.isEmpty || (cs.head? == some '-' && plain.isEmpty) then none
  else insert? (digits.length + 1) 72 128 0 plain digits

end HookFlow.Url.Punycode
