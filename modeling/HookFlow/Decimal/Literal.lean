/-!
Decimal literals and the doubles nearest to them.

A literal is a sign, an optional run of digits, an optional point with more digits and an optional
exponent; at least one digit must stand before the exponent. `Literal.toFloat` rounds it to a double.
Literals far outside the range of doubles are decided by the position of their first digit alone, so
that a huge exponent costs nothing.
-/

namespace HookFlow.Decimal

/-- the number `± digits · 10 ^ exponent` -/
structure Literal where
  negative : Bool
  digits : Nat
  exponent : Int
  deriving DecidableEq, Repr

/-- an ASCII decimal digit -/
def isDigit (c : Char) : Bool := '0' ≤ c && c ≤ '9'

/-- the number that a run of decimal digits writes -/
def digitsValue (cs : List Char) : Nat :=
  cs.foldl (fun n c => n * 10 + (c.toNat - 48)) 0

/-- a signed whole number without anything around it; the sign is optional -/
def wholeNumber? (cs : List Char) : Option Int :=
  let (negative, ds) := match cs with
    | '-' :: r => (true, r)
    | '+' :: r => (false, r)
    | r => (false, r)
  if ds.isEmpty || !ds.all isDigit then none
  else some (if negative then -(digitsValue ds : Int) else digitsValue ds)

/-- the literal that a text writes, if it is one from its first character to its last -/
def Literal.ofChars? (cs : List Char) : Option Literal :=
  let (negative, body) := match cs with
    | '-' :: r => (true, r)
    | '+' :: r => (false, r)
    | r => (false, r)
  let whole := body.takeWhile isDigit
  let rest := body.dropWhile isDigit
  let (fraction, rest) := match rest with
    | '.' :: r => (r.takeWhile isDigit, r.dropWhile isDigit)
    | r => ([], r)
  if whole.isEmpty && fraction.isEmpty then none
  else
    let digits := digitsValue (whole ++ fraction)
    match rest with
    | [] => some ⟨negative, digits, -(fraction.length : Int)⟩
    | e :: r =>
      if e = 'e' ∨ e = 'E' then
        (wholeNumber? r).map fun x => ⟨negative, digits, x - fraction.length⟩
      else none

/-- the double nearest to a literal -/
def Literal.toFloat (l : Literal) : Float :=
  let top : Int := (toString l.digits).length + l.exponent
  let x : Float :=
    if l.digits = 0 ∨ top < -400 then 0.0
    else if 400 < top then 1.0 / 0.0
    else Float.ofScientific l.digits (l.exponent < 0) l.exponent.natAbs
  if l.negative then -x else x

end HookFlow.Decimal
