/-!
The shortest decimal text of a binary fraction.

A double is `m · 2 ^ q`. All reals between its two halfway points read back as the same double, the
halfway points too when `m` is even. `shortest` looks for the fewest digits that name a real of that
interval: for one digit, two digits, and so on up to seventeen it tests the two neighbours of the
value on that decimal grid, in exact arithmetic. Of two hits the nearer wins, and in a tie the even
one. `Layout.write` then sets the digits: positionally while the number stays short, and with an
exponent beyond.
-/

namespace HookFlow.Decimal

/-- a positive real with the interval of reals that read back as it; all three are counted in units
of `1 / den` -/
structure Window where
  low : Nat
  value : Nat
  high : Nat
  den : Nat
  /-- whether the two ends belong to the interval -/
  closed : Bool
  deriving Repr

/-- The window of `m · 2 ^ q`. The gap below is half as wide where `m` is the least mantissa of its
binade. -/
def Window.ofBinary (m : Nat) (q : Int) (leastMantissa : Bool) : Window :=
  let up := Nat.pow 2 (q - 2).toNat
  ⟨(4 * m - if leastMantissa then 1 else 2) * up, 4 * m * up, (4 * m + 2) * up,
    Nat.pow 2 (2 - q).toNat, m % 2 == 0⟩

/-- the least `j` not below `j₀` with `den ≤ num · 10 ^ j`, looked for in `fuel` steps -/
def scaleUp (num den : Nat) : Nat → Nat → Nat
  | 0, j => j
  | fuel + 1, j => if den ≤ num * Nat.pow 10 j then j else scaleUp num den fuel (j + 1)

/-- the exponent of the leading decimal digit of `num / den`; doubles need at most 400 steps -/
def leadingExponent (num den : Nat) : Int :=
  if den ≤ num then ((toString (num / den)).length : Int) - 1
  else -(scaleUp num den 400 0 : Int)

/-- a number `digits · 10 ^ exponent` -/
structure Digits where
  digits : Nat
  exponent : Int
  deriving DecidableEq, Repr

/-- whether `c · 10 ^ k` lies in the window -/
def Window.holds (w : Window) (c : Nat) (k : Int) : Bool :=
  let x := c * w.den * Nat.pow 10 k.toNat
  let lo := w.low * Nat.pow 10 (-k).toNat
  let hi := w.high * Nat.pow 10 (-k).toNat
  if w.closed then lo ≤ x && x ≤ hi else lo < x && x < hi

/-- the better of the value's two neighbours on the grid of multiples of `10 ^ k`, if one lies in
the window -/
def Window.onGrid? (w : Window) (k : Int) : Option Digits :=
  let unit := w.den * Nat.pow 10 k.toNat
  let v := w.value * Nat.pow 10 (-k).toNat
  let c := v / unit
  let below := v - c * unit
  let above := (c + 1) * unit - v
  match w.holds c k, w.holds (c + 1) k with
  | false, false => none
  | true, false => some ⟨c, k⟩
  | false, true => some ⟨c + 1, k⟩
  | true, true =>
    if below < above ∨ (below = above ∧ c % 2 = 0) then some ⟨c, k⟩ else some ⟨c + 1, k⟩

/-- the first grid with a hit, from `10 ^ k` downwards through `fuel` further grids -/
def Window.firstGrid (w : Window) : Nat → Int → Digits
  | 0, k => (w.onGrid? k).getD ⟨0, 0⟩
  | fuel + 1, k =>
    match w.onGrid? k with
    | some d => d
    | none => w.firstGrid fuel (k - 1)

/-- the same number without a final zero: a hit just above nine is found as ten -/
def Digits.carry (d : Digits) : Digits :=
  if d.digits ≠ 0 ∧ d.digits % 10 = 0 then ⟨d.digits / 10, d.exponent + 1⟩ else d

/-- the fewest digits that read back as the window's value -/
def Window.shortest (w : Window) : Digits :=
  (w.firstGrid 17 (leadingExponent w.value w.den)).carry

/-- how digits are set as text -/
structure Layout where
  /-- numbers whose point would stand right of this many digits get an exponent -/
  widest : Int
  /-- how many zeros may stand right behind the point in a number below one -/
  deepest : Int
  /-- the mark between mantissa and exponent -/
  mark : String
  deriving Repr

/-- The layout of numbers in this library: positional from `0.00001` up to sixteen digits before the
point, and with `e` and a bare exponent outside. -/
def Layout.standard : Layout := ⟨16, 4, "e"⟩

/-- the digits as text; a whole number in positional form ends in `.0` -/
def Layout.write (l : Layout) (d : Digits) : String :=
  let ds := toString d.digits
  let n : Int := ds.length
  let point := n + d.exponent
  if 0 ≤ d.exponent ∧ point ≤ l.widest then
    ds ++ String.ofList (List.replicate d.exponent.toNat '0') ++ ".0"
  else if 0 < point ∧ point ≤ l.widest then
    String.ofList (ds.toList.take point.toNat) ++ "." ++ String.ofList (ds.toList.drop point.toNat)
  else if -l.deepest ≤ point ∧ point ≤ 0 then
    "0." ++ String.ofList (List.replicate (-point).toNat '0') ++ ds
  else
    let tail := String.ofList (ds.toList.drop 1)
    let mantissa := String.ofList (ds.toList.take 1) ++ if tail.isEmpty then "" else "." ++ tail
    mantissa ++ l.mark ++ toString (point - 1)

/-- the least mantissa that a double keeps without its leading bit -/
def leadingBit : Nat := 0x10000000000000

/-- what the sign adds to the bits of a double -/
def signBit : Nat := 0x8000000000000000

/-- the window of a finite double that is not zero, from its bits without the sign -/
def windowOfBits (bits : Nat) : Window :=
  let fraction := bits % leadingBit
  let binade : Nat := bits / leadingBit
  if binade = 0 then Window.ofBinary fraction (-1074) false
  else Window.ofBinary (leadingBit + fraction) ((binade : Int) - 1075) (fraction == 0 && 1 < binade)

/-- a finite double as text, by its bits -/
def writeBits (l : Layout) (bits : Nat) : String :=
  let sign := if signBit ≤ bits then "-" else ""
  let magnitude := bits % signBit
  sign ++ if magnitude = 0 then "0.0" else l.write (windowOfBits magnitude).shortest

/-- a finite double as text -/
def writeFloat (x : Float) : String :=
  writeBits Layout.standard x.toBits.toNat

end HookFlow.Decimal
