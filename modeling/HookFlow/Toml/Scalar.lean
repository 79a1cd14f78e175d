import HookFlow.Decimal.Literal
import HookFlow.Text.Quoted
import HookFlow.Toml.Basic
/-!
The scalars of TOML as they are written: texts, numbers, dates and times.

A reader takes the unread text and gives what it read with the rest, or nothing if the text does not
start that way.
-/

namespace HookFlow.Toml

open Text (hexValue?)

/-- a space or a tab -/
def isSpace (c : Char) : Bool := c == ' ' || c == '\t'

/-- a character that may stand for itself in comments and texts -/
def isPrintable (c : Char) : Bool := c == '\t' || (' ' ≤ c && c ≠ '\x7f')

/-- the text behind spaces and tabs -/
def skipSpace (cs : List Char) : List Char := cs.dropWhile isSpace

/-- the text behind a line end -/
def lineEnd? : List Char → Option (List Char)
  | '\n' :: rest => some rest
  | '\r' :: '\n' :: rest => some rest
  | _ => none

/-! ## Texts -/

/-- the character that a letter behind a backslash stands for -/
def plainEscape? (c : Char) : Option Char :=
  match c with
  | 'b' => some '\x08'
  | 't' => some '\t'
  | 'n' => some '\n'
  | 'f' => some '\x0c'
  | 'r' => some '\r'
  | '"' => some '"'
  | '\\' => some '\\'
  | _ => none

/-- the character with a number, if there is one -/
def charOf? (n : Nat) : Option Char :=
  if n.isValidChar then some (Char.ofNat n) else none

/-- the character that exactly `count` hexadecimal digits name -/
def hexChar? (count : Nat) (cs : List Char) : Option (Char × List Char) := do
  let digits := cs.take count
  if digits.length < count then none
  let n ← digits.foldlM (fun n c => (hexValue? c).map (n * 16 + ·)) 0
  return (← charOf? n, cs.drop count)

/-- an escape, behind its backslash -/
def escape? : List Char → Option (Char × List Char)
  | 'u' :: rest => hexChar? 4 rest
  | 'U' :: rest => hexChar? 8 rest
  | c :: rest => (plainEscape? c).map fun x => (x, rest)
  | [] => none

/-- a text in double quotes, behind the opening one; `acc` is what has been read, in reverse -/
def basic? : Nat → List Char → List Char → Option (String × List Char)
  | 0, _, _ => none
  | fuel + 1, acc, cs =>
    match cs with
    | '"' :: rest => some (String.ofList acc.reverse, rest)
    | '\\' :: rest => do
      let (c, rest) ← escape? rest
      basic? fuel (c :: acc) rest
    | c :: rest => if isPrintable c then basic? fuel (c :: acc) rest else none
    | [] => none

/-- a text in single quotes, behind the opening one -/
def literal? (cs : List Char) : Option (String × List Char) :=
  let body := cs.takeWhile fun c => c ≠ '\'' && isPrintable c
  match cs.drop body.length with
  | '\'' :: rest => some (String.ofList body, rest)
  | _ => none

/-- the text behind blanks and line ends -/
def skipBlankLines : Nat → List Char → List Char
  | 0, cs => cs
  | fuel + 1, cs =>
    match lineEnd? (skipSpace cs) with
    | some rest => skipBlankLines fuel rest
    | none => skipSpace cs

/-- what follows a backslash at the end of a line, from the next character that is no blank on -/
def continued? (cs : List Char) : Option (List Char) :=
  (lineEnd? (skipSpace cs)).map fun rest => skipBlankLines (rest.length + 1) rest

/-- A text of several lines, behind its opening quotes. Escapes count if `escapes` is set. Up to two
quotes may stand right before the closing ones. -/
def lines? (quote : Char) (escapes : Bool) : Nat → List Char → List Char →
    Option (String × List Char)
  | 0, _, _ => none
  | fuel + 1, acc, cs =>
    let run := (cs.takeWhile (· == quote)).length
    if 3 ≤ run then
      let kept := min (run - 3) 2
      some (String.ofList (acc.reverse ++ List.replicate kept quote), cs.drop (kept + 3))
    else match lineEnd? cs with
      | some rest => lines? quote escapes fuel ('\n' :: acc) rest
      | none =>
        match cs with
        | [] => none
        | c :: rest =>
          if escapes && c == '\\' then
            match continued? rest with
            | some rest => lines? quote escapes fuel acc rest
            | none =>
              match escape? rest with
              | some (x, rest) => lines? quote escapes fuel (x :: acc) rest
              | none => none
          else if isPrintable c then lines? quote escapes fuel (c :: acc) rest
          else none

/-- a text of several lines; a line end right behind the opening quotes does not count -/
def multiline? (quote : Char) (escapes : Bool) (cs : List Char) : Option (String × List Char) :=
  let body := (lineEnd? cs).getD cs
  lines? quote escapes (body.length + 1) [] body

/-- a text on one line -/
def line? : List Char → Option (String × List Char)
  | '"' :: rest => basic? (rest.length + 1) [] rest
  | '\'' :: rest => literal? rest
  | _ => none

/-- a text -/
def text? : List Char → Option (String × List Char)
  | '"' :: '"' :: '"' :: rest => multiline? '"' true rest
  | '\'' :: '\'' :: '\'' :: rest => multiline? '\'' false rest
  | cs => line? cs

/-! ## Numbers -/

/-- digits with single underscores between them, which are left out; at least one digit -/
def digitRun? (isDigit : Char → Bool) : List Char → Option (List Char × List Char)
  | [] => none
  | [c] => if isDigit c then some ([c], []) else none
  | c :: d :: rest =>
    if !isDigit c then none
    else
      match if d = '_' then digitRun? isDigit rest else digitRun? isDigit (d :: rest) with
      | some (ds, rest) => some (c :: ds, rest)
      | none => some ([c], d :: rest)

/-- whether a whole number needs at most 64 bits with its sign -/
def fitsWord (n : Int) : Bool := -0x8000000000000000 ≤ n && n < 0x8000000000000000

/-- a whole number of 64 bits -/
def word? (n : Int) : Option Toml := if fitsWord n then some (.whole n) else none

/-- the number that digits write -/
def radixValue (radix : Nat) (ds : List Char) : Nat :=
  ds.foldl (fun n c => n * radix + (hexValue? c).getD 0) 0

/-- whether a character is a digit in a radix -/
def isDigitIn (radix : Nat) (c : Char) : Bool := (hexValue? c).any (· < radix)

/-- a whole number in another radix, behind its mark -/
def radixNumber? (radix : Nat) (cs : List Char) : Option (Toml × List Char) := do
  let (ds, rest) ← digitRun? (isDigitIn radix) cs
  return (← word? (radixValue radix ds), rest)

/-- the digits of a whole number, which has no leading zero -/
def wholeDigits? : List Char → Option (List Char × List Char)
  | '0' :: rest => some (['0'], rest)
  | cs => digitRun? Decimal.isDigit cs

/-- the fraction of a number, with its point -/
def fraction? : List Char → Option (List Char × List Char)
  | '.' :: rest => (digitRun? Decimal.isDigit rest).map fun r => ('.' :: r.1, r.2)
  | cs => some ([], cs)

/-- the exponent of a number, with its mark -/
def exponent? : List Char → Option (List Char × List Char)
  | c :: rest =>
    if c = 'e' ∨ c = 'E' then
      let (sign, rest) := match rest with
        | '+' :: r => (['+'], r)
        | '-' :: r => (['-'], r)
        | r => ([], r)
      (digitRun? Decimal.isDigit rest).map fun r => ('e' :: sign ++ r.1, r.2)
    else some ([], c :: rest)
  | [] => some ([], [])

/-- a number in decimal digits, behind its sign -/
def decimal? (negative : Bool) (cs : List Char) : Option (Toml × List Char) := do
  let (digits, rest) ← wholeDigits? cs
  let (point, rest) ← fraction? rest
  let (power, rest) ← exponent? rest
  if point.isEmpty && power.isEmpty then
    let n := Decimal.digitsValue digits
    return (← word? (if negative then -(n : Int) else n), rest)
  else
    let l ← Decimal.Literal.ofChars? (digits ++ point ++ power)
    let x := l.toFloat
    if x.isInf && !negative then none
    return (.double (if negative then -x else x), rest)

/-- a number behind its sign, or one of the two doubles that have names -/
def signed? (negative : Bool) (cs : List Char) : Option (Toml × List Char) :=
  match cs with
  | 'i' :: 'n' :: 'f' :: rest => some (.double (if negative then -1.0 / 0.0 else 1.0 / 0.0), rest)
  | 'n' :: 'a' :: 'n' :: rest => some (.double (0.0 / 0.0), rest)
  | _ => decimal? negative cs

/-- a number -/
def number? : List Char → Option (Toml × List Char)
  | '0' :: 'x' :: rest => radixNumber? 16 rest
  | '0' :: 'o' :: rest => radixNumber? 8 rest
  | '0' :: 'b' :: rest => radixNumber? 2 rest
  | '+' :: rest => signed? false rest
  | '-' :: rest => signed? true rest
  | cs => signed? false cs

/-! ## Dates and times -/

/-- a number of exactly `count` digits from `least` to `most` -/
def field? (count least most : Nat) (cs : List Char) : Option (Nat × List Char) :=
  let ds := cs.take count
  let n := Decimal.digitsValue ds
  if ds.length = count ∧ ds.all Decimal.isDigit ∧ least ≤ n ∧ n ≤ most then some (n, cs.drop count)
  else none

/-- the text behind a character -/
def after? (x : Char) : List Char → Option (List Char)
  | c :: rest => if c = x then some rest else none
  | [] => none

/-- how many days a month has -/
def daysIn (year month : Nat) : Nat :=
  if month = 2 then
    if year % 4 = 0 ∧ (year % 100 ≠ 0 ∨ year % 400 = 0) then 29 else 28
  else if month = 4 ∨ month = 6 ∨ month = 9 ∨ month = 11 then 30
  else 31

/-- the text behind a date -/
def date? (cs : List Char) : Option (List Char) := do
  let (year, cs) ← field? 4 0 9999 cs
  let (month, cs) ← field? 2 1 12 (← after? '-' cs)
  let (_, cs) ← field? 2 1 (daysIn year month) (← after? '-' cs)
  return cs

/-- the text behind a fraction of a second -/
def secondFraction? : List Char → Option (List Char)
  | '.' :: rest =>
    let ds := rest.takeWhile Decimal.isDigit
    if ds.isEmpty then none else some (rest.drop ds.length)
  | cs => some cs

/-- the text behind a time of day -/
def time? (cs : List Char) : Option (List Char) := do
  let (_, cs) ← field? 2 0 23 cs
  let (_, cs) ← field? 2 0 59 (← after? ':' cs)
  let (_, cs) ← field? 2 0 60 (← after? ':' cs)
  secondFraction? cs

/-- the text behind an offset from universal time -/
def offset? (cs : List Char) : Option (List Char) :=
  match cs with
  | c :: rest =>
    if c = 'Z' ∨ c = 'z' then some rest
    else if c = '+' ∨ c = '-' then do
      let (_, cs) ← field? 2 0 23 rest
      let (_, cs) ← field? 2 0 59 (← after? ':' cs)
      return cs
    else none
  | [] => none

/-- the text behind a time that follows a date, with an offset if there is one -/
def timeOfDate? : List Char → Option (List Char)
  | c :: rest =>
    if c = 'T' ∨ c = 't' ∨ c = ' ' then (time? rest).map fun cs => (offset? cs).getD cs else none
  | [] => none

/-- a date, a time, or both -/
def moment? (cs : List Char) : Option (Toml × List Char) := do
  let rest ← match date? cs with
    | some rest => some ((timeOfDate? rest).getD rest)
    | none => time? cs
  return (.moment (String.ofList (cs.take (cs.length - rest.length))), rest)

end HookFlow.Toml
