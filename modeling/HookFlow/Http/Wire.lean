import HookFlow.Http.Basic
import HookFlow.Text.Capital
import HookFlow.Text.Utf8
/-!
Requests and answers as bytes.

A request asks for the connection to be closed behind the answer, so the answer is everything that comes.
Its body is as long as its headers say: a number of bytes, chunks up to an empty one, or all there is.
-/

namespace HookFlow.Http

open Text (Bytes encode)

/-! ## Requests -/

/-- the address of a host as a text -/
def hostText : Url.Host → String
  | .domain name => name
  | .ipv4 n => ".".intercalate ([n / 0x1000000, n / 0x10000 % 256, n / 0x100 % 256, n % 256].map toString)
  | .ipv6 groups =>
    let parts := groups.map fun g => String.ofList (Nat.toDigits 16 g)
    "[" ++ ":".intercalate parts ++ "]"
  | .plain text => text

/-- the host of a URL with its port, unless that is the usual one -/
def authority (u : Url) : String :=
  (u.host.elim "" hostText) ++ (u.port.elim "" fun p => s!":{p}")

/-- a header as a line -/
def headerLine (h : String × String) : String := s!"{h.1}: {h.2}\r\n"

/-- a request as it is sent -/
def Request.wire (r : Request) : Bytes :=
  let length := match r.method with
    | .get => []
    | _ => [("content-length", toString r.body.length)]
  let headers := ("host", authority r.url) :: r.headers ++ length ++ [("connection", "close")]
  encode s!"{r.method.name} {target r.url} HTTP/1.1\r\n"
    ++ encode (String.join (headers.map headerLine) ++ "\r\n") ++ r.body

/-! ## Answers -/

/-- what stands before the first end of a line, and what stands behind it -/
def cutLine? : Bytes → Option (Bytes × Bytes)
  | 13 :: 10 :: rest => some ([], rest)
  | b :: rest => (cutLine? rest).map fun c => (b :: c.1, c.2)
  | [] => none

/-- What is behind a line is shorter than the whole. -/
theorem length_of_cutLine? {bytes line rest : Bytes} (h : cutLine? bytes = some (line, rest)) :
    rest.length < bytes.length := by
  fun_induction cutLine? bytes generalizing line with
  | case1 rest' =>
    cases h
    simp only [List.length_cons]
    omega
  | case2 b rest' _ ih =>
    obtain ⟨⟨l, r⟩, hc, he⟩ := Option.map_eq_some_iff.1 h
    simp only [Prod.mk.injEq] at he
    obtain ⟨-, rfl⟩ := he
    exact Nat.lt_succ_of_lt (ih hc)
  | case3 => cases h

/-- a line as a text; what is no ASCII does not matter -/
def lineText (line : Bytes) : String := String.ofList (line.map fun b => Char.ofNat b.toNat)

/-- the name and the value on a line of the header -/
def headerOf (line : Bytes) : String × String :=
  let (name, value) := (lineText line).toList.span (· ≠ ':')
  (Text.toLowerAscii (String.ofList name), Text.trim (String.ofList (value.drop 1)))

/-- the lines up to the first empty one as headers, and what stands behind it -/
def cutHeaders? (bytes : Bytes) : Option (List (String × String) × Bytes) :=
  match h : cutLine? bytes with
  | none => none
  | some ([], rest) => some ([], rest)
  | some (line, rest) =>
    have := length_of_cutLine? h
    (cutHeaders? rest).map fun c => (headerOf line :: c.1, c.2)
termination_by bytes.length

/-- the number that a text of digits writes to a base, up to a character that is no digit -/
def leadingNumber (base : Nat) (s : String) : Nat :=
  let value (c : Char) : Nat :=
    if c.isDigit then c.toNat - '0'.toNat else c.toLower.toNat - 'a'.toNat + 10
  (s.toList.takeWhile fun c => c.isAlphanum && value c < base).foldl
    (fun n c => n * base + value c) 0

/-- the bytes of some chunks up to the empty one -/
def unchunk? (bytes : Bytes) : Option Bytes :=
  match h : cutLine? bytes with
  | none => none
  | some (line, rest) =>
    let size := leadingNumber 16 (lineText line)
    if size = 0 then some []
    else if rest.length < size + 2 then none
    else
      have := length_of_cutLine? h
      (unchunk? (rest.drop (size + 2))).map (rest.take size ++ ·)
termination_by bytes.length
decreasing_by
  simp only [List.length_drop]
  omega

/-- the body that some headers announce; none if it is not all there -/
def body? (headers : List (String × String)) (bytes : Bytes) : Option Bytes :=
  if (headers.lookup "transfer-encoding").any (Text.contains · "chunked") then unchunk? bytes
  else
    match headers.lookup "content-length" with
    | none => some bytes
    | some value =>
      let size := leadingNumber 10 value
      if bytes.length < size then none else some (bytes.take size)

/-- the code on the first line of an answer -/
def code? (line : Bytes) : Option Nat :=
  match (Text.splitChars ' ' (lineText line).toList).map String.ofList with
  | version :: code :: _ =>
    if "HTTP/1.".toList.isPrefixOf version.toList && code.length = 3 then some (leadingNumber 10 code)
    else none
  | _ => none

/-- the answer that some bytes hold -/
def Response.ofWire? (bytes : Bytes) : Option Response := do
  let (line, rest) ← cutLine? bytes
  let status ← code? line
  let (headers, rest) ← cutHeaders? rest
  return { status, body := ← body? headers rest }

end HookFlow.Http
