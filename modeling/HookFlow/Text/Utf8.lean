/-!
UTF-8: the bytes of a text, and the text of a list of bytes.

`decode` reads bytes from the left and reports the first place where they stop being UTF-8. A fault
is *malformed* when a byte that is there cannot continue the sequence, and *truncated* when the
bytes end inside a sequence that is right so far. The length of a malformed sequence counts the
bytes that were still acceptable, at least one.
-/

namespace HookFlow.Text

/-- a list of bytes, such as the content of a file -/
abbrev Bytes := List UInt8

/-- where and how bytes fail to be UTF-8; positions count bytes from zero -/
inductive Utf8Fault where
  | malformed (index length : Nat)
  | truncated (index : Nat)
  deriving DecidableEq, Repr

/-- the wording of a fault -/
def Utf8Fault.message : Utf8Fault → String
  | .malformed i n => s!"invalid utf-8 sequence of {n} bytes from index {i}"
  | .truncated i => s!"incomplete utf-8 byte sequence from index {i}"

/-- a byte of the form `10xxxxxx` -/
def isContinuation (b : UInt8) : Bool := 0x80 ≤ b && b ≤ 0xBF

/-- whether `b` may follow the lead byte `lead` of a sequence of three or four bytes: overlong forms,
surrogates and numbers past the last code point are shut out here -/
def isSecond (lead b : UInt8) : Bool :=
  if lead = 0xE0 then 0xA0 ≤ b && b ≤ 0xBF
  else if lead = 0xED then 0x80 ≤ b && b ≤ 0x9F
  else if lead = 0xF0 then 0x90 ≤ b && b ≤ 0xBF
  else if lead = 0xF4 then 0x80 ≤ b && b ≤ 0x8F
  else isContinuation b

/-- the six payload bits of a continuation byte -/
def payload (b : UInt8) : Nat := b.toNat % 64

/-- The characters of `bytes`, put behind `acc` (which is kept in reverse); `i` is the index of the
first of these bytes. -/
def decodeFrom (acc : List Char) (i : Nat) : Bytes → Except Utf8Fault (List Char)
  | [] => .ok acc.reverse
  | b :: rest =>
    if b < 0x80 then decodeFrom (Char.ofNat b.toNat :: acc) (i + 1) rest
    else if b < 0xC2 then .error (.malformed i 1)
    else if b < 0xE0 then
      match rest with
      | [] => .error (.truncated i)
      | b₁ :: rest =>
        if isContinuation b₁ then
          decodeFrom (Char.ofNat (b.toNat % 32 * 64 + payload b₁) :: acc) (i + 2) rest
        else .error (.malformed i 1)
    else if b < 0xF0 then
      match rest with
      | [] => .error (.truncated i)
      | b₁ :: rest =>
        if isSecond b b₁ then
          match rest with
          | [] => .error (.truncated i)
          | b₂ :: rest =>
            if isContinuation b₂ then
              decodeFrom
                (Char.ofNat ((b.toNat % 16 * 64 + payload b₁) * 64 + payload b₂) :: acc) (i + 3) rest
            else .error (.malformed i 2)
        else .error (.malformed i 1)
    else if b < 0xF5 then
      match rest with
      | [] => .error (.truncated i)
      | b₁ :: rest =>
        if isSecond b b₁ then
          match rest with
          | [] => .error (.truncated i)
          | b₂ :: rest =>
            if isContinuation b₂ then
              match rest with
              | [] => .error (.truncated i)
              | b₃ :: rest =>
                if isContinuation b₃ then
                  decodeFrom
                    (Char.ofNat (((b.toNat % 8 * 64 + payload b₁) * 64 + payload b₂) * 64 + payload b₃)
                      :: acc) (i + 4) rest
                else .error (.malformed i 3)
            else .error (.malformed i 2)
        else .error (.malformed i 1)
    else .error (.malformed i 1)

/-- the text that `bytes` encode -/
def decode (bytes : Bytes) : Except Utf8Fault String :=
  (decodeFrom [] 0 bytes).map String.ofList

/-- the bytes of a text -/
def encode (s : String) : Bytes :=
  s.toList.flatMap String.utf8EncodeChar

/-- the text of some bytes with a mark in place of every sequence that is no UTF-8; `fuel` bounds the
number of marks -/
def decodeMarkedFrom : Nat → Bytes → List Char
  | 0, _ => []
  | fuel + 1, bytes =>
    let before (i : Nat) : List Char := ((decodeFrom [] 0 (bytes.take i)).toOption).getD []
    match decodeFrom [] 0 bytes with
    | .ok cs => cs
    | .error (.malformed i n) => before i ++ '\ufffd' :: decodeMarkedFrom fuel (bytes.drop (i + n))
    | .error (.truncated i) => before i ++ ['\ufffd']

/-- the text of some bytes with a mark in place of every sequence that is no UTF-8 -/
def decodeMarked (bytes : Bytes) : String :=
  String.ofList (decodeMarkedFrom (bytes.length + 1) bytes)

end HookFlow.Text
