import HookFlow.Text.Utf8
import HookFlow.Text.Quoted
/-!
SHA-256 of a list of bytes, and its hexadecimal form.

The message is padded with one set bit, zeros and its length in bits to a multiple of 64 bytes. Each
block of 64 bytes is stretched to 64 words, and each word turns the eight registers once; the block's
result is added to what the registers held before. All arithmetic is on words of 32 bits and wraps.
-/

namespace HookFlow.Hash

open HookFlow.Text

/-- the eight registers -/
structure Registers where
  a : UInt32
  b : UInt32
  c : UInt32
  d : UInt32
  e : UInt32
  f : UInt32
  g : UInt32
  h : UInt32
  deriving DecidableEq, Repr

/-- the first 32 bits of the fractional parts of the square roots of the first eight primes -/
def Registers.start : Registers :=
  ⟨0x6a09e667, 0xbb67ae85, 0x3c6ef372, 0xa54ff53a, 0x510e527f, 0x9b05688c, 0x1f83d9ab, 0x5be0cd19⟩

/-- the first 32 bits of the fractional parts of the cube roots of the first 64 primes -/
def roundConstants : List UInt32 := [
  0x428a2f98, 0x71374491, 0xb5c0fbcf, 0xe9b5dba5, 0x3956c25b, 0x59f111f1, 0x923f82a4, 0xab1c5ed5,
  0xd807aa98, 0x12835b01, 0x243185be, 0x550c7dc3, 0x72be5d74, 0x80deb1fe, 0x9bdc06a7, 0xc19bf174,
  0xe49b69c1, 0xefbe4786, 0x0fc19dc6, 0x240ca1cc, 0x2de92c6f, 0x4a7484aa, 0x5cb0a9dc, 0x76f988da,
  0x983e5152, 0xa831c66d, 0xb00327c8, 0xbf597fc7, 0xc6e00bf3, 0xd5a79147, 0x06ca6351, 0x14292967,
  0x27b70a85, 0x2e1b2138, 0x4d2c6dfc, 0x53380d13, 0x650a7354, 0x766a0abb, 0x81c2c92e, 0x92722c85,
  0xa2bfe8a1, 0xa81a664b, 0xc24b8b70, 0xc76c51a3, 0xd192e819, 0xd6990624, 0xf40e3585, 0x106aa070,
  0x19a4c116, 0x1e376c08, 0x2748774c, 0x34b0bcb5, 0x391c0cb3, 0x4ed8aa4a, 0x5b9cca4f, 0x682e6ff3,
  0x748f82ee, 0x78a5636f, 0x84c87814, 0x8cc70208, 0x90befffa, 0xa4506ceb, 0xbef9a3f7, 0xc67178f2]

/-- a word turned right by `n` bits, `0 < n < 32` -/
def rotr (x : UInt32) (n : UInt32) : UInt32 := (x >>> n) ||| (x <<< (32 - n))

/-- the word that follows the sixteen words `w` of a schedule -/
def nextWord (w : List UInt32) : UInt32 :=
  match w with
  | w0 :: w1 :: _ :: _ :: _ :: _ :: _ :: _ :: _ :: w9 :: _ :: _ :: _ :: _ :: w14 :: _ =>
    let s0 := rotr w1 7 ^^^ rotr w1 18 ^^^ (w1 >>> 3)
    let s1 := rotr w14 17 ^^^ rotr w14 19 ^^^ (w14 >>> 10)
    w0 + s0 + w9 + s1
  | _ => 0

/-- `n` words of the schedule that starts with the sixteen words `w` -/
def schedule : Nat → List UInt32 → List UInt32
  | 0, _ => []
  | n + 1, w =>
    match w with
    | [] => []
    | x :: rest => x :: schedule n (rest ++ [nextWord w])

/-- one turn of the registers with a word and its constant -/
def Registers.turn (r : Registers) (k w : UInt32) : Registers :=
  let s1 := rotr r.e 6 ^^^ rotr r.e 11 ^^^ rotr r.e 25
  let ch := (r.e &&& r.f) ^^^ ((~~~ r.e) &&& r.g)
  let t1 := r.h + s1 + ch + k + w
  let s0 := rotr r.a 2 ^^^ rotr r.a 13 ^^^ rotr r.a 22
  let maj := (r.a &&& r.b) ^^^ (r.a &&& r.c) ^^^ (r.b &&& r.c)
  let t2 := s0 + maj
  ⟨t1 + t2, r.a, r.b, r.c, r.d + t1, r.e, r.f, r.g⟩

/-- the registers added up one by one -/
def Registers.add (x y : Registers) : Registers :=
  ⟨x.a + y.a, x.b + y.b, x.c + y.c, x.d + y.d, x.e + y.e, x.f + y.f, x.g + y.g, x.h + y.h⟩

/-- four bytes as a word, the most significant first -/
def word (a b c d : UInt8) : UInt32 :=
  a.toUInt32 <<< 24 ||| b.toUInt32 <<< 16 ||| c.toUInt32 <<< 8 ||| d.toUInt32

/-- bytes as words; a rest of fewer than four bytes is dropped -/
def words : Bytes → List UInt32
  | a :: b :: c :: d :: rest => word a b c d :: words rest
  | _ => []

/-- the registers after one block of 64 bytes -/
def Registers.absorb (r : Registers) (block : Bytes) : Registers :=
  let turns := roundConstants.zip (schedule 64 (words block))
  r.add (turns.foldl (fun s kw => s.turn kw.1 kw.2) r)

/-- the registers after `n` blocks of 64 bytes -/
def absorbBlocks : Nat → Registers → Bytes → Registers
  | 0, r, _ => r
  | n + 1, r, bs => absorbBlocks n (r.absorb (bs.take 64)) (bs.drop 64)

/-- the four bytes of a word, the most significant first -/
def wordBytes (w : UInt32) : Bytes :=
  [(w >>> 24).toUInt8, (w >>> 16).toUInt8, (w >>> 8).toUInt8, w.toUInt8]

/-- a number in eight bytes, the most significant first -/
def lengthBytes (n : Nat) : Bytes :=
  wordBytes (UInt32.ofNat (n / 4294967296)) ++ wordBytes (UInt32.ofNat n)

/-- a message filled up to a multiple of 64 bytes -/
def padded (msg : Bytes) : Bytes :=
  let zeros := (119 - msg.length % 64) % 64
  msg ++ 0x80 :: (List.replicate zeros 0 ++ lengthBytes (msg.length * 8))

/-- the bytes of the registers -/
def Registers.bytes (r : Registers) : Bytes :=
  [r.a, r.b, r.c, r.d, r.e, r.f, r.g, r.h].flatMap wordBytes

/-- the 32 bytes of the digest -/
def sha256 (msg : Bytes) : Bytes :=
  let p := padded msg
  (absorbBlocks (p.length / 64) Registers.start p).bytes

/-- two lower-case digits for each byte -/
def hex (bs : Bytes) : String :=
  String.ofList (bs.flatMap fun b => [hexDigit (b.toNat / 16), hexDigit (b.toNat % 16)])

end HookFlow.Hash
