import HookFlow.Hash.Sha256
/-!
Keyed digests: HMAC over SHA-256.

The key is brought to one block of 64 bytes, by hashing when it is longer and by zeros when it is
shorter. So a key and the same key with zeros behind it, up to the block, sign alike.
-/

namespace HookFlow.Hash

open HookFlow.Text

/-- the key as one block -/
def keyBlock (key : Bytes) : Bytes :=
  let k := if key.length > 64 then sha256 key else key
  k ++ List.replicate (64 - k.length) 0

/-- the 32 bytes that authenticate `msg` under `key` -/
def hmacSha256 (key msg : Bytes) : Bytes :=
  let k := keyBlock key
  sha256 (k.map (· ^^^ 0x5c) ++ sha256 (k.map (· ^^^ 0x36) ++ msg))

end HookFlow.Hash
