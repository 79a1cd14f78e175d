import HookFlow.Text.Utf8
/-!
The cyclic redundancy check of 32 bits, as archives use it: the remainder of the bytes, lowest bit first,
by the polynomial `0xEDB88320`, with all bits turned over before and after.
-/

namespace HookFlow.Hash

/-- one bit of the division -/
def crcShift (r : UInt32) : UInt32 :=
  if r &&& 1 = 1 then (r >>> 1) ^^^ 0xEDB88320 else r >>> 1

/-- the remainder after one more byte -/
def crcStep (r : UInt32) (b : UInt8) : UInt32 :=
  let r := r ^^^ b.toUInt32
  crcShift (crcShift (crcShift (crcShift (crcShift (crcShift (crcShift (crcShift r)))))))

/-- the check of some bytes -/
def crc32 (bytes : Text.Bytes) : UInt32 :=
  bytes.foldl crcStep 0xFFFFFFFF ^^^ 0xFFFFFFFF

/-- The check of the nine digits has the value that the standard gives. -/
theorem crc32_digits : crc32 [0x31, 0x32, 0x33, 0x34, 0x35, 0x36, 0x37, 0x38, 0x39] = 0xCBF43926 := by
  decide +kernel

end HookFlow.Hash
