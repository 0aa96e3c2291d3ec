import WasmBundle.Bytes

/-!
# The checksum of a container

The cyclic redundancy check of 32 bits with the polynomial `0xEDB88320` in reflected form, started
from all ones and complemented at the end.
-/

namespace WasmBundle.Container

def polynomial : UInt32 := 0xEDB88320

/-- One bit is shifted out; if it is set, the polynomial is subtracted. -/
def checksumBit (r : UInt32) : UInt32 :=
  if r &&& 1 = 1 then (r >>> 1) ^^^ polynomial else r >>> 1

def checksumBits : Nat → UInt32 → UInt32
  | 0, r => r
  | n + 1, r => checksumBits n (checksumBit r)

def checksumByte (r : UInt32) (b : UInt8) : UInt32 := checksumBits 8 (r ^^^ b.toUInt32)

def checksum (b : Bytes) : UInt32 := b.foldl checksumByte 0xFFFFFFFF ^^^ 0xFFFFFFFF

end WasmBundle.Container
