import DexRefs.Bytes

/-!
The checksum of archive entries: CRC-32, computed bit by bit.
-/

set_option autoImplicit false

namespace DexRefs

def crcBit (c : UInt32) : UInt32 :=
  if c &&& 1 = 1 then (c >>> 1) ^^^ 0xedb88320 else c >>> 1

def crcBits : Nat → UInt32 → UInt32
  | 0, c => c
  | n + 1, c => crcBits n (crcBit c)

def crcByte (c : UInt32) (b : UInt8) : UInt32 :=
  crcBits 8 (c ^^^ b.toUInt32)

def crc32 (b : Bytes) : UInt32 :=
  b.foldl crcByte 0xffffffff ^^^ 0xffffffff

end DexRefs
