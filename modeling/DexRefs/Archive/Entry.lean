import DexRefs.Archive.Checksum
import DexRefs.Archive.Directory

/-!
The data of an archive entry.  Sizes and checksum are those of the directory; the header in front
of the data is only checked and passed over.
-/

set_option autoImplicit false

namespace DexRefs

namespace Entry

def headerLength : Nat := 30

def headerSignature : List UInt8 := [0x50, 0x4b, 3, 4]

def greatestPosition : Int := 0xffffffff000

def headerStart (e : Entry) : Except ArchiveFault Nat :=
  if e.offset < -positionLimit ∨ positionLimit ≤ e.offset then .error .offsetRange
  else if e.offset < 0 ∨ greatestPosition < e.offset then .error .unreachable
  else .ok e.offset.toNat

def dataStart (b : Bytes) (e : Entry) : Except ArchiveFault Nat := do
  let start ← e.headerStart
  if b.size < start + headerLength then throw .truncatedHeader
  if !b.hasAt start headerSignature then throw .headerSignature
  let name := b.window (start + headerLength) (b.wordAt (start + 26) 2)
  let next := start + headerLength + name.length
  if hasFlag e.flags 5 then throw .patchedData
  if hasFlag e.flags 6 then throw .strongEncryption
  if (← decodeName (b.wordAt (start + 6) 2) name) ≠ e.fullName then
    throw (.nameMismatch e.fullName name)
  pure (next + (b.window next (b.wordAt (start + 28) 2)).length)

def methods : List Nat := [0, 8, 12, 14]

def unpack (method : Nat) (packed : Bytes) : Except ArchiveFault Unpacked :=
  match method with
  | 8 => (inflate packed).mapError .stream
  | 12 => (bunzip packed).mapError fun _ => .invalidStream
  | 14 => (unlzma packed).mapError .lzma
  | _ => .ok ⟨packed, false⟩

def packed (b : Bytes) (e : Entry) (start : Nat) : Bytes :=
  b.extract start (start + e.packedSize)

/-- Whether more data are asked for than the file holds: it holds none, or those that it holds
neither end their stream nor give all that is expected. -/
def isCut (e : Entry) (packed : Bytes) (u : Unpacked) : Bool :=
  packed.size < e.packedSize && (packed.isEmpty || !u.ended && u.out.size < e.size)

def data (b : Bytes) (e : Entry) : Except ArchiveFault Bytes := do
  let start ← e.dataStart b
  if e.bound < start + e.packedSize then throw (.overlap e.fullName)
  if hasFlag e.flags 0 then throw (.encrypted e.name)
  if e.method ∉ methods then throw .method
  let unpacked ← unpack e.method (e.packed b start)
  if e.isCut (e.packed b start) unpacked then throw .endOfFile
  let out := unpacked.out.extract 0 e.size
  if (crc32 out).toNat ≠ e.crc then throw (.checksum e.name)
  pure out

end Entry

namespace Archive

def read? (a : Archive) (name : String) : Option (Except ArchiveFault Bytes) :=
  (a.find? name).map (Entry.data a.bytes)

end Archive

end DexRefs
