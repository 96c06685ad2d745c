import DexRefs.Image.Reader

/-!
The header of an image: 112 bytes that begin with a magic naming the format version and hold, from
offset 32 on, twenty words: the file size, the header size, the byte-order tag, three words that
are skipped, size and offset of the six index tables, and two more words that are skipped.  The
tag, read little-endian whatever the order of the other words, tells that order.
-/

set_option autoImplicit false

namespace DexRefs

/-- The accepted format versions.  There is no version 036. -/
inductive Version where
  | v035
  | v037
  | v038
  | v039
  deriving DecidableEq, Repr

namespace Version

def digits : Version → String
  | v035 => "035"
  | v037 => "037"
  | v038 => "038"
  | v039 => "039"

def all : List Version := [v035, v037, v038, v039]

def magic (v : Version) : List UInt8 :=
  [0x64, 0x65, 0x78, 0x0a] ++ utf8Bytes v.digits ++ [0]

def ofMagic? (bs : List UInt8) : Option Version :=
  all.find? (·.magic == bs)

end Version

def ByteOrder.tag : ByteOrder → Nat
  | little => 0x12345678
  | big => 0x78563412

def ByteOrder.ofTag? (tag : Nat) : Option ByteOrder :=
  [ByteOrder.little, .big].find? (·.tag == tag)

structure Extent where
  size : Nat
  off : Nat
  deriving DecidableEq, Repr, Inhabited

structure Header where
  version : Version
  order : ByteOrder
  fileSize : Nat
  headerSize : Nat
  strings : Extent
  types : Extent
  protos : Extent
  fields : Extent
  methods : Extent
  classDefs : Extent
  deriving DecidableEq, Repr

namespace Header

def wordsOffset : Nat := 32

def readExtent : Reader Extent := do
  let size ← Reader.u32
  let off ← Reader.u32
  pure ⟨size, off⟩

def skipWords : Nat → Reader Unit
  | 0 => pure ()
  | n + 1 => do
    let _ ← Reader.u32
    skipWords n

/-- Reads the header.  The byte order of the cursor changes once magic and tag are accepted. -/
def read : Reader Header := do
  Reader.seek 0
  let magic ← Reader.take 8
  match Version.ofMagic? magic with
  | none => Reader.fail (.badMagic magic)
  | some version =>
    Reader.seek Fault.tagOffset
    let tag := ByteOrder.little.value (← Reader.take 4)
    match ByteOrder.ofTag? tag with
    | none => Reader.fail (.badEndianTag tag)
    | some order =>
      Reader.setOrder order
      Reader.seek wordsOffset
      let fileSize ← Reader.u32
      let headerSize ← Reader.u32
      skipWords 4
      let strings ← readExtent
      let types ← readExtent
      let protos ← readExtent
      let fields ← readExtent
      let methods ← readExtent
      let classDefs ← readExtent
      skipWords 2
      pure { version, order, fileSize, headerSize, strings, types, protos, fields, methods,
             classDefs }

end Header

end DexRefs
