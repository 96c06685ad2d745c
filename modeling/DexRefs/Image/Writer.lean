import DexRefs.Image.Tables

/-!
Writing an image.  Its parts follow one another without gaps, but for the parameter lists, which
start at multiples of four: header, string offsets, the rows of the other five tables in their
order, parameter lists, string items.  A table without rows has the offset zero, and so has an
empty parameter list.
-/

set_option autoImplicit false

namespace DexRefs

def uleb128Bytes (n : Nat) : List UInt8 :=
  if n < 0x80 then [UInt8.ofNat n]
  else UInt8.ofNat (0x80 + n % 0x80) :: uleb128Bytes (n / 0x80)
termination_by n
decreasing_by omega

def utf16Units : List Char → Nat
  | [] => 0
  | c :: cs => (if c.toNat < 0x10000 then 1 else 2) + utf16Units cs

def stringItem (s : String) : List UInt8 :=
  uleb128Bytes (utf16Units s.toList) ++ utf8Bytes s ++ [0]

structure Signature where
  shorty : Nat
  returnType : Nat
  parameters : List Nat
  deriving DecidableEq, Repr

def Proto.signature (p : Proto) : Signature := ⟨p.shorty, p.returnType, p.parameters⟩

def Signature.list (s : Signature) (o : ByteOrder) : List UInt8 :=
  o.bytes 4 s.parameters.length ++ s.parameters.flatMap (o.bytes 2)

/-- What an image says, wherever it says it. -/
structure Contents where
  strings : List String := []
  types : List Nat := []
  protos : List Signature := []
  fields : List FieldId := []
  methods : List MethodId := []
  classDefs : List Nat := []
  deriving DecidableEq, Repr

def Tables.contents (t : Tables) : Contents where
  strings := t.strings.toList
  types := t.types.toList
  protos := t.protos.toList.map Proto.signature
  fields := t.fields.toList
  methods := t.methods.toList
  classDefs := t.classDefs.toList

def gap (pos : Nat) : Nat := (4 - pos % 4) % 4

def listOffsets : (pos : Nat) → List Signature → List Nat
  | _, [] => []
  | pos, s :: ss =>
    if s.parameters = [] then 0 :: listOffsets pos ss
    else (pos + gap pos) :: listOffsets (pos + gap pos + (4 + 2 * s.parameters.length)) ss

def listBytes (o : ByteOrder) : (pos : Nat) → List Signature → List UInt8
  | _, [] => []
  | pos, s :: ss =>
    if s.parameters = [] then listBytes o pos ss
    else
      List.replicate (gap pos) 0 ++ s.list o ++
        listBytes o (pos + gap pos + (4 + 2 * s.parameters.length)) ss

def stringOffsets : (pos : Nat) → List String → List Nat
  | _, [] => []
  | pos, s :: ss => pos :: stringOffsets (pos + (stringItem s).length) ss

def classDefBytes (o : ByteOrder) (type : Nat) : List UInt8 :=
  [type, 1, 0xffffffff, 0, 0xffffffff, 0, 0, 0].flatMap (o.bytes 4)

def protoBytes (o : ByteOrder) (p : Proto) : List UInt8 :=
  o.bytes 4 p.shorty ++ o.bytes 4 p.returnType ++ o.bytes 4 p.parametersOff

def fieldBytes (o : ByteOrder) (f : FieldId) : List UInt8 :=
  o.bytes 2 f.owner ++ o.bytes 2 f.type ++ o.bytes 4 f.name

def methodBytes (o : ByteOrder) (m : MethodId) : List UInt8 :=
  o.bytes 2 m.owner ++ o.bytes 2 m.proto ++ o.bytes 4 m.name

def Extent.written (size pos : Nat) : Extent := ⟨size, if size = 0 then 0 else pos⟩

namespace Header

def size : Nat := 112

/-- The twenty words of a header, of which six are not kept. -/
def words (h : Header) (dataSize dataOff : Nat) : List Nat :=
  [h.fileSize, h.headerSize, ByteOrder.little.tag, 0, 0, 0,
    h.strings.size, h.strings.off, h.types.size, h.types.off, h.protos.size, h.protos.off,
    h.fields.size, h.fields.off, h.methods.size, h.methods.off, h.classDefs.size, h.classDefs.off,
    dataSize, dataOff]

def bytes (h : Header) (dataSize dataOff : Nat) : List UInt8 :=
  h.version.magic ++ List.replicate 24 0 ++
    (h.words dataSize dataOff).flatMap (h.order.bytes 4)

end Header

namespace Contents

variable (t : Contents)

def typesPos : Nat := Header.size + 4 * t.strings.length
def protosPos : Nat := t.typesPos + 4 * t.types.length
def fieldsPos : Nat := t.protosPos + 12 * t.protos.length
def methodsPos : Nat := t.fieldsPos + 8 * t.fields.length
def classDefsPos : Nat := t.methodsPos + 8 * t.methods.length
def dataPos : Nat := t.classDefsPos + 32 * t.classDefs.length

variable (o : ByteOrder)

def lists : List UInt8 := listBytes o t.dataPos t.protos

def dataBytes : List UInt8 := t.lists o ++ t.strings.flatMap stringItem

def tables : Tables where
  strings := t.strings.toArray
  types := t.types.toArray
  protos := (List.zipWith (fun s off => ⟨s.shorty, s.returnType, off, s.parameters⟩) t.protos
    (listOffsets t.dataPos t.protos)).toArray
  fields := t.fields.toArray
  methods := t.methods.toArray
  classDefs := t.classDefs.toArray

def rowBytes : List UInt8 :=
  (stringOffsets (t.dataPos + (t.lists o).length) t.strings).flatMap (o.bytes 4) ++
    t.types.flatMap (o.bytes 4) ++ t.tables.protos.toList.flatMap (protoBytes o) ++
    t.fields.flatMap (fieldBytes o) ++ t.methods.flatMap (methodBytes o) ++
    t.classDefs.flatMap (classDefBytes o)

def header (v : Version) : Header where
  version := v
  order := o
  fileSize := Header.size + (t.rowBytes o).length + (t.dataBytes o).length
  headerSize := Header.size
  strings := .written t.strings.length Header.size
  types := .written t.types.length t.typesPos
  protos := .written t.protos.length t.protosPos
  fields := .written t.fields.length t.fieldsPos
  methods := .written t.methods.length t.methodsPos
  classDefs := .written t.classDefs.length t.classDefsPos

/-- The image with these contents in a byte order and a version. -/
def encode (v : Version) : Bytes :=
  ((t.header o v).bytes (t.dataBytes o).length t.dataPos ++ t.rowBytes o ++ t.dataBytes o).toArray

end Contents

end DexRefs
