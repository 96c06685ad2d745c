import DexRefs.Image.Header

/-!
The six index tables.  Rows hold indices into other tables; `Tables.descriptor?` follows one.
Loading goes through the tables in a fixed order, so that each index is checked, in the order of
the row's columns and once the row is read completely, against a table that is already there.
-/

set_option autoImplicit false

namespace DexRefs

/-- A method prototype: its short form, its return type and its parameter list, which stands at
`parametersOff` unless that is zero. -/
structure Proto where
  shorty : Nat
  returnType : Nat
  parametersOff : Nat
  parameters : List Nat
  deriving DecidableEq, Repr

structure FieldId where
  owner : Nat
  type : Nat
  name : Nat
  deriving DecidableEq, Repr

structure MethodId where
  owner : Nat
  proto : Nat
  name : Nat
  deriving DecidableEq, Repr

/-- All index tables of an image.  A type is the index of its descriptor, and a class definition
is the type it defines. -/
structure Tables where
  strings : Array String := #[]
  types : Array Nat := #[]
  protos : Array Proto := #[]
  fields : Array FieldId := #[]
  methods : Array MethodId := #[]
  classDefs : Array Nat := #[]
  deriving DecidableEq, Repr

def Tables.descriptor? (t : Tables) (type : Nat) : Option String := do
  t.strings[← t.types[type]?]?

structure Counts where
  strings : Nat := 0
  types : Nat := 0
  protos : Nat := 0
  fields : Nat := 0
  methods : Nat := 0
  classDefs : Nat := 0
  deriving DecidableEq, Repr

def Tables.counts (t : Tables) : Counts :=
  ⟨t.strings.size, t.types.size, t.protos.size, t.fields.size, t.methods.size, t.classDefs.size⟩

namespace Tables

def check (table : Table) (row index limit : Nat) (target : Table) (offset : Nat) :
    Reader Unit :=
  if index < limit then pure ()
  else Reader.fail (.indexOutOfRange table row index limit target offset)

/-- The string pool: all string offsets in one run, then each string.  Nothing is read, and the
cursor stays, when there are no strings. -/
def readStrings (e : Extent) : Reader (Array String) := do
  if e.size = 0 then pure #[]
  else
    Reader.seek e.off
    let offsets ← Reader.rows e.size fun _ => Reader.u32
    Reader.each offsets fun _ off => do
      Reader.seek off
      Reader.string

def readType (strings row : Nat) : Reader Nat := do
  let off ← Reader.tell
  let descriptor ← Reader.u32
  check .typeIds row descriptor strings .stringIds off
  pure descriptor

def readTypes (e : Extent) (strings : Nat) : Reader (Array Nat) := do
  Reader.seek e.off
  Reader.rows e.size (readType strings)

def readProtoRow (strings types row : Nat) : Reader Proto := do
  let off ← Reader.tell
  let shorty ← Reader.u32
  let returnType ← Reader.u32
  let parametersOff ← Reader.u32
  check .protoIds row shorty strings .stringIds off
  check .protoIds row returnType types .typeIds off
  pure ⟨shorty, returnType, parametersOff, []⟩

def readParameter (types row : Nat) : Reader Nat := do
  let off ← Reader.tell
  let type ← Reader.u16
  check .protoIds row type types .typeIds off
  pure type

/-- The parameter list of prototype number `row`: a count, then the types. -/
def readParameters (types row : Nat) (p : Proto) : Reader Proto := do
  if p.parametersOff = 0 then pure p
  else
    Reader.seek p.parametersOff
    let size ← Reader.u32
    let parameters ← Reader.rows size fun _ => readParameter types row
    pure { p with parameters := parameters.toList }

/-- The prototypes, in two passes: first all rows, then the parameter lists. -/
def readProtos (e : Extent) (strings types : Nat) : Reader (Array Proto) := do
  Reader.seek e.off
  let rows ← Reader.rows e.size (readProtoRow strings types)
  Reader.each rows (readParameters types)

def readField (strings types row : Nat) : Reader FieldId := do
  let off ← Reader.tell
  let owner ← Reader.u16
  let type ← Reader.u16
  let name ← Reader.u32
  check .fieldIds row owner types .typeIds off
  check .fieldIds row type types .typeIds off
  check .fieldIds row name strings .stringIds off
  pure ⟨owner, type, name⟩

def readFields (e : Extent) (strings types : Nat) : Reader (Array FieldId) := do
  Reader.seek e.off
  Reader.rows e.size (readField strings types)

def readMethod (strings types protos row : Nat) : Reader MethodId := do
  let off ← Reader.tell
  let owner ← Reader.u16
  let proto ← Reader.u16
  let name ← Reader.u32
  check .methodIds row owner types .typeIds off
  check .methodIds row proto protos .protoIds off
  check .methodIds row name strings .stringIds off
  pure ⟨owner, proto, name⟩

def readMethods (e : Extent) (strings types protos : Nat) : Reader (Array MethodId) := do
  Reader.seek e.off
  Reader.rows e.size (readMethod strings types protos)

def readClassDef (types row : Nat) : Reader Nat := do
  let off ← Reader.tell
  let type ← Reader.u32
  let _ ← Reader.take 28
  check .classDefs row type types .typeIds off
  pure type

def readClassDefs (e : Extent) (types : Nat) : Reader (Array Nat) := do
  Reader.seek e.off
  Reader.rows e.size (readClassDef types)

def read (h : Header) : Reader Tables := do
  let strings ← readStrings h.strings
  let types ← readTypes h.types strings.size
  let protos ← readProtos h.protos strings.size types.size
  let fields ← readFields h.fields strings.size types.size
  let methods ← readMethods h.methods strings.size types.size protos.size
  let classDefs ← readClassDefs h.classDefs types.size
  pure { strings, types, protos, fields, methods, classDefs }

end Tables

end DexRefs
