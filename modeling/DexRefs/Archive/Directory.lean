import DexRefs.Archive.CodePage
import DexRefs.Archive.Fault

/-!
The directory of an archive.  The end record, near the end of the file, tells size and offset of
the directory; the directory ends where the end record starts, so that data in front of the
archive shift all offsets by the same distance.
-/

set_option autoImplicit false

namespace DexRefs

def Bytes.wordAt? (b : Bytes) (pos width : Nat) : Option Nat :=
  if pos + width ≤ b.size then some (littleEndian (b.window pos width)) else none

def Bytes.wordAt (b : Bytes) (pos width : Nat) : Nat :=
  littleEndian (b.window pos width)

def Bytes.hasAt (b : Bytes) (pos : Nat) (bs : List UInt8) : Bool :=
  b.window pos bs.length == bs

/-- Where the directory is, as the end record tells it; the wide form has 64-bit fields and is
stored in front of the end record. -/
structure EndRecord where
  location : Nat
  size : Nat
  offset : Nat
  wide : Bool
  deriving DecidableEq, Repr

namespace EndRecord

def signature : List UInt8 := [0x50, 0x4b, 5, 6]

def locatorSignature : List UInt8 := [0x50, 0x4b, 6, 7]

def wideSignature : List UInt8 := [0x50, 0x4b, 6, 6]

def length : Nat := 22

def locatorLength : Nat := 20

def wideLength : Nat := 56

def lastSignature (b : Bytes) (low : Nat) : Nat → Option Nat
  | 0 => if b.hasAt low signature then some low else none
  | n + 1 => if b.hasAt (low + n + 1) signature then some (low + n + 1) else lastSignature b low n

/-- Where the end record is: at the very end if it has no comment, otherwise at its last signature
within the reach of the longest comment. -/
def locate (b : Bytes) : Option Nat :=
  if b.size < length then none
  else
    let last := b.size - length
    if b.hasAt last signature && b.wordAt (last + 20) 2 == 0 then some last
    else
      let low := b.size - (65536 + length)
      match lastSignature b low (b.size - 4 - low) with
      | some pos => if pos + length ≤ b.size then some pos else none
      | none => none

/-- The end record at `location`, replaced by its wide form if there is one. -/
def readAt (b : Bytes) (location : Nat) : Except ArchiveFault (Option EndRecord) :=
  let plain : EndRecord :=
    ⟨location, b.wordAt (location + 12) 4, b.wordAt (location + 16) 4, false⟩
  let locator := location - locatorLength
  if location < locatorLength || !b.hasAt locator locatorSignature then .ok (some plain)
  else if b.wordAt (locator + 4) 4 ≠ 0 || 1 < b.wordAt (locator + 16) 4 then
    .error .severalVolumes
  else if locator < wideLength then .ok none
  else
    let wide := locator - wideLength
    if b.hasAt wide wideSignature then
      .ok (some ⟨location, b.wordAt (wide + 40) 8, b.wordAt (wide + 48) 8, true⟩)
    else .ok (some plain)

def find (b : Bytes) : Except ArchiveFault (Option EndRecord) :=
  match locate b with
  | some location => readAt b location
  | none => .ok none

def start (e : EndRecord) : Int :=
  e.location - e.size - if e.wide then wideLength + locatorLength else 0

def shift (e : EndRecord) : Int :=
  e.start - e.offset

end EndRecord

/-- An entry as the directory tells it.  `bound` is where its data must end. -/
structure Entry where
  fullName : String
  version : Nat
  flags : Nat
  method : Nat
  crc : Nat
  packedSize : Nat
  size : Nat
  offset : Int
  bound : Int := 0
  deriving DecidableEq, Repr

namespace Entry

def name (e : Entry) : String :=
  String.ofList (e.fullName.toList.takeWhile (· ≠ Char.ofNat 0))

def hasFlag (flags bit : Nat) : Bool :=
  flags.testBit bit

def decodeName (flags : Nat) (bs : List UInt8) : Except ArchiveFault String :=
  if hasFlag flags 11 then
    match utf8? bs with
    | some cs => .ok (String.ofList cs)
    | none => .error (.nameEncoding bs)
  else .ok (codePageText bs)

def elsewhere : Nat := 0xffffffff

/-- The wide values of an extra field: those of the three that are stored elsewhere, in order. -/
def widen (e : Entry) (data : Bytes) : Except ArchiveFault Entry := do
  let mut e := e
  let mut pos := 0
  if e.size = elsewhere ∨ e.size = 0xffffffffffffffff then
    match data.wordAt? pos 8 with
    | some n => e := { e with size := n }
    | none => throw (.wideField "File size")
    pos := pos + 8
  if e.packedSize = elsewhere then
    match data.wordAt? pos 8 with
    | some n => e := { e with packedSize := n }
    | none => throw (.wideField "Compress size")
    pos := pos + 8
  if e.offset = elsewhere then
    match data.wordAt? pos 8 with
    | some n => e := { e with offset := n }
    | none => throw (.wideField "Header offset")
  pure e

def readExtra (e : Entry) (extra : Bytes) : (fuel pos : Nat) → Except ArchiveFault Entry
  | 0, _ => .ok e
  | fuel + 1, pos =>
    if extra.size < pos + 4 then .ok e
    else
      let id := extra.wordAt pos 2
      let size := extra.wordAt (pos + 2) 2
      if extra.size < pos + 4 + size then .error (.extraField id size)
      else if id = 1 then
        match e.widen (extra.extract (pos + 4) (pos + 4 + size)) with
        | .ok e => e.readExtra extra fuel (pos + 4 + size)
        | .error f => .error f
      else e.readExtra extra fuel (pos + 4 + size)

def directoryLength : Nat := 46

def directorySignature : List UInt8 := [0x50, 0x4b, 1, 2]

def read (directory : Bytes) (shift : Int) (pos : Nat) : Except ArchiveFault (Entry × Nat) := do
  if directory.size < pos + directoryLength then throw .truncatedDirectory
  if !directory.hasAt pos directorySignature then throw .directorySignature
  let flags := directory.wordAt (pos + 8) 2
  let nameSize := directory.wordAt (pos + 28) 2
  let extraSize := directory.wordAt (pos + 30) 2
  let commentSize := directory.wordAt (pos + 32) 2
  let extraPos := pos + directoryLength + nameSize
  let fullName ← decodeName flags (directory.window (pos + directoryLength) nameSize)
  let version := directory.wordAt (pos + 6) 1
  if 63 < version then throw (.newerVersion version)
  let entry : Entry :=
    { fullName, version, flags
      method := directory.wordAt (pos + 10) 2
      crc := directory.wordAt (pos + 16) 4
      packedSize := directory.wordAt (pos + 20) 4
      size := directory.wordAt (pos + 24) 4
      offset := directory.wordAt (pos + 42) 4 }
  let extra := directory.extract extraPos (extraPos + extraSize)
  let entry ← entry.readExtra extra (extra.size + 1) 0
  pure ({ entry with offset := entry.offset + shift }, extraPos + extraSize + commentSize)

def readAll (directory : Bytes) (shift : Int) :
    (fuel pos : Nat) → Except ArchiveFault (List Entry)
  | 0, _ => .ok []
  | fuel + 1, pos =>
    if directory.size ≤ pos then .ok []
    else do
      let (entry, next) ← read directory shift pos
      let rest ← readAll directory shift fuel next
      pure (entry :: rest)

/-- Tells each entry, the furthest first, that it ends where the one before it starts. -/
def setBounds : (bound : Int) → List Entry → List Entry
  | _, [] => []
  | bound, e :: es => { e with bound } :: setBounds e.offset es

end Entry

/-- A file with its directory entries.  Entries are in descending order of their offsets; where
offsets are equal they keep the order of the directory. -/
structure Archive where
  bytes : Bytes
  listed : List Entry
  start : Int

namespace Archive

def ofEndRecord (b : Bytes) (e : EndRecord) : Except ArchiveFault Archive :=
  if e.start < 0 then .error .directoryOffset
  else do
    let start := e.start.toNat
    let directory := b.extract start (start + e.size)
    let listed ← Entry.readAll directory e.shift (directory.size + 1) 0
    pure { bytes := b, listed, start := e.start }

def names (a : Archive) : List String :=
  a.listed.map Entry.name

/-- The entry that the archive holds under a name: of several, the one listed last. -/
def find? (a : Archive) (name : String) : Option Entry :=
  let numbered := a.listed.zipIdx
  let sorted := numbered.mergeSort fun x y => decide (y.1.offset ≤ x.1.offset)
  let bounded := (Entry.setBounds a.start (sorted.map (·.1))).zip (sorted.map (·.2))
  match (numbered.filter (·.1.name = name)).getLast? with
  | some (_, i) => (bounded.find? (·.2 = i)).map (·.1)
  | none => none

end Archive

end DexRefs
