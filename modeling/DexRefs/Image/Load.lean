import DexRefs.Listing

/-!
An image is a byte string that was decoded completely: header, tables and one internal flag for
each type.  Decoding looks at nothing but the bytes.
-/

set_option autoImplicit false

namespace DexRefs

/-- Why a byte string gave no image or no listing. -/
inductive LoadFault where
  | malformed (f : Fault)
  | listing (f : ListingFault)
  deriving DecidableEq, Repr

def LoadFault.message : LoadFault → String
  | malformed f => f.message
  | listing f => f.message

structure Image where
  header : Header
  tables : Tables
  flags : Array Bool
  deriving DecidableEq, Repr

namespace Image

def start : Cursor := ⟨0, .little⟩

def readParts : Reader (Header × Tables) := do
  let header ← Header.read
  let tables ← Tables.read header
  pure (header, tables)

def parts (b : Bytes) : Except Fault (Header × Tables) :=
  match readParts b start with
  | .ok p _ => .ok p
  | .error f _ => .error f

/-- Header and tables as read by a cursor that starts anywhere, and where it is afterwards. -/
def partsFrom (b : Bytes) (pos : Nat) : Except Fault (Header × Tables) × Nat :=
  match readParts b ⟨pos, .little⟩ with
  | .ok p c => (.ok p, c.pos)
  | .error f c => (.error f, c.pos)

/-- The image of a header and tables.  The classification is computed, then checked as any other
would be. -/
def ofParts (p : Header × Tables) : Except LoadFault Image := do
  let flags ← p.2.classify.mapError .listing
  (p.2.checkFlags flags).mapError .listing
  pure { header := p.1, tables := p.2, flags }

def load (b : Bytes) : Except LoadFault Image := do
  ofParts (← (parts b).mapError .malformed)

def isInternal? (i : Image) (type : Nat) : Option Bool := i.flags[type]?

def references (i : Image) (s : Scope) : Except ListingFault (List ClassRef) :=
  i.tables.assemble i.flags (.ofScope s)

def description (i : Image) (name : String) : String :=
  "DexFile(name=" ++ quoted name ++ ", version=" ++ quoted i.header.version.digits ++
    ", types=" ++ decimal i.tables.types.size ++ ")"

end Image

end DexRefs
