import DexRefs.Image.Reader

/-!
Sessions of a reader: single steps on one cursor, where a step that fails does not end the
session.
-/

set_option autoImplicit false

namespace DexRefs

/-- One step of a session.  Counts and positions are signed: a negative count takes all that is
left, and a negative position is refused; numbers that do not fit into 64 bits are refused too. -/
inductive Step where
  | u8
  | u16
  | u32
  | uleb128
  | string
  | bytes (n : Int)
  | seek (pos : Int)
  | tell
  | order (name : String)
  deriving DecidableEq, Repr

inductive StepValue where
  | nothing
  | number (n : Nat)
  | text (s : String)
  | bytes (bs : List UInt8)
  | order (o : ByteOrder)
  deriving DecidableEq, Repr

inductive StepFault where
  | read (f : Fault)
  | negativeSeek (pos : Int)
  | wideCount
  | widePosition
  | unknownOrder (name : String)
  deriving DecidableEq, Repr

def StepFault.message : StepFault → String
  | read f => f.message
  | negativeSeek pos => "negative seek value " ++ decimalInt pos
  | wideCount => "cannot fit 'int' into an index-sized integer"
  | widePosition => "Python int too large to convert to C ssize_t"
  | unknownOrder name => "Unknown byte order: " ++ quoted name

namespace Step

/-- What a reading gives within a session. -/
def ofReader {α : Type} (r : Reader α) (f : α → StepValue) (b : Bytes) (c : Cursor) :
    Except StepFault StepValue × Cursor :=
  match r b c with
  | .ok a c => (.ok (f a), c)
  | .error e c => (.error (.read e), c)

def isWide (n : Int) : Bool :=
  n < -positionLimit || positionLimit ≤ n

def run (b : Bytes) (c : Cursor) : Step → Except StepFault StepValue × Cursor
  | u8 => ofReader Reader.u8 .number b c
  | u16 => ofReader Reader.u16 .number b c
  | u32 => ofReader Reader.u32 .number b c
  | uleb128 => ofReader Reader.uleb128 .number b c
  | string => ofReader Reader.string .text b c
  | bytes n =>
    if isWide n then (.error .wideCount, c)
    else if n < 0 then ofReader (Reader.left >>= Reader.take) .bytes b c
    else ofReader (Reader.take n.toNat) .bytes b c
  | seek pos =>
    if isWide pos then (.error .widePosition, c)
    else if pos < 0 then (.error (.negativeSeek pos), c)
    else (.ok .nothing, { c with pos := pos.toNat })
  | tell => (.ok (.number c.pos), c)
  | order name =>
    match ByteOrder.ofName? name with
    | some o => (.ok (.order o), { c with order := o })
    | none => (.error (.unknownOrder name), c)

def session (b : Bytes) : Cursor → List Step → List (Except StepFault StepValue × Cursor)
  | _, [] => []
  | c, s :: ss =>
    let r := s.run b c
    r :: session b r.2 ss

end Step

end DexRefs
