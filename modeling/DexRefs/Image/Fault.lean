import DexRefs.Bytes
import DexRefs.Text.Quoted

/-!
What can be wrong with an image.  A fault is told by its cause; its name, its wording and the
offset at which it was found follow from the cause.
-/

set_option autoImplicit false

namespace DexRefs

inductive Table where
  | stringIds
  | typeIds
  | protoIds
  | fieldIds
  | methodIds
  | classDefs
  deriving DecidableEq, Repr

def Table.name : Table → String
  | stringIds => "string_ids"
  | typeIds => "type_ids"
  | protoIds => "proto_ids"
  | fieldIds => "field_ids"
  | methodIds => "method_ids"
  | classDefs => "class_defs"

inductive Fault where
  | badMagic (magic : List UInt8)
  | badEndianTag (tag : Nat)
  /-- A read of `requested` bytes at `offset` found only `available`. -/
  | truncated (offset requested available : Nat)
  /-- A row of `table` holds an index that `target`, with its `limit` rows, does not have. -/
  | indexOutOfRange (table : Table) (row index limit : Nat) (target : Table) (offset : Nat)
  deriving DecidableEq, Repr

namespace Fault

def tagOffset : Nat := 40

def kind : Fault → String
  | badMagic _ => "BadMagicError"
  | badEndianTag _ => "BadEndianTagError"
  | truncated .. => "TruncatedInputError"
  | indexOutOfRange .. => "IndexOutOfRangeError"

def offset : Fault → Nat
  | badMagic _ => 0
  | badEndianTag _ => tagOffset
  | truncated o _ _ => o
  | indexOutOfRange _ _ _ _ _ o => o

def wording : Fault → String
  | badMagic magic =>
    "Unrecognised DEX magic " ++ quotedBytes magic ++ " -- is this really a DEX file?"
  | badEndianTag tag => "Unexpected endian tag 0x" ++ hexadecimal 8 tag
  | truncated _ requested available =>
    "Truncated input: wanted " ++ decimal requested ++ " byte(s), got " ++ decimal available
  | indexOutOfRange table row index limit target _ =>
    table.name ++ "[" ++ decimal row ++ "] references " ++ target.name ++ " index " ++
      decimal index ++ ", but " ++ target.name ++ " holds only " ++ decimal limit ++ " entries"

def message (f : Fault) : String :=
  f.wording ++ " (at offset 0x" ++ hexadecimal 0 f.offset ++ ")"

end Fault

end DexRefs
