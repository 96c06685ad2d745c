import DexRefs.Archive.Fault
import DexRefs.Image.Load
import DexRefs.Value

/-!
Why a scan gave no result.
-/

set_option autoImplicit false

namespace DexRefs

inductive ContainerFault where
  | notFound (path : String)
  | tooLarge (size : Nat) (limit : String)
  | unreadable (path : String) (cause : ArchiveFault)
  | noImages (path : String)
  deriving DecidableEq, Repr

def ContainerFault.kind : ContainerFault → String :=
  fun _ => "ContainerError"

def ContainerFault.message : ContainerFault → String
  | notFound path => "File not found: " ++ path
  | tooLarge size limit =>
    "File too large: " ++ grouped size ++ " bytes (max: " ++ limit ++ " bytes)"
  | unreadable path cause => "Unable to read archive '" ++ path ++ "': " ++ cause.message
  | noImages path => "Unable to find 'classes.dex' in '" ++ path ++ "'"

inductive SettingFault where
  | notComparable (type : String)
  | notAddable (type : String)
  | notCount (type : String)
  deriving DecidableEq, Repr

def SettingFault.message : SettingFault → String
  | notComparable type => "'>' not supported between instances of 'int' and '" ++ type ++ "'"
  | notAddable "str" => "can only concatenate str (not \"int\") to str"
  | notAddable "list" => "can only concatenate list (not \"int\") to list"
  | notAddable type => "unsupported operand type(s) for +: '" ++ type ++ "' and 'int'"
  | notCount type => "'" ++ type ++ "' object cannot be interpreted as an integer"

inductive ScanFault where
  | load (f : LoadFault)
  | container (f : ContainerFault)
  | archive (f : ArchiveFault)
  | setting (f : SettingFault)
  /-- The value names no scope. -/
  | scope (v : Value)
  deriving Repr

namespace ScanFault

/-- The name of a fault of the input, of which there are the kinds of malformed images and that
of containers; other faults have none. -/
def inputKind? : ScanFault → Option String
  | load (.malformed f) => some f.kind
  | container f => some f.kind
  | _ => none

def message : ScanFault → String
  | load f => f.message
  | container f => f.message
  | archive f => f.message
  | setting f => f.message
  | scope v => v.quoted ++ " is not a valid ReferenceScope"

end ScanFault

end DexRefs
