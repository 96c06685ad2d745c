import DexRefs.Archive.Bzip2
import DexRefs.Archive.Inflate
import DexRefs.Archive.Lzma
import DexRefs.Text.Quoted
import DexRefs.Text.Utf8

/-!
What can be wrong with an archive.  Some causes are defects of the archive; the others are
features that this library does not support, or names it cannot read.
-/

set_option autoImplicit false

namespace DexRefs

inductive ArchiveFault where
  | severalVolumes
  | directoryOffset
  | truncatedDirectory
  | directorySignature
  | extraField (id size : Nat)
  | wideField (name : String)
  | unreachable
  | truncatedHeader
  | headerSignature
  | nameMismatch (directory : String) (header : List UInt8)
  | overlap (name : String)
  | checksum (name : String)
  | stream (f : StreamFault)
  | invalidStream
  | newerVersion (tenths : Nat)
  | patchedData
  | strongEncryption
  | encrypted (name : String)
  | method
  | lzma (f : LzmaFault)
  | endOfFile
  | nameEncoding (name : List UInt8)
  | offsetRange
  deriving DecidableEq, Repr

namespace ArchiveFault

/-- Whether the archive itself is defective, as opposed to unsupported. -/
def isDefect : ArchiveFault → Bool
  | newerVersion _ | patchedData | strongEncryption | encrypted _ | method | lzma _ | endOfFile
  | nameEncoding _ | offsetRange => false
  | _ => true

def encodingMessage (name : List UInt8) : String :=
  match utf8Defect? name with
  | some d =>
    let place :=
      if d.length = 1 then
        "byte 0x" ++ hexadecimal 2 (name[d.start]?.getD 0).toNat ++ " in position " ++
          decimal d.start
      else
        "bytes in position " ++ decimal d.start ++ "-" ++ decimal (d.start + d.length - 1)
    "'utf-8' codec can't decode " ++ place ++ ": " ++ d.reason.wording
  | none => ""

def message : ArchiveFault → String
  | severalVolumes => "zipfiles that span multiple disks are not supported"
  | directoryOffset => "Bad offset for central directory"
  | truncatedDirectory => "Truncated central directory"
  | directorySignature => "Bad magic number for central directory"
  | extraField id size =>
    "Corrupt extra field " ++ hexadecimal 4 id ++ " (size=" ++ decimal size ++ ")"
  | wideField name => "Corrupt zip64 extra field. " ++ name ++ " not found."
  | unreachable => "[Errno 22] Invalid argument"
  | truncatedHeader => "Truncated file header"
  | headerSignature => "Bad magic number for file header"
  | nameMismatch directory header =>
    "File name in directory " ++ quoted directory ++ " and header " ++ quotedBytes header ++
      " differ."
  | overlap name => "Overlapped entries: " ++ quoted name ++ " (possible zip bomb)"
  | checksum name => "Bad CRC-32 for file " ++ quoted name
  | stream f => "Error -3 while decompressing data: " ++ f.wording
  | invalidStream => "Invalid data stream"
  | newerVersion tenths =>
    "zip file version " ++ decimal (tenths / 10) ++ "." ++ decimal (tenths % 10)
  | patchedData => "compressed patched data (flag bit 5)"
  | strongEncryption => "strong encryption (flag bit 6)"
  | encrypted name => "File " ++ quoted name ++ " is encrypted, password required for extraction"
  | method => "That compression method is not supported"
  | lzma f => f.wording
  | endOfFile => ""
  | nameEncoding name => encodingMessage name
  | offsetRange => "cannot fit 'int' into an offset-sized integer"

end ArchiveFault

end DexRefs
