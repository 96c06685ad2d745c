import DexRefs.Archive.Entry
import DexRefs.Files.Tree
import DexRefs.Log.Record
import DexRefs.Scan.Fault

/-!
What images a file holds.  A file is an archive if it has an end record, and then holds the images
`classes.dex`, `classes2.dex` and so on up to the first missing number; any other file is its own
single image.
-/

set_option autoImplicit false

namespace DexRefs

structure Source where
  name : String
  bytes : Bytes
  deriving DecidableEq, Repr

namespace Container

def logger : String := "dexdeps.container"

/-- The entry that holds image number `n`, the first being number 1. -/
def entryName (n : Int) : String :=
  if n = 1 then "classes.dex" else "classes" ++ decimalInt n ++ ".dex"

structure Limits where
  maxFileSize : Value := .null
  maxDexEntries : Value := .int 100
  deriving Repr

def limitText : Value → String
  | .int i => groupedInt i
  | .bool b => if b then "1" else "0"
  | .float (.finite negative m e) =>
    let (whole, rest) := Binary64.parts m e
    Binary64.signText negative ++ String.ofList (groupDigits whole) ++ rest
  | v => v.display

def exceeds (size : Nat) : Value → Except SettingFault Bool
  | .null => .ok false
  | .int i => .ok (i < size)
  | .bool b => .ok (b.toNat < size)
  | .float x => .ok (x.below size)
  | v => .error (.notComparable v.typeName)

def count : Value → Except SettingFault Int
  | .int i => .ok i
  | .bool b => .ok b.toNat
  | .float _ => .error (.notCount "float")
  | v => .error (.notAddable v.typeName)

/-- Images from number `n` on, at most `limit` of them, and whether no number was missing. -/
def walk (a : Archive) : (limit n : Nat) → Except ArchiveFault (List Source × Bool)
  | 0, _ => .ok ([], true)
  | limit + 1, n =>
    match a.read? (entryName n) with
    | none => .ok ([], false)
    | some entry => do
      let bytes ← entry
      let (rest, complete) ← walk a limit (n + 1)
      pure (⟨entryName n, bytes⟩ :: rest, complete)

/-- A defect of an archive makes the container unreadable. -/
def ofArchiveFault (path : String) (f : ArchiveFault) : ScanFault :=
  if f.isDefect then .container (.unreadable path f) else .archive f

def openArchive (path : String) (b : Bytes) (e : EndRecord) (limit : Value) :
    Logged ScanFault (List Source) := do
  let archive ← match Archive.ofEndRecord b e with
    | .ok a => pure a
    | .error f => throw (ofArchiveFault path f)
  let max ← match count limit with
    | .ok n => pure n
    | .error f => throw (.setting f)
  let (sources, complete) ← match walk archive max.toNat 1 with
    | .ok r => pure r
    | .error f => throw (ofArchiveFault path f)
  if complete ∧ archive.names.contains (entryName (max + 1)) then
    Logged.note logger .warning
      ("Stopped after " ++ decimalInt max ++ " DEX entries; '" ++ entryName (max + 1) ++
        "' and later entries are ignored")
  if sources.isEmpty then throw (.container (.noImages path))
  Logged.note logger .debug
    ("Archive " ++ path ++ " holds " ++ decimal sources.length ++ " DEX image(s)")
  pure sources

def openBytes (path : Path) (b : Bytes) (limits : Limits) : Logged ScanFault (List Source) := do
  match exceeds b.size limits.maxFileSize with
  | .error f => throw (.setting f)
  | .ok true => throw (.container (.tooLarge b.size (limitText limits.maxFileSize)))
  | .ok false =>
    match EndRecord.find b with
    | .error f => throw (.archive f)
    | .ok none => pure [⟨path.name, b⟩]
    | .ok (some e) => openArchive path.text b e limits.maxDexEntries

def openPath (files : FileTree) (path : String) (limits : Limits) :
    Logged ScanFault (List Source) :=
  let path := Path.ofString path
  match files.content? path with
  | some b => openBytes path b limits
  | none => throw (.container (.notFound path.text))

end Container

end DexRefs
