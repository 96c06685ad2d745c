import DexRefs.Files.Tree
import DexRefs.Text.Numerals

/-!
Log files that are kept short.  A line that would bring a file to its limit goes to a new one: the
file becomes backup 1, backup 1 becomes backup 2 and so on, and the last backup is dropped.
-/

set_option autoImplicit false

namespace DexRefs

/-- A log file at a place in the tree of files.  There is no limit unless it is positive; without
backups the file goes on growing. -/
structure LogFile where
  place : List String
  limit : Int := 10485760
  backups : Nat := 5
  deriving DecidableEq, Repr

namespace LogFile

def create (path : Path) (limit : Int) (backups : Nat) (t : FileTree) :
    Except (FileFault × FileTree) (LogFile × FileTree) := do
  let t ← t.makeDirectories path.parent
  let place ← (t.place (t.absolute path)).mapError (·, t)
  let t ← t.write (t.absolute path) ((t.files.lookup place).getD #[])
  return (⟨place, limit, backups⟩, t)

def backup (f : LogFile) : (number : Nat) → List String
  | 0 => f.place
  | n + 1 => f.place.dropLast ++ [f.place.getLast?.getD "" ++ "." ++ decimal (n + 1)]

def move (source target : List String) (t : FileTree) : FileTree :=
  match t.files.lookup source with
  | some b => (t.removeAt source).putAt target b
  | none => t

def shift (f : LogFile) : (n : Nat) → FileTree → FileTree
  | 0, t => move (f.backup 0) (f.backup 1) t
  | n + 1, t => f.shift n (move (f.backup (n + 1)) (f.backup (n + 2)) t)

def rotate (f : LogFile) (t : FileTree) : FileTree :=
  if f.backups = 0 then t else (f.shift (f.backups - 1) t).putAt f.place #[]

/-- Whether a text brings the file to its limit.  The file is measured in bytes and the text in
characters. -/
def isFull (f : LogFile) (t : FileTree) (text : String) : Bool :=
  let size := ((t.files.lookup f.place).getD #[]).size
  0 < f.limit && f.limit ≤ size + text.length

def append (f : LogFile) (line : String) (t : FileTree) : FileTree :=
  let text := line ++ "\n"
  let t := if f.isFull t text then f.rotate t else t
  t.putAt f.place ((t.files.lookup f.place).getD #[] ++ (utf8Bytes text).toArray)

end LogFile

end DexRefs
