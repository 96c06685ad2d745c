import DexRefs.Bytes
import DexRefs.Files.Path
import DexRefs.Text.Utf8

/-!
A tree of files, known by their parts below the root.  Directories are those that hold a file and
those that were made; relative paths start from one of them.
-/

set_option autoImplicit false

namespace DexRefs

structure FileTree where
  files : List (List String × Bytes) := []
  directories : List (List String) := []
  here : List String := []
  deriving Repr

inductive FileFault where
  | occupied
  | notDirectory
  | isDirectory
  | notFound
  /-- A name holds the character zero. -/
  | badName
  | longName
  deriving DecidableEq, Repr

namespace FileTree

inductive Kind where
  | file
  | directory
  | missing
  deriving DecidableEq, Repr

def kindAt (t : FileTree) (place : List String) : Kind :=
  if t.files.any (·.1 = place) then .file
  else if place.isEmpty || t.directories.contains place ||
      t.files.any (fun f => place.isPrefixOf f.1) ||
      t.directories.any (fun d => place.isPrefixOf d) then .directory
  else .missing

def nameLimit : Nat := 255

def pathLimit : Nat := 4096

def size (s : String) : Nat :=
  (utf8Bytes s).length

/-- Follows parts from a place; every place passed must be a directory.  Above the root is the
root. -/
def follow (t : FileTree) : (place parts : List String) → Except FileFault (List String)
  | place, [] => .ok place
  | place, part :: parts =>
    match t.kindAt place with
    | .file => .error .notDirectory
    | .missing => .error .notFound
    | .directory =>
      if part = ".." then t.follow place.dropLast parts
      else if nameLimit < size part then .error .longName
      else t.follow (place ++ [part]) parts

def start (t : FileTree) (p : Path) : List String :=
  if p.absolute then [] else t.here

def absolute (t : FileTree) (p : Path) : Path :=
  { absolute := true, parts := Path.collapse (t.start p ++ p.parts) }

def place (t : FileTree) (p : Path) : Except FileFault (List String) :=
  if pathLimit ≤ size p.text then .error .longName else t.follow (t.start p) p.parts

def kind (t : FileTree) (p : Path) : Kind :=
  match t.place p with
  | .ok place => t.kindAt place
  | .error _ => .missing

def content? (t : FileTree) (p : Path) : Option Bytes :=
  match t.place p with
  | .ok place => t.files.lookup place
  | .error _ => none

def putAt (t : FileTree) (place : List String) (b : Bytes) : FileTree :=
  if t.files.any (·.1 = place) then
    { t with files := t.files.map fun f => if f.1 = place then (place, b) else f }
  else { t with files := t.files ++ [(place, b)] }

def removeAt (t : FileTree) (place : List String) : FileTree :=
  { t with files := t.files.filter (·.1 ≠ place) }

/-- The tree after something was made; with a fault, the tree as far as it was made. -/
abbrev Made := Except (FileFault × FileTree) FileTree

def write (t : FileTree) (p : Path) (b : Bytes) : Made :=
  if p.isNamed then
    match t.place p with
    | .error f => .error (f, t)
    | .ok place =>
      match t.kindAt place with
      | .directory => .error (.isDirectory, t)
      | _ => .ok (t.putAt place b)
  else .error (.badName, t)

def makeLevel (t : FileTree) (p : Path) (n : Nat) : Made :=
  match t.place { p with parts := p.parts.take n } with
  | .error f => .error (f, t)
  | .ok place =>
    match t.kindAt place with
    | .missing => .ok { t with directories := t.directories ++ [place] }
    | .directory => .ok t
    | .file => .error (.occupied, t)

def makeLevels (t : FileTree) (p : Path) : (n : Nat) → Made
  | 0 => .ok t
  | n + 1 =>
    match t.makeLevel p (n + 1) with
    | .error (.notFound, _) => do (← t.makeLevels p n).makeLevel p (n + 1)
    | r => r

def makeDirectories (t : FileTree) (p : Path) : Made :=
  if p.isNamed then t.makeLevels p p.parts.length else .error (.badName, t)

/-- What a path, as it is written, leads to.  No file is reached by the empty path, nor by one
that goes on after the file with a slash. -/
def kindOf (t : FileTree) (s : String) : Kind :=
  let last := ((Path.split s.toList).getLast?.map String.ofList).getD ""
  if s = "" ∨ pathLimit ≤ size s then .missing
  else
    match t.kind (Path.ofString s) with
    | .file => if last = "" ∨ last = "." then .missing else .file
    | k => k

end FileTree

end DexRefs
