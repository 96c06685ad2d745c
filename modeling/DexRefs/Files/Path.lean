/-!
Paths with `/` between their parts.  Empty parts and `.` are dropped, `..` is kept, and the path
without parts is written `.`.
-/

set_option autoImplicit false

namespace DexRefs

structure Path where
  absolute : Bool
  parts : List String
  deriving DecidableEq, Repr

namespace Path

def split (cs : List Char) : List (List Char) :=
  cs.splitOn '/'

def ofString (s : String) : Path where
  absolute := s.toList.head? = some '/'
  parts := ((split s.toList).map String.ofList).filter fun p => p ≠ "" ∧ p ≠ "."

def text (p : Path) : String :=
  let joined := "/".intercalate p.parts
  if p.absolute then "/" ++ joined
  else if p.parts.isEmpty then "." else joined

def isNamed (p : Path) : Bool :=
  p.parts.all fun s => !s.toList.contains (Char.ofNat 0)

def collapse (parts : List String) : List String :=
  parts.foldl (fun ps p => if p = ".." then ps.dropLast else ps ++ [p]) []

def name (p : Path) : String :=
  p.parts.getLast?.getD ""

def parent (p : Path) : Path :=
  { p with parts := p.parts.dropLast }

/-- What the last part has from its last dot on, unless that dot is its first or last
character. -/
def suffix (p : Path) : String :=
  let cs := p.name.toList
  let stem := (cs.reverse.dropWhile (· ≠ '.')).reverse.dropLast
  let rest := cs.drop (stem.length + 1)
  if stem.isEmpty ∨ rest.isEmpty ∨ ¬cs.contains '.' then ""
  else String.ofList ('.' :: rest)

end Path

end DexRefs
