import DexRefs.Keyed
import DexRefs.Value

/-!
The tables of a TOML document while it is read.  A table remembers how it came about, since that
decides what may still be added to it: a header may name a table once, and only if dotted keys did
not make it; dotted keys add to tables that no header named and that no earlier part of the
document made by dotted keys.  Values, with all that is inside them, are closed.
-/

set_option autoImplicit false

namespace DexRefs.Toml

/-- How a table came about: by being passed on the way to another one, by a header of its own, or
by dotted keys in a part of the document. -/
inductive Origin where
  | passed
  | header
  | dotted (part : Nat)
  deriving DecidableEq, Repr

inductive Node where
  | value (v : Value)
  | table (origin : Origin) (entries : List (String × Node))
  | series (earlier : List Value) (last : List (String × Node))

abbrev Tree := List (String × Node)

mutual

def Node.toValue : Node → Value
  | .value v => v
  | .table _ es => .table (entryValues es)
  | .series earlier last => .list (earlier ++ [.table (entryValues last)])

def entryValues : List (String × Node) → List (String × Value)
  | [] => []
  | (k, n) :: es => (k, n.toValue) :: entryValues es

end

namespace Tree

/-- Changes the table that a path of headers leads to, making those on the way that are missing.
In a series it leads into the last table. -/
def within (f : Tree → Option Tree) : (path : List String) → Tree → Option Tree
  | [], t => f t
  | k :: path, t =>
    match t.lookup k with
    | none => do return putEntry k (.table .passed (← within f path [])) t
    | some (.table origin es) => do return putEntry k (.table origin (← within f path es)) t
    | some (.series earlier last) => do
      return putEntry k (.series earlier (← within f path last)) t
    | some (.value _) => none

def isOpen (part : Nat) : Origin → Bool
  | .passed => true
  | .header => false
  | .dotted p => p == part

def put (part : Nat) (v : Value) : (key : List String) → Tree → Option Tree
  | [], _ => none
  | [k], t => if (t.lookup k).isSome then none else some (putEntry k (.value v) t)
  | k :: key, t =>
    match t.lookup k with
    | none => do return putEntry k (.table (.dotted part) (← put part v key [])) t
    | some (.table origin es) =>
      if isOpen part origin then do
        return putEntry k (.table (.dotted part) (← put part v key es)) t
      else none
    | some _ => none

def declare (k : String) (t : Tree) : Option Tree :=
  match t.lookup k with
  | none => some (putEntry k (.table .header []) t)
  | some (.table .passed es) => some (putEntry k (.table .header es) t)
  | some _ => none

def extend (k : String) (t : Tree) : Option Tree :=
  match t.lookup k with
  | none => some (putEntry k (.series [] []) t)
  | some (.series earlier last) =>
    some (putEntry k (.series (earlier ++ [.table (entryValues last)]) []) t)
  | some _ => none

end Tree

end DexRefs.Toml
