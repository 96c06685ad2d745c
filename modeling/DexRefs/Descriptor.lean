/-!
Type descriptors and their source-level names: `Lcom/example/Foo;` is `com.example.Foo`, `[I` is
`int[]`, and a shape that is neither a class nor a primitive keeps its text.
-/

set_option autoImplicit false

namespace DexRefs

namespace Descriptor

def keyword? : List Char → Option String
  | ['V'] => some "void"
  | ['Z'] => some "boolean"
  | ['B'] => some "byte"
  | ['S'] => some "short"
  | ['C'] => some "char"
  | ['I'] => some "int"
  | ['J'] => some "long"
  | ['F'] => some "float"
  | ['D'] => some "double"
  | _ => none

def className? : List Char → Option (List Char)
  | 'L' :: cs => if cs.getLast? = some ';' then some cs.dropLast else none
  | _ => none

def baseName (cs : List Char) : List Char :=
  match className? cs with
  | some name => name.map fun c => if c = '/' then '.' else c
  | none =>
    match keyword? cs with
    | some word => word.toList
    | none => cs

def elementChars (cs : List Char) : List Char :=
  cs.dropWhile (· = '[')

def dimensions (cs : List Char) : Nat :=
  (cs.takeWhile (· = '[')).length

/-- The source-level name: the name of the element type, then `[]` for each dimension. -/
def dotChars (cs : List Char) : List Char :=
  baseName (elementChars cs) ++ (List.replicate (dimensions cs) ['[', ']']).flatten

def dotName (d : String) : String :=
  String.ofList (dotChars d.toList)

def element (d : String) : String :=
  String.ofList (elementChars d.toList)

/-- Primitives, written with one character, and arrays come with the virtual machine. -/
def isBuiltIn (d : String) : Bool :=
  match d.toList with
  | [_] => true
  | c :: _ => c == '['
  | [] => false

end Descriptor

end DexRefs
