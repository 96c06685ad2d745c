/-!
Message templates: texts with directives that are replaced by arguments.  A directive begins with
`%`, may name an entry of a table, and ends in a letter that tells how the argument is written;
`%%` is a percent sign.
-/

set_option autoImplicit false

namespace DexRefs.Template

inductive Amount where
  | given (n : Nat)
  | argument
  deriving DecidableEq, Repr

structure Flags where
  left : Bool := false
  sign : Bool := false
  blank : Bool := false
  alternate : Bool := false
  zero : Bool := false
  deriving DecidableEq, Repr

/-- The parts of a directive.  The letter comes with its position in the template, and is missing
where the template ends before it. -/
structure Directive where
  key : Option String := none
  flags : Flags := {}
  width : Option Amount := none
  precision : Option Amount := none
  letter : Option (Char × Nat) := none
  deriving DecidableEq, Repr

inductive Piece where
  | text (cs : List Char)
  | directive (d : Directive)
  | openKey
  deriving DecidableEq, Repr

def closeKey : (depth : Nat) → List Char → Option (List Char × List Char)
  | _, [] => none
  | 0, ')' :: cs => some ([], cs)
  | depth + 1, ')' :: cs => (closeKey depth cs).map fun r => (')' :: r.1, r.2)
  | depth, c :: cs =>
    (closeKey (if c = '(' then depth + 1 else depth) cs).map fun r => (c :: r.1, r.2)

def flags (f : Flags) : List Char → Flags × List Char
  | '-' :: cs => flags { f with left := true } cs
  | '+' :: cs => flags { f with sign := true } cs
  | ' ' :: cs => flags { f with blank := true } cs
  | '#' :: cs => flags { f with alternate := true } cs
  | '0' :: cs => flags { f with zero := true } cs
  | cs => (f, cs)

def digitsValue (ds : List Char) : Nat :=
  ds.foldl (fun n c => 10 * n + (c.toNat - '0'.toNat)) 0

def amount? : List Char → Option Amount × List Char
  | '*' :: cs => (some .argument, cs)
  | cs =>
    let ds := cs.takeWhile Char.isDigit
    (if ds.isEmpty then none else some (.given (digitsValue ds)), cs.dropWhile Char.isDigit)

def precision? : List Char → Option Amount × List Char
  | '.' :: cs =>
    let r := amount? cs
    (some (r.1.getD (.given 0)), r.2)
  | cs => (none, cs)

def skipSize : List Char → List Char
  | 'h' :: cs => cs
  | 'l' :: cs => cs
  | 'L' :: cs => cs
  | cs => cs

def directive (size : Nat) (key : Option String) (cs : List Char) : Directive × List Char :=
  let (f, cs) := flags {} cs
  let (width, cs) := amount? cs
  let (precision, cs) := precision? cs
  match skipSize cs with
  | c :: rest =>
    ({ key, flags := f, width, precision, letter := some (c, size - rest.length - 1) }, rest)
  | [] => ({ key, flags := f, width, precision }, [])

/-- The pieces of what is left of a template of `size` characters, `n` of them at most. -/
def piecesFrom (size : Nat) : (n : Nat) → List Char → List Piece
  | 0, _ => []
  | _, [] => []
  | n + 1, '%' :: '%' :: cs => .text ['%'] :: piecesFrom size n cs
  | n + 1, '%' :: '(' :: cs =>
    match closeKey 0 cs with
    | none => [.openKey]
    | some (key, cs) =>
      let (d, rest) := directive size (some (String.ofList key)) cs
      .directive d :: piecesFrom size n rest
  | n + 1, '%' :: cs =>
    let (d, rest) := directive size none cs
    .directive d :: piecesFrom size n rest
  | n + 1, cs =>
    .text (cs.takeWhile (· ≠ '%')) :: piecesFrom size n (cs.dropWhile (· ≠ '%'))

def pieces (cs : List Char) : List Piece :=
  piecesFrom cs.length (cs.length + 1) cs

end DexRefs.Template
