import DexRefs.Toml.Numeral
import DexRefs.Toml.Tree

/-!
TOML documents: values, and the statements that enter them into tables.
-/

set_option autoImplicit false

namespace DexRefs.Toml

inductive Fault where
  | malformed
  | longInteger (digits : Nat)
  | tooDeep
  deriving DecidableEq, Repr

def digitLimit : Nat := 4300

def Fault.message : Fault → String
  | malformed => "Invalid TOML document"
  | longInteger digits =>
    "Exceeds the limit (" ++ decimal digitLimit ++
      " digits) for integer string conversion: value has " ++ decimal digits ++
      " digits; use sys.set_int_max_str_digits() to increase the limit"
  | tooDeep => "maximum recursion depth exceeded"

abbrev Parser := StateT (List Char) (Except Fault)

def Numeral.value : Numeral → Except Fault Value
  | .integer negative ds =>
    let n : Int := digitsValue 10 ds
    if digitLimit < ds.length then .error (.longInteger ds.length)
    else .ok (.int (if negative then -n else n))
  | .radix n => .ok (.int n)
  | .float x => .ok (.float x)

namespace Parser

def ofLexeme {α : Type} (l : Lexeme α) : Parser α :=
  fun cs =>
    match l cs with
    | some r => .ok r
    | none => .error .malformed

def demand {α : Type} : Option α → Parser α
  | some a => pure a
  | none => throw .malformed

def scalar : Parser Value := do
  match ← get with
  | '"' :: _ => Value.text <$> ofLexeme Lexeme.quotedText
  | '\'' :: _ => Value.text <$> ofLexeme Lexeme.quotedText
  | 't' :: _ => ofLexeme do Lexeme.chars ['t', 'r', 'u', 'e']; return .bool true
  | 'f' :: _ => ofLexeme do Lexeme.chars ['f', 'a', 'l', 's', 'e']; return .bool false
  | cs =>
    match Lexeme.moment cs with
    | some (m, rest) =>
      set rest
      return .moment m
    | none =>
      let n ← ofLexeme Lexeme.numeral
      liftM n.value

mutual

/-- A value; those inside it are at most `n` steps away, and as many as `calls` calls may be under way
to read it. -/
def value : (calls n : Nat) → Parser Value
  | _, 0 => throw .malformed
  | calls, n + 1 => do
    if calls < 3 then throw .tooDeep
    match ← get with
    | '[' :: cs =>
      if calls < 4 then throw .tooDeep
      set cs
      return .list (← elements (calls - 2) n)
    | '\x7b' :: cs =>
      set cs
      ofLexeme Lexeme.blanks
      if ← ofLexeme (Lexeme.accept '\x7d') then return .table []
      return .table (entryValues (← entries (calls - 3) n []))
    | _ => scalar

def elements : (calls n : Nat) → Parser (List Value)
  | _, 0 => throw .malformed
  | calls, n + 1 => do
    ofLexeme Lexeme.filler
    if ← ofLexeme (Lexeme.accept ']') then return []
    let v ← value calls n
    ofLexeme Lexeme.filler
    if ← ofLexeme (Lexeme.accept ']') then return [v]
    ofLexeme (Lexeme.char ',')
    return v :: (← elements calls n)

def entries : (calls n : Nat) → Tree → Parser Tree
  | _, 0, _ => throw .malformed
  | calls, n + 1, t => do
    let (key, v) ← entry calls n
    let t ← demand (t.put 0 v key)
    ofLexeme Lexeme.blanks
    if ← ofLexeme (Lexeme.accept '\x7d') then return t
    ofLexeme (Lexeme.char ',')
    ofLexeme Lexeme.blanks
    entries calls n t

def entry : (calls n : Nat) → Parser (List String × Value)
  | _, 0 => throw .malformed
  | calls, n + 1 => do
    let key ← ofLexeme Lexeme.key
    ofLexeme (Lexeme.char '=')
    ofLexeme Lexeme.blanks
    return (key, ← value calls n)

end

end Parser

/-! ### Statements -/

/-- A document as far as it is read: its tables, the header under which entries stand, and the
number of the part that the header began. -/
structure Draft where
  tree : Tree := []
  header : List String := []
  part : Nat := 0

namespace Parser

def headerKey (close : List Char) : Parser (List String) :=
  ofLexeme do
    Lexeme.blanks
    let key ← Lexeme.key
    Lexeme.chars close
    return key

def openTable (f : String → Tree → Option Tree) (key : List String) (d : Draft) :
    Parser Draft := do
  let name ← demand key.getLast?
  let tree ← demand (d.tree.within (f name) key.dropLast)
  return { tree, header := key, part := d.part + 1 }

def statement (calls : Nat) (d : Draft) : Parser Draft := do
  match ← get with
  | '[' :: '[' :: cs =>
    set cs
    openTable Tree.extend (← headerKey [']', ']']) d
  | '[' :: cs =>
    set cs
    openTable Tree.declare (← headerKey [']']) d
  | [] => return d
  | c :: cs =>
    if c = '#' || c = '\n' then return d
    let (key, v) ← entry calls (2 * cs.length + 4)
    let tree ← demand (d.tree.within (fun t => t.put d.part v key) d.header)
    return { d with tree }

def lines (calls : Nat) : (n : Nat) → Draft → Parser Draft
  | 0, _ => throw .malformed
  | n + 1, d => do
    ofLexeme Lexeme.blanks
    let d ← statement calls d
    ofLexeme Lexeme.blanks
    ofLexeme Lexeme.comment
    match ← get with
    | [] => return d
    | '\n' :: cs =>
      set cs
      lines calls n d
    | _ => throw .malformed

end Parser

/-- Line ends of two characters become single ones. -/
def foldLineEnds : List Char → List Char
  | '\r' :: '\n' :: cs => '\n' :: foldLineEnds cs
  | c :: cs => c :: foldLineEnds cs
  | [] => []

def read (calls : Nat) (text : List Char) : Except Fault Value := do
  let cs := foldLineEnds text
  let (d, _) ← Parser.lines calls (cs.length + 1) {} cs
  return .table (entryValues d.tree)

end DexRefs.Toml
