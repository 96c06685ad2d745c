import DexRefs.Value

/-!
Values as JSON texts, on one line or indented by two spaces a level.  Characters beyond ASCII are
written as they are, and what JSON has no form for is written as a string.
-/

set_option autoImplicit false

namespace DexRefs

namespace Json

def escapeChar (c : Char) : List Char :=
  if c = '\x22' then ['\x5c', '\x22']
  else if c = '\x5c' then ['\x5c', '\x5c']
  else if c = '\n' then ['\x5c', 'n']
  else if c = '\r' then ['\x5c', 'r']
  else if c = '\t' then ['\x5c', 't']
  else if c = '\x08' then ['\x5c', 'b']
  else if c = '\x0c' then ['\x5c', 'f']
  else if c.toNat < 0x20 then '\x5c' :: 'u' :: hexDigits 4 c.toNat
  else [c]

def string (s : String) : String :=
  String.ofList ('\x22' :: s.toList.flatMap escapeChar ++ ['\x22'])

def float : Binary64 → String
  | .nan => "NaN"
  | .infinite negative => Binary64.signText negative ++ "Infinity"
  | x => x.text

def atom : Value → String
  | .null => "null"
  | .bool b => if b then "true" else "false"
  | .int i => decimalInt i
  | .float x => float x
  | .text s => string s
  | v => string v.display

def openBrace : String := "\x7b"

def closeBrace : String := "\x7d"

mutual

def line : Value → String
  | .list vs => "[" ++ Value.commaSeparated (lines vs) ++ "]"
  | .table es => openBrace ++ Value.commaSeparated (entryLines es) ++ closeBrace
  | v => atom v

def lines : List Value → List String
  | [] => []
  | v :: vs => line v :: lines vs

def entryLines : List (String × Value) → List String
  | [] => []
  | (k, v) :: es => (string k ++ ": " ++ line v) :: entryLines es

end

def lineBreak (depth : Nat) : String :=
  String.ofList ('\n' :: List.replicate (2 * depth) ' ')

def block (left right : String) (depth : Nat) (items : List String) : String :=
  if items.isEmpty then left ++ right
  else
    left ++ lineBreak (depth + 1) ++ ("," ++ lineBreak (depth + 1)).intercalate items ++
      lineBreak depth ++ right

mutual

/-- A value over several lines, its outermost brackets standing at this depth. -/
def indented (depth : Nat) : Value → String
  | .list vs => block "[" "]" depth (indentedAll (depth + 1) vs)
  | .table es => block openBrace closeBrace depth (indentedEntries (depth + 1) es)
  | v => atom v

def indentedAll (depth : Nat) : List Value → List String
  | [] => []
  | v :: vs => indented depth v :: indentedAll depth vs

def indentedEntries (depth : Nat) : List (String × Value) → List String
  | [] => []
  | (k, v) :: es => (string k ++ ": " ++ indented depth v) :: indentedEntries depth es

end

end Json

end DexRefs
