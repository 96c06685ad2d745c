import DexRefs.Text.Numerals
import DexRefs.Text.Printable

/-!
Quoted forms of texts and byte strings, as error messages show them.  A quoted text stands between
single quotes, or between double quotes when it holds a single quote and no double quote; the
quote that is used and the backslash take a backslash, and what is not printable is written as an
escape.
-/

set_option autoImplicit false

namespace DexRefs

/-- The quote that needs the fewer escapes; the single quote where both would do. -/
def quoteMark (cs : List Char) : Char :=
  if cs.contains '\x27' && !cs.contains '\x22' then '\x22' else '\x27'

/-- The shortest numeric escape that fits: two, four or eight hexadecimal digits. -/
def numericEscape (n : Nat) : List Char :=
  if n < 0x100 then '\x5c' :: 'x' :: hexDigits 2 n
  else if n < 0x10000 then '\x5c' :: 'u' :: hexDigits 4 n
  else '\x5c' :: 'U' :: hexDigits 8 n

def quotedChar (mark c : Char) : List Char :=
  if c == mark || c == '\x5c' then ['\x5c', c]
  else if c == '\n' then ['\x5c', 'n']
  else if c == '\r' then ['\x5c', 'r']
  else if c == '\t' then ['\x5c', 't']
  else if c.toNat < 0x20 || c.toNat == 0x7f then numericEscape c.toNat
  else if c.toNat < 0x7f || isPrintable c then [c]
  else numericEscape c.toNat

def quoted (s : String) : String :=
  let mark := quoteMark s.toList
  String.ofList (mark :: s.toList.flatMap (quotedChar mark) ++ [mark])

def quotedByte (mark : Char) (b : UInt8) : List Char :=
  let c := Char.ofNat b.toNat
  if c == mark || c == '\x5c' then ['\x5c', c]
  else if c == '\t' then ['\x5c', 't']
  else if c == '\n' then ['\x5c', 'n']
  else if c == '\r' then ['\x5c', 'r']
  else if b.toNat < 0x20 || b.toNat ≥ 0x7f then numericEscape b.toNat
  else [c]

def quotedBytes (bs : List UInt8) : String :=
  let mark := quoteMark (bs.map fun b => Char.ofNat b.toNat)
  String.ofList ('b' :: mark :: bs.flatMap (quotedByte mark) ++ [mark])

end DexRefs
