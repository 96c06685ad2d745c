import DexRefs.Number.Places
import DexRefs.Template.Directive
import DexRefs.Value

/-!
Filling templates with values.
-/

set_option autoImplicit false

namespace DexRefs.Template

inductive Fault where
  | tooFew
  | tooMany
  | noTable
  | missingKey (key : String)
  | openKey
  | cutShort
  | unknownLetter (letter : Char) (position : Nat)
  | amountType
  | tooWide
  | tooPrecise
  | argumentType (letter : Char) (type : String)
  | outOfRange
  | notNumber
  deriving DecidableEq, Repr

def Fault.message : Fault → String
  | tooFew => "not enough arguments for format string"
  | tooMany => "not all arguments converted during string formatting"
  | noTable => "format requires a mapping"
  | missingKey key => quoted key
  | openKey => "incomplete format key"
  | cutShort => "incomplete format"
  | unknownLetter c position =>
    let shown := if 31 ≤ c.toNat ∧ c.toNat < 127 then c else '?'
    "unsupported format character '" ++ shown.toString ++ "' (0x" ++ hexadecimal 0 c.toNat ++
      ") at index " ++ decimal position
  | amountType => "* wants int"
  | tooWide => "width too big"
  | tooPrecise => "precision too big"
  | argumentType letter type =>
    "%" ++ letter.toString ++ " format: a number is required, not " ++ type
  | outOfRange => "argument out of range"
  | notNumber => "cannot convert float NaN to integer"

abbrev Filler := StateT (List Value) (Except Fault)

def next : Filler Value := do
  match ← get with
  | v :: vs =>
    set vs
    return v
  | [] => throw .tooFew

/-! ### Arguments -/

def integer? : Value → Option Int
  | .int i => some i
  | .bool b => some b.toNat
  | _ => none

/-- Letters for decimal digits cut off fractions; those for other bases want integers. -/
def integer (letter : Char) (v : Value) : Except Fault Int :=
  match integer? v, v with
  | some i, _ => .ok i
  | none, .float x =>
    if letter = 'd' || letter = 'i' || letter = 'u' then
      match x with
      | .nan => .error .notNumber
      | x => (x.truncate?.map Except.ok).getD (.error .outOfRange)
    else .error (.argumentType letter v.typeName)
  | none, v => .error (.argumentType letter v.typeName)

def real (letter : Char) (v : Value) : Except Fault Binary64 :=
  match integer? v, v with
  | some i, _ =>
    match Binary64.ofRatio (i < 0) i.natAbs 1 with
    | .infinite _ => .error .outOfRange
    | x => .ok x
  | none, .float x => .ok x
  | none, v => .error (.argumentType letter v.typeName)

def character (letter : Char) (v : Value) : Except Fault Char :=
  match v with
  | .text s =>
    match s.toList with
    | [c] => .ok c
    | _ => .error (.argumentType letter v.typeName)
  | v =>
    match integer? v with
    | none => .error (.argumentType letter v.typeName)
    | some i =>
      if 0 ≤ i ∧ i.toNat.isValidChar then .ok (Char.ofNat i.toNat) else .error .outOfRange

/-! ### Texts -/

def asciiText (s : String) : List Char :=
  s.toList.flatMap fun c => if c.toNat < 0x80 then [c] else numericEscape c.toNat

def upperAscii (cs : List Char) : List Char :=
  cs.map Char.toUpper

def baseDigits (base least : Nat) (i : Int) : List Char :=
  (if i < 0 then ['-'] else []) ++ padStart least '0' (Nat.toDigits base i.natAbs)

def markBase (mark : List Char) : List Char → List Char
  | '-' :: cs => '-' :: mark ++ cs
  | cs => mark ++ cs

/-- A number, with its sign and the mark of its base told apart: zeros go between them and the
digits, blanks around them all. -/
def justify (f : Flags) (width : Nat) (sign mark digits : List Char) (zeros : Bool) : List Char :=
  let padding := width - (sign.length + mark.length + digits.length)
  let blanks := List.replicate padding ' '
  if f.left then sign ++ mark ++ digits ++ blanks
  else if zeros then sign ++ mark ++ List.replicate padding '0' ++ digits
  else blanks ++ sign ++ mark ++ digits

def splitSign (f : Flags) : List Char → List Char × List Char
  | '-' :: cs => (['-'], cs)
  | cs => (if f.sign then ['+'] else if f.blank then [' '] else [], cs)

def numberText (f : Flags) (width markLength : Nat) (cs : List Char) : List Char :=
  let (sign, rest) := splitSign f cs
  justify f width sign (rest.take markLength) (rest.drop markLength) f.zero

def plainText (f : Flags) (width : Nat) (limit : Option Nat) (cs : List Char) : List Char :=
  justify f width [] [] ((limit.map cs.take).getD cs) false

def integerText (f : Flags) (width : Nat) (precision : Option Nat) (letter : Char) (i : Int) :
    List Char :=
  let digits := fun base => baseDigits base (precision.getD 0) i
  let based := fun base mark =>
    if f.alternate then numberText f width 2 (markBase ['0', mark] (digits base))
    else numberText f width 0 (digits base)
  match letter with
  | 'o' => based 8 'o'
  | 'x' => based 16 'x'
  | 'X' => upperAscii (based 16 'x')
  | _ => numberText f width 0 (digits 10)

def realText (f : Flags) (width : Nat) (precision : Option Nat) (letter : Char) (x : Binary64) :
    List Char :=
  let style : Binary64.Style :=
    if letter = 'e' || letter = 'E' then .scientific
    else if letter = 'f' || letter = 'F' then .fixed
    else .general
  let cs := x.styled style f.alternate (precision.getD 6)
  numberText f width 0 (if letter.isUpper then upperAscii cs else cs)

def paddingLimit : Nat := 10000000

def checkDigits (precision : Option Nat) : Except Fault Unit :=
  if paddingLimit < precision.getD 0 then .error .outOfRange else .ok ()

def argumentText (f : Flags) (width : Nat) (precision : Option Nat) (letter : Char)
    (position : Nat) (v : Value) : Except Fault (List Char) :=
  if letter = 's' then .ok (plainText f width precision v.display.toList)
  else if letter = 'r' then .ok (plainText f width precision v.quoted.toList)
  else if letter = 'a' then .ok (plainText f width precision (asciiText v.quoted))
  else if letter = 'c' then do return plainText f width none [← character letter v]
  else if "diuoxX".toList.contains letter then do
    let i ← integer letter v
    checkDigits precision
    return integerText f width precision letter i
  else if "eEfFgG".toList.contains letter then do
    let x ← real letter v
    checkDigits precision
    return realText f width precision letter x
  else .error (.unknownLetter letter position)

/-! ### Pieces -/

def greatestWidth : Nat := 0x7fffffffffffffff

def greatestPrecision : Nat := 0x7fffffff

def amount (limit : Nat) (beyond : Fault) : Amount → Filler Int
  | .given n => if limit < n then throw beyond else pure n
  | .argument => do
    match integer? (← next) with
    | some i => if limit < i.natAbs then throw .outOfRange else pure i
    | none => throw .amountType

/-- What replaces a directive.  A negative width puts blanks after the text. -/
def fillDirective (table : Option Value) (d : Directive) : Filler (List Char) := do
  if let some key := d.key then
    match table with
    | none => throw .noTable
    | some t =>
      match t.get? key with
      | some v => set [v]
      | none => throw (.missingKey key)
  let width ← d.width.mapM (amount greatestWidth .tooWide)
  let precision ← d.precision.mapM (amount greatestPrecision .tooPrecise)
  match d.letter with
  | none => throw .cutShort
  | some (letter, position) =>
    let v ← next
    let width := width.getD 0
    if paddingLimit < width.natAbs then throw .outOfRange
    let f := if width < 0 then { d.flags with left := true } else d.flags
    liftM (argumentText f width.natAbs (precision.map Int.toNat) letter position v)

def fillPieces (table : Option Value) : List Piece → Filler (List Char)
  | [] => do
    match table, ← get with
    | none, _ :: _ => throw .tooMany
    | _, _ => return []
  | .text cs :: ps => do return cs ++ (← fillPieces table ps)
  | .directive d :: ps => do
    let cs ← fillDirective table d
    return cs ++ (← fillPieces table ps)
  | .openKey :: _ => throw (if table.isSome then .openKey else .noTable)

/-- A template with its arguments filled in.  Without arguments the template stands for itself; a
single table that is not empty gives the entries that are named. -/
def fill (template : String) (args : List Value) : Except Fault String := do
  let run := fun table => do
    let (cs, _) ← fillPieces table (pieces template.toList) args
    return String.ofList cs
  match args with
  | [] => return template
  | [.table (e :: es)] => run (some (.table (e :: es)))
  | _ => run none

end DexRefs.Template
