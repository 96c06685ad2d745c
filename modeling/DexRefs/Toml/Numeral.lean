import DexRefs.Toml.Text
import DexRefs.Calendar
import DexRefs.Number.Binary64

/-!
Numbers, dates and times in a TOML document.
-/

set_option autoImplicit false

namespace DexRefs.Toml

inductive Numeral where
  | integer (negative : Bool) (digits : List Char)
  | radix (value : Nat)
  | float (x : Binary64)
  deriving Repr

def digitsValue (base : Nat) (ds : List Char) : Nat :=
  ds.foldl (fun n c => n * base + (hexDigit? c).getD 0) 0

/-- Further digits, with at most one underscore before each. -/
def moreDigits (p : Char → Bool) : List Char → List Char × List Char
  | '_' :: d :: cs =>
    if p d then
      let r := moreDigits p cs
      (d :: r.1, r.2)
    else ([], '_' :: d :: cs)
  | c :: cs =>
    if p c then
      let r := moreDigits p cs
      (c :: r.1, r.2)
    else ([], c :: cs)
  | [] => ([], [])

namespace Lexeme

def digits (p : Char → Bool) : Lexeme (List Char) := do
  let d ← oneOf p
  let ds ← fun cs => some (moreDigits p cs)
  return d :: ds

def sign : Lexeme Bool := do
  let c ← oneOf fun c => c == '+' || c == '-'
  return c == '-'

def radixNumeral (mark : Char) (base : Nat) : Lexeme Numeral := do
  chars ['0', mark]
  let ds ← digits fun c =>
    match hexDigit? c with
    | some d => d < base
    | none => false
  return .radix (digitsValue base ds)

def wholeDigits : Lexeme (List Char)
  | '0' :: cs => some (['0'], cs)
  | cs => digits Char.isDigit cs

def fraction : Lexeme (List Char) := do
  char '.'
  digits Char.isDigit

def exponent : Lexeme Int := do
  let _ ← oneOf fun c => c == 'e' || c == 'E'
  let negative ← optional sign
  let ds ← digits Char.isDigit
  let n := digitsValue 10 ds
  return if negative = some true then -n else n

def decimalNumeral : Lexeme Numeral := do
  let negative := (← optional sign).getD false
  let whole ← wholeDigits
  let places ← optional fraction
  let scale ← optional exponent
  match places, scale with
  | none, none => return .integer negative whole
  | _, _ =>
    let places := places.getD []
    return .float
      (.ofDecimal negative (digitsValue 10 (whole ++ places)) (scale.getD 0 - places.length))

def specialNumeral : Lexeme Numeral := do
  let negative := (← optional sign).getD false
  (do chars ['i', 'n', 'f']; return .float (.infinite negative)) <|>
    (do chars ['n', 'a', 'n']; return .float .nan)

/-! ### Dates and times -/

def twoDigits (least greatest : Nat) : Lexeme Nat := do
  let a ← oneOf Char.isDigit
  let b ← oneOf Char.isDigit
  let n := digitsValue 10 [a, b]
  if least ≤ n && n ≤ greatest then return n else nothing

def date : Lexeme Date := do
  let a ← oneOf Char.isDigit
  let b ← oneOf Char.isDigit
  let c ← oneOf Char.isDigit
  let d ← oneOf Char.isDigit
  char '-'
  let month ← twoDigits 1 12
  char '-'
  let day ← twoDigits 1 31
  return ⟨digitsValue 10 [a, b, c, d], month, day⟩

def secondFraction : Lexeme (List Char) := do
  char '.'
  let d ← oneOf Char.isDigit
  fun cs => some (d :: cs.takeWhile Char.isDigit, cs.dropWhile Char.isDigit)

/-- A time of day; what is finer than a microsecond is cut off. -/
def timeOfDay : Lexeme TimeOfDay := do
  let hour ← twoDigits 0 23
  char ':'
  let minute ← twoDigits 0 59
  char ':'
  let second ← twoDigits 0 59
  let fraction := (← optional secondFraction).getD []
  let micro := digitsValue 10 ((fraction ++ List.replicate 6 '0').take 6)
  return ⟨hour, minute, second, micro⟩

def offset : Lexeme Int :=
  (do let _ ← oneOf fun c => c == 'Z' || c == 'z'; return 0) <|> do
    let negative ← sign
    let hour ← twoDigits 0 23
    char ':'
    let minute ← twoDigits 0 59
    let minutes : Int := hour * 60 + minute
    return if negative then -minutes else minutes

def dayMoment : Lexeme Moment := do
  let d ← date
  let time ← optional do
    let _ ← oneOf fun c => c == 'T' || c == 't' || c == ' '
    let t ← timeOfDay
    return (t, ← optional offset)
  match time with
  | none => return .date d
  | some (t, none) => return .local d t
  | some (t, some o) => return .zoned d t o

def moment : Lexeme Moment :=
  fun cs =>
    match dayMoment cs with
    | some (m, rest) => if m.isReal then some (m, rest) else none
    | none => (Moment.time <$> timeOfDay) cs

def numeral : Lexeme Numeral :=
  radixNumeral 'x' 16 <|> radixNumeral 'b' 2 <|> radixNumeral 'o' 8 <|> decimalNumeral <|>
    specialNumeral

end Lexeme

end DexRefs.Toml
