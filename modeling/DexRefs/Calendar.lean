import DexRefs.Text.Numerals
import DexRefs.Total

/-!
Dates and times of day, with or without an offset from universal time, and their ISO texts.
-/

set_option autoImplicit false

namespace DexRefs

structure Date where
  year : Nat
  month : Nat
  day : Nat
  deriving DecidableEq, Repr

structure TimeOfDay where
  hour : Nat
  minute : Nat
  second : Nat
  micro : Nat := 0
  deriving DecidableEq, Repr

/-- A point in time, as far as it is told: a day, a time of day, both, or both with the offset
from universal time in minutes. -/
inductive Moment where
  | date (d : Date)
  | time (t : TimeOfDay)
  | local (d : Date) (t : TimeOfDay)
  | zoned (d : Date) (t : TimeOfDay) (offset : Int)
  deriving DecidableEq, Repr

def isLeapYear (y : Nat) : Bool :=
  (y % 4 == 0 && y % 100 != 0) || y % 400 == 0

def daysInMonth (y m : Nat) : Nat :=
  if m = 2 then (if isLeapYear y then 29 else 28)
  else if m = 4 ∨ m = 6 ∨ m = 9 ∨ m = 11 then 30
  else 31

namespace Date

def isValid (d : Date) : Bool :=
  1 ≤ d.year && d.year ≤ 9999 && 1 ≤ d.month && d.month ≤ 12 && 1 ≤ d.day &&
    d.day ≤ daysInMonth d.year d.month

def iso (d : Date) : String :=
  decimalPadded 4 d.year ++ "-" ++ decimalPadded 2 d.month ++ "-" ++ decimalPadded 2 d.day

def daysBeforeYear (y : Nat) : Nat :=
  let n := y - 1
  n * 365 + n / 4 - n / 100 + n / 400

def ordinal (d : Date) : Nat :=
  daysBeforeYear d.year +
    total ((List.range (d.month - 1)).map fun m => daysInMonth d.year (m + 1)) + d.day

def ofEpochDays (n : Nat) : Date :=
  -- Days are counted from the first of March 0000, in eras of 400 years.
  let z := n + 719468
  let era := z / 146097
  let doe := z % 146097
  let yoe := (doe - doe / 1460 + doe / 36524 - doe / 146096) / 365
  let doy := doe - (365 * yoe + yoe / 4 - yoe / 100)
  let mp := (5 * doy + 2) / 153
  let month := if mp < 10 then mp + 3 else mp - 9
  ⟨yoe + era * 400 + (if month ≤ 2 then 1 else 0), month, doy - (153 * mp + 2) / 5 + 1⟩

end Date

namespace TimeOfDay

def isValid (t : TimeOfDay) : Bool :=
  t.hour ≤ 23 && t.minute ≤ 59 && t.second ≤ 59 && t.micro ≤ 999999

/-- The fraction of the second is written, with six digits, only if there is one. -/
def iso (t : TimeOfDay) : String :=
  decimalPadded 2 t.hour ++ ":" ++ decimalPadded 2 t.minute ++ ":" ++ decimalPadded 2 t.second ++
    if t.micro = 0 then "" else "." ++ decimalPadded 6 t.micro

def micros (t : TimeOfDay) : Nat :=
  ((t.hour * 60 + t.minute) * 60 + t.second) * 1000000 + t.micro

end TimeOfDay

def offsetText (minutes : Int) : String :=
  (if minutes < 0 then "-" else "+") ++ decimalPadded 2 (minutes.natAbs / 60) ++ ":" ++
    decimalPadded 2 (minutes.natAbs % 60)

namespace Moment

def isReal : Moment → Bool
  | date d => d.isValid
  | time t => t.isValid
  | «local» d t => d.isValid && t.isValid
  | zoned d t _ => d.isValid && t.isValid

def ofEpochMicros (n : Nat) : Moment :=
  let rest := n % 86400000000
  let seconds := rest / 1000000
  .zoned (Date.ofEpochDays (n / 86400000000))
    ⟨seconds / 3600, seconds / 60 % 60, seconds % 60, rest % 1000000⟩ 0

/-- The ISO text, with `separator` between day and time. -/
def isoWith (separator : String) : Moment → String
  | date d => d.iso
  | time t => t.iso
  | «local» d t => d.iso ++ separator ++ t.iso
  | zoned d t offset => d.iso ++ separator ++ t.iso ++ offsetText offset

def iso (m : Moment) : String :=
  m.isoWith "T"

def isoShort : Moment → String
  | zoned d t 0 => d.iso ++ "T" ++ t.iso ++ "Z"
  | m => m.iso

/-- Microseconds since the start of the year 1, in universal time where the offset is known. -/
def micros : Moment → Int
  | date d => d.ordinal * 86400000000
  | time t => t.micros
  | «local» d t => d.ordinal * 86400000000 + t.micros
  | zoned d t offset => d.ordinal * 86400000000 + t.micros - offset * 60000000

end Moment

end DexRefs
