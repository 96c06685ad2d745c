import DexRefs.Number.Binary64
import DexRefs.Text.Numerals

/-!
Texts of binary numbers with a given number of digits: so many places after the point, one digit
before the point and an exponent, or whichever of both suits the size of the number.  The exact
value is rounded, a half to the even neighbour.
-/

set_option autoImplicit false

namespace DexRefs

namespace Binary64

inductive Style where
  | fixed
  | scientific
  | general
  deriving DecidableEq, Repr

/-- Digits with a point before the last `places` of them.  `keepPoint` keeps a point with nothing
after it. -/
def pointed (keepPoint : Bool) (places : Nat) (ds : List Char) : List Char :=
  let whole := ds.take (ds.length - places)
  let fraction := ds.drop (ds.length - places)
  whole ++ if fraction.isEmpty && !keepPoint then [] else '.' :: fraction

def fixedText (keepPoint : Bool) (places m : Nat) (e : Int) : List Char :=
  let (num, den) := magnitude m e
  let n := roundRatio (num * Nat.pow 10 places) den
  pointed keepPoint places (padStart (places + 1) '0' (Nat.toDigits 10 n))

def leadingDigits (places m : Nat) (e : Int) : List Char × Int :=
  if m = 0 then (List.replicate (places + 1) '0', 0)
  else
    let (num, den) := magnitude m e
    let k := decimalScale m e - 1
    let shift := k - places
    let n := roundRatio (num * Nat.pow 10 (-shift).toNat) (den * Nat.pow 10 shift.toNat)
    if n = Nat.pow 10 (places + 1) then ('1' :: List.replicate places '0', k + 1)
    else (Nat.toDigits 10 n, k)

def scientificText (keepPoint : Bool) (places m : Nat) (e : Int) : List Char :=
  let (ds, k) := leadingDigits places m e
  pointed keepPoint places ds ++ (exponentText k).toList

def trimFraction (cs : List Char) : List Char :=
  if cs.contains '.' then
    let kept := (cs.reverse.dropWhile (· = '0')).reverse
    if kept.getLast? = some '.' then kept.dropLast else kept
  else cs

/-- The magnitude in so many significant digits, with an exponent where the first digit stands for
less than `10^-4`, or for more than there are digits.  `full` keeps the zeros at the end. -/
def generalText (full : Bool) (digits m : Nat) (e : Int) : List Char :=
  let places := max digits 1 - 1
  let (ds, k) := leadingDigits places m e
  let trim := fun cs => if full then cs else trimFraction cs
  if -4 ≤ k ∧ k ≤ places then trim (fixedText full (places - k).toNat m e)
  else trim (pointed full places ds) ++ (exponentText k).toList

def styled (style : Style) (alternate : Bool) (digits : Nat) : Binary64 → List Char
  | nan => ['n', 'a', 'n']
  | infinite n => (signText n).toList ++ ['i', 'n', 'f']
  | finite n m e =>
    (signText n).toList ++
      match style with
      | .fixed => fixedText alternate digits m e
      | .scientific => scientificText alternate digits m e
      | .general => generalText alternate digits m e

end Binary64

end DexRefs
