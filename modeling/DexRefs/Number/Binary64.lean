/-!
Binary floating-point numbers with 53 significant bits, as exact values.  A decimal is rounded to
the nearest such number, and of two equally near ones to the even one.  The other way round, a
number is given by the fewest decimal digits that are rounded back to it, and of several such
decimals by the nearest.
-/

set_option autoImplicit false

namespace DexRefs

/-- `finite negative m e` is `m · 2^e`, negated where `negative`; there `m` is below `2^53`, and
at least `2^52` unless `e` is the least exponent `-1074`. -/
inductive Binary64 where
  | nan
  | infinite (negative : Bool)
  | finite (negative : Bool) (m : Nat) (e : Int)
  deriving DecidableEq, Repr

def roundRatio (num den : Nat) : Nat :=
  let q := num / den
  let r := num % den
  if den < 2 * r || (2 * r == den && q % 2 == 1) then q + 1 else q

def scaleBinary (num den : Nat) (e : Int) : Nat × Nat :=
  (num * Nat.pow 2 e.toNat, den * Nat.pow 2 (-e).toNat)

namespace Binary64

def leastExponent : Int := -1074

def greatestExponent : Int := 971

def carry : Nat := 9007199254740992

def exponentOf (num den : Nat) : Int :=
  let e := max leastExponent ((Nat.log2 num : Int) - Nat.log2 den - 53)
  let (n, d) := scaleBinary num den (-e)
  if carry ≤ n / d then e + 1 else e

def ofRatio (negative : Bool) (num den : Nat) : Binary64 :=
  if num = 0 then finite negative 0 leastExponent
  else
    let e := exponentOf num den
    let (n, d) := scaleBinary num den (-e)
    let m := roundRatio n d
    let (m, e) := if m = carry then (carry / 2, e + 1) else (m, e)
    if greatestExponent < e then infinite negative else finite negative m e

def ofDecimal (negative : Bool) (digits : Nat) (exp : Int) : Binary64 :=
  if digits = 0 then finite negative 0 leastExponent
  else
    let scale := exp + (Nat.toDigits 10 digits).length
    if 400 < scale then infinite negative
    else if scale < -400 then finite negative 0 leastExponent
    else ofRatio negative (digits * Nat.pow 10 exp.toNat) (Nat.pow 10 (-exp).toNat)

def magnitude (m : Nat) (e : Int) : Nat × Nat :=
  scaleBinary m 1 e

/-- Whether `digits · 10^exp` is rounded to `m · 2^e`: it lies between the points half-way to the
neighbours, ends included where `m` is even. -/
def readsBack (m : Nat) (e : Int) (digits : Nat) (exp : Int) : Bool :=
  let low := if m = carry / 2 ∧ leastExponent < e then 4 * m - 1 else 4 * m - 2
  let (ln, ld) := scaleBinary low 4 e
  let (hn, hd) := scaleBinary (4 * m + 2) 4 e
  let n := digits * Nat.pow 10 exp.toNat
  let d := Nat.pow 10 (-exp).toNat
  if m % 2 = 0 then ln * d ≤ n * ld && n * hd ≤ hn * d
  else ln * d < n * ld && n * hd < hn * d

def scaleFrom (num den : Nat) : (fuel : Nat) → (k : Int) → Int
  | 0, k => k
  | fuel + 1, k =>
    if num * Nat.pow 10 (-k).toNat < den * Nat.pow 10 k.toNat then k
    else scaleFrom num den fuel (k + 1)

def decimalScale (m : Nat) (e : Int) : Int :=
  let (num, den) := magnitude m e
  let log := (Nat.log2 num : Int) - Nat.log2 den
  scaleFrom num den 8 (log * 301 / 1000 - 2)

/-- The nearer of the two neighbours on the grid `10^exp` that are rounded back, if any. -/
def candidate (m : Nat) (e : Int) (exp : Int) : Option Nat :=
  let (num, den) := magnitude m e
  let n := num * Nat.pow 10 (-exp).toNat
  let d := den * Nat.pow 10 exp.toNat
  let low := n / d
  let nearest := roundRatio n d
  if readsBack m e nearest exp then some nearest
  else if readsBack m e low exp then some low
  else if readsBack m e (low + 1) exp then some (low + 1)
  else none

def stripZeros : (fuel : Nat) → Nat → Int → Nat × Int
  | 0, n, exp => (n, exp)
  | fuel + 1, n, exp => if n % 10 = 0 then stripZeros fuel (n / 10) (exp + 1) else (n, exp)

def shortest (m : Nat) (e : Int) : Nat × Int :=
  let k := decimalScale m e
  match (List.range 17).findSome? fun (i : Nat) =>
      (candidate m e (k - 1 - i)).map fun n => (n, k - 1 - (i : Int)) with
  | some (n, exp) => stripZeros 20 n exp
  | none => (m * Nat.pow 2 e.toNat * Nat.pow 5 (-e).toNat, min e 0)

def exponentText (e : Int) : String :=
  (if e < 0 then "e-" else "e+") ++
    (if e.natAbs < 10 then "0" else "") ++ String.ofList (Nat.toDigits 10 e.natAbs)

/-- Digits whose point stands after the `k`-th, written out where the leading digit stands for a
power of ten from `-4` to `15`, and with an exponent otherwise.  The whole part is told apart, so
that it can be grouped. -/
def layout (ds : List Char) (k : Int) : List Char × String :=
  if -4 < k ∧ k ≤ 16 then
    if k ≤ 0 then (['0'], "." ++ String.ofList (List.replicate (-k).toNat '0' ++ ds))
    else
      let whole := ds.take k.toNat ++ List.replicate (k.toNat - ds.length) '0'
      let fraction := ds.drop k.toNat
      (whole, "." ++ String.ofList (if fraction.isEmpty then ['0'] else fraction))
  else
    let fraction := ds.drop 1
    (ds.take 1, (if fraction.isEmpty then "" else "." ++ String.ofList fraction) ++
      exponentText (k - 1))

def parts (m : Nat) (e : Int) : List Char × String :=
  if m = 0 then (['0'], ".0")
  else
    let (n, exp) := shortest m e
    let ds := Nat.toDigits 10 n
    layout ds (exp + ds.length)

def signText (negative : Bool) : String :=
  if negative then "-" else ""

def text : Binary64 → String
  | nan => "nan"
  | infinite n => signText n ++ "inf"
  | finite n m e =>
    let (whole, rest) := parts m e
    signText n ++ String.ofList whole ++ rest

def isZero : Binary64 → Bool
  | finite _ m _ => m = 0
  | _ => false

def truncate? : Binary64 → Option Int
  | finite n m e =>
    let q := (magnitude m e).1 / (magnitude m e).2
    some (if n then -q else q)
  | _ => none

def below (x : Binary64) (n : Nat) : Bool :=
  match x with
  | nan => false
  | infinite negative => negative
  | finite negative m e =>
    let (num, den) := magnitude m e
    if negative then 0 < m || 0 < n else num < n * den

end Binary64

end DexRefs
