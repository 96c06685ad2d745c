/-!
Numerals as they are printed: decimal digits, hexadecimal digits of a fixed least width, and
decimal digits in groups of three.
-/

set_option autoImplicit false

namespace DexRefs

def decimal (n : Nat) : String :=
  String.ofList (Nat.toDigits 10 n)

theorem decimal_injective {m n : Nat} (h : decimal m = decimal n) : m = n := by
  have hm := Nat.ofDigitChars_ten_toDigits (n := m)
  rw [String.ofList_injective h, Nat.ofDigitChars_ten_toDigits] at hm
  exact hm.symm

def decimalInt (i : Int) : String :=
  if i < 0 then "-" ++ decimal i.natAbs else decimal i.natAbs

def padStart (width : Nat) (fill : Char) (cs : List Char) : List Char :=
  List.replicate (width - cs.length) fill ++ cs

def hexDigits (width n : Nat) : List Char :=
  padStart width '0' (Nat.toDigits 16 n)

def hexadecimal (width n : Nat) : String :=
  String.ofList (hexDigits width n)

def decimalPadded (width n : Nat) : String :=
  String.ofList (padStart width '0' (Nat.toDigits 10 n))

/-- Puts a comma before every third digit counted from the right, the input being reversed. -/
def groupReversed : List Char → List Char
  | a :: b :: c :: d :: rest => a :: b :: c :: ',' :: groupReversed (d :: rest)
  | cs => cs

def groupDigits (cs : List Char) : List Char :=
  (groupReversed cs.reverse).reverse

def grouped (n : Nat) : String :=
  String.ofList (groupDigits (Nat.toDigits 10 n))

def groupedInt (i : Int) : String :=
  if i < 0 then "-" ++ grouped i.natAbs else grouped i.natAbs

end DexRefs
