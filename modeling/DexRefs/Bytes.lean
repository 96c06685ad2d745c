/-!
Byte strings and the fixed-width words in them.  A word is read from its bytes in one of two
orders; the big-endian value of a byte list is the little-endian value of its reverse.
-/

set_option autoImplicit false

namespace DexRefs

abbrev Bytes := Array UInt8

/-- At most `n` bytes from position `pos` on: fewer where the byte string ends before. -/
def Bytes.window (b : Bytes) (pos n : Nat) : List UInt8 :=
  (b.extract pos (pos + n)).toList

/-- What a position in a stream, or a count of its bytes, has to be below. -/
def positionLimit : Int := 0x8000000000000000

def hexOfBytes (bs : List UInt8) : String :=
  String.ofList (bs.flatMap fun b =>
    [Nat.digitChar (b.toNat / 16), Nat.digitChar (b.toNat % 16)])

/-- The value of a base-256 numeral, least significant digit first. -/
def littleEndian : List UInt8 → Nat
  | [] => 0
  | b :: bs => b.toNat + 256 * littleEndian bs

def littleEndianBytes : (width n : Nat) → List UInt8
  | 0, _ => []
  | w + 1, n => UInt8.ofNat (n % 256) :: littleEndianBytes w (n / 256)

theorem littleEndianBytes_length (w n : Nat) : (littleEndianBytes w n).length = w := by
  induction w generalizing n with
  | zero => rfl
  | succ w ih => simp [littleEndianBytes, ih]

theorem littleEndian_littleEndianBytes (w n : Nat) :
    littleEndian (littleEndianBytes w n) = n % Nat.pow 256 w := by
  induction w generalizing n with
  | zero => simp [littleEndian, littleEndianBytes, Nat.mod_one]
  | succ w ih =>
    have hn : n % Nat.pow 256 (w + 1) = n % 256 + 256 * (n / 256 % Nat.pow 256 w) := by
      rw [show Nat.pow 256 (w + 1) = 256 * Nat.pow 256 w from Nat.mul_comm _ 256, Nat.mod_mul]
    rw [littleEndianBytes, littleEndian, ih, UInt8.toNat_ofNat', hn]
    omega

inductive ByteOrder where
  | little
  | big
  deriving DecidableEq, Repr

namespace ByteOrder

def name : ByteOrder → String
  | little => "little"
  | big => "big"

def ofName? : String → Option ByteOrder
  | "little" => some little
  | "big" => some big
  | _ => none

def value : ByteOrder → List UInt8 → Nat
  | little, bs => littleEndian bs
  | big, bs => littleEndian bs.reverse

def bytes : ByteOrder → (width n : Nat) → List UInt8
  | little, w, n => littleEndianBytes w n
  | big, w, n => (littleEndianBytes w n).reverse

theorem bytes_length (o : ByteOrder) (w n : Nat) : (o.bytes w n).length = w := by
  cases o <;> simp [bytes, littleEndianBytes_length]

theorem value_bytes (o : ByteOrder) (w n : Nat) : o.value (o.bytes w n) = n % Nat.pow 256 w := by
  cases o <;> simp [value, bytes, littleEndian_littleEndianBytes]

end ByteOrder

end DexRefs
