import DexRefs.Image.Fault
import DexRefs.Text.Utf8

/-!
Reading an image from a cursor: a position, which may lie past the end, and a byte order.  A read
that does not fit fails and leaves the cursor after the bytes that were there.
-/

set_option autoImplicit false

namespace DexRefs

structure Cursor where
  pos : Nat
  order : ByteOrder
  deriving DecidableEq, Repr

/-- A reading of a byte string.  Whether it succeeds or fails, it tells where the cursor is. -/
abbrev Reader := ReaderT Bytes (EStateM Fault Cursor)

namespace Reader

def fail {α : Type} (f : Fault) : Reader α :=
  fun _ c => .error f c

def tell : Reader Nat :=
  fun _ c => .ok c.pos c

def seek (pos : Nat) : Reader Unit :=
  fun _ c => .ok () { c with pos := pos }

def setOrder (order : ByteOrder) : Reader Unit :=
  fun _ c => .ok () { c with order := order }

def left : Reader Nat :=
  fun b c => .ok (b.size - c.pos) c

def take (n : Nat) : Reader (List UInt8) :=
  fun b c =>
    let bs := b.window c.pos n
    if bs.length < n then
      .error (.truncated c.pos n bs.length) { c with pos := c.pos + bs.length }
    else .ok bs { c with pos := c.pos + n }

def word (width : Nat) : Reader Nat :=
  fun b c => ((c.order.value ·) <$> take width) b c

def u8 : Reader Nat := word 1

def u16 : Reader Nat := word 2

def u32 : Reader Nat := word 4

/-- Groups of seven bits, each above the `shift` bits of `value`; a set high bit announces a
further byte.  At most `left + 1` bytes are read. -/
def uleb128Groups (left shift value : Nat) : Reader Nat := do
  let byte ← u8
  let value := value ||| (byte &&& 0x7f) <<< shift
  if byte < 0x80 then pure value
  else
    match left with
    | 0 => pure value
    | left + 1 => uleb128Groups left (shift + 7) value

def uleb128 : Reader Nat := do
  uleb128Groups (← left) 0 0

/-- Bytes up to a zero byte, which is read too, or up to the `limit`-th.  At most `left + 1` bytes
are read; `seen` holds those before the cursor, the last one first. -/
def textBytes (left : Nat) : (limit : Nat) → (seen : List UInt8) → Reader (List UInt8)
  | 0, seen => pure seen.reverse
  | limit + 1, seen => do
    let byte ← u8
    if byte = 0 then pure seen.reverse
    else
      match left with
      | 0 => pure seen.reverse
      | left + 1 => textBytes left limit (UInt8.ofNat byte :: seen)

/-- A string item: its length in UTF-16 units, then its text.  The length only bounds the scan,
by three bytes a unit; the first zero byte ends the text. -/
def string : Reader String := do
  let units ← uleb128
  let bs ← textBytes (← left) (3 * units) []
  pure (String.ofList (imageText bs))

def rowsFrom {α : Type} (item : Nat → Reader α) :
    (count row : Nat) → (done : Array α) → Reader (Array α)
  | 0, _, done => pure done
  | count + 1, row, done => do
    let a ← item row
    rowsFrom item count (row + 1) (done.push a)

def rows {α : Type} (count : Nat) (item : Nat → Reader α) : Reader (Array α) :=
  rowsFrom item count 0 #[]

def eachFrom {α β : Type} (item : Nat → α → Reader β) :
    (xs : List α) → (row : Nat) → (done : Array β) → Reader (Array β)
  | [], _, done => pure done
  | x :: xs, row, done => do
    let b ← item row x
    eachFrom item xs (row + 1) (done.push b)

def each {α β : Type} (xs : Array α) (item : Nat → α → Reader β) : Reader (Array β) :=
  eachFrom item xs.toList 0 #[]

end Reader

end DexRefs
