/-!
UTF-8 text with repair.  Every maximal run of bytes that starts a well-formed sequence without
completing it is read as one replacement character, and so is every byte that cannot start or
continue a sequence.  The reader is a machine that takes one byte at a time.

Image strings write the character U+0000 as the two bytes `C0 80`, which UTF-8 does not allow;
such pairs are turned into a zero byte before the text is read.
-/

set_option autoImplicit false

namespace DexRefs

def replacement : Char := '\ufffd'

/-- A sequence under way: the bits read so far, how many bytes are owed after the next one, and
the range in which the next byte must lie. -/
structure Pending where
  bits : Nat
  owed : Nat
  low : Nat
  high : Nat
  deriving DecidableEq, Repr

def startUtf8 (b : UInt8) : List Char × Option Pending :=
  let n := b.toNat
  if n ≤ 0x7f then ([Char.ofNat n], none)
  else if 0xc2 ≤ n ∧ n ≤ 0xdf then ([], some ⟨n - 0xc0, 0, 0x80, 0xbf⟩)
  else if n = 0xe0 then ([], some ⟨0, 1, 0xa0, 0xbf⟩)
  else if n = 0xed then ([], some ⟨0xd, 1, 0x80, 0x9f⟩)
  else if 0xe1 ≤ n ∧ n ≤ 0xef then ([], some ⟨n - 0xe0, 1, 0x80, 0xbf⟩)
  else if n = 0xf0 then ([], some ⟨0, 2, 0x90, 0xbf⟩)
  else if 0xf1 ≤ n ∧ n ≤ 0xf3 then ([], some ⟨n - 0xf0, 2, 0x80, 0xbf⟩)
  else if n = 0xf4 then ([], some ⟨4, 2, 0x80, 0x8f⟩)
  else ([replacement], none)

/-- One byte.  A byte out of range ends the sequence under way with a replacement character and
is then read as a start. -/
def stepUtf8 : Option Pending → UInt8 → List Char × Option Pending
  | none, b => startUtf8 b
  | some p, b =>
    if p.low ≤ b.toNat ∧ b.toNat ≤ p.high then
      let bits := p.bits * 64 + (b.toNat - 0x80)
      match p.owed with
      | 0 => ([Char.ofNat bits], none)
      | owed + 1 => ([], some ⟨bits, owed, 0x80, 0xbf⟩)
    else
      let (cs, next) := startUtf8 b
      (replacement :: cs, next)

/-- A sequence that the end of the text cuts is one replacement character. -/
def endUtf8 : Option Pending → List Char
  | none => []
  | some _ => [replacement]

def repairUtf8From : Option Pending → List UInt8 → List Char
  | s, [] => endUtf8 s
  | s, b :: bs =>
    let (cs, next) := stepUtf8 s b
    cs ++ repairUtf8From next bs

def repairUtf8 (bs : List UInt8) : List Char :=
  repairUtf8From none bs

/-- Turns each pair `C0 80` into a zero byte, left to right. -/
def foldNulPairs : List UInt8 → List UInt8
  | 0xc0 :: 0x80 :: bs => 0 :: foldNulPairs bs
  | b :: bs => b :: foldNulPairs bs
  | [] => []

def imageText (bs : List UInt8) : List Char :=
  repairUtf8 (foldNulPairs bs)

inductive Utf8Reason where
  | invalidStart
  | invalidContinuation
  | unexpectedEnd
  deriving DecidableEq, Repr

def Utf8Reason.wording : Utf8Reason → String
  | invalidStart => "invalid start byte"
  | invalidContinuation => "invalid continuation byte"
  | unexpectedEnd => "unexpected end of data"

structure Utf8Defect where
  start : Nat
  length : Nat
  reason : Utf8Reason
  deriving DecidableEq, Repr

/-- The first defect from position `pos` on, where the sequence under way began at `start`. -/
def utf8DefectFrom (start pos : Nat) : Option Pending → List UInt8 → Option Utf8Defect
  | none, [] => none
  | some _, [] => some ⟨start, pos - start, .unexpectedEnd⟩
  | none, b :: bs =>
    if b.toNat ≤ 0x7f then utf8DefectFrom (pos + 1) (pos + 1) none bs
    else
      match (startUtf8 b).2 with
      | none => some ⟨pos, 1, .invalidStart⟩
      | some p => utf8DefectFrom pos (pos + 1) (some p) bs
  | some p, b :: bs =>
    if p.low ≤ b.toNat ∧ b.toNat ≤ p.high then
      match (stepUtf8 (some p) b).2 with
      | none => utf8DefectFrom (pos + 1) (pos + 1) none bs
      | some p => utf8DefectFrom start (pos + 1) (some p) bs
    else some ⟨start, pos - start, .invalidContinuation⟩

def utf8Defect? (bs : List UInt8) : Option Utf8Defect :=
  utf8DefectFrom 0 0 none bs

def utf8? (bs : List UInt8) : Option (List Char) :=
  if (utf8Defect? bs).isNone then some (repairUtf8 bs) else none

def utf8Bytes (s : String) : List UInt8 :=
  s.toList.flatMap String.utf8EncodeChar

end DexRefs
