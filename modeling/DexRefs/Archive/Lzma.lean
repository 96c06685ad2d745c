import DexRefs.Archive.Unpacking

/-!
Unpacking a raw LZMA stream: a range coder whose bits have adaptive probabilities, and over it
literals and matches in the output so far.
-/

set_option autoImplicit false

namespace DexRefs

inductive LzmaFault where
  | options
  | damaged
  deriving DecidableEq, Repr

def LzmaFault.wording : LzmaFault → String
  | options => "Invalid or unsupported options"
  | damaged => "Corrupt input data"

/-- What the properties in front of a stream tell: how many bits of the byte before and of the
position select a literal's probabilities, how many of the position those of the rest, and how far
back matches may lie. -/
structure LzmaOptions where
  contextBits : Nat
  literalBits : Nat
  positionBits : Nat
  reach : Nat
  deriving DecidableEq, Repr

namespace LzmaOptions

def reachOf (declared : Nat) : Nat :=
  (max declared 4096 + 15) / 16 * 16

def read? : List UInt8 → Option LzmaOptions
  | [first, a, b, c, d] =>
    let n := first.toNat
    let o : LzmaOptions :=
      { contextBits := n % 9, literalBits := n / 9 % 5, positionBits := n / 45
        reach := reachOf (littleEndian [a, b, c, d]) }
    if 224 < n ∨ 4 < o.contextBits + o.literalBits then none else some o
  | _ => none

end LzmaOptions

namespace Unlzma

/-- The bytes that are left, the range coder, the probabilities of its bits, what the last symbols
were, the last four distances, the last one first, and the output so far. -/
structure State where
  pos : Nat
  range : UInt32 := 0xffffffff
  code : UInt32 := 0
  chances : Array UInt32
  kind : Nat := 0
  distances : Vector UInt32 4 := ⟨#[0, 0, 0, 0], rfl⟩
  out : Array UInt8 := #[]

end Unlzma

abbrev Unlzma := ReaderT (Bytes × LzmaOptions) (EStateM (Stop LzmaFault) Unlzma.State)

namespace Unlzma

def damaged {α : Type} : Unlzma α :=
  fun _ s => .error (.broken .damaged) s

def byte : Unlzma UInt32 :=
  fun b s =>
    match b.1[s.pos]? with
    | some byte => .ok byte.toUInt32 { s with pos := s.pos + 1 }
    | none => .error .exhausted s

def normalize : Unlzma Unit := do
  if (← get).range < 0x1000000 then
    let next ← byte
    modify fun s => { s with range := s.range <<< 8, code := (s.code <<< 8) ||| next }

def bit (i : Nat) : Unlzma Nat := do
  normalize
  fun _ s =>
    let chance := s.chances[i]?.getD 0
    let bound := (s.range >>> 11) * chance
    if s.code < bound then
      .ok 0 { s with
        range := bound
        chances := s.chances.setIfInBounds i (chance + ((2048 - chance) >>> 5)) }
    else
      .ok 1 { s with
        range := s.range - bound
        code := s.code - bound
        chances := s.chances.setIfInBounds i (chance - (chance >>> 5)) }

def evenBit : Unlzma Nat := do
  normalize
  fun _ s =>
    let range := s.range >>> 1
    let code := s.code - range
    if code >>> 31 = 1 then .ok 0 { s with range } else .ok 1 { s with range, code }

def evenBits : (n : Nat) → (value : Nat) → Unlzma Nat
  | 0, value => pure value
  | n + 1, value => do evenBits n (2 * value + (← evenBit))

/-- `n` bits, the highest first, each with a probability for the bits before it; `node` tells
these, after a 1. -/
def treeFrom (i : Nat) : (n node : Nat) → Unlzma Nat
  | 0, node => pure node
  | n + 1, node => do treeFrom i n (2 * node + (← bit (i + node)))

def tree (i n : Nat) : Unlzma Nat := do
  pure ((← treeFrom i n 1) - 1 <<< n)

def reverseTree (i : Nat) : (n node : Nat) → Unlzma Nat
  | 0, _ => pure 0
  | n + 1, node => do
    let low ← bit (i + node)
    let high ← reverseTree i n (2 * node + low)
    pure (low + 2 * high)

/-! Where the probabilities of the several kinds of bits start. -/

def matchPlace : Nat := 0
def repeatPlace : Nat := 192
def firstPlace : Nat := 204
def secondPlace : Nat := 216
def thirdPlace : Nat := 228
def longPlace : Nat := 240
def slotPlace : Nat := 432
def nearPlace : Nat := 688
def alignPlace : Nat := 816
def matchLengthPlace : Nat := 832
def repeatLengthPlace : Nat := 1346
def literalPlace : Nat := 1860

def position : Unlzma Nat := do
  let o := (← read).2
  pure ((← get).out.size % (1 <<< o.positionBits))

def back (distance : UInt32) : Unlzma UInt8 := do
  let s ← get
  pure (s.out[s.out.size - distance.toNat - 1]?.getD 0)

def emit (b : UInt8) : Unlzma Unit :=
  modify fun s => { s with out := s.out.push b }

def matchedFrom (i : Nat) : (n node : Nat) → (expected : Nat) → (agrees : Bool) → Unlzma Nat
  | 0, node, _, _ => pure node
  | n + 1, node, expected, agrees => do
    let want := expected / 128 % 2
    let b ← if agrees then bit (i + 256 + 256 * want + node) else bit (i + node)
    matchedFrom i n (2 * node + b) (2 * expected) (agrees && b = want)

def literal : Unlzma Unit := do
  let o := (← read).2
  let before := ((← get).out.back?.getD 0).toNat
  let context := (((← get).out.size % (1 <<< o.literalBits)) <<< o.contextBits) +
    before >>> (8 - o.contextBits)
  let i := literalPlace + 768 * context
  let value ← if (← get).kind < 7 then treeFrom i 8 1
    else do matchedFrom i 8 1 (← back (← get).distances[0]).toNat true
  emit (UInt8.ofNat (value - 256))
  modify fun s => { s with
    kind := if s.kind ≤ 3 then 0 else if s.kind ≤ 9 then s.kind - 3 else s.kind - 6 }

def length (i position : Nat) : Unlzma Nat := do
  if (← bit i) = 0 then tree (i + 2 + 8 * position) 3
  else if (← bit (i + 1)) = 0 then pure ((← tree (i + 130 + 8 * position) 3) + 8)
  else pure ((← tree (i + 258) 8) + 16)

def distance (length : Nat) : Unlzma UInt32 := do
  let slot ← tree (slotPlace + 64 * min length 3) 6
  if slot < 4 then pure (UInt32.ofNat slot)
  else
    let low := slot / 2 - 1
    if slot < 14 then
      let high := (2 + slot % 2) <<< low
      pure (UInt32.ofNat (high + (← reverseTree (nearPlace + high - slot) low 1)))
    else
      let high ← evenBits (low - 4) (2 + slot % 2)
      pure (UInt32.ofNat (16 * high + (← reverseTree alignPlace 4 1)))

def copy (distance : UInt32) : Nat → Unlzma Unit
  | 0 => pure ()
  | n + 1 => do
    emit (← back distance)
    copy distance n

def endDistance : UInt32 := 0xffffffff

def newMatch (position : Nat) : Unlzma Bool := do
  let n ← length matchLengthPlace position
  modify fun s => { s with kind := if s.kind < 7 then 7 else 10 }
  let d ← distance n
  modify fun s =>
    { s with distances := ⟨#[d, s.distances[0], s.distances[1], s.distances[2]], rfl⟩ }
  if d = endDistance then
    normalize
    if (← get).code ≠ 0 then damaged
    pure true
  else
    if min (← get).out.size (← read).2.reach ≤ d.toNat then damaged
    copy d (n + 2)
    pure false

def recallDistance : Unlzma Unit := do
  let kind := (← get).kind
  let ds := (← get).distances
  if (← bit (secondPlace + kind)) = 0 then
    modify fun s => { s with distances := ⟨#[ds[1], ds[0], ds[2], ds[3]], rfl⟩ }
  else if (← bit (thirdPlace + kind)) = 0 then
    modify fun s => { s with distances := ⟨#[ds[2], ds[0], ds[1], ds[3]], rfl⟩ }
  else
    modify fun s => { s with distances := ⟨#[ds[3], ds[0], ds[1], ds[2]], rfl⟩ }

def oldMatch (position : Nat) : Unlzma Unit := do
  let kind := (← get).kind
  if (← get).out.isEmpty then damaged
  let short ← if (← bit (firstPlace + kind)) = 0 then do
      pure ((← bit (longPlace + 16 * kind + position)) == 0)
    else do
      recallDistance
      pure false
  if short then
    modify fun s => { s with kind := if s.kind < 7 then 9 else 11 }
    emit (← back (← get).distances[0])
  else
    modify fun s => { s with kind := if s.kind < 7 then 8 else 11 }
    let n ← length repeatLengthPlace position
    copy (← get).distances[0] (n + 2)

def symbol : Unlzma Bool := do
  let position ← position
  let kind := (← get).kind
  if (← bit (matchPlace + 16 * kind + position)) = 0 then
    literal
    pure false
  else if (← bit (repeatPlace + kind)) = 0 then newMatch position
  else
    oldMatch position
    pure false

def symbols : (fuel : Nat) → Unlzma Unit
  | 0 => fun _ s => .error .exhausted s
  | fuel + 1 => do
    if (← symbol) then pure () else symbols fuel

def codeBytes : Nat → Unlzma Unit
  | 0 => pure ()
  | n + 1 => do
    let next ← byte
    modify fun s => { s with code := (s.code <<< 8) ||| next }
    codeBytes n

def start : Unlzma Unit := do
  if (← byte) ≠ 0 then damaged
  codeBytes 4

/-- A byte holds less than `512` bits of the greatest probability, so that `fuel` is enough. -/
def stream : Unlzma Unit := do
  start
  symbols (512 * ((← read).1.size + 1))

end Unlzma

/-- Unpacks a stream with its properties in front.  Nothing comes of bytes that end before the stream
starts. -/
def unlzma (b : Bytes) : Except LzmaFault Unpacked :=
  let place := 4 + littleEndian (b.window 2 2)
  if b.size ≤ 4 ∨ b.size ≤ place then .ok ⟨#[], false⟩
  else
    match LzmaOptions.read? (b.window 4 (place - 4)) with
    | none => .error .options
    | some o =>
      let chances := Array.replicate
        (Unlzma.literalPlace + 768 <<< (o.contextBits + o.literalBits)) 1024
      Unpacked.ofResult Unlzma.State.out (Unlzma.stream (b, o) { pos := place, chances })

end DexRefs
