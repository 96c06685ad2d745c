import DexRefs.Archive.Unpacking

/-!
Inflating a raw deflate stream.
-/

set_option autoImplicit false

namespace DexRefs

inductive StreamFault where
  | blockType
  | storedLengths
  | tooManySymbols
  | codeLengths
  | lengthRepeat
  | noEndOfBlock
  | literalLengths
  | distanceLengths
  | literalCode
  | distanceCode
  | distanceTooFar
  deriving DecidableEq, Repr

def StreamFault.wording : StreamFault → String
  | blockType => "invalid block type"
  | storedLengths => "invalid stored block lengths"
  | tooManySymbols => "too many length or distance symbols"
  | codeLengths => "invalid code lengths set"
  | lengthRepeat => "invalid bit length repeat"
  | noEndOfBlock => "invalid code -- missing end-of-block"
  | literalLengths => "invalid literal/lengths set"
  | distanceLengths => "invalid distances set"
  | literalCode => "invalid literal/length code"
  | distanceCode => "invalid distance code"
  | distanceTooFar => "invalid distance too far back"

abbrev Inflating := Unpacking StreamFault

namespace PrefixCode

/-- How many codes of the next length are left unused after those of the given lengths; none where
there are more codes than room. -/
def room : (counts : List Nat) → (free : Nat) → Option Nat
  | [], free => some free
  | c :: cs, free => if 2 * free < c then none else room cs (2 * free - c)

def isUsable (single : Bool) (lengths : List Nat) : Bool :=
  let code := ofLengths lengths
  if lengths.all (· = 0) then true
  else
    match room code.counts 1 with
    | none => false
    | some 0 => true
    | some _ => single && code.counts.length = 1

end PrefixCode

namespace Inflating

open Unpacking

def bits : Nat → Inflating Nat
  | 0 => pure 0
  | n + 1 => do
    let low ← lowBit
    let high ← bits n
    pure (low + 2 * high)

def align : Inflating Unit :=
  fun _ i => .ok () { i with pos := (i.pos + 7) / 8 * 8 }

def copyBack (distance : Nat) : Nat → Inflating Unit
  | 0 => pure ()
  | n + 1 => do
    let size ← produced
    (fun _ i => .ok () { i with out := i.out.push (i.out[size - distance]?.getD 0) })
    copyBack distance n

def lengthTable : Array (Nat × Nat) := #[
  (3, 0), (4, 0), (5, 0), (6, 0), (7, 0), (8, 0), (9, 0), (10, 0), (11, 1), (13, 1), (15, 1),
  (17, 1), (19, 2), (23, 2), (27, 2), (31, 2), (35, 3), (43, 3), (51, 3), (59, 3), (67, 4),
  (83, 4), (99, 4), (115, 4), (131, 5), (163, 5), (195, 5), (227, 5), (258, 0)]

def distanceTable : Array (Nat × Nat) := #[
  (1, 0), (2, 0), (3, 0), (4, 0), (5, 1), (7, 1), (9, 2), (13, 2), (17, 3), (25, 3), (33, 4),
  (49, 4), (65, 5), (97, 5), (129, 6), (193, 6), (257, 7), (385, 7), (513, 8), (769, 8),
  (1025, 9), (1537, 9), (2049, 10), (3073, 10), (4097, 11), (6145, 11), (8193, 12),
  (12289, 12), (16385, 13), (24577, 13)]

def extended (table : Array (Nat × Nat)) (symbol : Nat) (f : StreamFault) : Inflating Nat :=
  match table[symbol]? with
  | some (base, extra) => (base + ·) <$> bits extra
  | none => stop (.broken f)

/-- The content of a coded block.  Each symbol takes at least one bit, so `fuel` is the number of
bits that are left. -/
def symbols (literals distances : PrefixCode) : (fuel : Nat) → Inflating Unit
  | 0 => stop .exhausted
  | fuel + 1 => do
    match ← literals.decode lowBit with
    | none => stop (.broken .literalCode)
    | some symbol =>
      if symbol < 256 then
        emit (UInt8.ofNat symbol)
        symbols literals distances fuel
      else if symbol = 256 then pure ()
      else
        let length ← extended lengthTable (symbol - 257) .literalCode
        match ← distances.decode lowBit with
        | none => stop (.broken .distanceCode)
        | some symbol =>
          let distance ← extended distanceTable symbol .distanceCode
          if (← produced) < distance then stop (.broken .distanceTooFar)
          copyBack distance length
          symbols literals distances fuel

def stored : Nat → Inflating Unit
  | 0 => pure ()
  | n + 1 => do
    emit (UInt8.ofNat (← bits 8))
    stored n

def storedBlock : Inflating Unit := do
  align
  let size ← bits 16
  let complement ← bits 16
  if size + complement ≠ 0xffff then stop (.broken .storedLengths)
  stored size

def fixedLiterals : PrefixCode :=
  .ofLengths (List.replicate 144 8 ++ List.replicate 112 9 ++ List.replicate 24 7 ++
    List.replicate 8 8)

def fixedDistances : PrefixCode :=
  .ofLengths (List.replicate 32 5)

def fixedBlock : Inflating Unit := do
  symbols fixedLiterals fixedDistances (← total)

def lengthOrder : List Nat :=
  [16, 17, 18, 0, 8, 7, 9, 6, 10, 5, 11, 4, 12, 3, 13, 2, 14, 1, 15]

def codeLengthValues : Nat → Inflating (List Nat)
  | 0 => pure []
  | n + 1 => do
    let length ← bits 3
    let rest ← codeLengthValues n
    pure (length :: rest)

def lengthSymbol (c : PrefixCode) : Inflating Nat := do
  pure ((← c.decode lowBit).getD 0)

/-- The next run of equal lengths: the length and how often it comes, at least once.  A run may
repeat the length before it, `last`. -/
def lengthRun (c : PrefixCode) (last : Option Nat) : Inflating (Nat × Nat) := do
  let symbol ← lengthSymbol c
  if symbol < 16 then pure (symbol, 1)
  else if symbol = 16 then
    let more ← bits 2
    match last with
    | some length => pure (length, 3 + more)
    | none => stop (.broken .lengthRepeat)
  else if symbol = 17 then pure (0, 3 + (← bits 3))
  else pure (0, 11 + (← bits 7))

def codeLengths (c : PrefixCode) (want : Nat) : (runs : Nat) → (seen : List Nat) →
    Inflating (List Nat)
  | 0, seen => pure seen.reverse
  | runs + 1, seen => do
    if want ≤ seen.length then pure seen.reverse
    else
      let (length, times) ← lengthRun c seen.head?
      if want < seen.length + times then stop (.broken .lengthRepeat)
      codeLengths c want runs (List.replicate times length ++ seen)

def lengthCodeLengths (stored : List Nat) : List Nat :=
  (List.range 19).map fun symbol =>
    ((lengthOrder.zip stored).lookup symbol).getD 0

def usable (single : Bool) (lengths : List Nat) (f : StreamFault) : Inflating PrefixCode :=
  if PrefixCode.isUsable single lengths then pure (.ofLengths lengths) else stop (.broken f)

def dynamicBlock : Inflating Unit := do
  let literals := 257 + (← bits 5)
  let distances := 1 + (← bits 5)
  let stored := 4 + (← bits 4)
  if 286 < literals ∨ 30 < distances then stop (.broken .tooManySymbols)
  let code ← usable false (lengthCodeLengths (← codeLengthValues stored)) .codeLengths
  let lengths ← codeLengths code (literals + distances) (literals + distances) []
  if lengths[256]?.getD 0 = 0 then stop (.broken .noEndOfBlock)
  let literalCode ← usable true (lengths.take literals) .literalLengths
  let distanceCode ← usable true (lengths.drop literals) .distanceLengths
  symbols literalCode distanceCode (← total)

def blocks : (fuel : Nat) → Inflating Unit
  | 0 => stop .exhausted
  | fuel + 1 => do
    let final ← lowBit
    let type ← bits 2
    match type with
    | 0 => storedBlock
    | 1 => fixedBlock
    | 2 => dynamicBlock
    | _ => stop (.broken .blockType)
    if final = 1 then pure () else blocks fuel

end Inflating

def inflate (b : Bytes) : Except StreamFault Unpacked :=
  (Inflating.blocks (8 * b.size + 1)).run b

end DexRefs
