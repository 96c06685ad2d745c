import DexRefs.Bytes

/-!
Taking a packed stream apart, bit by bit.  Unpacking ends with the stream, where the bytes run
out, or at the first thing that no stream may hold; what was produced so far is kept.
-/

set_option autoImplicit false

namespace DexRefs

/-- Why unpacking stopped before the end of the stream. -/
inductive Stop (φ : Type) where
  | exhausted
  | broken (f : φ)
  deriving DecidableEq, Repr

/-- What packed bytes give, and whether the stream in them has come to its end. -/
structure Unpacked where
  out : Bytes
  ended : Bool
  deriving DecidableEq, Repr

def Unpacked.ofResult {φ σ α : Type} (out : σ → Bytes) :
    EStateM.Result (Stop φ) σ α → Except φ Unpacked
  | .ok _ s => .ok ⟨out s, true⟩
  | .error .exhausted s => .ok ⟨out s, false⟩
  | .error (.broken f) _ => .error f

structure BitStream where
  pos : Nat := 0
  out : Array UInt8 := #[]

abbrev Unpacking (φ : Type) := ReaderT Bytes (EStateM (Stop φ) BitStream)

namespace Unpacking

variable {φ : Type}

def stop {α : Type} (s : Stop φ) : Unpacking φ α :=
  fun _ i => .error s i

def lowBit : Unpacking φ Nat :=
  fun b i =>
    match b[i.pos / 8]? with
    | some byte => .ok ((byte.toNat >>> (i.pos % 8)) % 2) { i with pos := i.pos + 1 }
    | none => .error .exhausted i

def highBit : Unpacking φ Nat :=
  fun b i =>
    match b[i.pos / 8]? with
    | some byte => .ok ((byte.toNat >>> (7 - i.pos % 8)) % 2) { i with pos := i.pos + 1 }
    | none => .error .exhausted i

def emit (byte : UInt8) : Unpacking φ Unit :=
  fun _ i => .ok () { i with out := i.out.push byte }

def emitAll (bytes : Array UInt8) : Unpacking φ Unit :=
  fun _ i => .ok () { i with out := i.out ++ bytes }

def produced : Unpacking φ Nat :=
  fun _ i => .ok i.out.size i

def total : Unpacking φ Nat :=
  fun b i => .ok (8 * b.size) i

def run {α : Type} (x : Unpacking φ α) (b : Bytes) : Except φ Unpacked :=
  Unpacked.ofResult BitStream.out (x b {})

end Unpacking

/-- A canonical prefix code: how many codes there are of each length from 1 on, and the symbols in
the order of their codes. -/
structure PrefixCode where
  counts : List Nat
  symbols : Array Nat

namespace PrefixCode

def ofLengths (lengths : List Nat) : PrefixCode :=
  let longest := lengths.foldl max 1
  let sizes := (List.range longest).map (· + 1)
  { counts := sizes.map fun n => lengths.count n
    symbols := (sizes.flatMap fun n =>
      (lengths.zipIdx.filter (·.1 = n)).map (·.2)).toArray }

/-- Takes the bits of one code: `code` so far, where the codes of this length start at `first` and
their symbols at `index`. -/
def decodeFrom {φ : Type} (bit : Unpacking φ Nat) (c : PrefixCode) :
    (counts : List Nat) → (code first index : Nat) → Unpacking φ (Option Nat)
  | [], _, _, _ => pure none
  | n :: counts, code, first, index => do
    let code := code + (← bit)
    if code < first + n then pure c.symbols[index + (code - first)]?
    else decodeFrom bit c counts (2 * code) (2 * (first + n)) (index + n)

def decode {φ : Type} (bit : Unpacking φ Nat) (c : PrefixCode) : Unpacking φ (Option Nat) :=
  c.decodeFrom bit c.counts 0 0 0

end PrefixCode

end DexRefs
