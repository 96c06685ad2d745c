import DexRefs.Archive.Unpacking

/-!
Unpacking a bzip2 stream.  A block holds the last column of its sorted rotations: runs of the first
byte of a move-to-front list and positions in it, under up to six prefix codes that change every
fifty symbols.
-/

set_option autoImplicit false

namespace DexRefs

abbrev Bunzip := Unpacking Unit

namespace Bunzip

open Unpacking

def invalid {α : Type} : Bunzip α :=
  stop (.broken ())

def bits : Nat → Bunzip Nat
  | 0 => pure 0
  | n + 1 => do
    let high ← highBit
    let low ← bits n
    pure ((high <<< n) + low)

def word : Bunzip UInt32 := do
  pure (UInt32.ofNat (← bits 32))

def expect : List Nat → Bunzip Unit
  | [] => pure ()
  | byte :: bytes => do
    if (← bits 8) ≠ byte then invalid
    expect bytes

def marked (n : Nat) : Bunzip (List Nat) := do
  let marks ← (List.range n).mapM fun i => do
    pure (if (← highBit) = 1 then [i] else [])
  pure marks.flatten

def alphabet : Bunzip (List UInt8) := do
  let sixteens ← marked 16
  let bytes ← sixteens.mapM fun i => do
    pure ((← marked 16).map fun j => UInt8.ofNat (16 * i + j))
  pure bytes.flatten

def unary : (limit : Nat) → Bunzip Nat
  | 0 => invalid
  | limit + 1 => do
    if (← highBit) = 0 then pure 0
    else if limit = 0 then invalid
    else pure ((← unary limit) + 1)

def selectors (codes : Nat) : (recent : List Nat) → (count : Nat) → Bunzip (List Nat)
  | _, 0 => pure []
  | recent, count + 1 => do
    let i ← unary codes
    let code := recent[i]?.getD 0
    let rest ← selectors codes (code :: recent.eraseIdx i) count
    pure (code :: rest)

def greatestSelectors : Nat := 18002

def longestCode : Nat := 20

def codeLength : (fuel length : Nat) → Bunzip Nat
  | 0, _ => stop .exhausted
  | fuel + 1, length => do
    if length < 1 ∨ longestCode < length then invalid
    if (← highBit) = 0 then pure length
    else if (← highBit) = 0 then codeLength fuel (length + 1)
    else codeLength fuel (length - 1)

def codeLengths (fuel : Nat) : (symbols last : Nat) → Bunzip (List Nat)
  | 0, _ => pure []
  | symbols + 1, last => do
    let length ← codeLength fuel last
    let rest ← codeLengths fuel symbols length
    pure (length :: rest)

def code (symbols : Nat) : Bunzip PrefixCode := do
  let first ← bits 5
  pure (.ofLengths (← codeLengths (← total) symbols first))

def symbol (c : PrefixCode) : Bunzip Nat := do
  let counts := c.counts ++ List.replicate (longestCode - c.counts.length) 0
  match ← c.decodeFrom highBit counts 0 0 0 with
  | some s => pure s
  | none => do
    let _ ← highBit
    invalid

/-- What is read of the symbols of a block: the move-to-front list, a run of its first byte in
bijective base two with the weight of the next digit, and the column so far. -/
structure Column where
  recent : List UInt8
  run : Nat := 0
  weight : Nat := 1
  bytes : Array UInt8 := #[]

def greatestWeight : Nat := 2097152

namespace Column

def endRun (c : Column) (limit : Nat) : Bunzip Column :=
  if c.run = 0 then pure { c with weight := 1 }
  else if limit < c.bytes.size + c.run then invalid
  else
    pure { c with
      run := 0
      weight := 1
      bytes := c.bytes ++ Array.replicate c.run (c.recent.headD 0) }

def move (c : Column) (limit i : Nat) : Bunzip Column :=
  if limit ≤ c.bytes.size then invalid
  else
    let byte := c.recent[i]?.getD 0
    pure { c with recent := byte :: c.recent.eraseIdx i, bytes := c.bytes.push byte }

end Column

/-- The column, up to the symbol that ends it.  Each symbol takes at least one bit, so `fuel` is the
number of bits that are left; `n` is the number of symbols so far. -/
def column (codes : Array PrefixCode) (selected : Array Nat) (last limit : Nat) :
    (fuel n : Nat) → Column → Bunzip (Array UInt8)
  | 0, _, _ => stop .exhausted
  | fuel + 1, n, c => do
    let s ← match selected[n / 50]?.bind (codes[·]?) with
      | some code => symbol code
      | none => invalid
    if s < 2 then
      if greatestWeight ≤ c.weight then invalid
      column codes selected last limit fuel (n + 1)
        { c with run := c.run + (s + 1) * c.weight, weight := 2 * c.weight }
    else
      let c ← c.endRun limit
      if s = last then pure c.bytes
      else
        let c ← c.move limit (s - 1)
        column codes selected last limit fuel (n + 1) c

def successors (column : Array UInt8) : Array Nat :=
  ((column.toList.zipIdx.mergeSort fun x y => decide (x.1 ≤ y.1)).map (·.2)).toArray

def rotate (column : Array UInt8) (next : Array Nat) : (n row : Nat) → (text : Array UInt8) →
    Array UInt8
  | 0, _, text => text
  | n + 1, row, text =>
    let row := next[row]?.getD 0
    rotate column next n row (text.push (column[row]?.getD 0))

def distances : Array Nat := #[
  619, 720, 127, 481, 931, 816, 813, 233, 566, 247, 985, 724, 205, 454, 863, 491, 741, 242, 949,
  214, 733, 859, 335, 708, 621, 574, 73, 654, 730, 472, 419, 436, 278, 496, 867, 210, 399, 680,
  480, 51, 878, 465, 811, 169, 869, 675, 611, 697, 867, 561, 862, 687, 507, 283, 482, 129, 807,
  591, 733, 623, 150, 238, 59, 379, 684, 877, 625, 169, 643, 105, 170, 607, 520, 932, 727, 476,
  693, 425, 174, 647, 73, 122, 335, 530, 442, 853, 695, 249, 445, 515, 909, 545, 703, 919, 874,
  474, 882, 500, 594, 612, 641, 801, 220, 162, 819, 984, 589, 513, 495, 799, 161, 604, 958, 533,
  221, 400, 386, 867, 600, 782, 382, 596, 414, 171, 516, 375, 682, 485, 911, 276, 98, 553, 163,
  354, 666, 933, 424, 341, 533, 870, 227, 730, 475, 186, 263, 647, 537, 686, 600, 224, 469, 68,
  770, 919, 190, 373, 294, 822, 808, 206, 184, 943, 795, 384, 383, 461, 404, 758, 839, 887, 715,
  67, 618, 276, 204, 918, 873, 777, 604, 560, 951, 160, 578, 722, 79, 804, 96, 409, 713, 940, 652,
  934, 970, 447, 318, 353, 859, 672, 112, 785, 645, 863, 803, 350, 139, 93, 354, 99, 820, 908, 609,
  772, 154, 274, 580, 184, 79, 626, 630, 742, 653, 282, 762, 623, 680, 81, 927, 626, 789, 125, 411,
  521, 938, 300, 821, 78, 343, 175, 128, 250, 170, 774, 972, 275, 999, 639, 495, 78, 352, 126, 857,
  956, 358, 619, 580, 124, 737, 594, 701, 612, 669, 112, 134, 694, 363, 992, 809, 743, 168, 974,
  944, 375, 748, 52, 600, 747, 642, 182, 862, 81, 344, 805, 988, 739, 511, 655, 814, 334, 249, 515,
  897, 955, 664, 981, 649, 113, 974, 459, 893, 228, 433, 837, 553, 268, 926, 240, 102, 654, 459,
  51, 686, 754, 806, 760, 493, 403, 415, 394, 687, 700, 946, 670, 656, 610, 738, 392, 760, 799,
  887, 653, 978, 321, 576, 617, 626, 502, 894, 679, 243, 440, 680, 879, 194, 572, 640, 724, 926,
  56, 204, 700, 707, 151, 457, 449, 797, 195, 791, 558, 945, 679, 297, 59, 87, 824, 713, 663, 412,
  693, 342, 606, 134, 108, 571, 364, 631, 212, 174, 643, 304, 329, 343, 97, 430, 751, 497, 314,
  983, 374, 822, 928, 140, 206, 73, 263, 980, 736, 876, 478, 430, 305, 170, 514, 364, 692, 829, 82,
  855, 953, 676, 246, 369, 970, 294, 750, 807, 827, 150, 790, 288, 923, 804, 378, 215, 828, 592,
  281, 565, 555, 710, 82, 896, 831, 547, 261, 524, 462, 293, 465, 502, 56, 661, 821, 976, 991, 658,
  869, 905, 758, 745, 193, 768, 550, 608, 933, 378, 286, 215, 979, 792, 961, 61, 688, 793, 644,
  986, 403, 106, 366, 905, 644, 372, 567, 466, 434, 645, 210, 389, 550, 919, 135, 780, 773, 635,
  389, 707, 100, 626, 958, 165, 504, 920, 176, 193, 713, 857, 265, 203, 50, 668, 108, 645, 990,
  626, 197, 510, 357, 358, 850, 858, 364, 936, 638]

def derandomise : (left i : Nat) → List UInt8 → (text : Array UInt8) → Array UInt8
  | _, _, [], text => text
  | left, i, byte :: bytes, text =>
    let (left, i) := if left = 0 then (distances[i]?.getD 0, (i + 1) % 512) else (left, i)
    derandomise (left - 1) i bytes (text.push (if left = 2 then byte ^^^ 1 else byte))

/-- After four equal bytes stands how often the byte comes again; `equal` of them end `text`. -/
def expand : (equal : Nat) → List UInt8 → (text : Array UInt8) → Option (Array UInt8)
  | equal, [], text => if equal = 4 then none else some text
  | equal, byte :: bytes, text =>
    if equal = 4 then
      expand 0 bytes (text ++ Array.replicate byte.toNat (text.back?.getD 0))
    else
      expand (if 0 < equal ∧ text.back? = some byte then equal + 1 else 1) bytes (text.push byte)

def checkByte (c : UInt32) (b : UInt8) : UInt32 :=
  (List.range 8).foldl
    (fun c _ => if c >>> 31 = 1 then (c <<< 1) ^^^ 0x04c11db7 else c <<< 1)
    (c ^^^ (b.toUInt32 <<< 24))

def checksum (text : Array UInt8) : UInt32 :=
  text.foldl checkByte 0xffffffff ^^^ 0xffffffff

def block (level : Nat) : Bunzip UInt32 := do
  let check ← word
  let randomised ← highBit
  let row ← bits 24
  if 10 + 100000 * level < row then invalid
  let recent ← alphabet
  if recent.isEmpty then invalid
  let codes ← bits 3
  if codes < 2 ∨ 6 < codes then invalid
  let count ← bits 15
  if count < 1 then invalid
  let selected ← selectors codes (List.range codes) count
  let codes ← (List.range codes).mapM fun _ => code (recent.length + 2)
  let column ← column codes.toArray (selected.take greatestSelectors).toArray (recent.length + 1)
    (100000 * level) (← total) 0 { recent }
  if column.size ≤ row then invalid
  let text := rotate column (successors column) column.size row #[]
  let text := if randomised = 1 then derandomise 0 0 text.toList #[] else text
  match expand 0 text.toList #[] with
  | none => invalid
  | some text =>
    emitAll text
    if checksum text ≠ check then invalid
    pure check

/-- Blocks up to the end of the stream, `check` being the checksum of those so far.  A block takes
at least one byte, so `fuel` is the number of bits that are left. -/
def blocks (level : Nat) : (fuel : Nat) → (check : UInt32) → Bunzip Unit
  | 0, _ => stop .exhausted
  | fuel + 1, check => do
    let first ← bits 8
    if first = 0x17 then
      expect [0x72, 0x45, 0x38, 0x50, 0x90]
      if (← word) ≠ check then invalid
    else if first = 0x31 then
      expect [0x41, 0x59, 0x26, 0x53, 0x59]
      let next ← block level
      blocks level fuel (((check <<< 1) ||| (check >>> 31)) ^^^ next)
    else invalid

def stream : Bunzip Unit := do
  expect [0x42, 0x5a, 0x68]
  let digit ← bits 8
  if digit < 0x31 ∨ 0x39 < digit then invalid
  blocks (digit - 0x30) (← total) 0

end Bunzip

def bunzip (b : Bytes) : Except Unit Unpacked :=
  Bunzip.stream.run b

end DexRefs
