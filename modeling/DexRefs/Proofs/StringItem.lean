import DexRefs.Proofs.Reading
import Mathlib.Algebra.Group.Nat.Defs

/-!
Numbers in base 128 and string items, told by the bytes that lie at a position and without a
cursor.  The bounds that the loops of the reader count down are never what ends them: a number
ends with the first byte below 80, or with the bytes.
-/

set_option autoImplicit false

namespace DexRefs

def uleb128? : List UInt8 → Option (Nat × Nat)
  | [] => none
  | x :: xs =>
    if x.toNat < 0x80 then some (x.toNat, 1)
    else (uleb128? xs).map fun (v, n) => (x.toNat % 0x80 + 0x80 * v, n + 1)

theorem uleb128?_append {bs : List UInt8} {r : Nat × Nat} (h : uleb128? bs = some r)
    (cs : List UInt8) : uleb128? (bs ++ cs) = some r := by
  induction bs generalizing r with
  | nil => simp [uleb128?] at h
  | cons x xs ih =>
    rw [List.cons_append, uleb128?]
    rw [uleb128?] at h
    by_cases hx : x.toNat < 0x80
    · rw [if_pos hx] at h ⊢
      exact h
    · rw [if_neg hx] at h ⊢
      obtain ⟨r', hr, rfl⟩ := Option.map_eq_some_iff.mp h
      rw [ih hr]
      rfl

theorem uleb128?_length {bs : List UInt8} {v n : Nat} (h : uleb128? bs = some (v, n)) :
    0 < n ∧ n ≤ bs.length := by
  induction bs generalizing v n with
  | nil => simp [uleb128?] at h
  | cons x xs ih =>
    rw [uleb128?] at h
    by_cases hx : x.toNat < 0x80
    · simp only [hx, if_true, Option.some.injEq, Prod.mk.injEq] at h
      simp only [List.length_cons]
      omega
    · rw [if_neg hx] at h
      obtain ⟨⟨v', n'⟩, hr, he⟩ := Option.map_eq_some_iff.mp h
      have hn := ih hr
      simp only [Prod.mk.injEq] at he
      simp only [List.length_cons]
      omega

def rawText? (limit : Nat) (bs : List UInt8) : Option (List UInt8) :=
  if 0 ∈ bs.take limit ∨ limit ≤ bs.length then some ((bs.take limit).takeWhile (· ≠ 0))
  else none

def rawTextSize (limit : Nat) (bs : List UInt8) : Nat :=
  ((bs.take limit).takeWhile (· ≠ 0)).length + if 0 ∈ bs.take limit then 1 else 0

@[simp] theorem rawText?_zero (bs : List UInt8) : rawText? 0 bs = some [] := by simp [rawText?]

@[simp] theorem rawText?_nil (limit : Nat) : rawText? (limit + 1) [] = none := by simp [rawText?]

theorem rawText?_cons (limit : Nat) (x : UInt8) (xs : List UInt8) :
    rawText? (limit + 1) (x :: xs) =
      if x = 0 then some [] else (rawText? limit xs).map (x :: ·) := by
  by_cases hx : x = 0
  · simp [rawText?, hx]
  · have h0 : (0 : UInt8) ≠ x := fun h => hx h.symm
    by_cases h : 0 ∈ xs.take limit ∨ limit ≤ xs.length <;> simp [rawText?, hx, h0, h]

theorem rawTextSize_cons (limit : Nat) (x : UInt8) (xs : List UInt8) :
    rawTextSize (limit + 1) (x :: xs) = if x = 0 then 1 else rawTextSize limit xs + 1 := by
  by_cases hx : x = 0
  · simp [rawTextSize, hx]
  · have h0 : (0 : UInt8) ≠ x := fun h => hx h.symm
    simp [rawTextSize, hx, h0]
    omega

theorem rawText?_append {limit : Nat} {bs : List UInt8} {r : List UInt8}
    (h : rawText? limit bs = some r) (cs : List UInt8) : rawText? limit (bs ++ cs) = some r := by
  induction limit generalizing bs r with
  | zero => simpa using h
  | succ limit ih =>
    cases bs with
    | nil => simp at h
    | cons x xs =>
      rw [rawText?_cons] at h
      rw [List.cons_append, rawText?_cons]
      by_cases hx : x = 0
      · simpa [hx] using h
      · rw [if_neg hx] at h ⊢
        obtain ⟨r', hr, rfl⟩ := Option.map_eq_some_iff.mp h
        rw [ih hr]
        rfl

/-- The string item at a position: a number that bounds the scan by three bytes a unit, then the
raw text.  A number that does not end is missed where the bytes end, and so is the end of a text
that is bounded by more bytes than there are. -/
def Bytes.stringAt (b : Bytes) (pos : Nat) : Except Fault String :=
  match uleb128? (b.suffix pos) with
  | none => .error (.truncated (max pos b.size) 1 0)
  | some (units, n) =>
    match rawText? (3 * units) (b.suffix (pos + n)) with
    | some bs => .ok (String.ofList (imageText bs))
    | none => .error (.truncated b.size 1 0)

/-- Whatever ends a string item too early, the next byte is missed where the bytes end. -/
theorem Bytes.stringAt_eq_error {b : Bytes} {pos : Nat} {f : Fault}
    (h : b.stringAt pos = .error f) : f = .truncated (max pos b.size) 1 0 := by
  unfold stringAt at h
  cases hu : uleb128? (b.suffix pos) with
  | none =>
    rw [hu] at h
    cases h
    rfl
  | some r =>
    have hn := uleb128?_length hu
    rw [length_suffix] at hn
    rw [hu] at h
    dsimp only at h
    split at h
    · cases h
    · cases h
      rw [Nat.max_eq_right (by omega)]

namespace Reader

variable {b : Bytes} {o : ByteOrder}

theorem or_shiftLeft_eq_add {value shift : Nat} (hv : value < 2 ^ shift) (x : Nat) :
    value ||| x <<< shift = value + x * 2 ^ shift := by
  rw [Nat.or_comm, ← Nat.shiftLeft_add_eq_or_of_lt hv, Nat.shiftLeft_eq, Nat.add_comm]

theorem add_group_lt {value shift x : Nat} (hv : value < 2 ^ shift) (hx : x < 0x80) :
    value + x * 2 ^ shift < 2 ^ (shift + 7) := by
  have hm : x * 2 ^ shift ≤ 0x7f * 2 ^ shift := Nat.mul_le_mul_right _ (by omega)
  rw [Nat.pow_add]
  omega

/-- The groups read so far make up `value`, and the next one stands above its `shift` bits. -/
theorem uleb128Groups_run {bs : List UInt8} {pos : Nat} (left shift value : Nat)
    (hbs : b.suffix pos = bs) (hl : bs.length ≤ left) (hv : value < 2 ^ shift) :
    uleb128Groups left shift value b ⟨pos, o⟩ =
      match uleb128? bs with
      | some (v, n) => .ok (value + v * 2 ^ shift) ⟨pos + n, o⟩
      | none => .error (.truncated (max pos b.size) 1 0) ⟨max pos b.size, o⟩ := by
  -- on the bytes that are left: the loop may go through all of them, so that its bound never counts
  induction bs generalizing left shift value pos with
  | nil =>
    have hlen := b.length_suffix pos
    rw [hbs, List.length_nil] at hlen
    have hmax : max pos b.size = pos := by omega
    rw [uleb128Groups, bind_run, u8_run, hbs, hmax]
    rfl
  | cons x xs ih =>
    have hlen := b.length_suffix pos
    rw [hbs, List.length_cons] at hlen
    have hmax : max (pos + 1) b.size = max pos b.size := by omega
    have hx := x.toNat_lt
    have hand : x.toNat &&& 0x7f = x.toNat % 0x80 := Nat.and_two_pow_sub_one_eq_mod _ 7
    rw [uleb128Groups, bind_run, u8_run, hbs, uleb128?]
    simp only [hand, or_shiftLeft_eq_add hv]
    by_cases h : x.toNat < 0x80
    · simp only [h, if_true, Nat.mod_eq_of_lt h]
      rfl
    · simp only [h, if_false]
      cases left with
      | zero => simp at hl
      | succ left =>
        have hv' := add_group_lt hv (Nat.mod_lt x.toNat (by decide : 0 < 0x80))
        show uleb128Groups left (shift + 7) _ b ⟨pos + 1, o⟩ = _
        rw [ih _ _ _ (Bytes.suffix_succ hbs) (by simpa using hl) hv', hmax]
        cases uleb128? xs with
        | none => rfl
        | some r =>
          have he : value + x.toNat % 0x80 * 2 ^ shift + r.1 * 2 ^ (shift + 7) =
              value + (x.toNat % 0x80 + 0x80 * r.1) * 2 ^ shift := by
            rw [Nat.pow_add]
            grind
          have hp : pos + 1 + r.2 = pos + (r.2 + 1) := by omega
          simp only [Option.map_some, he, hp]

theorem uleb128_run (b : Bytes) (pos : Nat) (o : ByteOrder) :
    uleb128 b ⟨pos, o⟩ =
      match uleb128? (b.suffix pos) with
      | some (v, n) => .ok v ⟨pos + n, o⟩
      | none => .error (.truncated (max pos b.size) 1 0) ⟨max pos b.size, o⟩ := by
  have h := uleb128Groups_run (o := o) (b.size - pos) 0 0 (rfl : b.suffix pos = _) (by simp)
    (by decide)
  simp only [Nat.zero_add, Nat.pow_zero, Nat.mul_one] at h
  exact h

theorem textBytes_run {bs : List UInt8} {pos : Nat} (left limit : Nat) (seen : List UInt8)
    (hbs : b.suffix pos = bs) (hl : bs.length ≤ left) :
    textBytes left limit seen b ⟨pos, o⟩ =
      match rawText? limit bs with
      | some r => .ok (seen.reverse ++ r) ⟨pos + rawTextSize limit bs, o⟩
      | none => .error (.truncated (max pos b.size) 1 0) ⟨max pos b.size, o⟩ := by
  induction bs generalizing left limit pos seen with
  | nil =>
    have hlen := b.length_suffix pos
    rw [hbs, List.length_nil] at hlen
    have hmax : max pos b.size = pos := by omega
    cases limit with
    | zero => simp [textBytes, pure_run, rawTextSize]
    | succ limit =>
      rw [textBytes, bind_run, u8_run, hbs, rawText?_nil, hmax]
  | cons x xs ih =>
    have hlen := b.length_suffix pos
    rw [hbs, List.length_cons] at hlen
    have hmax : max (pos + 1) b.size = max pos b.size := by omega
    cases limit with
    | zero => simp [textBytes, pure_run, rawTextSize]
    | succ limit =>
      rw [textBytes, bind_run, u8_run, hbs, rawText?_cons, rawTextSize_cons]
      by_cases hx : x = 0
      · simp [hx, pure_run]
      · have hn : x.toNat ≠ 0 := fun h => hx (UInt8.toNat_inj.mp h)
        simp only [hn, hx, if_false]
        cases left with
        | zero => simp at hl
        | succ left =>
          simp only [ih left limit _ (Bytes.suffix_succ hbs) (by simpa using hl), hmax]
          cases rawText? limit xs with
          | none => rfl
          | some r =>
            have hp : pos + 1 + rawTextSize limit xs = pos + (rawTextSize limit xs + 1) := by
              omega
            simp [hp]

theorem scan_run (limit : Nat) (b : Bytes) (pos : Nat) (o : ByteOrder) :
    (left >>= fun l => textBytes l limit []) b ⟨pos, o⟩ =
      match rawText? limit (b.suffix pos) with
      | some r => .ok r ⟨pos + rawTextSize limit (b.suffix pos), o⟩
      | none => .error (.truncated (max pos b.size) 1 0) ⟨max pos b.size, o⟩ := by
  have h := textBytes_run (o := o) (b.size - pos) limit [] (rfl : b.suffix pos = _) (by simp)
  simp only [List.reverse_nil, List.nil_append] at h
  exact h

theorem string_eq :
    string = uleb128 >>= fun units =>
      (fun bs => String.ofList (imageText bs)) <$>
        (left >>= fun l => textBytes l (3 * units) []) := by
  simp only [string, map_bind, bind_pure_comp]

theorem string_run (b : Bytes) (pos : Nat) (o : ByteOrder) :
    string b ⟨pos, o⟩ =
      match uleb128? (b.suffix pos) with
      | none => .error (.truncated (max pos b.size) 1 0) ⟨max pos b.size, o⟩
      | some (units, n) =>
        match rawText? (3 * units) (b.suffix (pos + n)) with
        | some bs =>
          .ok (String.ofList (imageText bs))
            ⟨pos + n + rawTextSize (3 * units) (b.suffix (pos + n)), o⟩
        | none => .error (.truncated b.size 1 0) ⟨b.size, o⟩ := by
  rw [string_eq, bind_run, uleb128_run]
  cases hd : uleb128? (b.suffix pos) with
  | none => rfl
  | some r =>
    obtain ⟨units, n⟩ := r
    have hn := uleb128?_length hd
    rw [Bytes.length_suffix] at hn
    have hmax : max (pos + n) b.size = b.size := by omega
    simp only [map_run, scan_run, hmax]
    cases rawText? (3 * units) (b.suffix (pos + n)) <;> rfl

theorem Reads.string (b : Bytes) (pos : Nat) (o : ByteOrder) :
    ∃ pos', Reads string b ⟨pos, o⟩ (b.stringAt pos) ⟨pos', o⟩ := by
  have h := string_run b pos o
  unfold Bytes.stringAt
  cases hd : uleb128? (b.suffix pos) with
  | none =>
    rw [hd] at h
    exact ⟨pos, .of_error h⟩
  | some r =>
    rw [hd] at h
    cases ht : rawText? (3 * r.1) (b.suffix (pos + r.2)) with
    | none =>
      simp only [ht] at h ⊢
      exact ⟨pos, .of_error h⟩
    | some bs =>
      simp only [ht] at h ⊢
      exact ⟨_, .of_ok h⟩

end Reader

end DexRefs
