import DexRefs.Proofs.StringOutcome
import Mathlib.Algebra.BigOperators.Fin
import Mathlib.Data.List.ModifyLast
import Mathlib.Tactic.Ring

/-!
Numbers in base 128, told by the bytes at their places.  A number is read just where some byte
announces no further one, and is then the sum of its groups.  Groups that add nothing may follow
those that a number needs, so that each number is written in many ways, all of which are read as
that number.
-/

set_option autoImplicit false

namespace DexRefs

theorem Bytes.suffix_of_lt {b : Bytes} {pos : Nat} (h : pos < b.size) :
    b.suffix pos = b[pos] :: b.suffix (pos + 1) := by
  have hl : pos < b.toList.length := by simpa using h
  exact (List.drop_eq_getElem_cons hl).trans (by rw [Array.getElem_toList]; rfl)

theorem Bytes.mem_suffix {b : Bytes} {pos : Nat} {x : UInt8} :
    x ∈ b.suffix pos ↔ ∃ i, ∃ h : i < b.size, pos ≤ i ∧ b[i] = x := by
  rw [suffix, List.mem_drop_iff_getElem]
  constructor
  · intro h
    obtain ⟨i, hi, hx⟩ := h
    rw [Array.length_toList] at hi
    exact ⟨pos + i, by omega, by omega, by simpa using hx⟩
  · intro h
    obtain ⟨i, hi, hpos, hx⟩ := h
    refine ⟨i - pos, by rw [Array.length_toList]; omega, ?_⟩
    simpa [Nat.add_sub_cancel' hpos] using hx

theorem Bytes.suffix_parted {b : Bytes} {pos k : Nat} (h : pos + k < b.size) :
    b.suffix pos = b.window pos k ++ b[pos + k] :: b.suffix (pos + k + 1) := by
  rw [← suffix_of_lt h, suffix_add, window_eq, List.take_append_drop]

theorem Bytes.window_succ {b : Bytes} {pos k : Nat} (h : pos + k < b.size) :
    b.window pos (k + 1) = b.window pos k ++ [b[pos + k]] := by
  have hl : (b.window pos k).length = k := by
    rw [length_window]
    omega
  rw [window_eq b pos (k + 1), suffix_parted h, List.take_append, hl,
    List.take_of_length_le (by omega)]
  simp

theorem Bytes.mem_window {b : Bytes} {pos k : Nat} {x : UInt8} (h : pos + k ≤ b.size)
    (hx : x ∈ b.window pos k) : ∃ i : Fin k, b[pos + i] = x := by
  obtain ⟨i, hi, rfl⟩ := List.getElem_of_mem hx
  rw [length_window] at hi
  exact ⟨⟨i, by omega⟩, by simp [window]⟩

section Groups

variable {b : Bytes} {pos : Nat}

theorem groupsValue_window {n : Nat} (h : pos + n ≤ b.size) :
    groupsValue (b.window pos n) =
      ∑ i : Fin n, b[pos + i].toNat % 128 * 128 ^ (i : Nat) := by
  induction n generalizing pos with
  | zero => simp [Bytes.window_eq, groupsValue]
  | succ n ih =>
    have hcons : b.window pos (n + 1) = b[pos] :: b.window (pos + 1) n := by
      rw [Bytes.window_eq, Bytes.window_eq, Bytes.suffix_of_lt (by omega), List.take_succ_cons]
    rw [hcons, groupsValue, ih (by omega), Fin.sum_univ_succ, Finset.mul_sum]
    simp only [Fin.val_zero, Nat.add_zero, Nat.pow_zero, Nat.mul_one, Fin.val_succ,
      Nat.add_right_inj]
    refine Finset.sum_congr rfl fun i _ => ?_
    have hi : pos + 1 + (i : Nat) = pos + (i + 1) := by omega
    simp only [hi]
    ring

theorem groupsValue_append (xs ys : List UInt8) :
    groupsValue (xs ++ ys) = groupsValue xs + 128 ^ xs.length * groupsValue ys := by
  induction xs with
  | nil => simp [groupsValue]
  | cons x xs ih =>
    rw [List.cons_append, groupsValue, groupsValue, ih, List.length_cons]
    ring

end Groups

section Written

/-- The bytes are the groups of the number `n`, and only the last one announces no further byte. -/
structure IsNumber (bs : List UInt8) (n : Nat) : Prop where
  groups : ∃ more last, bs = more ++ [last] ∧ (∀ x ∈ more, 0x80 ≤ x.toNat) ∧ last.toNat < 0x80
  value : groupsValue bs = n

theorem isNumber_of_uleb128? {bs : List UInt8} {n : Nat}
    (h : uleb128? bs = some (n, bs.length)) : IsNumber bs n := by
  rcases exists_groups bs with hall | ⟨more, last, rest, rfl, hmore, hlast⟩
  · cases (uleb128?_eq_none hall).symm.trans h
  · rw [uleb128?_groups hmore hlast] at h
    simp only [Option.some.injEq, Prod.mk.injEq, List.length_append, List.length_cons] at h
    obtain rfl := List.length_eq_zero_iff.mp (show rest.length = 0 by omega)
    exact ⟨⟨more, last, rfl, hmore, hlast⟩, h.1⟩

theorem isNumber_uleb128Bytes (n : Nat) : IsNumber (uleb128Bytes n) n := by
  have h := uleb128?_bytes n []
  rw [List.append_nil] at h
  exact isNumber_of_uleb128? h

/-- The groups of a number with `surplus` more of them, which add nothing. -/
def paddedBytes (n : Nat) : (surplus : Nat) → List UInt8
  | 0 => uleb128Bytes n
  | surplus + 1 =>
    (uleb128Bytes n).modifyLast (· ||| 0x80) ++ List.replicate surplus 0x80 ++ [0]

theorem toNat_announcing {x : UInt8} (h : x.toNat < 0x80) :
    (x ||| 0x80).toNat = x.toNat + 0x80 := by
  have hor := Nat.two_pow_add_eq_or_of_lt (i := 7) h 1
  rw [UInt8.toNat_or, Nat.or_comm]
  exact hor.symm.trans (Nat.add_comm _ _)

theorem groupsValue_surplus (z : Nat) : groupsValue (List.replicate z 0x80 ++ [0]) = 0 := by
  induction z with
  | zero => rfl
  | succ z ih => simp [List.replicate_succ, groupsValue, ih]

theorem isNumber_paddedBytes (n surplus : Nat) : IsNumber (paddedBytes n surplus) n := by
  cases surplus with
  | zero => exact isNumber_uleb128Bytes n
  | succ z =>
    obtain ⟨⟨more, last, hbytes, hmore, hlast⟩, hvalue⟩ := isNumber_uleb128Bytes n
    have hannouncing := toNat_announcing hlast
    have hpadded : paddedBytes n (z + 1) =
        more ++ (last ||| 0x80) :: List.replicate z 0x80 ++ [0] := by
      rw [paddedBytes, hbytes, List.modifyLast_concat]
      simp
    rw [hpadded]
    refine ⟨⟨_, 0, rfl, ?_, by decide⟩, ?_⟩
    · intro x hx
      rcases List.mem_append.mp hx with hx | hx
      · exact hmore x hx
      · rcases List.mem_cons.mp hx with rfl | hx
        · omega
        · rw [List.eq_of_mem_replicate hx]
          decide
    · have hmod : (last.toNat + 0x80) % 0x80 = last.toNat % 0x80 := by omega
      rw [hbytes, groupsValue_append] at hvalue
      rw [List.append_assoc, List.cons_append, groupsValue_append, groupsValue, hannouncing,
        groupsValue_surplus, hmod]
      exact hvalue

theorem IsNumber.uleb128?_append {bs : List UInt8} {n : Nat} (h : IsNumber bs n)
    (rest : List UInt8) : uleb128? (bs ++ rest) = some (n, bs.length) := by
  obtain ⟨⟨more, last, rfl, hmore, hlast⟩, rfl⟩ := h
  rw [List.append_assoc, List.singleton_append, uleb128?_groups hmore hlast]
  simp

end Written

inductive NumberOutcome (b : Bytes) (c : Cursor) : EStateM.Result Fault Cursor Nat → Prop
  /-- The `k`-th byte is the first one that announces no further byte. -/
  | ended {k : Nat} (hk : c.pos + k < b.size) (hmore : ∀ i : Fin k, 0x80 ≤ b[c.pos + i].toNat)
      (hlast : b[c.pos + k].toNat < 0x80) :
      NumberOutcome b c
        (.ok (∑ i : Fin (k + 1), b[c.pos + i].toNat % 128 * 128 ^ (i : Nat))
          ⟨c.pos + (k + 1), c.order⟩)
  | unended (h : ∀ i, ∀ h : i < b.size, c.pos ≤ i → 0x80 ≤ b[i].toNat) :
      NumberOutcome b c
        (.error (.truncated (max c.pos b.size) 1 0) ⟨max c.pos b.size, c.order⟩)

namespace NumberOutcome

variable {b : Bytes} {c : Cursor} {r : EStateM.Result Fault Cursor Nat}

theorem uleb128_eq (h : NumberOutcome b c r) : Reader.uleb128 b c = r := by
  have hrun := Reader.uleb128_run b c.pos c.order
  cases h with
  | @ended k hk hmore hlast =>
    have hall : ∀ x ∈ b.window c.pos k, 0x80 ≤ x.toNat := by
      intro x hx
      obtain ⟨i, rfl⟩ := Bytes.mem_window (by omega) hx
      exact hmore i
    rw [Bytes.suffix_parted hk, uleb128?_groups hall hlast, ← Bytes.window_succ hk,
      groupsValue_window (by omega), Bytes.length_window, Nat.min_eq_left (by omega)] at hrun
    exact hrun
  | unended h =>
    have hall : ∀ x ∈ b.suffix c.pos, 0x80 ≤ x.toNat := by
      intro x hx
      obtain ⟨i, hi, hpos, rfl⟩ := Bytes.mem_suffix.mp hx
      exact h i hi hpos
    rw [uleb128?_eq_none hall] at hrun
    exact hrun

/-- The first byte that announces no further one, where there is one at all, decides. -/
theorem exists_outcome (b : Bytes) (c : Cursor) : ∃ r, NumberOutcome b c r := by
  by_cases hex : ∃ k, ∃ h : c.pos + k < b.size, b[c.pos + k].toNat < 0x80
  · classical
    obtain ⟨hk, hlast⟩ := Nat.find_spec hex
    refine ⟨_, .ended hk (fun i => ?_) hlast⟩
    have hi := Nat.find_min hex i.isLt
    rw [not_exists] at hi
    exact Nat.not_lt.mp (hi (by omega))
  · refine ⟨_, .unended fun i hi hpos => Nat.not_lt.mp fun hlast => hex ⟨i - c.pos, ?_⟩⟩
    simp only [Nat.add_sub_cancel' hpos]
    exact ⟨hi, hlast⟩

end NumberOutcome

namespace Reader

theorem uleb128_iff_outcome (b : Bytes) (c : Cursor) (r : EStateM.Result Fault Cursor Nat) :
    uleb128 b c = r ↔ NumberOutcome b c r := by
  constructor
  · intro h
    obtain ⟨r', hr⟩ := NumberOutcome.exists_outcome b c
    rwa [← h, hr.uleb128_eq]
  · exact NumberOutcome.uleb128_eq

theorem uleb128_succeeds_iff (b : Bytes) (c : Cursor) :
    (∃ n d, uleb128 b c = .ok n d) ↔ ∃ i, ∃ h : i < b.size, c.pos ≤ i ∧ b[i].toNat < 0x80 := by
  obtain ⟨r, hr⟩ := NumberOutcome.exists_outcome b c
  rw [hr.uleb128_eq]
  cases hr with
  | @ended k hk _ hlast => exact ⟨fun _ => ⟨_, hk, by omega, hlast⟩, fun _ => ⟨_, _, rfl⟩⟩
  | unended h =>
    constructor
    · intro hex
      obtain ⟨n, d, hok⟩ := hex
      cases hok
    · intro hex
      obtain ⟨i, hi, hpos, hlast⟩ := hex
      have hmore := h i hi hpos
      omega

/-- However many groups that add nothing a number is written with, it is read, up to what follows
it. -/
theorem uleb128_padded (n surplus : Nat) (before rest : List UInt8) (o : ByteOrder) :
    uleb128 (before ++ paddedBytes n surplus ++ rest).toArray ⟨before.length, o⟩ =
      .ok n ⟨before.length + (paddedBytes n surplus).length, o⟩ := by
  have hsuffix : Bytes.suffix (before ++ paddedBytes n surplus ++ rest).toArray before.length =
      paddedBytes n surplus ++ rest := by
    rw [Bytes.suffix, List.append_assoc, List.drop_left]
  rw [uleb128_run, hsuffix, (isNumber_paddedBytes n surplus).uleb128?_append]

/-- Reading a number ends in just one of two ways, for any bytes and from any cursor.  It succeeds
just where some byte at or after the cursor announces no further one.  A number that is written with
any surplus of groups is read as itself, and what follows it is left. -/
theorem uleb128_decided :
    (∀ b c r, uleb128 b c = r ↔ NumberOutcome b c r) ∧
      (∀ b c, (∃ n d, uleb128 b c = .ok n d) ↔
        ∃ i, ∃ h : i < b.size, c.pos ≤ i ∧ b[i].toNat < 0x80) ∧
      ∀ n surplus before rest o,
        uleb128 (before ++ paddedBytes n surplus ++ rest).toArray ⟨before.length, o⟩ =
          .ok n ⟨before.length + (paddedBytes n surplus).length, o⟩ :=
  ⟨uleb128_iff_outcome, uleb128_succeeds_iff, uleb128_padded⟩

example : uleb128 #[0x85, 0x80, 0x00, 0x01] ⟨0, .big⟩ = .ok 5 ⟨3, .big⟩ := rfl

end Reader

end DexRefs
