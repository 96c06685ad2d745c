import DexRefs.Proofs.RepairedText
import Mathlib.Data.List.TakeWhile

/-!
How reading a string item ends, by the bytes at and after the cursor.  There are four ways: the
length does not end, a zero byte ends the text, the length bounds the text, or the bytes end
before either.
-/

set_option autoImplicit false

namespace DexRefs

def groupsValue : List UInt8 → Nat
  | [] => 0
  | x :: xs => x.toNat % 0x80 + 0x80 * groupsValue xs

/-- From `pos` up to `next` stand the groups of the number `n`: every byte but the last one
announces a further byte. -/
inductive NumberAt (b : Bytes) (pos : Nat) : (n next : Nat) → Prop
  | groups {more : List UInt8} {last : UInt8} {rest : List UInt8}
      (hb : b.suffix pos = more ++ last :: rest) (hmore : ∀ x ∈ more, 0x80 ≤ x.toNat)
      (hlast : last.toNat < 0x80) :
      NumberAt b pos (groupsValue (more ++ [last])) (pos + (more.length + 1))

section Number

variable {more rest : List UInt8} {last : UInt8}

theorem uleb128?_groups (hmore : ∀ x ∈ more, 0x80 ≤ x.toNat) (hlast : last.toNat < 0x80) :
    uleb128? (more ++ last :: rest) = some (groupsValue (more ++ [last]), more.length + 1) := by
  induction more with
  | nil => simp [uleb128?, groupsValue, hlast, Nat.mod_eq_of_lt hlast]
  | cons x xs ih =>
    obtain ⟨hx, hxs⟩ := List.forall_mem_cons.mp hmore
    rw [List.cons_append, uleb128?, if_neg (by omega), ih hxs]
    rfl

theorem uleb128?_eq_none {bs : List UInt8} (h : ∀ x ∈ bs, 0x80 ≤ x.toNat) : uleb128? bs = none := by
  induction bs with
  | nil => rfl
  | cons x xs ih =>
    obtain ⟨hx, hxs⟩ := List.forall_mem_cons.mp h
    rw [uleb128?, if_neg (by omega), ih hxs]
    rfl

theorem exists_groups (bs : List UInt8) : (∀ x ∈ bs, 0x80 ≤ x.toNat) ∨
    ∃ more last rest, bs = more ++ last :: rest ∧ (∀ x ∈ more, 0x80 ≤ x.toNat) ∧
      last.toNat < 0x80 := by
  induction bs with
  | nil => simp
  | cons x xs ih =>
    by_cases hx : x.toNat < 0x80
    · exact .inr ⟨[], x, xs, rfl, by simp, hx⟩
    · rcases ih with h | ⟨more, last, rest, rfl, hmore, hlast⟩
      · exact .inl (List.forall_mem_cons.mpr ⟨by omega, h⟩)
      · exact .inr ⟨x :: more, last, rest, rfl, List.forall_mem_cons.mpr ⟨by omega, hmore⟩, hlast⟩

end Number

section Scan

variable {raw rest bs : List UInt8} {limit : Nat}

theorem nonzero_of_not_mem (h0 : 0 ∉ raw) : ∀ x ∈ raw, decide (x ≠ 0) = true := by
  intro x hx
  rw [decide_eq_true_eq]
  exact fun h => h0 (h ▸ hx)

theorem rawText?_terminated (h : bs.take limit = raw ++ 0 :: rest) (h0 : 0 ∉ raw) :
    rawText? limit bs = some raw ∧ rawTextSize limit bs = raw.length + 1 := by
  have htake : (raw ++ 0 :: rest).takeWhile (· ≠ 0) = raw := by
    rw [List.takeWhile_append_of_pos (nonzero_of_not_mem h0)]
    simp
  unfold rawText? rawTextSize
  rw [h, htake]
  simp

theorem rawText?_bounded (h0 : 0 ∉ bs.take limit) (hl : limit ≤ bs.length) :
    rawText? limit bs = some (bs.take limit) ∧ rawTextSize limit bs = limit := by
  unfold rawText? rawTextSize
  rw [List.takeWhile_eq_self_iff.mpr (nonzero_of_not_mem h0)]
  simp [h0, hl]

theorem rawText?_cut (h0 : 0 ∉ bs.take limit) (hl : bs.length < limit) :
    rawText? limit bs = none := by
  unfold rawText?
  rw [if_neg]
  simp only [h0, false_or]
  omega

end Scan

theorem NumberAt.string_run {b : Bytes} {c : Cursor} {n q : Nat} (hn : NumberAt b c.pos n q) :
    Reader.string b c =
      match rawText? (3 * n) (b.suffix q) with
      | some bs => .ok (String.ofList (imageText bs))
          ⟨q + rawTextSize (3 * n) (b.suffix q), c.order⟩
      | none => .error (.truncated b.size 1 0) ⟨b.size, c.order⟩ := by
  cases hn with
  | groups hb hmore hlast =>
    have hrun := Reader.string_run b c.pos c.order
    rw [hb, uleb128?_groups hmore hlast] at hrun
    exact hrun

/-- The ways in which reading a string item from a cursor ends.  The number at the cursor bounds
the text by three bytes a unit. -/
inductive StringOutcome (b : Bytes) (c : Cursor) : EStateM.Result Fault Cursor String → Prop
  | unended (h : ∀ x ∈ b.suffix c.pos, 0x80 ≤ x.toNat) :
      StringOutcome b c
        (.error (.truncated (max c.pos b.size) 1 0) ⟨max c.pos b.size, c.order⟩)
  /-- The first zero byte within the bound ends the text and is taken too. -/
  | terminated {n q : Nat} {raw rest : List UInt8} {text : List Char}
      (hn : NumberAt b c.pos n q) (hraw : b.window q (3 * n) = raw ++ 0 :: rest) (h0 : 0 ∉ raw)
      (ht : Repaired (foldNulPairs raw) text) :
      StringOutcome b c (.ok (String.ofList text) ⟨q + raw.length + 1, c.order⟩)
  /-- All bytes within the bound are the text.  A zero byte after them is not taken. -/
  | bounded {n q : Nat} {text : List Char} (hn : NumberAt b c.pos n q)
      (h0 : 0 ∉ b.window q (3 * n)) (hfit : 3 * n ≤ b.size - q)
      (ht : Repaired (foldNulPairs (b.window q (3 * n))) text) :
      StringOutcome b c (.ok (String.ofList text) ⟨q + 3 * n, c.order⟩)
  | cut {n q : Nat} (hn : NumberAt b c.pos n q) (h0 : 0 ∉ b.window q (3 * n))
      (hshort : b.size - q < 3 * n) :
      StringOutcome b c (.error (.truncated b.size 1 0) ⟨b.size, c.order⟩)

namespace StringOutcome

variable {b : Bytes} {c : Cursor} {r : EStateM.Result Fault Cursor String}

theorem string_eq (h : StringOutcome b c r) : Reader.string b c = r := by
  cases h with
  | unended h =>
    have hrun := Reader.string_run b c.pos c.order
    rw [uleb128?_eq_none h] at hrun
    exact hrun
  | terminated hn hraw h0 ht =>
    rw [Bytes.window_eq] at hraw
    obtain ⟨hs, hsize⟩ := rawText?_terminated hraw h0
    rw [hn.string_run, hs, hsize, repaired_iff.mp ht]
    rfl
  | bounded hn h0 hfit ht =>
    rw [Bytes.window_eq] at h0 ht
    obtain ⟨hs, hsize⟩ := rawText?_bounded h0 (by rwa [Bytes.length_suffix])
    rw [hn.string_run, hs, hsize, repaired_iff.mp ht]
    rfl
  | cut hn h0 hshort =>
    rw [Bytes.window_eq] at h0
    rw [hn.string_run, rawText?_cut h0 (by rwa [Bytes.length_suffix])]

/-- One of the four ways is always open. -/
theorem exists_outcome (b : Bytes) (c : Cursor) : ∃ r, StringOutcome b c r := by
  rcases exists_groups (b.suffix c.pos) with h | ⟨more, last, rest, hb, hmore, hlast⟩
  · exact ⟨_, .unended h⟩
  have hn := NumberAt.groups hb hmore hlast
  generalize groupsValue (more ++ [last]) = n at hn
  generalize c.pos + (more.length + 1) = q at hn
  by_cases h0 : 0 ∈ b.window q (3 * n)
  · obtain ⟨raw, rest, hraw, hfirst⟩ := List.eq_append_cons_of_mem h0
    exact ⟨_, .terminated hn hraw hfirst (repaired_imageText raw)⟩
  by_cases hfit : 3 * n ≤ b.size - q
  · exact ⟨_, .bounded hn h0 hfit (repaired_imageText _)⟩
  · exact ⟨_, .cut hn h0 (by omega)⟩

end StringOutcome

/-- Reading a string item ends in just one of the four ways, for any bytes, from any cursor and
however long the item says that it is. -/
theorem Reader.string_eq_iff (b : Bytes) (c : Cursor) (r : EStateM.Result Fault Cursor String) :
    string b c = r ↔ StringOutcome b c r := by
  constructor
  · intro h
    obtain ⟨r', hr⟩ := StringOutcome.exists_outcome b c
    rwa [← h, hr.string_eq]
  · exact StringOutcome.string_eq

example : Reader.string #[1, 0x61, 0x62, 0x63, 0] ⟨0, .little⟩ = .ok "abc" ⟨4, .little⟩ := rfl

end DexRefs
