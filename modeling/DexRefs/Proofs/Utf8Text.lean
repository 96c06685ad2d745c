import DexRefs.Image.Writer

/-!
The UTF-8 of a text is read back as that text: the machine goes from no sequence to no sequence
over the bytes of each character.  The byte C0 never comes up in it, so that no pair `C0 80` is
there to be turned into a zero byte.
-/

set_option autoImplicit false

namespace DexRefs

theorem toNat_byte {n : Nat} (h : n < 0x100) : (UInt8.ofNat n).toNat = n := by
  simp [Nat.mod_eq_of_lt h]

theorem startUtf8_one {n : Nat} (h : n ≤ 0x7f) :
    startUtf8 (UInt8.ofNat n) = ([Char.ofNat n], none) := by
  have hn := toNat_byte (n := n) (by omega)
  simp only [startUtf8, hn, h, if_true]

theorem startUtf8_two {n : Nat} (h₁ : 0xc2 ≤ n) (h₂ : n ≤ 0xdf) :
    startUtf8 (UInt8.ofNat n) = ([], some ⟨n - 0xc0, 0, 0x80, 0xbf⟩) := by
  have hn := toNat_byte (n := n) (by omega)
  have h0 : ¬ n ≤ 0x7f := by omega
  simp only [startUtf8, hn, h0, h₁, h₂, and_self, if_true, if_false]

theorem startUtf8_three {n : Nat} (h₁ : 0xe0 ≤ n) (h₂ : n ≤ 0xef) :
    startUtf8 (UInt8.ofNat n) =
      ([], some ⟨n - 0xe0, 1, if n = 0xe0 then 0xa0 else 0x80,
        if n = 0xed then 0x9f else 0xbf⟩) := by
  have hn := toNat_byte (n := n) (by omega)
  have h0 : ¬ n ≤ 0x7f := by omega
  have h1 : ¬ n ≤ 0xdf := by omega
  simp only [startUtf8, hn, h0, h1, and_false, if_false]
  by_cases he0 : n = 0xe0
  · simp [he0]
  by_cases hed : n = 0xed
  · simp [hed]
  have h3 : 0xe1 ≤ n := by omega
  simp [he0, hed, h3, h₂]

theorem startUtf8_four {n : Nat} (h₁ : 0xf0 ≤ n) (h₂ : n ≤ 0xf4) :
    startUtf8 (UInt8.ofNat n) =
      ([], some ⟨n - 0xf0, 2, if n = 0xf0 then 0x90 else 0x80,
        if n = 0xf4 then 0x8f else 0xbf⟩) := by
  have hn := toNat_byte (n := n) (by omega)
  have h0 : ¬ n ≤ 0x7f := by omega
  have h1 : ¬ n ≤ 0xdf := by omega
  have he0 : n ≠ 0xe0 := by omega
  have hed : n ≠ 0xed := by omega
  have h3 : ¬ n ≤ 0xef := by omega
  simp only [startUtf8, hn, h0, h1, he0, hed, h3, and_false, if_false]
  by_cases hf0 : n = 0xf0
  · simp [hf0]
  by_cases hf4 : n = 0xf4
  · simp [hf4]
  have h4 : 0xf1 ≤ n ∧ n ≤ 0xf3 := by omega
  simp [hf0, hf4, h4]

theorem stepUtf8_last {bits low high n : Nat} (hn : n < 0x100) (hl : low ≤ n) (hh : n ≤ high) :
    stepUtf8 (some ⟨bits, 0, low, high⟩) (UInt8.ofNat n) =
      ([Char.ofNat (bits * 64 + (n - 0x80))], none) := by
  simp only [stepUtf8, toNat_byte hn, hl, hh, and_self, if_true]

theorem stepUtf8_next {bits owed low high n : Nat} (hn : n < 0x100) (hl : low ≤ n)
    (hh : n ≤ high) :
    stepUtf8 (some ⟨bits, owed + 1, low, high⟩) (UInt8.ofNat n) =
      ([], some ⟨bits * 64 + (n - 0x80), owed, 0x80, 0xbf⟩) := by
  simp only [stepUtf8, toNat_byte hn, hl, hh, and_self, if_true]

theorem repairUtf8From_cons (s : Option Pending) (b : UInt8) (bs : List UInt8) :
    repairUtf8From s (b :: bs) =
      (stepUtf8 s b).1 ++ repairUtf8From (stepUtf8 s b).2 bs := rfl

/-- The bytes of one character take the machine from no sequence to no sequence. -/
theorem repairUtf8From_encodeChar (c : Char) (bs : List UInt8) :
    repairUtf8From none (String.utf8EncodeChar c ++ bs) = c :: repairUtf8From none bs := by
  have hv : c.val.toNat < 0xd800 ∨ 0xdfff < c.val.toNat ∧ c.val.toNat < 0x110000 := c.valid
  have hc : Char.ofNat c.val.toNat = c := Char.ofNat_toNat c
  unfold String.utf8EncodeChar
  generalize c.val.toNat = n at hv hc ⊢
  dsimp only
  -- by the number of bytes, as encoding goes; that no surrogate is a character keeps the second of
  -- three bytes within its range
  by_cases h₁ : n ≤ 0x7f
  · rw [if_pos h₁]
    simp only [List.cons_append, List.nil_append, repairUtf8From_cons, stepUtf8,
      startUtf8_one h₁, hc]
  by_cases h₂ : n ≤ 0x7ff
  · have hb : (n / 64 % 0x20 + 0xc0 - 0xc0) * 64 + (n % 0x40 + 0x80 - 0x80) = n := by omega
    rw [if_neg h₁, if_pos h₂]
    simp only [List.cons_append, List.nil_append, repairUtf8From_cons]
    rw [stepUtf8, startUtf8_two (by omega) (by omega)]
    dsimp only
    rw [stepUtf8_last (by omega) (by omega) (by omega), hb, hc]
    rfl
  by_cases h₃ : n ≤ 0xffff
  · have hb : ((n / 4096 % 0x10 + 0xe0 - 0xe0) * 64 + (n / 64 % 0x40 + 0x80 - 0x80)) * 64 +
        (n % 0x40 + 0x80 - 0x80) = n := by omega
    rw [if_neg h₁, if_neg h₂, if_pos h₃]
    simp only [List.cons_append, List.nil_append, repairUtf8From_cons]
    rw [stepUtf8, startUtf8_three (by omega) (by omega)]
    dsimp only
    rw [stepUtf8_next (by omega) (by split <;> omega) (by split <;> omega)]
    dsimp only
    rw [stepUtf8_last (by omega) (by omega) (by omega), hb, hc]
    rfl
  · have hb : (((n / 262144 % 0x08 + 0xf0 - 0xf0) * 64 + (n / 4096 % 0x40 + 0x80 - 0x80)) * 64 +
        (n / 64 % 0x40 + 0x80 - 0x80)) * 64 + (n % 0x40 + 0x80 - 0x80) = n := by omega
    rw [if_neg h₁, if_neg h₂, if_neg h₃]
    simp only [List.cons_append, List.nil_append, repairUtf8From_cons]
    rw [stepUtf8, startUtf8_four (by omega) (by omega)]
    dsimp only
    rw [stepUtf8_next (by omega) (by split <;> omega) (by split <;> omega)]
    dsimp only
    rw [stepUtf8_next (by omega) (by omega) (by omega)]
    dsimp only
    rw [stepUtf8_last (by omega) (by omega) (by omega), hb, hc]
    rfl

theorem repairUtf8_encode (cs : List Char) :
    repairUtf8 (cs.flatMap String.utf8EncodeChar) = cs := by
  induction cs with
  | nil => rfl
  | cons c cs ih =>
    rw [List.flatMap_cons, repairUtf8, repairUtf8From_encodeChar]
    exact congrArg (c :: ·) ih

theorem mem_utf8EncodeChar {c : Char} {b : UInt8} (h : b ∈ String.utf8EncodeChar c) :
    b.toNat ≠ 0xc0 ∧ (b.toNat = 0 → c = '\x00') := by
  have hv : c.val.toNat < 0xd800 ∨ 0xdfff < c.val.toNat ∧ c.val.toNat < 0x110000 := c.valid
  have hc : Char.ofNat c.val.toNat = c := Char.ofNat_toNat c
  have h0 : c.val.toNat = 0 → c = '\x00' := fun h => by rw [← hc, h]
  suffices hb : b.toNat ≠ 0xc0 ∧ (b.toNat = 0 → c.val.toNat = 0) from
    ⟨hb.1, fun h => h0 (hb.2 h)⟩
  unfold String.utf8EncodeChar at h
  generalize c.val.toNat = n at hv h ⊢
  dsimp only at h
  split at h
  · obtain rfl := List.mem_singleton.mp h
    rw [toNat_byte (by omega)]
    omega
  split at h
  · simp only [List.mem_cons, List.not_mem_nil, or_false] at h
    rcases h with rfl | rfl <;> rw [toNat_byte (by omega)] <;> omega
  split at h
  · simp only [List.mem_cons, List.not_mem_nil, or_false] at h
    rcases h with rfl | rfl | rfl <;> rw [toNat_byte (by omega)] <;> omega
  · simp only [List.mem_cons, List.not_mem_nil, or_false] at h
    rcases h with rfl | rfl | rfl | rfl <;> rw [toNat_byte (by omega)] <;> omega

theorem foldNulPairs_eq_self {bs : List UInt8} (h : ∀ b ∈ bs, b.toNat ≠ 0xc0) :
    foldNulPairs bs = bs := by
  fun_induction foldNulPairs bs with
  | case1 bs ih => simp at h
  | case2 b bs hb ih => rw [ih fun x hx => h x (by simp [hx])]
  | case3 => rfl

theorem imageText_utf8Bytes (s : String) : imageText (utf8Bytes s) = s.toList := by
  have h : ∀ b ∈ utf8Bytes s, b.toNat ≠ 0xc0 := by
    intro b hb
    obtain ⟨c, -, hc⟩ := List.mem_flatMap.mp hb
    exact (mem_utf8EncodeChar hc).1
  rw [imageText, foldNulPairs_eq_self h]
  exact repairUtf8_encode s.toList

theorem zero_not_mem_utf8Bytes {s : String} (h : '\x00' ∉ s.toList) : 0 ∉ utf8Bytes s := by
  intro h0
  obtain ⟨c, hc, hb⟩ := List.mem_flatMap.mp h0
  have he := (mem_utf8EncodeChar hb).2 rfl
  exact h (he ▸ hc)

/-- A character takes at most three bytes for each of its UTF-16 units. -/
theorem length_utf8_le (cs : List Char) :
    (cs.flatMap String.utf8EncodeChar).length ≤ 3 * utf16Units cs := by
  induction cs with
  | nil => simp
  | cons c cs ih =>
    have hc : (String.utf8EncodeChar c).length ≤ 3 * (if c.toNat < 0x10000 then 1 else 2) := by
      rw [String.length_utf8EncodeChar]
      have h4 := c.utf8Size_le_four
      by_cases h : c.toNat < 0x10000
      · have hn : c.utf8Size ≠ 4 := fun h4 => by
          have hv := UInt32.lt_iff_toNat_lt.mp (Char.utf8Size_eq_four_iff.mp h4)
          exact absurd h (Nat.not_lt.mpr hv)
        rw [if_pos h]
        omega
      · rw [if_neg h]
        omega
    rw [List.flatMap_cons, List.length_append, utf16Units]
    omega

end DexRefs
