import DexRefs.Proofs.Written
import Mathlib.Data.List.Basic

/-!
Image strings that are written UTF-16 unit by UTF-16 unit, surrogates included, and what the
reader makes of them.
-/

set_option autoImplicit false

namespace DexRefs

def utf16 (c : Char) : List Nat :=
  if c.toNat < 0x10000 then [c.toNat]
  else [0xd800 + (c.toNat - 0x10000) / 0x400, 0xdc00 + (c.toNat - 0x10000) % 0x400]

/-- One to three bytes for a UTF-16 unit.  The unit zero takes two. -/
def unitBytes (u : Nat) : List UInt8 :=
  if 0 < u ∧ u < 0x80 then [UInt8.ofNat u]
  else if u < 0x800 then [UInt8.ofNat (0xc0 + u / 0x40), UInt8.ofNat (0x80 + u % 0x40)]
  else
    [UInt8.ofNat (0xe0 + u / 0x1000), UInt8.ofNat (0x80 + u / 0x40 % 0x40),
      UInt8.ofNat (0x80 + u % 0x40)]

def unitText (cs : List Char) : List UInt8 :=
  (cs.flatMap utf16).flatMap unitBytes

def unitItem (s : String) : List UInt8 :=
  uleb128Bytes (s.toList.flatMap utf16).length ++ unitText s.toList ++ [0]

/-- What the reader makes of a character that is written unit by unit.  No byte of a surrogate
starts or continues a sequence. -/
def asRead (c : Char) : List Char :=
  if c.toNat < 0x10000 then [c] else List.replicate 6 replacement

theorem length_utf16 (cs : List Char) : (cs.flatMap utf16).length = utf16Units cs := by
  induction cs with
  | nil => rfl
  | cons c cs ih =>
    rw [List.flatMap_cons, List.length_append, ih, utf16Units, utf16]
    split <;> rfl

theorem unitText_cons (c : Char) (cs : List Char) :
    unitText (c :: cs) = (utf16 c).flatMap unitBytes ++ unitText cs := by
  simp [unitText]

theorem foldNulPairs_append {xs : List UInt8} (h : ∀ b ∈ xs, b.toNat ≠ 0xc0) (ys : List UInt8) :
    foldNulPairs (xs ++ ys) = xs ++ foldNulPairs ys := by
  induction xs with
  | nil => rfl
  | cons x xs ih =>
    have hx : x ≠ 0xc0 := fun he => h x (by simp) (by rw [he]; rfl)
    rw [List.cons_append, List.cons_append, ← ih fun b hb => h b (by simp [hb])]
    rw [foldNulPairs]
    intro bs he
    cases he
    exact absurd rfl hx

theorem unitBytes_toNat {c : Char} (h : c.toNat < 0x10000) (h0 : c ≠ '\x00') :
    unitBytes c.toNat = String.utf8EncodeChar c := by
  have hz : c.val.toNat ≠ 0 := fun hz => h0 (by rw [← Char.ofNat_toNat c, Char.toNat, hz])
  change c.val.toNat < 0x10000 at h
  change unitBytes c.val.toNat = _
  unfold unitBytes String.utf8EncodeChar
  generalize c.val.toNat = n at h hz ⊢
  dsimp only
  by_cases h₁ : n ≤ 0x7f
  · rw [if_pos (by omega), if_pos h₁]
  by_cases h₂ : n ≤ 0x7ff
  · rw [if_neg (by omega), if_pos (by omega), if_neg h₁, if_pos h₂]
    rw [show 0xc0 + n / 0x40 = n / 64 % 0x20 + 0xc0 by omega,
      show 0x80 + n % 0x40 = n % 0x40 + 0x80 by omega]
  · rw [if_neg (by omega), if_neg (by omega), if_neg h₁, if_neg h₂, if_pos (by omega)]
    rw [show 0xe0 + n / 0x1000 = n / 4096 % 0x10 + 0xe0 by omega,
      show 0x80 + n / 0x40 % 0x40 = n / 64 % 0x40 + 0x80 by omega,
      show 0x80 + n % 0x40 = n % 0x40 + 0x80 by omega]

theorem unitBytes_surrogate {u : Nat} (h₁ : 0xd800 ≤ u) (h₂ : u < 0xe000) :
    unitBytes u = [UInt8.ofNat 0xed, UInt8.ofNat (0x80 + u / 0x40 % 0x40),
      UInt8.ofNat (0x80 + u % 0x40)] := by
  unfold unitBytes
  rw [if_neg (by omega), if_neg (by omega), show 0xe0 + u / 0x1000 = 0xed by omega]

theorem startUtf8_continuation {n : Nat} (h₁ : 0x80 ≤ n) (h₂ : n < 0xc0) :
    startUtf8 (UInt8.ofNat n) = ([replacement], none) := by
  have hn := toNat_byte (show n < 0x100 by omega)
  unfold startUtf8
  rw [hn]
  repeat rw [if_neg (by omega)]

/-- The first byte of a surrogate starts a sequence that the second one cannot continue. -/
theorem repairUtf8From_surrogate {u : Nat} (h₁ : 0xd800 ≤ u) (h₂ : u < 0xe000) (bs : List UInt8) :
    repairUtf8From none (unitBytes u ++ bs) =
      replacement :: replacement :: replacement :: repairUtf8From none bs := by
  have hstep : stepUtf8 (some ⟨0xd, 1, 0x80, 0x9f⟩) (UInt8.ofNat (0x80 + u / 0x40 % 0x40)) =
      ([replacement, replacement], none) := by
    have hn := toNat_byte (show 0x80 + u / 0x40 % 0x40 < 0x100 by omega)
    simp only [stepUtf8, hn]
    rw [if_neg (by omega), startUtf8_continuation (by omega) (by omega)]
  rw [unitBytes_surrogate h₁ h₂]
  simp only [List.cons_append, List.nil_append, repairUtf8From_cons]
  rw [stepUtf8, startUtf8_three (by omega) (by omega)]
  dsimp only
  simp only [Nat.reduceSub, Nat.reduceEqDiff, if_false, if_true, hstep]
  rw [stepUtf8, startUtf8_continuation (by omega) (by omega)]
  rfl

theorem surrogates_of_supplementary {c : Char} (h : ¬ c.toNat < 0x10000) :
    ∃ u v, utf16 c = [u, v] ∧ (0xd800 ≤ u ∧ u < 0xe000) ∧ 0xd800 ≤ v ∧ v < 0xe000 := by
  have hv : c.toNat < 0xd800 ∨ 0xdfff < c.toNat ∧ c.toNat < 0x110000 := c.valid
  exact ⟨_, _, if_neg h, by omega, by omega⟩

theorem ne_c0_of_mem_surrogate {u : Nat} (h₁ : 0xd800 ≤ u) (h₂ : u < 0xe000) {b : UInt8}
    (hb : b ∈ unitBytes u) : b.toNat ≠ 0xc0 := by
  rw [unitBytes_surrogate h₁ h₂] at hb
  simp only [List.mem_cons, List.not_mem_nil, or_false] at hb
  rcases hb with rfl | rfl | rfl <;> rw [toNat_byte (by omega)] <;> omega

theorem imageText_unitText (cs : List Char) : imageText (unitText cs) = cs.flatMap asRead := by
  induction cs with
  | nil => rfl
  | cons c cs ih =>
    unfold imageText repairUtf8 at ih ⊢
    rw [unitText_cons, List.flatMap_cons, ← ih]
    by_cases h : c.toNat < 0x10000
    · rw [utf16, if_pos h, asRead, if_pos h, List.flatMap_singleton]
      by_cases h0 : c = '\x00'
      · rw [h0]
        rfl
      · rw [unitBytes_toNat h h0, foldNulPairs_append fun b hb => (mem_utf8EncodeChar hb).1,
          repairUtf8From_encodeChar]
        rfl
    · obtain ⟨u, v, huv, hu, hv⟩ := surrogates_of_supplementary h
      have hc0 : ∀ b ∈ unitBytes u ++ unitBytes v, b.toNat ≠ 0xc0 := by
        intro b hb
        rcases List.mem_append.mp hb with hb | hb
        · exact ne_c0_of_mem_surrogate hu.1 hu.2 hb
        · exact ne_c0_of_mem_surrogate hv.1 hv.2 hb
      have hcat : [u, v].flatMap unitBytes = unitBytes u ++ unitBytes v := by simp
      rw [asRead, if_neg h, huv, hcat, foldNulPairs_append hc0, List.append_assoc,
        repairUtf8From_surrogate hu.1 hu.2, repairUtf8From_surrogate hv.1 hv.2]
      rfl

theorem unit_lt {c : Char} {u : Nat} (h : u ∈ utf16 c) : u < 0x10000 := by
  by_cases hc : c.toNat < 0x10000
  · rw [utf16, if_pos hc, List.mem_singleton] at h
    omega
  · obtain ⟨v, w, huv, hv, hw⟩ := surrogates_of_supplementary hc
    simp only [huv, List.mem_cons, List.not_mem_nil, or_false] at h
    omega

theorem byte_ne_zero {n : Nat} (h₁ : 0 < n) (h₂ : n < 0x100) : 0 ≠ UInt8.ofNat n := by
  intro h
  have hn := congrArg UInt8.toNat h
  rw [toNat_byte h₂] at hn
  exact Nat.ne_of_lt h₁ hn

theorem zero_not_mem_unitBytes {u : Nat} (h : u < 0x10000) : 0 ∉ unitBytes u := by
  unfold unitBytes
  split
  · simp only [List.mem_singleton]
    exact byte_ne_zero (by omega) (by omega)
  split <;> simp only [List.mem_cons, List.not_mem_nil, or_false, not_or]
  · exact ⟨byte_ne_zero (by omega) (by omega), byte_ne_zero (by omega) (by omega)⟩
  · exact ⟨byte_ne_zero (by omega) (by omega), byte_ne_zero (by omega) (by omega),
      byte_ne_zero (by omega) (by omega)⟩

theorem zero_not_mem_unitText (cs : List Char) : 0 ∉ unitText cs := by
  intro h
  obtain ⟨u, hu, hb⟩ := List.mem_flatMap.mp h
  obtain ⟨c, -, hc⟩ := List.mem_flatMap.mp hu
  exact zero_not_mem_unitBytes (unit_lt hc) hb

theorem length_unitBytes_le (u : Nat) : (unitBytes u).length ≤ 3 := by
  unfold unitBytes
  split
  · simp
  split <;> simp

theorem length_unitText_le (cs : List Char) : (unitText cs).length ≤ 3 * utf16Units cs := by
  rw [← length_utf16, unitText]
  induction cs.flatMap utf16 with
  | nil => simp
  | cons u us ih =>
    have hu := length_unitBytes_le u
    rw [List.flatMap_cons, List.length_append, List.length_cons]
    omega

def readBack (s : String) : String := String.ofList (s.toList.flatMap asRead)

def BasicPlane (s : String) : Prop := ∀ c ∈ s.toList, c.toNat < 0x10000

variable {b : Bytes} {p q : Nat} {s t : String}

theorem stringAt_unitItem (h : b.Holds p (unitItem s)) : b.stringAt p = .ok (readBack s) := by
  obtain ⟨rest, hr⟩ := h
  have hs : b.suffix p =
      uleb128Bytes (s.toList.flatMap utf16).length ++ (unitText s.toList ++ 0 :: rest) := by
    rw [← hr]
    simp [unitItem]
  have hl := length_unitText_le s.toList
  rw [← length_utf16] at hl
  rw [stringAt_of_suffix hs (zero_not_mem_unitText s.toList) hl, imageText_unitText, readBack]

theorem lt_of_mem_asRead {c d : Char} (h : c ∈ asRead d) : c.toNat < 0x10000 := by
  by_cases hd : d.toNat < 0x10000
  · rw [asRead, if_pos hd, List.mem_singleton] at h
    rwa [h]
  · rw [asRead, if_neg hd] at h
    rw [List.eq_of_mem_replicate h]
    decide

theorem readBack_eq_self : readBack s = s ↔ BasicPlane s := by
  constructor
  · intro h c hc
    rw [← h, readBack, String.toList_ofList] at hc
    obtain ⟨d, -, hd⟩ := List.mem_flatMap.mp hc
    exact lt_of_mem_asRead hd
  · intro h
    have hs : s.toList.flatMap asRead = s.toList.flatMap fun c => [c] :=
      List.flatMap_congr fun c hc => if_pos (h c hc)
    rw [readBack, hs, List.flatMap_singleton', String.ofList_toList]

namespace Reader

variable {o : ByteOrder}

/-- An item that is written unit by unit is read as its text with six replacement characters for
each character past U+FFFF, whatever follows it.  So it is read as its text if and only if there
is no such character, and different texts without them are read as different ones. -/
theorem string_unitItem (h : b.Holds p (unitItem s)) :
    (∃ c, string b ⟨p, o⟩ = .ok (readBack s) c) ∧ (readBack s = s ↔ BasicPlane s) ∧
      ∀ {q t}, b.Holds q (unitItem t) → BasicPlane s → BasicPlane t → s ≠ t →
        ∃ v w c d, string b ⟨p, o⟩ = .ok v c ∧ string b ⟨q, o⟩ = .ok w d ∧ v ≠ w := by
  have hread {p s} (h : b.Holds p (unitItem s)) : ∃ c, string b ⟨p, o⟩ = .ok (readBack s) c := by
    obtain ⟨e, hr⟩ := Reads.string b p o
    rw [stringAt_unitItem h] at hr
    exact ⟨⟨e, o⟩, hr⟩
  refine ⟨hread h, readBack_eq_self, ?_⟩
  intro q t ht hs ht' hne
  obtain ⟨c, hc⟩ := hread h
  obtain ⟨d, hd⟩ := hread ht
  rw [readBack_eq_self.mpr hs] at hc
  rw [readBack_eq_self.mpr ht'] at hd
  exact ⟨s, t, c, d, hc, hd, hne⟩

def nulThenAcute : Bytes := #[2, 0x61, 0xc0, 0x80, 0, 1, 0xc3, 0xa9, 0]

theorem string_unitItem_nulThenAcute :
    nulThenAcute.Holds 0 (unitItem "a\x00") ∧ readBack "a\x00" = "a\x00" ∧
      ∃ v w c d, string nulThenAcute ⟨0, .little⟩ = .ok v c ∧
        string nulThenAcute ⟨5, .little⟩ = .ok w d ∧ v ≠ w := by
  have h₁ : nulThenAcute.Holds 0 (unitItem "a\x00") := by
    rw [unitItem, uleb128Bytes]
    exact ⟨[1, 0xc3, 0xa9, 0], by decide⟩
  have h₂ : nulThenAcute.Holds 5 (unitItem "é") := by
    rw [unitItem, uleb128Bytes]
    exact ⟨[], by decide⟩
  have h := string_unitItem (o := .little) h₁
  have hs : BasicPlane "a\x00" := by simp [BasicPlane]
  have ht : BasicPlane "é" := by simp [BasicPlane]
  exact ⟨h₁, h.2.1.mpr hs, h.2.2 h₂ hs ht (by decide)⟩

/-- Two characters past U+FFFF that are read as one text. -/
theorem string_unitItem_faces :
    unitItem "😀" = [2, 0xed, 0xa0, 0xbd, 0xed, 0xb8, 0x80, 0] ∧
      unitItem "😁" = [2, 0xed, 0xa0, 0xbd, 0xed, 0xb8, 0x81, 0] ∧
      (∃ c, string #[2, 0xed, 0xa0, 0xbd, 0xed, 0xb8, 0x80, 0] ⟨0, .little⟩ =
        .ok "\ufffd\ufffd\ufffd\ufffd\ufffd\ufffd" c) ∧
      ∃ c, string #[2, 0xed, 0xa0, 0xbd, 0xed, 0xb8, 0x81, 0] ⟨0, .little⟩ =
        .ok "\ufffd\ufffd\ufffd\ufffd\ufffd\ufffd" c := by
  refine ⟨?_, ?_, ⟨⟨7, .little⟩, rfl⟩, ⟨⟨7, .little⟩, rfl⟩⟩
  · rw [unitItem, uleb128Bytes]
    decide
  · rw [unitItem, uleb128Bytes]
    decide

end Reader

end DexRefs
