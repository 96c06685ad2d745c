import DexRefs.Proofs.Placement
import DexRefs.Proofs.Utf8Text

/-!
Bytes that are known to stand at a place, and what is read there: words, rows of a table, string
items and parameter lists.
-/

set_option autoImplicit false

namespace DexRefs

namespace Bytes

def Holds (b : Bytes) (pos : Nat) (bs : List UInt8) : Prop := bs <+: b.suffix pos

theorem holds_toArray (bs : List UInt8) : Holds bs.toArray 0 bs := by
  simp [Holds, suffix]

variable {b : Bytes} {pos : Nat}

theorem holds_append {xs ys : List UInt8} :
    b.Holds pos (xs ++ ys) ↔ b.Holds pos xs ∧ b.Holds (pos + xs.length) ys := by
  unfold Holds
  rw [suffix_add]
  constructor
  · intro h
    obtain ⟨zs, hz⟩ := h
    rw [List.append_assoc] at hz
    refine ⟨⟨ys ++ zs, hz⟩, ⟨zs, ?_⟩⟩
    rw [← hz, List.drop_left]
  · intro h
    obtain ⟨⟨us, hu⟩, ⟨zs, hz⟩⟩ := h
    rw [← hu, List.drop_left] at hz
    exact ⟨zs, by rw [List.append_assoc, hz, hu]⟩

theorem Holds.size_le {bs : List UInt8} (h : b.Holds pos bs) (hne : bs ≠ []) :
    pos + bs.length ≤ b.size := by
  have hl := List.IsPrefix.length_le h
  rw [length_suffix] at hl
  have hp := List.length_pos_iff.mpr hne
  omega

theorem Holds.window_eq {bs : List UInt8} (h : b.Holds pos bs) : b.window pos bs.length = bs := by
  rw [Bytes.window_eq]
  exact (List.prefix_iff_eq_take.mp h).symm

theorem Holds.row {α : Type} {f : α → List UInt8} {width : Nat} {xs : List α}
    (h : b.Holds pos (xs.flatMap f)) (hf : ∀ x ∈ xs, (f x).length = width) (i : Nat)
    (hi : i < xs.length) : b.Holds (pos + width * i) (f xs[i]) := by
  induction xs generalizing pos i with
  | nil => simp at hi
  | cons x xs ih =>
    rw [List.flatMap_cons, holds_append, hf x (by simp)] at h
    cases i with
    | zero => simpa using h.1
    | succ i =>
      have hr := ih h.2 (fun y hy => hf y (by simp [hy])) i (by simpa using hi)
      rw [show pos + width * (i + 1) = pos + width + width * i by rw [Nat.mul_succ]; omega]
      exact hr

theorem length_flatMap_of_forall {α : Type} {f : α → List UInt8} {width : Nat} (xs : List α)
    (hf : ∀ x ∈ xs, (f x).length = width) : (xs.flatMap f).length = width * xs.length := by
  induction xs with
  | nil => simp
  | cons x xs ih =>
    rw [List.flatMap_cons, List.length_append, hf x (by simp), ih fun y hy => hf y (by simp [hy])]
    rw [List.length_cons, Nat.mul_succ]
    omega

end Bytes

variable {b : Bytes} {pos : Nat} {o : ByteOrder}

theorem ByteOrder.word_of_holds {width n : Nat} (h : b.Holds pos (o.bytes width n))
    (hn : n < 256 ^ width) : o.word b width pos = n := by
  have hw := h.window_eq
  rw [o.bytes_length] at hw
  rw [word, hw, o.value_bytes]
  exact Nat.mod_eq_of_lt hn

theorem ByteOrder.member_of_holds {x y z : Nat}
    (h : b.Holds pos (o.bytes 2 x ++ o.bytes 2 y ++ o.bytes 4 z)) (hx : x < 2 ^ 16)
    (hy : y < 2 ^ 16) (hz : z < 2 ^ 32) :
    o.word b 2 pos = x ∧ o.word b 2 (pos + 2) = y ∧ o.word b 4 (pos + 4) = z := by
  rw [Bytes.holds_append, Bytes.holds_append, List.length_append, o.bytes_length,
    o.bytes_length] at h
  exact ⟨o.word_of_holds h.1.1 hx, o.word_of_holds h.1.2 hy, o.word_of_holds h.2 hz⟩

theorem uleb128?_bytes (n : Nat) (bs : List UInt8) :
    uleb128? (uleb128Bytes n ++ bs) = some (n, (uleb128Bytes n).length) := by
  induction n using Nat.strongRecOn with
  | ind n ih =>
    rw [uleb128Bytes]
    by_cases h : n < 0x80
    · simp [h, uleb128?, Nat.mod_eq_of_lt (show n < 256 by omega)]
    · have hx := toNat_byte (show 0x80 + n % 0x80 < 0x100 by omega)
      have hm : (0x80 + n % 0x80) % 0x80 + 0x80 * (n / 0x80) = n := by omega
      have hlt : ¬ 0x80 + n % 0x80 < 0x80 := by omega
      rw [if_neg h, List.cons_append, uleb128?, hx, if_neg hlt, ih (n / 0x80) (by omega)]
      simp only [Option.map_some, hm, List.length_cons]

theorem rawText?_of_terminated {limit : Nat} {bs : List UInt8} (rest : List UInt8) (h0 : 0 ∉ bs)
    (hl : bs.length ≤ limit) : rawText? limit (bs ++ 0 :: rest) = some bs := by
  induction bs generalizing limit with
  | nil =>
    cases limit with
    | zero => exact rawText?_zero _
    | succ limit => rw [List.nil_append, rawText?_cons, if_pos rfl]
  | cons x xs ih =>
    cases limit with
    | zero => simp at hl
    | succ limit =>
      have hx : x ≠ 0 := fun h => h0 (by simp [h])
      rw [List.cons_append, rawText?_cons, if_neg hx,
        ih (fun h => h0 (by simp [h])) (by simpa using hl)]
      rfl

theorem stringAt_of_suffix {units : Nat} {bs rest : List UInt8}
    (h : b.suffix pos = uleb128Bytes units ++ (bs ++ 0 :: rest)) (h0 : 0 ∉ bs)
    (hl : bs.length ≤ 3 * units) : b.stringAt pos = .ok (String.ofList (imageText bs)) := by
  have hn : b.suffix (pos + (uleb128Bytes units).length) = bs ++ 0 :: rest := by
    rw [Bytes.suffix_add, h, List.drop_left]
  unfold Bytes.stringAt
  rw [h, uleb128?_bytes]
  dsimp only
  rw [hn, rawText?_of_terminated rest h0 hl]

theorem stringAt_of_holds {s : String} (h : b.Holds pos (stringItem s))
    (h0 : '\x00' ∉ s.toList) : b.stringAt pos = .ok s := by
  obtain ⟨rest, hr⟩ := h
  have hs : b.suffix pos =
      uleb128Bytes (utf16Units s.toList) ++ (utf8Bytes s ++ 0 :: rest) := by
    rw [← hr]
    simp [stringItem]
  rw [stringAt_of_suffix hs (zero_not_mem_utf8Bytes h0) (length_utf8_le s.toList),
    imageText_utf8Bytes, String.ofList_toList]

theorem parameterList_of_holds {s : Signature} (hpos : pos ≠ 0) (h : b.Holds pos (s.list o))
    (hl : s.parameters.length < 2 ^ 32) (hp : ∀ i ∈ s.parameters, i < 2 ^ 16) :
    Tables.parameterList b o pos = s.parameters := by
  rw [Signature.list, Bytes.holds_append, o.bytes_length] at h
  have hc : o.word b 4 pos = s.parameters.length := o.word_of_holds h.1 (by simpa using hl)
  rw [Tables.parameterList, if_neg hpos, hc]
  apply List.ext_getElem
  · simp
  · intro i h₁ h₂
    have hr := h.2.row (fun _ _ => o.bytes_length 2 _) i h₂
    have hi := hp s.parameters[i] (by simp)
    simpa using o.word_of_holds hr (by simpa using hi)

namespace Extent

theorem written_le {size pos n : Nat} (hs : size ≤ n) (hp : pos ≤ n) :
    (written size pos).size ≤ n ∧ (written size pos).off ≤ n := by
  unfold written
  refine ⟨hs, ?_⟩
  dsimp only
  split <;> omega

theorem fits_written {α : Type} {f : α → List UInt8} {width : Nat} {xs : List α}
    (h : b.Holds pos (xs.flatMap f)) (hf : ∀ x ∈ xs, (f x).length = width) (hw : 0 < width) :
    (written xs.length pos).Fits width b := by
  have hl := Bytes.length_flatMap_of_forall xs hf
  unfold Fits written
  by_cases h0 : xs.length = 0
  · exact .inl h0
  · have hne : xs.flatMap f ≠ [] := fun he => by
      rw [he, List.length_nil] at hl
      have := Nat.mul_pos hw (Nat.pos_of_ne_zero h0)
      omega
    have hs := h.size_le hne
    rw [hl] at hs
    exact .inr (by simpa [h0] using hs)

theorem rows_written {α : Type} {xs : List α} {width : Nat} {f : Nat → α}
    (h : ∀ i (hi : i < xs.length), f (pos + width * i) = xs[i]) :
    (written xs.length pos).rows width f = xs.toArray := by
  unfold rows
  congr 1
  apply List.ext_getElem
  · simp [written]
  · intro i h₁ h₂
    have h0 : xs.length ≠ 0 := by omega
    simp [written, h0, h i h₂]

end Extent

theorem length_stringOffsets (pos : Nat) (ss : List String) :
    (stringOffsets pos ss).length = ss.length := by
  induction ss generalizing pos with
  | nil => rfl
  | cons s ss ih => simp [stringOffsets, ih]

theorem holds_stringOffsets {ss : List String} (h : b.Holds pos (ss.flatMap stringItem)) (i : Nat)
    (hi : i < ss.length) (hi' : i < (stringOffsets pos ss).length) :
    b.Holds (stringOffsets pos ss)[i] (stringItem ss[i]) := by
  induction ss generalizing pos i with
  | nil => simp at hi
  | cons s ss ih =>
    rw [List.flatMap_cons, Bytes.holds_append] at h
    cases i with
    | zero => exact h.1
    | succ i => exact ih h.2 i (by simpa using hi) _

theorem length_listOffsets (pos : Nat) (ss : List Signature) :
    (listOffsets pos ss).length = ss.length := by
  induction ss generalizing pos with
  | nil => rfl
  | cons s ss ih =>
    unfold listOffsets
    split <;> simp [ih]

theorem length_list (s : Signature) (o : ByteOrder) :
    (s.list o).length = 4 + 2 * s.parameters.length := by
  have h := Bytes.length_flatMap_of_forall s.parameters fun i _ => o.bytes_length 2 i
  rw [Signature.list, List.length_append, o.bytes_length, h]

theorem holds_listOffsets {ss : List Signature} (hpos : 0 < pos)
    (h : b.Holds pos (listBytes o pos ss)) (i : Nat) (hi : i < ss.length)
    (hi' : i < (listOffsets pos ss).length) :
    (listOffsets pos ss)[i] = 0 ∧ ss[i].parameters = [] ∨
      (listOffsets pos ss)[i] ≠ 0 ∧ b.Holds (listOffsets pos ss)[i] (ss[i].list o) := by
  induction ss generalizing pos i with
  | nil => simp at hi
  | cons s ss ih =>
    unfold listBytes at h
    by_cases hs : s.parameters = []
    · rw [if_pos hs] at h
      simp only [listOffsets, hs, if_true] at hi' ⊢
      cases i with
      | zero => exact .inl ⟨rfl, hs⟩
      | succ i => exact ih hpos h i (by simpa using hi) _
    · rw [if_neg hs, Bytes.holds_append, Bytes.holds_append, List.length_append, length_list,
        List.length_replicate, ← Nat.add_assoc] at h
      simp only [listOffsets, hs, if_false] at hi' ⊢
      cases i with
      | zero => exact .inr ⟨by simp; omega, h.1.2⟩
      | succ i => exact ih (by omega) h.2 i (by simpa using hi) _

end DexRefs
