import DexRefs.Proofs.Written
import Mathlib.Data.List.Infix

/-!
What the reader of UTF-8 makes of any bytes, told by the bytes and the characters they encode, and
without the states of the machine: characters where their UTF-8 stands, and a replacement for the
longest bytes that begin a character without completing it, or else for a single byte.

A pair `C0 80` is read as U+0000 whatever stands around it, and nothing but such pairs is.
-/

set_option autoImplicit false

namespace DexRefs

/-- The UTF-8 of some character begins with these bytes and goes on after them. -/
def Opens (bs : List UInt8) : Prop :=
  ∃ c t, t ≠ [] ∧ String.utf8EncodeChar c = bs ++ t

/-- At a place where no character stands, the bytes before `rest` that one replacement stands
for. -/
inductive Broken : (part rest : List UInt8) → Prop
  /-- The longest bytes that begin a character: the next byte, if there is one, rules out every
  character. -/
  | cut {part rest : List UInt8} (hne : part ≠ []) (hopen : Opens part)
      (hmax : ∀ x xs, rest = x :: xs → ∀ c t, String.utf8EncodeChar c ≠ part ++ x :: t) :
      Broken part rest
  | stray {x : UInt8} {rest : List UInt8} (h : ∀ c t, String.utf8EncodeChar c ≠ x :: t) :
      Broken [x] rest

/-- The text of bytes that need not be UTF-8. -/
inductive Repaired : List UInt8 → List Char → Prop
  | nil : Repaired [] []
  | char (c : Char) {bs : List UInt8} {cs : List Char} (h : Repaired bs cs) :
      Repaired (String.utf8EncodeChar c ++ bs) (c :: cs)
  | broken {part bs : List UInt8} {cs : List Char} (hp : Broken part bs) (h : Repaired bs cs) :
      Repaired (part ++ bs) (replacement :: cs)

section Encoding

theorem ofNat_eq_of_toNat {n : Nat} {b : UInt8} (h : n = b.toNat) : UInt8.ofNat n = b := by
  rw [h, UInt8.ofNat_toNat]

theorem exists_char {n : Nat} (h : n < 0xd800 ∨ 0xdfff < n ∧ n < 0x110000) :
    ∃ c : Char, c.val.toNat = n := by
  exact ⟨Char.ofNatAux n h, rfl⟩

theorem exists_encode_one {a : UInt8} (ha : a.toNat ≤ 0x7f) :
    ∃ c : Char, c.toNat = a.toNat ∧ String.utf8EncodeChar c = [a] := by
  obtain ⟨c, hc⟩ := exists_char (n := a.toNat) (by omega)
  refine ⟨c, hc, ?_⟩
  unfold String.utf8EncodeChar
  rw [hc]
  dsimp only
  rw [if_pos ha, ofNat_eq_of_toNat rfl]

theorem exists_encode_two {a x : UInt8} (ha : 0xc2 ≤ a.toNat ∧ a.toNat ≤ 0xdf)
    (hx : 0x80 ≤ x.toNat ∧ x.toNat ≤ 0xbf) :
    ∃ c : Char, c.toNat = (a.toNat - 0xc0) * 64 + (x.toNat - 0x80) ∧
      String.utf8EncodeChar c = [a, x] := by
  generalize hn : (a.toNat - 0xc0) * 64 + (x.toNat - 0x80) = n
  obtain ⟨c, hc⟩ := exists_char (n := n) (by omega)
  refine ⟨c, hc, ?_⟩
  unfold String.utf8EncodeChar
  rw [hc]
  dsimp only
  rw [if_neg (by omega), if_pos (by omega)]
  rw [ofNat_eq_of_toNat (b := a) (by omega), ofNat_eq_of_toNat (b := x) (by omega)]

theorem exists_encode_three {a x y : UInt8} (ha : 0xe0 ≤ a.toNat ∧ a.toNat ≤ 0xef)
    (hx : (if a.toNat = 0xe0 then 0xa0 else 0x80) ≤ x.toNat ∧
      x.toNat ≤ if a.toNat = 0xed then 0x9f else 0xbf)
    (hy : 0x80 ≤ y.toNat ∧ y.toNat ≤ 0xbf) :
    ∃ c : Char, c.toNat = ((a.toNat - 0xe0) * 64 + (x.toNat - 0x80)) * 64 + (y.toNat - 0x80) ∧
      String.utf8EncodeChar c = [a, x, y] := by
  have hx' : 0x80 ≤ x.toNat ∧ x.toNat ≤ 0xbf ∧ (a.toNat = 0xe0 → 0xa0 ≤ x.toNat) ∧
      (a.toNat = 0xed → x.toNat ≤ 0x9f) := by
    split at hx <;> split at hx <;> omega
  generalize hn : ((a.toNat - 0xe0) * 64 + (x.toNat - 0x80)) * 64 + (y.toNat - 0x80) = n
  obtain ⟨c, hc⟩ := exists_char (n := n) (by omega)
  refine ⟨c, hc, ?_⟩
  unfold String.utf8EncodeChar
  rw [hc]
  dsimp only
  rw [if_neg (by omega), if_neg (by omega), if_pos (by omega)]
  rw [ofNat_eq_of_toNat (b := a) (by omega), ofNat_eq_of_toNat (b := x) (by omega),
    ofNat_eq_of_toNat (b := y) (by omega)]

theorem exists_encode_four {a x y z : UInt8} (ha : 0xf0 ≤ a.toNat ∧ a.toNat ≤ 0xf4)
    (hx : (if a.toNat = 0xf0 then 0x90 else 0x80) ≤ x.toNat ∧
      x.toNat ≤ if a.toNat = 0xf4 then 0x8f else 0xbf)
    (hy : 0x80 ≤ y.toNat ∧ y.toNat ≤ 0xbf) (hz : 0x80 ≤ z.toNat ∧ z.toNat ≤ 0xbf) :
    ∃ c : Char, c.toNat = (((a.toNat - 0xf0) * 64 + (x.toNat - 0x80)) * 64 +
        (y.toNat - 0x80)) * 64 + (z.toNat - 0x80) ∧
      String.utf8EncodeChar c = [a, x, y, z] := by
  have hx' : 0x80 ≤ x.toNat ∧ x.toNat ≤ 0xbf ∧ (a.toNat = 0xf0 → 0x90 ≤ x.toNat) ∧
      (a.toNat = 0xf4 → x.toNat ≤ 0x8f) := by
    split at hx <;> split at hx <;> omega
  generalize hn : (((a.toNat - 0xf0) * 64 + (x.toNat - 0x80)) * 64 + (y.toNat - 0x80)) * 64 +
    (z.toNat - 0x80) = n
  obtain ⟨c, hc⟩ := exists_char (n := n) (by omega)
  refine ⟨c, hc, ?_⟩
  unfold String.utf8EncodeChar
  rw [hc]
  dsimp only
  rw [if_neg (by omega), if_neg (by omega), if_neg (by omega)]
  rw [ofNat_eq_of_toNat (b := a) (by omega), ofNat_eq_of_toNat (b := x) (by omega),
    ofNat_eq_of_toNat (b := y) (by omega), ofNat_eq_of_toNat (b := z) (by omega)]

end Encoding

namespace Pending

def Completes (n : Nat) : Pending → List UInt8 → Prop
  | _, [] => False
  | p, x :: xs => (p.low ≤ x.toNat ∧ x.toNat ≤ p.high) ∧
      match p.owed with
      | 0 => xs = [] ∧ n = p.bits * 64 + (x.toNat - 0x80)
      | owed + 1 => Completes n ⟨p.bits * 64 + (x.toNat - 0x80), owed, 0x80, 0xbf⟩ xs

theorem exists_completes (bits owed : Nat) {low high : Nat} (hl : low ≤ high)
    (hh : high < 0x100) : ∃ n t, t ≠ [] ∧ Completes n ⟨bits, owed, low, high⟩ t := by
  have hx := toNat_byte (n := low) (by omega)
  induction owed generalizing bits low high with
  | zero => exact ⟨_, [UInt8.ofNat low], by simp, by simp [hx, hl], rfl, rfl⟩
  | succ owed ih =>
    obtain ⟨n, t, -, ht⟩ := ih (bits * 64 + ((UInt8.ofNat low).toNat - 0x80))
      (by decide : 0x80 ≤ 0xbf) (by decide) (toNat_byte (by omega))
    exact ⟨n, UInt8.ofNat low :: t, by simp, by simp [hx, hl], ht⟩

/-- The machine, started on `part`, has given nothing and is in the state `p`. -/
structure Begun (part : List UInt8) (p : Pending) : Prop where
  ne_nil : part ≠ []
  range : p.low ≤ p.high ∧ p.high < 0x100
  run : ∀ bs, repairUtf8From none (part ++ bs) = repairUtf8From (some p) bs
  completes : ∀ n t, p.Completes n t →
    ∃ c : Char, c.toNat = n ∧ String.utf8EncodeChar c = part ++ t

variable {part : List UInt8} {p : Pending}

theorem Begun.opens (h : Begun part p) : Opens part := by
  obtain ⟨n, t, hne, ht⟩ := exists_completes p.bits p.owed h.range.1 h.range.2
  obtain ⟨c, -, hc⟩ := h.completes n t ht
  exact ⟨c, t, hne, hc⟩

end Pending

open Pending

theorem begun_of_start {b : UInt8} {p : Pending} (hs : startUtf8 b = ([], some p))
    (hr : p.low ≤ p.high ∧ p.high < 0x100)
    (hc : ∀ n t, p.Completes n t →
      ∃ c : Char, c.toNat = n ∧ String.utf8EncodeChar c = b :: t) : Begun [b] p := by
  refine ⟨by simp, hr, fun bs => ?_, hc⟩
  rw [List.singleton_append, repairUtf8From_cons, stepUtf8, hs]
  rfl

theorem begun_two {b : UInt8} (h : 0xc2 ≤ b.toNat ∧ b.toNat ≤ 0xdf) :
    ∃ p, startUtf8 b = ([], some p) ∧ Begun [b] p := by
  have hs := startUtf8_two h.1 h.2
  rw [UInt8.ofNat_toNat] at hs
  refine ⟨_, hs, begun_of_start hs (by simp) fun n t ht => ?_⟩
  rcases t with _ | ⟨x, t⟩
  · exact ht.elim
  simp only [Completes] at ht
  obtain ⟨hx, rfl, hn⟩ := ht
  rw [hn]
  exact exists_encode_two h hx

theorem begun_three {b : UInt8} (h : 0xe0 ≤ b.toNat ∧ b.toNat ≤ 0xef) :
    ∃ p, startUtf8 b = ([], some p) ∧ Begun [b] p := by
  have hs := startUtf8_three h.1 h.2
  rw [UInt8.ofNat_toNat] at hs
  refine ⟨_, hs, begun_of_start hs (by dsimp only; split <;> split <;> omega) fun n t ht => ?_⟩
  rcases t with _ | ⟨x, _ | ⟨y, t⟩⟩
  · exact ht.elim
  · exact ht.2.elim
  simp only [Completes] at ht
  obtain ⟨hx, hy, rfl, hn⟩ := ht
  rw [hn]
  exact exists_encode_three h hx hy

theorem begun_four {b : UInt8} (h : 0xf0 ≤ b.toNat ∧ b.toNat ≤ 0xf4) :
    ∃ p, startUtf8 b = ([], some p) ∧ Begun [b] p := by
  have hs := startUtf8_four h.1 h.2
  rw [UInt8.ofNat_toNat] at hs
  refine ⟨_, hs, begun_of_start hs (by dsimp only; split <;> split <;> omega) fun n t ht => ?_⟩
  rcases t with _ | ⟨x, _ | ⟨y, _ | ⟨z, t⟩⟩⟩
  · exact ht.elim
  · exact ht.2.elim
  · exact ht.2.2.elim
  simp only [Completes] at ht
  obtain ⟨hx, hy, hz, rfl, hn⟩ := ht
  rw [hn]
  exact exists_encode_four h hx hy hz

theorem startUtf8_stray {b : UInt8} (h : ¬ b.toNat ≤ 0x7f)
    (h₂ : ¬ (0xc2 ≤ b.toNat ∧ b.toNat ≤ 0xdf)) (h₃ : ¬ (0xe0 ≤ b.toNat ∧ b.toNat ≤ 0xef))
    (h₄ : ¬ (0xf0 ≤ b.toNat ∧ b.toNat ≤ 0xf4)) : startUtf8 b = ([replacement], none) := by
  unfold startUtf8
  dsimp only
  repeat rw [if_neg (by omega)]

theorem startUtf8_cases (b : UInt8) :
    (∃ c, startUtf8 b = ([c], none) ∧ String.utf8EncodeChar c = [b]) ∨
      (∃ p, startUtf8 b = ([], some p) ∧ Begun [b] p) ∨
      startUtf8 b = ([replacement], none) := by
  by_cases h₁ : b.toNat ≤ 0x7f
  · obtain ⟨c, hc, he⟩ := exists_encode_one h₁
    have hs := startUtf8_one h₁
    rw [UInt8.ofNat_toNat, ← hc, Char.ofNat_toNat] at hs
    exact .inl ⟨c, hs, he⟩
  by_cases h₂ : 0xc2 ≤ b.toNat ∧ b.toNat ≤ 0xdf
  · exact .inr (.inl (begun_two h₂))
  by_cases h₃ : 0xe0 ≤ b.toNat ∧ b.toNat ≤ 0xef
  · exact .inr (.inl (begun_three h₃))
  by_cases h₄ : 0xf0 ≤ b.toNat ∧ b.toNat ≤ 0xf4
  · exact .inr (.inl (begun_four h₄))
  · exact .inr (.inr (startUtf8_stray h₁ h₂ h₃ h₄))

section Machine

theorem repairUtf8From_some_ne_nil (p : Pending) (bs : List UInt8) :
    repairUtf8From (some p) bs ≠ [] := by
  induction bs generalizing p with
  | nil => simp [repairUtf8From, endUtf8]
  | cons x xs ih =>
    rw [repairUtf8From_cons, stepUtf8]
    split
    · cases p.owed with
      | zero => simp
      | succ owed => simpa using ih _
    · simp

theorem repairUtf8_cons_ne_nil (x : UInt8) (xs : List UInt8) : repairUtf8 (x :: xs) ≠ [] := by
  rw [repairUtf8, repairUtf8From_cons, stepUtf8]
  rcases startUtf8_cases x with ⟨c, hs, -⟩ | ⟨p, hs, -⟩ | hs
  · simp [hs]
  · simpa [hs] using repairUtf8From_some_ne_nil p xs
  · simp [hs]

theorem repairUtf8_encodeChar_append (c : Char) (bs : List UInt8) :
    repairUtf8 (String.utf8EncodeChar c ++ bs) = c :: repairUtf8 bs :=
  repairUtf8From_encodeChar c bs

theorem repairUtf8_encodeChar (c : Char) : repairUtf8 (String.utf8EncodeChar c) = [c] := by
  have h := repairUtf8_encodeChar_append c []
  rwa [List.append_nil] at h

variable {part : List UInt8} {p : Pending} {x : UInt8}

/-- Where the machine gives up a sequence, no character goes on with the byte. -/
theorem Pending.Begun.refuses (h : Begun part p) (hx : ¬ (p.low ≤ x.toNat ∧ x.toNat ≤ p.high))
    (xs : List UInt8) : repairUtf8 (part ++ x :: xs) = replacement :: repairUtf8 (x :: xs) := by
  rw [repairUtf8, h.run, repairUtf8From_cons, stepUtf8, if_neg hx]
  rfl

theorem Pending.Begun.encode_ne (h : Begun part p) (hx : ¬ (p.low ≤ x.toNat ∧ x.toNat ≤ p.high))
    (c : Char) (t : List UInt8) : String.utf8EncodeChar c ≠ part ++ x :: t := by
  intro he
  have hr := h.refuses hx t
  rw [← he, repairUtf8_encodeChar, List.cons.injEq] at hr
  exact repairUtf8_cons_ne_nil x t hr.2.symm

theorem Pending.Begun.accepts (h : Begun part p) (hx : p.low ≤ x.toNat ∧ x.toNat ≤ p.high) :
    (∃ c, String.utf8EncodeChar c = part ++ [x]) ∨ ∃ q, Begun (part ++ [x]) q := by
  obtain ⟨bits, owed, low, high⟩ := p
  cases owed with
  | zero =>
    obtain ⟨c, -, hc⟩ := h.completes _ [x] ⟨hx, rfl, rfl⟩
    exact .inl ⟨c, hc⟩
  | succ owed =>
    refine .inr ⟨⟨bits * 64 + (x.toNat - 0x80), owed, 0x80, 0xbf⟩, by simp, by simp, ?_, ?_⟩
    · intro bs
      rw [List.append_assoc, h.run, List.singleton_append, repairUtf8From_cons, stepUtf8, if_pos hx]
      rfl
    · intro n t ht
      obtain ⟨c, hn, hc⟩ := h.completes n (x :: t) ⟨hx, ht⟩
      exact ⟨c, hn, by rw [hc]; simp⟩

theorem repairUtf8_stray (hs : startUtf8 x = ([replacement], none)) (xs : List UInt8) :
    repairUtf8 (x :: xs) = replacement :: repairUtf8 xs := by
  rw [repairUtf8, repairUtf8From_cons, stepUtf8, hs]
  rfl

theorem encode_ne_of_stray (hs : startUtf8 x = ([replacement], none)) (c : Char)
    (t : List UInt8) : String.utf8EncodeChar c ≠ x :: t := by
  intro he
  have hr := repairUtf8_stray hs t
  rw [← he, repairUtf8_encodeChar, List.cons.injEq] at hr
  obtain ⟨rfl, ht⟩ := hr
  cases t with
  | nil => exact absurd (congrArg List.length he) (by simp only [List.length_cons]; decide)
  | cons y ys => exact repairUtf8_cons_ne_nil y ys ht.symm

/-- The UTF-8 of a character does not go on after the UTF-8 of another. -/
theorem not_opens_encodeChar (c : Char) : ¬ Opens (String.utf8EncodeChar c) := by
  rintro ⟨d, t, hne, hd⟩
  have hr := repairUtf8_encodeChar_append c t
  rw [← hd, repairUtf8_encodeChar, List.cons.injEq] at hr
  cases t with
  | nil => exact hne rfl
  | cons y ys => exact repairUtf8_cons_ne_nil y ys hr.2.symm

theorem Opens.of_append {bs t : List UInt8} (hne : t ≠ []) (h : Opens (bs ++ t)) : Opens bs := by
  obtain ⟨c, t', -, hc⟩ := h
  exact ⟨c, t ++ t', by simp [hne], by rw [hc, List.append_assoc]⟩

theorem exists_begun (hne : part ≠ []) (h : Opens part) : ∃ p, Begun part p := by
  -- byte by byte from the front, as the machine goes: the last byte is its next step
  induction part using List.reverseRecOn with
  | nil => exact absurd rfl hne
  | append_singleton init x ih =>
    by_cases hi : init = []
    · subst hi
      rw [List.nil_append] at h ⊢
      rcases startUtf8_cases x with ⟨c, -, hc⟩ | ⟨p, -, hp⟩ | hs
      · exact absurd (hc ▸ h) (not_opens_encodeChar c)
      · exact ⟨p, hp⟩
      · obtain ⟨c, t, -, hc⟩ := h
        exact absurd hc (encode_ne_of_stray hs c t)
    · obtain ⟨p, hp⟩ := ih hi (h.of_append (by simp))
      by_cases hx : p.low ≤ x.toNat ∧ x.toNat ≤ p.high
      · rcases hp.accepts hx with ⟨c, hc⟩ | hq
        · exact absurd (hc ▸ h) (not_opens_encodeChar c)
        · exact hq
      · obtain ⟨c, t, -, hc⟩ := h
        rw [List.append_assoc, List.singleton_append] at hc
        exact absurd hc (hp.encode_ne hx c t)

theorem Broken.repairUtf8_append {rest : List UInt8} (h : Broken part rest) :
    repairUtf8 (part ++ rest) = replacement :: repairUtf8 rest := by
  cases h with
  | cut hne hopen hmax =>
    obtain ⟨p, hp⟩ := exists_begun hne hopen
    cases rest with
    | nil => rw [repairUtf8, hp.run]; rfl
    | cons x xs =>
      refine hp.refuses (fun hx => ?_) xs
      rcases hp.accepts hx with ⟨c, hc⟩ | ⟨q, hq⟩
      · exact hmax x xs rfl c [] hc
      · obtain ⟨c, t, -, hc⟩ := hq.opens
        rw [List.append_assoc, List.singleton_append] at hc
        exact hmax x xs rfl c t hc
  | @stray x _ hx =>
    rcases startUtf8_cases x with ⟨c, -, hc⟩ | ⟨p, -, hp⟩ | hs
    · exact absurd hc (hx c [])
    · obtain ⟨c, t, -, hc⟩ := hp.opens
      exact absurd hc (hx c t)
    · exact repairUtf8_stray hs rest

theorem Pending.Begun.broken (h : Begun part p) {rest : List UInt8}
    (hrest : ∀ x xs, rest = x :: xs → ¬ (p.low ≤ x.toNat ∧ x.toNat ≤ p.high)) :
    Broken part rest :=
  .cut h.ne_nil h.opens fun x xs he c t => h.encode_ne (hrest x xs he) c t

theorem Broken.repaired {rest : List UInt8} (h : Broken part rest)
    (hr : Repaired rest (repairUtf8 rest)) :
    Repaired (part ++ rest) (repairUtf8 (part ++ rest)) := by
  rw [h.repairUtf8_append]
  exact .broken h hr

theorem repaired_encodeChar {rest : List UInt8} {c : Char}
    (hr : Repaired rest (repairUtf8 rest)) (hc : String.utf8EncodeChar c = part) :
    Repaired (part ++ rest) (repairUtf8 (part ++ rest)) := by
  rw [← hc, repairUtf8_encodeChar_append]
  exact .char c hr

theorem repaired_append (bs : List UInt8) : Repaired bs (repairUtf8 bs) ∧
    ∀ part p, Begun part p → Repaired (part ++ bs) (repairUtf8 (part ++ bs)) := by
  induction bs with
  | nil =>
    have hnil : Repaired [] (repairUtf8 []) := .nil
    exact ⟨hnil, fun part p h => (h.broken (by simp)).repaired hnil⟩
  | cons x xs ih =>
    obtain ⟨hxs, hpart⟩ := ih
    have hnone : Repaired (x :: xs) (repairUtf8 (x :: xs)) := by
      rcases startUtf8_cases x with ⟨c, -, hc⟩ | ⟨p, -, hp⟩ | hs
      · exact repaired_encodeChar hxs hc
      · exact hpart [x] p hp
      · exact (Broken.stray (encode_ne_of_stray hs)).repaired hxs
    refine ⟨hnone, fun part p h => ?_⟩
    by_cases hx : p.low ≤ x.toNat ∧ x.toNat ≤ p.high
    · rw [List.append_cons]
      rcases h.accepts hx with ⟨c, hc⟩ | ⟨q, hq⟩
      · exact repaired_encodeChar hxs hc
      · exact hpart _ q hq
    · refine (h.broken fun y ys he => ?_).repaired hnone
      cases he
      exact hx

/-- What the machine gives is the one text of the bytes. -/
theorem repaired_iff {bs : List UInt8} {cs : List Char} :
    Repaired bs cs ↔ cs = repairUtf8 bs := by
  constructor
  · intro h
    induction h with
    | nil => rfl
    | char c _ ih => rw [ih, repairUtf8_encodeChar_append]
    | broken hp _ ih => rw [ih, hp.repairUtf8_append]
  · intro h
    rw [h]
    exact (repaired_append bs).1

end Machine

section NulPairs

variable {part rest xs ys : List UInt8} {cs ds : List Char}

theorem encodeChar_nul : String.utf8EncodeChar '\x00' = [0] := by decide

theorem zero_not_mem_of_encodeChar {c : Char} {t : List UInt8} (hp : part ≠ []) (ht : t ≠ [])
    (hc : String.utf8EncodeChar c = part ++ t) : 0 ∉ part ++ t := by
  intro h0
  rw [← hc] at h0
  rw [(mem_utf8EncodeChar h0).2 rfl, encodeChar_nul] at hc
  have hlen := congrArg List.length hc
  have hplen := List.length_pos_of_ne_nil hp
  have htlen := List.length_pos_of_ne_nil ht
  simp only [List.length_cons, List.length_nil, List.length_append] at hlen
  omega

theorem Broken.zero_not_mem (h : Broken part rest) : 0 ∉ part := by
  cases h with
  | cut hne hopen hmax =>
    obtain ⟨c, t, ht, hc⟩ := hopen
    exact fun h0 => zero_not_mem_of_encodeChar hne ht hc (List.mem_append_left t h0)
  | stray hx =>
    rw [List.mem_singleton]
    rintro rfl
    exact hx '\x00' [] encodeChar_nul

theorem Broken.append_zero (h : Broken part rest) (ys : List UInt8) :
    Broken part (rest ++ 0 :: ys) := by
  cases h with
  | stray hx => exact .stray hx
  | cut hne hopen hmax =>
    refine .cut hne hopen fun x xs he c t => ?_
    cases rest with
    | cons y rest =>
      cases he
      exact hmax x rest rfl c t
    | nil =>
      cases he
      exact fun hc => zero_not_mem_of_encodeChar hne (by simp) hc (by simp)

theorem Repaired.append_zero (hx : Repaired xs cs) (hy : Repaired ys ds) :
    Repaired (xs ++ 0 :: ys) (cs ++ '\x00' :: ds) := by
  induction hx with
  | nil =>
    have h := Repaired.char '\x00' hy
    rwa [encodeChar_nul] at h
  | char c _ ih =>
    rw [List.append_assoc]
    exact .char c ih
  | broken hp _ ih =>
    rw [List.append_assoc]
    exact .broken (hp.append_zero ys) ih

theorem repairUtf8_append_zero (xs ys : List UInt8) :
    repairUtf8 (xs ++ 0 :: ys) = repairUtf8 xs ++ '\x00' :: repairUtf8 ys :=
  (repaired_iff.mp ((repaired_iff.mpr rfl).append_zero (repaired_iff.mpr rfl))).symm

theorem Repaired.count_nul (h : Repaired xs cs) : cs.count '\x00' = xs.count 0 := by
  induction h with
  | nil => rfl
  | char c _ ih =>
    rw [List.count_cons, List.count_append, ih, Nat.add_comm]
    by_cases hc : c = '\x00'
    · simp [hc, encodeChar_nul]
    · have h0 : 0 ∉ String.utf8EncodeChar c := fun h0 => hc ((mem_utf8EncodeChar h0).2 rfl)
      simp [hc, List.count_eq_zero_of_not_mem h0]
  | broken hp _ ih =>
    rw [List.count_cons_of_ne (by decide), List.count_append, ih,
      List.count_eq_zero_of_not_mem hp.zero_not_mem, Nat.zero_add]

/-- A pair is folded whatever stands before it: no byte before it can pair up with `C0`. -/
theorem foldNulPairs_append_pair (xs ys : List UInt8) :
    foldNulPairs (xs ++ 0xc0 :: 0x80 :: ys) = foldNulPairs xs ++ 0 :: foldNulPairs ys := by
  fun_induction foldNulPairs xs with
  | case1 xs ih => simp [foldNulPairs, ih]
  | case2 x xs hx ih =>
    rw [List.cons_append, List.cons_append, ← ih, foldNulPairs]
    intro zs hc0 he
    cases xs with
    | nil => cases he
    | cons y xs =>
      simp only [List.cons_append, List.cons.injEq] at he
      exact hx xs hc0 (by rw [he.1])
  | case3 => simp [foldNulPairs]

def nulPairs (xs : List UInt8) : Nat := (xs.zip xs.tail).count (0xc0, 0x80)

theorem nulPairs_cons (x y : UInt8) (xs : List UInt8) :
    nulPairs (x :: y :: xs) = nulPairs (y :: xs) + if x = 0xc0 ∧ y = 0x80 then 1 else 0 := by
  simp [nulPairs, List.count_cons]

theorem nulPairs_cons_of_ne {x : UInt8} (h : x ≠ 0xc0) (xs : List UInt8) :
    nulPairs (x :: xs) = nulPairs xs := by
  cases xs with
  | nil => rfl
  | cons y xs => simp [nulPairs_cons, h]

theorem count_foldNulPairs (h : 0 ∉ xs) : (foldNulPairs xs).count 0 = nulPairs xs := by
  fun_induction foldNulPairs xs with
  | case1 xs ih =>
    have hxs : 0 ∉ xs := fun h0 => h (by simp [h0])
    rw [List.count_cons_self, ih hxs, nulPairs_cons, nulPairs_cons_of_ne (by decide)]
    simp
  | case2 x xs hx ih =>
    have hxs : 0 ∉ xs := fun h0 => h (by simp [h0])
    have h0 : x ≠ 0 := fun h0 => h (by simp [h0])
    rw [List.count_cons_of_ne h0, ih hxs]
    cases xs with
    | nil => rfl
    | cons y xs =>
      have hpair : ¬ (x = 0xc0 ∧ y = 0x80) := fun he => hx xs he.1 (by rw [he.2])
      rw [nulPairs_cons, if_neg hpair, Nat.add_zero]
  | case3 => rfl

theorem repaired_imageText (xs : List UInt8) : Repaired (foldNulPairs xs) (imageText xs) :=
  repaired_iff.mpr rfl

end NulPairs

/-- A pair `C0 80` is read as U+0000 and splits the text around it, whatever bytes stand there.  So
in the raw bytes of an item, the pairs and nothing else are read as U+0000.  Any bytes at all are
read, as characters and replacements for what is broken, and an item that holds raw bytes is read
as their text. -/
theorem imageText_pairs :
    (∀ xs ys, imageText (xs ++ [0xc0, 0x80] ++ ys) = imageText xs ++ '\x00' :: imageText ys) ∧
      (∀ xs, 0 ∉ xs → (imageText xs).count '\x00' = nulPairs xs) ∧
      (∀ xs cs, Repaired (foldNulPairs xs) cs ↔ cs = imageText xs) ∧
      (∀ xs, ∀ c ∈ imageText xs, c.toNat < 0xd800 ∨ 0xdfff < c.toNat) ∧
      ∀ xs units (b : Bytes) c rest, 0 ∉ xs → xs.length ≤ 3 * units →
        b.suffix c.pos = uleb128Bytes units ++ (xs ++ 0 :: rest) →
        ∃ d, Reader.string b c = .ok (String.ofList (imageText xs)) d := by
  refine ⟨fun xs ys => ?_, fun xs h0 => ?_, fun xs cs => repaired_iff, fun xs c _ => ?_, ?_⟩
  · rw [List.append_assoc]
    show repairUtf8 (foldNulPairs (xs ++ 0xc0 :: 0x80 :: ys)) = _
    rw [foldNulPairs_append_pair, repairUtf8_append_zero]
    rfl
  · rw [(repaired_imageText xs).count_nul, count_foldNulPairs h0]
  · have hv : c.toNat < 0xd800 ∨ 0xdfff < c.toNat ∧ c.toNat < 0x110000 := c.valid
    exact hv.imp_right And.left
  · intro xs units b c rest h0 hlen hb
    obtain ⟨e, hr⟩ := Reader.Reads.string b c.pos c.order
    rw [stringAt_of_suffix hb h0 hlen] at hr
    exact ⟨⟨e, c.order⟩, hr⟩

def neighbours : List UInt8 := [0x61, 0xe2, 0xc0, 0xc0, 0x80, 0x80]

theorem imageText_pairs_neighbours : 0 ∉ neighbours ∧
    (imageText neighbours).count '\x00' = nulPairs neighbours ∧ nulPairs neighbours = 1 ∧
    imageText neighbours = imageText [0x61, 0xe2, 0xc0] ++ '\x00' :: imageText [0x80] ∧
    ∃ d, Reader.string (#[2] ++ neighbours.toArray ++ #[0]) ⟨0, .big⟩ =
      .ok "a\ufffd\ufffd\x00\ufffd" d := by
  have h0 : 0 ∉ neighbours := by decide
  obtain ⟨hsplit, hcount, -, -, hread⟩ := imageText_pairs
  obtain ⟨d, hd⟩ := hread neighbours 2 (#[2] ++ neighbours.toArray ++ #[0]) ⟨0, .big⟩ [] h0
    (by decide) (by rw [uleb128Bytes]; rfl)
  exact ⟨h0, hcount neighbours h0, by decide, hsplit [0x61, 0xe2, 0xc0] [0x80], d, hd⟩

end DexRefs
