import DexRefs.Image.Header
import DexRefs.Proofs.Reading

/-!
The header read by position.  Every number of the header has a place of its own, from offset 32 to
offset 112; the magic and the tag alone decide in which order the words are taken.
-/

set_option autoImplicit false

namespace DexRefs

namespace Header

section Places

variable (b : Bytes) (o : ByteOrder)

def skipAt : (n pos : Nat) → Except Fault Unit
  | 0, _ => pure ()
  | n + 1, pos => do
    let _ ← o.wordAt b 4 pos
    skipAt n (pos + 4)

def extentAt (pos : Nat) : Except Fault Extent := do
  let size ← o.wordAt b 4 pos
  let off ← o.wordAt b 4 (pos + 4)
  pure ⟨size, off⟩

def wordsAt (v : Version) : Except Fault Header := do
  let fileSize ← o.wordAt b 4 32
  let headerSize ← o.wordAt b 4 36
  skipAt b o 4 40
  let strings ← extentAt b o 56
  let types ← extentAt b o 64
  let protos ← extentAt b o 72
  let fields ← extentAt b o 80
  let methods ← extentAt b o 88
  let classDefs ← extentAt b o 96
  skipAt b o 2 104
  pure { version := v, order := o, fileSize, headerSize, strings, types, protos, fields, methods,
         classDefs }

def extent (pos : Nat) : Extent := ⟨o.word b 4 pos, o.word b 4 (pos + 4)⟩

/-- What stands at the places of the header, whether or not they lie within the bytes. -/
def located (v : Version) : Header where
  version := v
  order := o
  fileSize := o.word b 4 32
  headerSize := o.word b 4 36
  strings := extent b o 56
  types := extent b o 64
  protos := extent b o 72
  fields := extent b o 80
  methods := extent b o 88
  classDefs := extent b o 96

end Places

def ofBytes (b : Bytes) : Except Fault Header := do
  let magic ← b.slice 0 8
  match Version.ofMagic? magic with
  | none => .error (.badMagic magic)
  | some version =>
    let tag := ByteOrder.little.value (← b.slice Fault.tagOffset 4)
    match ByteOrder.ofTag? tag with
    | none => .error (.badEndianTag tag)
    | some order => wordsAt b order version

variable {b : Bytes} {o : ByteOrder}

theorem skipAt_eq_ok {n pos : Nat} {u : Unit} :
    skipAt b o n pos = .ok u ↔ n = 0 ∨ pos + 4 * n ≤ b.size := by
  induction n generalizing pos with
  | zero => simp [skipAt, pure, Except.pure]
  | succ n ih =>
    simp only [skipAt, bind_eq_ok, ByteOrder.wordAt_eq_ok, ih]
    constructor
    · intro h
      obtain ⟨_, ⟨hp, -⟩, hn⟩ := h
      omega
    · intro h
      exact ⟨_, ⟨by omega, rfl⟩, by omega⟩

theorem extentAt_eq_ok {pos : Nat} {e : Extent} :
    extentAt b o pos = .ok e ↔ pos + 8 ≤ b.size ∧ e = extent b o pos := by
  simp only [extentAt, bind_eq_ok, pure_eq_ok, ByteOrder.wordAt_eq_ok]
  constructor
  · intro h
    obtain ⟨_, ⟨-, rfl⟩, _, ⟨hp, rfl⟩, rfl⟩ := h
    exact ⟨by omega, rfl⟩
  · intro h
    obtain ⟨hp, rfl⟩ := h
    exact ⟨_, ⟨by omega, rfl⟩, _, ⟨by omega, rfl⟩, rfl⟩

theorem wordsAt_eq_ok {v : Version} {h : Header} :
    wordsAt b o v = .ok h ↔ 112 ≤ b.size ∧ h = located b o v := by
  simp only [wordsAt, bind_eq_ok, pure_eq_ok, ByteOrder.wordAt_eq_ok, extentAt_eq_ok, skipAt_eq_ok]
  constructor
  · intro hx
    obtain ⟨_, ⟨-, rfl⟩, _, ⟨-, rfl⟩, _, -, _, ⟨-, rfl⟩, _, ⟨-, rfl⟩, _, ⟨-, rfl⟩, _, ⟨-, rfl⟩,
      _, ⟨-, rfl⟩, _, ⟨-, rfl⟩, _, hs, rfl⟩ := hx
    exact ⟨by omega, rfl⟩
  · intro hx
    obtain ⟨hs, rfl⟩ := hx
    exact ⟨_, ⟨by omega, rfl⟩, _, ⟨by omega, rfl⟩, (), by omega, _, ⟨by omega, rfl⟩,
      _, ⟨by omega, rfl⟩, _, ⟨by omega, rfl⟩, _, ⟨by omega, rfl⟩, _, ⟨by omega, rfl⟩,
      _, ⟨by omega, rfl⟩, (), by omega, rfl⟩

/-- A header is accepted when its magic and its tag are known and its words lie within the
bytes. -/
theorem ofBytes_eq_ok {h : Header} :
    ofBytes b = .ok h ↔
      112 ≤ b.size ∧ Version.ofMagic? (b.window 0 8) = some h.version ∧
        ByteOrder.ofTag? (ByteOrder.little.word b 4 Fault.tagOffset) = some h.order ∧
        h = located b h.order h.version := by
  simp only [ofBytes, bind_eq_ok, Bytes.slice_eq_ok]
  constructor
  · intro hx
    obtain ⟨magic, ⟨-, rfl⟩, hm⟩ := hx
    cases hv : Version.ofMagic? (b.window 0 8) with
    | none => simp [hv] at hm
    | some v =>
      simp only [hv, bind_eq_ok, Bytes.slice_eq_ok] at hm
      obtain ⟨tag, ⟨-, rfl⟩, ht⟩ := hm
      cases ho : ByteOrder.ofTag? (ByteOrder.little.value (b.window Fault.tagOffset 4)) with
      | none => simp [ho] at ht
      | some o =>
        simp only [ho, wordsAt_eq_ok] at ht
        obtain ⟨hs, rfl⟩ := ht
        exact ⟨hs, rfl, ho, rfl⟩
  · intro hx
    obtain ⟨hs, hv, ho, hh⟩ := hx
    refine ⟨_, ⟨by omega, rfl⟩, ?_⟩
    unfold ByteOrder.word at ho
    simp only [hv, bind_eq_ok, Bytes.slice_eq_ok]
    refine ⟨_, ⟨by simp only [Fault.tagOffset]; omega, rfl⟩, ?_⟩
    simp only [ho, wordsAt_eq_ok]
    exact ⟨hs, hh⟩

open Reader

theorem skipWords_reads (n pos : Nat) :
    Reads (skipWords n) b ⟨pos, o⟩ (skipAt b o n pos) ⟨pos + 4 * n, o⟩ := by
  induction n generalizing pos with
  | zero => exact .pure ()
  | succ n ih =>
    rw [show pos + 4 * (n + 1) = pos + 4 + 4 * n by omega]
    exact .bind (.u32 b pos o) fun _ _ => ih (pos + 4)

theorem readExtent_reads (pos : Nat) :
    Reads readExtent b ⟨pos, o⟩ (extentAt b o pos) ⟨pos + 8, o⟩ :=
  .bind (.u32 b pos o) fun _ _ => .bind (.u32 b (pos + 4) o) fun _ _ => .pure _

theorem wordsAt_order {h : Header} {v : Version} (hh : wordsAt b o v = .ok h) : h.order = o := by
  obtain ⟨-, rfl⟩ := wordsAt_eq_ok.mp hh
  rfl

/-- Whatever the cursor was, the reader of the header has the outcome of reading by position, and
leaves the cursor after the header and in the order that the tag declares. -/
theorem read_reads (b : Bytes) (c : Cursor) :
    ∃ o, Reads Header.read b c (ofBytes b) ⟨112, o⟩ ∧ ∀ h, ofBytes b = .ok h → h.order = o := by
  refine ⟨((ofBytes b).toOption.map order).getD c.order, ?_, fun h hh => by rw [hh]; rfl⟩
  generalize ho : ((ofBytes b).toOption.map order).getD c.order = o
  unfold Header.read
  refine .seek (.bind (.take (by decide) b 0 c.order) fun magic hm => ?_)
  cases hv : Version.ofMagic? magic with
  | none => exact .fail _
  | some version =>
    refine .seek (.bind (.take (by decide) b Fault.tagOffset c.order) fun tag ht => ?_)
    dsimp only
    cases hg : ByteOrder.ofTag? (ByteOrder.little.value tag) with
    | none => exact .fail _
    | some o' =>
      have hb : ofBytes b = wordsAt b o' version := by
        simp only [ofBytes, hm, ht, hv, hg, bind, Except.bind]
      refine Reads.ends (d := ⟨112, o'⟩) ?_ fun h hh => ?_
      · exact .setOrder <| .seek <| .bind (.u32 b 32 o') fun _ _ => .bind (.u32 b 36 o') fun _ _ =>
          .bind (skipWords_reads 4 40) fun _ _ =>
          .bind (readExtent_reads 56) fun _ _ => .bind (readExtent_reads 64) fun _ _ =>
          .bind (readExtent_reads 72) fun _ _ => .bind (readExtent_reads 80) fun _ _ =>
          .bind (readExtent_reads 88) fun _ _ => .bind (readExtent_reads 96) fun _ _ =>
          .bind (skipWords_reads 2 104) fun _ _ => .pure _
      · have hw : wordsAt b o' version = .ok h := hh
        rw [hb, hw] at ho
        rw [← wordsAt_order hw, ← ho]
        rfl

theorem read_eq_ok {c d : Cursor} {h : Header} :
    Header.read b c = .ok h d ↔ ofBytes b = .ok h ∧ d = ⟨112, h.order⟩ := by
  obtain ⟨o, hr, ho⟩ := read_reads b c
  constructor
  · intro hh
    obtain ⟨hb, rfl⟩ := hr.eq_ok hh
    rw [ho h hb]
    exact ⟨hb, rfl⟩
  · intro hx
    obtain ⟨hb, rfl⟩ := hx
    obtain rfl := ho h hb
    rw [hb] at hr
    exact hr

end Header

end DexRefs
