import DexRefs.Proofs.RoundTrip

/-!
How reading the header ends, by the bytes alone, with the cursor that is left behind.  What is
read, and where reading stops, does not depend on the byte order that the cursor had; the order
changes once magic and tag are accepted.  Where the words of a header are turned round, the same
header is read in the other order.
-/

set_option autoImplicit false

namespace DexRefs

section Recognised

theorem Version.ofMagic?_eq_some {bs : List UInt8} {v : Version} :
    Version.ofMagic? bs = some v ↔ bs = v.magic := by
  constructor
  · intro h
    have hm := List.find?_some h
    exact (beq_iff_eq.mp hm).symm
  · intro h
    rw [h, Version.ofMagic?_magic]

theorem Version.ofMagic?_eq_none {bs : List UInt8} :
    Version.ofMagic? bs = none ↔ ∀ v : Version, bs ≠ v.magic := by
  simp only [Option.eq_none_iff_forall_ne_some, ne_eq, Version.ofMagic?_eq_some]

theorem ByteOrder.ofTag?_eq_some {n : Nat} {o : ByteOrder} :
    ByteOrder.ofTag? n = some o ↔ n = o.tag := by
  constructor
  · intro h
    have ht := List.find?_some h
    exact (beq_iff_eq.mp ht).symm
  · intro h
    rw [h]
    cases o <;> decide

theorem ByteOrder.ofTag?_eq_none {n : Nat} :
    ByteOrder.ofTag? n = none ↔ ∀ o : ByteOrder, n ≠ o.tag := by
  simp only [Option.eq_none_iff_forall_ne_some, ne_eq, ByteOrder.ofTag?_eq_some]

end Recognised

namespace Reader

variable {α β : Type} {b : Bytes} {o : ByteOrder} {n pos : Nat}

theorem take_fits (h : pos + n ≤ b.size) :
    take n b ⟨pos, o⟩ = .ok (b.window pos n) ⟨pos + n, o⟩ := by
  have hl := b.length_window pos n
  rw [take_run]
  exact if_neg (by dsimp only; omega)

theorem take_short (hn : 0 < n) (h : b.size < pos + n) :
    take n b ⟨pos, o⟩ = .error (.truncated pos n (b.size - pos)) ⟨max pos b.size, o⟩ := by
  have hl : (b.window pos n).length = b.size - pos := by
    rw [b.length_window]
    omega
  have hmax : pos + (b.size - pos) = max pos b.size := by omega
  rw [take_run]
  dsimp only
  rw [if_pos (by omega), hl, hmax]

theorem seek_bind_run (f : Unit → Reader α) (c : Cursor) :
    (seek pos >>= f) b c = f () b ⟨pos, c.order⟩ := rfl

theorem setOrder_bind_run (f : Unit → Reader α) (c : Cursor) :
    (setOrder o >>= f) b c = f () b ⟨c.pos, o⟩ := rfl

theorem take_bind_fits {f : List UInt8 → Reader α} (h : pos + n ≤ b.size) :
    (take n >>= f) b ⟨pos, o⟩ = f (b.window pos n) b ⟨pos + n, o⟩ := by
  rw [bind_run, take_fits h]

theorem take_bind_short {f : List UInt8 → Reader α} (hn : 0 < n) (h : b.size < pos + n) :
    (take n >>= f) b ⟨pos, o⟩ =
      .error (.truncated pos n (b.size - pos)) ⟨max pos b.size, o⟩ := by
  rw [bind_run, take_short hn h]

/-- The reading takes the words of the header from number `i` on, `n` of them, and gives `x`; where
the bytes end before, it misses the word that they cut, or the one that would follow. -/
def TakesWords (b : Bytes) (o : ByteOrder) (r : Reader α) (i n : Nat) (x : α) : Prop :=
  32 + 4 * i ≤ b.size → r b ⟨32 + 4 * i, o⟩ =
    if 32 + 4 * (i + n) ≤ b.size then .ok x ⟨32 + 4 * (i + n), o⟩
    else .error (.truncated (32 + 4 * ((b.size - 32) / 4)) 4 ((b.size - 32) % 4)) ⟨b.size, o⟩

theorem TakesWords.pure (i : Nat) (x : α) : TakesWords b o (pure x) i 0 x := by
  intro h
  exact (if_pos h).symm

theorem TakesWords.u32 (i : Nat) : TakesWords b o u32 i 1 (o.word b 4 (32 + 4 * i)) := by
  intro h
  simp only [Reader.u32, Reader.word, map_run]
  by_cases hfit : 32 + 4 * (i + 1) ≤ b.size
  · rw [take_fits (by omega), if_pos hfit]
    rfl
  · have hword : (b.size - 32) / 4 = i := by omega
    have hleft : (b.size - 32) % 4 = b.size - (32 + 4 * i) := by omega
    rw [take_short (by decide) (by omega), if_neg hfit, hword, hleft, Nat.max_eq_right h]

theorem TakesWords.bind {r : Reader α} {f : α → Reader β} {i m : Nat} {x : α} {y : β}
    (hr : TakesWords b o r i n x) (hf : TakesWords b o (f x) (i + n) m y) :
    TakesWords b o (r >>= f) i (n + m) y := by
  intro h
  rw [bind_run, hr h, ← Nat.add_assoc]
  by_cases hfit : 32 + 4 * (i + n) ≤ b.size
  · rw [if_pos hfit]
    exact hf hfit
  · rw [if_neg hfit, if_neg (by omega)]

end Reader

namespace Header

open Reader

variable {b : Bytes} {c : Cursor} {o : ByteOrder} {v : Version}

theorem takesWords_skip (i n : Nat) : TakesWords b o (skipWords n) i n () := by
  induction n generalizing i with
  | zero => exact .pure i ()
  | succ n ih =>
    show TakesWords b o (u32 >>= fun _ => skipWords n) i (n + 1) ()
    rw [Nat.add_comm n 1]
    exact TakesWords.bind (f := fun _ => skipWords n) (.u32 i) (ih (i + 1))

theorem takesWords_extent (i : Nat) :
    TakesWords b o readExtent i 2 (extent b o (32 + 4 * i)) := by
  unfold readExtent
  refine TakesWords.bind (n := 1) (m := 1) (.u32 i) ?_
  exact TakesWords.bind (n := 1) (m := 0) (.u32 (i + 1)) (.pure _ _)

/-- The way in which reading the header from a cursor ends. -/
inductive Outcome (b : Bytes) (c : Cursor) : EStateM.Result Fault Cursor Header → Prop
  | noMagic (hs : b.size < 8) :
      Outcome b c (.error (.truncated 0 8 b.size) ⟨b.size, c.order⟩)
  | badMagic (hs : 8 ≤ b.size) (hm : ∀ v : Version, b.window 0 8 ≠ v.magic) :
      Outcome b c (.error (.badMagic (b.window 0 8)) ⟨8, c.order⟩)
  | noTag {v : Version} (hm : b.window 0 8 = v.magic) (h8 : 8 ≤ b.size) (hs : b.size < 44) :
      Outcome b c (.error (.truncated 40 4 (b.size - 40)) ⟨max 40 b.size, c.order⟩)
  | badTag {v : Version} (hm : b.window 0 8 = v.magic) (hs : 44 ≤ b.size)
      (ht : ∀ o : ByteOrder, ByteOrder.little.word b 4 40 ≠ o.tag) :
      Outcome b c (.error (.badEndianTag (ByteOrder.little.word b 4 40)) ⟨44, c.order⟩)
  | noWord {v : Version} {o : ByteOrder} (hm : b.window 0 8 = v.magic) (hs : 44 ≤ b.size)
      (ht : ByteOrder.little.word b 4 40 = o.tag) (hw : b.size < 112) :
      Outcome b c (.error (.truncated (32 + 4 * ((b.size - 32) / 4)) 4 ((b.size - 32) % 4))
        ⟨b.size, o⟩)
  | accepted {v : Version} {o : ByteOrder} (hm : b.window 0 8 = v.magic) (hs : 112 ≤ b.size)
      (ht : ByteOrder.little.word b 4 40 = o.tag) :
      Outcome b c (.ok (located b o v) ⟨112, o⟩)

section Runs

theorem read_noMagic (hs : b.size < 8) :
    Header.read b c = .error (.truncated 0 8 b.size) ⟨b.size, c.order⟩ := by
  unfold Header.read
  rw [seek_bind_run, take_bind_short (by decide) (by omega), Nat.zero_max]
  rfl

theorem read_badMagic (hs : 8 ≤ b.size) (hm : ∀ v : Version, b.window 0 8 ≠ v.magic) :
    Header.read b c = .error (.badMagic (b.window 0 8)) ⟨8, c.order⟩ := by
  unfold Header.read
  rw [seek_bind_run, take_bind_fits (by omega), Version.ofMagic?_eq_none.mpr hm]
  rfl

theorem read_noTag (hm : b.window 0 8 = v.magic) (hs : 8 ≤ b.size) (ht : b.size < 44) :
    Header.read b c = .error (.truncated 40 4 (b.size - 40)) ⟨max 40 b.size, c.order⟩ := by
  unfold Header.read
  rw [seek_bind_run, take_bind_fits (by omega), Version.ofMagic?_eq_some.mpr hm]
  dsimp only
  rw [seek_bind_run, take_bind_short (by decide) (by rw [Fault.tagOffset]; omega)]
  rfl

theorem read_badTag (hm : b.window 0 8 = v.magic) (hs : 44 ≤ b.size)
    (ht : ∀ o : ByteOrder, ByteOrder.little.word b 4 40 ≠ o.tag) :
    Header.read b c = .error (.badEndianTag (ByteOrder.little.word b 4 40)) ⟨44, c.order⟩ := by
  have ht' : ByteOrder.ofTag? (ByteOrder.little.value (b.window Fault.tagOffset 4)) = none :=
    ByteOrder.ofTag?_eq_none.mpr ht
  unfold Header.read
  rw [seek_bind_run, take_bind_fits (by omega), Version.ofMagic?_eq_some.mpr hm]
  dsimp only
  rw [seek_bind_run, take_bind_fits (by rw [Fault.tagOffset]; omega)]
  rw [ht']
  rfl

theorem read_declared (hm : b.window 0 8 = v.magic) (hs : 44 ≤ b.size)
    (ht : ByteOrder.little.word b 4 40 = o.tag) :
    Header.read b c = if 112 ≤ b.size then .ok (located b o v) ⟨112, o⟩
      else .error (.truncated (32 + 4 * ((b.size - 32) / 4)) 4 ((b.size - 32) % 4))
        ⟨b.size, o⟩ := by
  have ht' : ByteOrder.ofTag? (ByteOrder.little.value (b.window Fault.tagOffset 4)) = some o :=
    ByteOrder.ofTag?_eq_some.mpr ht
  unfold Header.read
  rw [seek_bind_run, take_bind_fits (by omega), Version.ofMagic?_eq_some.mpr hm]
  dsimp only
  rw [seek_bind_run, take_bind_fits (by rw [Fault.tagOffset]; omega), ht']
  dsimp only
  rw [setOrder_bind_run, seek_bind_run]
  refine (?_ : TakesWords b o _ 0 20 (located b o v)) (by omega)
  refine .bind (n := 1) (m := 19) (.u32 0) ?_
  refine .bind (n := 1) (m := 18) (.u32 1) ?_
  refine .bind (n := 4) (m := 14) (takesWords_skip 2 4) ?_
  refine .bind (n := 2) (m := 12) (takesWords_extent 6) ?_
  refine .bind (n := 2) (m := 10) (takesWords_extent 8) ?_
  refine .bind (n := 2) (m := 8) (takesWords_extent 10) ?_
  refine .bind (n := 2) (m := 6) (takesWords_extent 12) ?_
  refine .bind (n := 2) (m := 4) (takesWords_extent 14) ?_
  refine .bind (n := 2) (m := 2) (takesWords_extent 16) ?_
  exact .bind (n := 2) (m := 0) (takesWords_skip 18 2) (.pure 20 _)

end Runs

theorem Outcome.read_eq {r : EStateM.Result Fault Cursor Header} (h : Outcome b c r) :
    Header.read b c = r := by
  cases h with
  | noMagic hs => exact read_noMagic hs
  | badMagic hs hm => exact read_badMagic hs hm
  | noTag hm h8 hs => exact read_noTag hm h8 hs
  | badTag hm hs ht => exact read_badTag hm hs ht
  | noWord hm hs ht hw => rw [read_declared hm hs ht, if_neg (by omega)]
  | accepted hm hs ht => rw [read_declared hm (by omega) ht, if_pos hs]

theorem exists_outcome (b : Bytes) (c : Cursor) : ∃ r, Outcome b c r := by
  by_cases h8 : b.size < 8
  · exact ⟨_, .noMagic h8⟩
  by_cases hm : ∀ v : Version, b.window 0 8 ≠ v.magic
  · exact ⟨_, .badMagic (by omega) hm⟩
  obtain ⟨v, hv⟩ := not_forall_not.mp hm
  by_cases h44 : b.size < 44
  · exact ⟨_, .noTag hv (by omega) h44⟩
  by_cases ht : ∀ o : ByteOrder, ByteOrder.little.word b 4 40 ≠ o.tag
  · exact ⟨_, .badTag hv (by omega) ht⟩
  obtain ⟨o, ho⟩ := not_forall_not.mp ht
  by_cases hw : b.size < 112
  · exact ⟨_, .noWord hv (by omega) ho hw⟩
  · exact ⟨_, .accepted hv (by omega) ho⟩

theorem read_iff_outcome {r : EStateM.Result Fault Cursor Header} :
    Header.read b c = r ↔ Outcome b c r := by
  constructor
  · intro h
    obtain ⟨r', hr⟩ := exists_outcome b c
    rwa [← h, hr.read_eq]
  · exact Outcome.read_eq

/-- Magic and tag are accepted, and the tag declares this order. -/
structure Declares (b : Bytes) (o : ByteOrder) : Prop where
  magic : ∃ v : Version, b.window 0 8 = v.magic
  size : 44 ≤ b.size
  tag : ByteOrder.little.word b 4 40 = o.tag

end Header

def Reader.cursorAfter {α : Type} : EStateM.Result Fault Cursor α → Cursor
  | .ok _ d => d
  | .error _ d => d

section Turned

def reverseWords : Nat → List UInt8 → List UInt8
  | 0, bs => bs
  | n + 1, bs => (bs.take 4).reverse ++ reverseWords n (bs.drop 4)

/-- The twenty words of the header, each with its bytes reversed. -/
def Bytes.turned (b : Bytes) : Bytes :=
  (b.toList.take 32 ++ reverseWords 20 (b.toList.drop 32)).toArray

def ByteOrder.swap : ByteOrder → ByteOrder
  | little => big
  | big => little

theorem ByteOrder.value_reverse (o : ByteOrder) (bs : List UInt8) :
    o.swap.value bs.reverse = o.value bs := by
  cases o <;> simp [swap, value]

theorem littleEndianBytes_littleEndian (bs : List UInt8) :
    littleEndianBytes bs.length (littleEndian bs) = bs := by
  induction bs with
  | nil => rfl
  | cons x xs ih =>
    have hx := x.toNat_lt
    have hmod : (x.toNat + 256 * littleEndian xs) % 256 = x.toNat := by omega
    have hdiv : (x.toNat + 256 * littleEndian xs) / 256 = littleEndian xs := by omega
    rw [List.length_cons, littleEndianBytes, littleEndian, hmod, hdiv, ih, UInt8.ofNat_toNat]

/-- The tag of an order, with its bytes reversed, is that of the other order. -/
theorem ByteOrder.tag_reverse {o : ByteOrder} {bs : List UInt8} (hl : bs.length = 4)
    (h : little.value bs = o.tag) : little.value bs.reverse = o.swap.tag := by
  have hbs := littleEndianBytes_littleEndian bs
  rw [hl, show littleEndian bs = o.tag from h] at hbs
  rw [← hbs]
  cases o <;> decide

theorem length_reverseWords (n : Nat) (bs : List UInt8) :
    (reverseWords n bs).length = bs.length := by
  induction n generalizing bs with
  | zero => rfl
  | succ n ih =>
    simp only [reverseWords, List.length_append, List.length_reverse, List.length_take, ih,
      List.length_drop]
    omega

theorem take_drop_reverseWords {n k : Nat} {bs : List UInt8} (hk : k < n)
    (hl : 4 * n ≤ bs.length) :
    ((reverseWords n bs).drop (4 * k)).take 4 = ((bs.drop (4 * k)).take 4).reverse := by
  induction n generalizing bs k with
  | zero => omega
  | succ n ih =>
    have hfirst : (bs.take 4).reverse.length = 4 := by
      rw [List.length_reverse, List.length_take]
      omega
    cases k with
    | zero => simp [reverseWords, hfirst]
    | succ k =>
      have hdrop : (reverseWords (n + 1) bs).drop 4 = reverseWords n (bs.drop 4) := by
        rw [reverseWords, List.drop_append_of_le_length (by omega)]
        simp [hfirst]
      rw [Nat.mul_succ, Nat.add_comm, ← List.drop_drop, ← List.drop_drop, hdrop]
      exact ih (by omega) (by rw [List.length_drop]; omega)

variable {b : Bytes} {o : ByteOrder}

theorem size_turned (b : Bytes) : b.turned.size = b.size := by
  simp only [Bytes.turned, List.size_toArray, List.length_append, length_reverseWords,
    List.length_take, List.length_drop, Array.length_toList]
  omega

theorem window_turned_magic (h : 112 ≤ b.size) : b.turned.window 0 8 = b.window 0 8 := by
  rw [Bytes.window_eq, Bytes.window_eq]
  show (b.turned.toList.drop 0).take 8 = (b.toList.drop 0).take 8
  rw [List.drop_zero, List.drop_zero, Bytes.turned, List.take_append_of_le_length (by simp; omega),
    List.take_take]
  rfl

theorem window_turned_word (h : 112 ≤ b.size) {k : Nat} (hk : k < 20) :
    b.turned.window (32 + 4 * k) 4 = (b.window (32 + 4 * k) 4).reverse := by
  have h32 : b.turned.suffix 32 = reverseWords 20 (b.suffix 32) := by
    show (b.toList.take 32 ++ reverseWords 20 (b.toList.drop 32)).drop 32 = _
    exact List.drop_left' (by simp; omega)
  rw [Bytes.window_eq, Bytes.window_eq, Bytes.suffix_add, Bytes.suffix_add, h32]
  exact take_drop_reverseWords hk (by rw [Bytes.length_suffix]; omega)

theorem word_turned (h : 112 ≤ b.size) {k : Nat} (hk : k < 20) :
    o.swap.word b.turned 4 (32 + 4 * k) = o.word b 4 (32 + 4 * k) := by
  rw [ByteOrder.word, window_turned_word h hk, ByteOrder.value_reverse]
  rfl

theorem Header.located_turned (h : 112 ≤ b.size) (v : Version) :
    located b.turned o.swap v = { located b o v with order := o.swap } := by
  have hw (k : Nat) (hk : k < 20) := word_turned (o := o) h hk
  simp only [located, extent, Header.mk.injEq, Extent.mk.injEq, true_and]
  exact ⟨hw 0 (by omega), hw 1 (by omega), ⟨hw 6 (by omega), hw 7 (by omega)⟩,
    ⟨hw 8 (by omega), hw 9 (by omega)⟩, ⟨hw 10 (by omega), hw 11 (by omega)⟩,
    ⟨hw 12 (by omega), hw 13 (by omega)⟩, ⟨hw 14 (by omega), hw 15 (by omega)⟩,
    hw 16 (by omega), hw 17 (by omega)⟩

end Turned

namespace Header

open Reader

variable {b : Bytes} {c : Cursor} {o : ByteOrder}

theorem order_of_declares (h : Declares b o) : (cursorAfter (Header.read b c)).order = o := by
  obtain ⟨v, hv⟩ := h.magic
  rw [read_declared hv h.size h.tag]
  split
  · rfl
  · rfl

theorem order_of_not_declares (h : ∀ o, ¬ Declares b o) :
    (cursorAfter (Header.read b c)).order = c.order := by
  obtain ⟨r, hr⟩ := exists_outcome b c
  rw [hr.read_eq]
  cases hr with
  | noMagic | badMagic | noTag | badTag => rfl
  | noWord hm hs ht => exact absurd ⟨⟨_, hm⟩, hs, ht⟩ (h _)
  | accepted hm hs ht => exact absurd ⟨⟨_, hm⟩, by omega, ht⟩ (h _)

theorem read_turned {h : Header} {d : Cursor} (hr : Header.read b c = .ok h d) (c' : Cursor) :
    Header.read b.turned c' = .ok { h with order := h.order.swap } ⟨112, h.order.swap⟩ := by
  cases read_iff_outcome.mp hr with
  | @accepted v o hm hs ht =>
    have htag := window_turned_word hs (k := 2) (by omega)
    have hlen : (b.window 40 4).length = 4 := by
      rw [Bytes.length_window]
      omega
    show Header.read b.turned c' = .ok { located b o v with order := o.swap } ⟨112, o.swap⟩
    rw [← located_turned hs v, read_iff_outcome]
    refine .accepted ?_ ?_ ?_
    · rw [window_turned_magic hs, hm]
    · rwa [size_turned]
    · rw [ByteOrder.word, htag]
      exact ByteOrder.tag_reverse hlen ht

/-- Reading the header ends in just one of the six ways, from any cursor.  The byte order of the
cursor changes just where magic and tag are accepted, to the one that the tag declares.  Where a
header is read and its words are turned round, it is read again, in the other order. -/
theorem read_decided (b : Bytes) (c : Cursor) :
    (∀ r, Header.read b c = r ↔ Outcome b c r) ∧
      (∀ o, Declares b o → (cursorAfter (Header.read b c)).order = o) ∧
      ((∀ o, ¬ Declares b o) → (cursorAfter (Header.read b c)).order = c.order) ∧
      ∀ h d, Header.read b c = .ok h d → ∀ c', Header.read b.turned c' =
        .ok { h with order := h.order.swap } ⟨112, h.order.swap⟩ :=
  ⟨fun _ => read_iff_outcome, fun _ => order_of_declares, order_of_not_declares,
    fun _ _ hr c' => read_turned hr c'⟩

def cutImage (n : Nat) : Bytes :=
  (({ strings := ["I"] } : Contents).encode .big .v039).extract 0 n

theorem read_decided_cutImage :
    Declares (cutImage 111) .big ∧
      (cursorAfter (Header.read (cutImage 111) ⟨7, .little⟩)).order = .big ∧
      (∀ o, ¬ Declares (cutImage 43) o) ∧
      (cursorAfter (Header.read (cutImage 43) ⟨7, .little⟩)).order = .little ∧
      ∃ h d, Header.read (cutImage 112) ⟨7, .little⟩ = .ok h d ∧
        Header.read (cutImage 112).turned ⟨99, .big⟩ =
          .ok { h with order := .little } ⟨112, .little⟩ := by
  have hbig : Declares (cutImage 111) .big :=
    ⟨⟨.v039, by decide +kernel⟩, by decide +kernel, by decide +kernel⟩
  have hshort (o : ByteOrder) : ¬ Declares (cutImage 43) o := fun h =>
    absurd h.size (by decide +kernel)
  have hread := read_iff_outcome.mpr (Outcome.accepted (b := cutImage 112) (c := ⟨7, .little⟩)
    (v := .v039) (o := .big) (by decide +kernel) (by decide +kernel) (by decide +kernel))
  exact ⟨hbig, (read_decided (cutImage 111) ⟨7, .little⟩).2.1 .big hbig, hshort,
    (read_decided (cutImage 43) ⟨7, .little⟩).2.2.1 hshort, _, _, hread,
    (read_decided (cutImage 112) ⟨7, .little⟩).2.2.2 _ _ hread ⟨99, .big⟩⟩

end Header

end DexRefs
