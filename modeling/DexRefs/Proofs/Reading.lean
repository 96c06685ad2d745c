import DexRefs.Image.Reader

/-!
How readings compose.  A reading that starts at a cursor has an outcome, a value or a fault, and
after a value it ends at a cursor.  Where it fails the cursor is left open, since no reading of an
image goes on after a fault.
-/

set_option autoImplicit false

namespace DexRefs

section Outcomes

variable {ε α β : Type}

theorem bind_eq_ok {x : Except ε α} {f : α → Except ε β} {b : β} :
    x >>= f = .ok b ↔ ∃ a, x = .ok a ∧ f a = .ok b := by
  cases x with
  | error y => simp [bind, Except.bind]
  | ok a => simp [bind, Except.bind]

theorem bind_eq_error {x : Except ε α} {f : α → Except ε β} {e : ε} :
    x >>= f = .error e ↔ x = .error e ∨ ∃ a, x = .ok a ∧ f a = .error e := by
  cases x with
  | error y => simp [bind, Except.bind]
  | ok a => simp [bind, Except.bind]

theorem map_eq_ok {x : Except ε α} {f : α → β} {b : β} :
    f <$> x = .ok b ↔ ∃ a, x = .ok a ∧ f a = b := by
  cases x with
  | error y => simp [Functor.map, Except.map]
  | ok a => simp [Functor.map, Except.map]

theorem mapError_eq_ok {x : Except ε α} {f : ε → β} {a : α} :
    x.mapError f = .ok a ↔ x = .ok a := by
  cases x with
  | error y => exact iff_of_false nofun nofun
  | ok c => exact ⟨fun h => by cases h; rfl, fun h => by cases h; rfl⟩

theorem mapError_eq_error {x : Except ε α} {f : ε → β} {y : β} :
    x.mapError f = .error y ↔ ∃ e, x = .error e ∧ y = f e := by
  cases x with
  | ok a => exact iff_of_false nofun nofun
  | error e =>
    constructor
    · intro h
      cases h
      exact ⟨e, rfl, rfl⟩
    · rintro ⟨_, ⟨⟩, rfl⟩
      rfl

theorem toOption_eq_some {x : Except ε α} {a : α} : x.toOption = some a ↔ x = .ok a := by
  cases x <;> simp [Except.toOption]

theorem pure_eq_ok {a b : α} : (pure a : Except ε α) = .ok b ↔ a = b := by
  simp [pure, Except.pure]

theorem mapM_eq_ok {x : β → Except ε α} {P : β → Prop} {f : β → α} {l : List β}
    (h : ∀ i ∈ l, ∀ a, x i = .ok a ↔ P i ∧ a = f i) (as : List α) :
    l.mapM x = .ok as ↔ (∀ i ∈ l, P i) ∧ as = l.map f := by
  induction l generalizing as with
  | nil => simp [pure, Except.pure, eq_comm]
  | cons i l ih =>
    have hi := h i (by simp)
    have hl := ih fun j hj => h j (by simp [hj])
    simp only [List.mapM_cons, bind_eq_ok, pure_eq_ok, hi, hl, List.forall_mem_cons, List.map_cons]
    constructor
    · intro hx
      obtain ⟨a, ⟨hp, rfl⟩, as', ⟨hps, rfl⟩, rfl⟩ := hx
      exact ⟨⟨hp, hps⟩, rfl⟩
    · intro hx
      obtain ⟨⟨hp, hps⟩, rfl⟩ := hx
      exact ⟨_, ⟨hp, rfl⟩, _, ⟨hps, rfl⟩, rfl⟩

theorem forM_eq_ok {x : α → Except ε Unit} {l : List α} :
    forM l x = .ok () ↔ ∀ a ∈ l, x a = .ok () := by
  induction l with
  | nil => simp [pure, Except.pure]
  | cons a l ih =>
    simp only [List.forM_cons, bind_eq_ok, ih, List.forall_mem_cons]
    constructor
    · intro h
      obtain ⟨_, ha, hl⟩ := h
      exact ⟨ha, hl⟩
    · intro h
      exact ⟨(), h.1, h.2⟩

theorem forM_eq_error {x : α → Except ε Unit} {l : List α} {e : ε} :
    forM l x = .error e ↔
      ∃ before a after, l = before ++ a :: after ∧ (∀ c ∈ before, x c = .ok ()) ∧
        x a = .error e := by
  constructor
  · intro h
    induction l with
    | nil => cases h
    | cons a l ih =>
      rw [List.forM_cons] at h
      cases ha : x a with
      | error e' =>
        rw [ha] at h
        cases h
        exact ⟨[], a, l, rfl, by simp, ha⟩
      | ok u =>
        rw [ha] at h
        obtain ⟨before, c, after, rfl, hb, hc⟩ := ih h
        exact ⟨a :: before, c, after, rfl, by simpa using ⟨ha, hb⟩, hc⟩
  · intro h
    obtain ⟨before, a, after, rfl, hb, ha⟩ := h
    rw [List.forM_append, forM_eq_ok.mpr hb, List.forM_cons, ha]
    rfl

end Outcomes

namespace Bytes

def suffix (b : Bytes) (pos : Nat) : List UInt8 := b.toList.drop pos

@[simp] theorem length_suffix (b : Bytes) (pos : Nat) :
    (b.suffix pos).length = b.size - pos := by simp [suffix]

theorem suffix_eq_nil {b : Bytes} {pos : Nat} (h : b.size ≤ pos) : b.suffix pos = [] :=
  List.drop_eq_nil_of_le (by simpa using h)

theorem suffix_succ {b : Bytes} {pos : Nat} {x : UInt8} {xs : List UInt8}
    (h : b.suffix pos = x :: xs) : b.suffix (pos + 1) = xs := by
  have ht : (b.suffix pos).tail = b.suffix (pos + 1) := List.tail_drop
  rw [← ht, h]
  rfl

theorem suffix_add (b : Bytes) (pos n : Nat) : b.suffix (pos + n) = (b.suffix pos).drop n :=
  List.drop_drop.symm

theorem suffix_append {p : Bytes} (s : Bytes) {pos : Nat} (h : pos ≤ p.size) :
    (p ++ s).suffix pos = p.suffix pos ++ s.toList := by
  simp only [suffix, Array.toList_append]
  exact List.drop_append_of_le_length (by simpa using h)

theorem window_eq (b : Bytes) (pos n : Nat) : b.window pos n = (b.suffix pos).take n := by
  simp [window, suffix, List.extract_eq_take_drop]

theorem length_window (b : Bytes) (pos n : Nat) :
    (b.window pos n).length = min n (b.size - pos) := by simp [window_eq]

theorem window_append {p : Bytes} (s : Bytes) {pos n : Nat} (h : pos + n ≤ p.size) :
    (p ++ s).window pos n = p.window pos n := by
  rw [window_eq, window_eq, suffix_append s (by omega)]
  exact List.take_append_of_le_length (by rw [length_suffix]; omega)

def slice (b : Bytes) (pos n : Nat) : Except Fault (List UInt8) :=
  if pos + n ≤ b.size then .ok (b.window pos n) else .error (.truncated pos n (b.size - pos))

theorem slice_eq_ok {b : Bytes} {pos n : Nat} {bs : List UInt8} :
    b.slice pos n = .ok bs ↔ pos + n ≤ b.size ∧ bs = b.window pos n := by
  unfold slice
  split
  next h => simp [h, eq_comm]
  next h => simp [h]

end Bytes

namespace ByteOrder

/-- The word of `width` bytes that stands at a position; bytes past the end are not counted. -/
def word (o : ByteOrder) (b : Bytes) (width pos : Nat) : Nat := o.value (b.window pos width)

def wordAt (o : ByteOrder) (b : Bytes) (width pos : Nat) : Except Fault Nat :=
  o.value <$> b.slice pos width

theorem wordAt_eq (o : ByteOrder) (b : Bytes) (width pos : Nat) :
    o.wordAt b width pos =
      if pos + width ≤ b.size then .ok (o.word b width pos)
      else .error (.truncated pos width (b.size - pos)) := by
  unfold wordAt Bytes.slice word
  split <;> rfl

theorem wordAt_eq_ok {o : ByteOrder} {b : Bytes} {width pos n : Nat} :
    o.wordAt b width pos = .ok n ↔ pos + width ≤ b.size ∧ n = o.word b width pos := by
  rw [wordAt_eq]
  split
  next h => simp [h, eq_comm]
  next h => simp [h]

end ByteOrder

namespace Reader

variable {α β γ : Type} {b : Bytes} {c d e : Cursor}

theorem pure_run (a : α) (b : Bytes) (c : Cursor) : (pure a : Reader α) b c = .ok a c := rfl

theorem bind_run (r : Reader α) (f : α → Reader β) (b : Bytes) (c : Cursor) :
    (r >>= f) b c =
      match r b c with
      | .ok a d => f a b d
      | .error x d => .error x d := by
  simp only [bind, ReaderT.bind, EStateM.bind]
  cases r b c <;> rfl

theorem map_run (r : Reader α) (f : α → β) (b : Bytes) (c : Cursor) :
    (f <$> r) b c =
      match r b c with
      | .ok a d => .ok (f a) d
      | .error x d => .error x d := by
  rw [← bind_pure_comp, bind_run]
  rfl

theorem take_run (n : Nat) (b : Bytes) (c : Cursor) :
    take n b c =
      if (b.window c.pos n).length < n then
        .error (.truncated c.pos n (b.window c.pos n).length)
          { c with pos := c.pos + (b.window c.pos n).length }
      else .ok (b.window c.pos n) { c with pos := c.pos + n } := rfl

theorem u8_run (b : Bytes) (pos : Nat) (o : ByteOrder) :
    u8 b ⟨pos, o⟩ =
      match b.suffix pos with
      | [] => .error (.truncated pos 1 0) ⟨pos, o⟩
      | x :: _ => .ok x.toNat ⟨pos + 1, o⟩ := by
  simp only [u8, word, map_run, take_run, Bytes.window_eq]
  cases b.suffix pos with
  | nil => rfl
  | cons x xs => cases o <;> simp [ByteOrder.value, littleEndian]

/-- The reading `r`, started at `c`, has the outcome `x`; after a value it ends at `d`. -/
def Reads (r : Reader α) (b : Bytes) (c : Cursor) (x : Except Fault α) (d : Cursor) : Prop :=
  match x with
  | .ok a => r b c = .ok a d
  | .error f => ∃ e, r b c = .error f e

theorem Reads.of_ok {r : Reader α} {a : α} (h : r b c = .ok a d) : Reads r b c (.ok a) d := h

theorem Reads.of_error {r : Reader α} {f : Fault} (h : r b c = .error f e) :
    Reads r b c (.error f) d := ⟨e, h⟩

theorem Reads.eq_ok {r : Reader α} {x : Except Fault α} (h : Reads r b c x d) {a : α}
    {e : Cursor} (ha : r b c = .ok a e) : x = .ok a ∧ d = e := by
  cases x with
  | ok a' =>
    have he : EStateM.Result.ok a' d = .ok a e := h.symm.trans ha
    cases he
    exact ⟨rfl, rfl⟩
  | error f =>
    obtain ⟨e', he⟩ := h
    cases he.symm.trans ha

theorem Reads.ends {r : Reader α} {x : Except Fault α} {d' : Cursor} (h : Reads r b c x d)
    (hd : ∀ a, x = .ok a → d = d') : Reads r b c x d' := by
  cases x with
  | error f => exact h
  | ok a => exact hd a rfl ▸ h

theorem Reads.pure (a : α) : Reads (pure a) b c (.ok a) c := rfl

theorem Reads.fail (f : Fault) : Reads (fail f : Reader α) b c (.error f) d := ⟨c, rfl⟩

/-- The second reading only has to be followed where the first gives a value. -/
theorem Reads.bind {r : Reader α} {f : α → Reader β} {x : Except Fault α}
    {g : α → Except Fault β} (hr : Reads r b c x d)
    (hf : ∀ a, x = .ok a → Reads (f a) b d (g a) e) : Reads (r >>= f) b c (x >>= g) e := by
  cases x with
  | ok a =>
    have hb : (r >>= f) b c = f a b d := by rw [bind_run, show r b c = .ok a d from hr]
    have h := hf a rfl
    unfold Reads at h ⊢
    rw [hb]
    exact h
  | error y =>
    obtain ⟨d', hr⟩ := hr
    exact ⟨d', by rw [bind_run, hr]⟩

theorem Reads.map {r : Reader α} {x : Except Fault α} (f : α → β) (hr : Reads r b c x d) :
    Reads (f <$> r) b c (f <$> x) d := by
  rw [← bind_pure_comp, ← bind_pure_comp]
  exact hr.bind fun a _ => .pure (f a)

theorem Reads.tell {f : Nat → Reader α} {x : Except Fault α} (h : Reads (f c.pos) b c x d) :
    Reads (tell >>= f) b c x d := h

theorem Reads.seek {pos : Nat} {f : Unit → Reader α} {x : Except Fault α}
    (h : Reads (f ()) b ⟨pos, c.order⟩ x d) : Reads (seek pos >>= f) b c x d := h

theorem Reads.setOrder {o : ByteOrder} {f : Unit → Reader α} {x : Except Fault α}
    (h : Reads (f ()) b ⟨c.pos, o⟩ x d) : Reads (setOrder o >>= f) b c x d := h

/-- At least one byte must be asked for: past the end, no bytes at all are still there. -/
theorem Reads.take {n : Nat} (hn : 0 < n) (b : Bytes) (pos : Nat) (o : ByteOrder) :
    Reads (take n) b ⟨pos, o⟩ (b.slice pos n) ⟨pos + n, o⟩ := by
  have hl := b.length_window pos n
  unfold Bytes.slice
  split
  · have h : ¬ (b.window pos n).length < n := by omega
    unfold Reads
    simp only [take_run, h, if_false]
  · have h : (b.window pos n).length < n := by omega
    have hm : (b.window pos n).length = b.size - pos := by omega
    refine ⟨⟨pos + (b.size - pos), o⟩, ?_⟩
    rw [take_run, if_pos h, hm]

theorem Reads.word {width : Nat} (hw : 0 < width) (b : Bytes) (pos : Nat) (o : ByteOrder) :
    Reads (word width) b ⟨pos, o⟩ (o.wordAt b width pos) ⟨pos + width, o⟩ :=
  (Reads.take hw b pos o).map o.value

theorem Reads.u16 (b : Bytes) (pos : Nat) (o : ByteOrder) :
    Reads u16 b ⟨pos, o⟩ (o.wordAt b 2 pos) ⟨pos + 2, o⟩ := Reads.word (by decide) b pos o

theorem Reads.u32 (b : Bytes) (pos : Nat) (o : ByteOrder) :
    Reads u32 b ⟨pos, o⟩ (o.wordAt b 4 pos) ⟨pos + 4, o⟩ := Reads.word (by decide) b pos o

theorem mapM_cons_append (x : β → Except Fault α) (i : β) (is : List β) (done : Array α) :
    (done ++ ·.toArray) <$> (i :: is).mapM x =
      x i >>= fun a => (done.push a ++ ·.toArray) <$> is.mapM x := by
  rw [List.mapM_cons]
  cases x i with
  | error f => rfl
  | ok a =>
    cases is.mapM x with
    | error f => rfl
    | ok as =>
      have h : done ++ (a :: as).toArray = done.push a ++ as.toArray := by
        apply Array.ext'
        simp
      exact congrArg Except.ok h

/-- Items that follow one another: item number `i` stands where the one before it ends. -/
theorem Reads.rowsFrom {item : Nat → Reader α} {x : Nat → Except Fault α}
    (place : Nat → Cursor) (n row : Nat) (done : Array α)
    (h : ∀ i < n, Reads (item (row + i)) b (place i) (x i) (place (i + 1))) :
    Reads (rowsFrom item n row done) b (place 0)
      ((done ++ ·.toArray) <$> (List.range n).mapM x) (place n) := by
  -- the items behind the first one are numbered anew, with their places and outcomes
  induction n generalizing row done x place with
  | zero =>
    have hd : done ++ #[] = done := Array.append_empty
    have hx : (done ++ ·.toArray) <$> (List.range 0).mapM x = .ok done := congrArg Except.ok hd
    rw [hx]
    exact Reads.pure done
  | succ n ih =>
    rw [List.range_succ_eq_map, mapM_cons_append, List.mapM_map, Reader.rowsFrom]
    refine Reads.bind (h 0 (by omega)) fun a _ => ?_
    refine ih (x := x ∘ Nat.succ) (place ∘ Nat.succ) (row + 1) (done.push a) ?_
    intro i hi
    have hs := h (i + 1) (by omega)
    rwa [show row + (i + 1) = row + 1 + i by omega] at hs

theorem Reads.rows {item : Nat → Reader α} {x : Nat → Except Fault α} (n width pos : Nat)
    (o : ByteOrder)
    (h : ∀ i < n, Reads (item i) b ⟨pos + width * i, o⟩ (x i) ⟨pos + width * i + width, o⟩) :
    Reads (rows n item) b ⟨pos, o⟩ (List.toArray <$> (List.range n).mapM x)
      ⟨pos + width * n, o⟩ := by
  have hr := Reads.rowsFrom (x := x) (fun i => ⟨pos + width * i, o⟩) n 0 #[]
    (fun i hi => by
      rw [Nat.zero_add, Nat.mul_succ, ← Nat.add_assoc]
      exact h i hi)
  simpa [Reader.rows] using hr

/-- From any position the reading has the outcome `x`, and after a value the byte order is still
the same: a reading that starts by going to a place of its own. -/
def Jumps (r : Reader α) (b : Bytes) (o : ByteOrder) (x : Except Fault α) : Prop :=
  ∀ pos, ∃ pos', Reads r b ⟨pos, o⟩ x ⟨pos', o⟩

theorem Jumps.eq_ok_iff {r : Reader α} {o : ByteOrder} {x : Except Fault α} (h : Jumps r b o x)
    (pos : Nat) (a : α) : (∃ d, r b ⟨pos, o⟩ = .ok a d) ↔ x = .ok a := by
  obtain ⟨pos', hr⟩ := h pos
  constructor
  · intro hx
    obtain ⟨d, hd⟩ := hx
    exact (hr.eq_ok hd).1
  · intro hx
    obtain rfl := hx
    exact ⟨_, hr⟩

theorem Jumps.eq_error_iff {r : Reader α} {o : ByteOrder} {x : Except Fault α}
    (h : Jumps r b o x) (pos : Nat) (f : Fault) :
    (∃ d, r b ⟨pos, o⟩ = .error f d) ↔ x = .error f := by
  obtain ⟨pos', hr⟩ := h pos
  cases x with
  | ok a =>
    have hok : r b ⟨pos, o⟩ = .ok a ⟨pos', o⟩ := hr
    simp [hok]
  | error g =>
    obtain ⟨e, he⟩ := hr
    simp [he, eq_comm]

theorem Jumps.pure (a : α) (b : Bytes) (o : ByteOrder) : Jumps (pure a) b o (.ok a) :=
  fun pos => ⟨pos, Reads.pure a⟩

theorem Jumps.seek {f : Unit → Reader α} {x : Except Fault α} {pos : Nat} {o : ByteOrder}
    (h : ∃ pos', Reads (f ()) b ⟨pos, o⟩ x ⟨pos', o⟩) : Jumps (seek pos >>= f) b o x :=
  fun _ => h.imp fun _ h => h.seek

theorem Reads.bind_exists {r : Reader α} {f : α → Reader β} {x : Except Fault α}
    {g : α → Except Fault β} {pos pos₁ : Nat} {o : ByteOrder}
    (hr : Reads r b ⟨pos, o⟩ x ⟨pos₁, o⟩)
    (hf : ∀ a, x = .ok a → ∃ pos₂, Reads (f a) b ⟨pos₁, o⟩ (g a) ⟨pos₂, o⟩) :
    ∃ pos₂, Reads (r >>= f) b ⟨pos, o⟩ (x >>= g) ⟨pos₂, o⟩ := by
  cases x with
  | error y => exact ⟨pos₁, hr.bind fun a ha => by cases ha⟩
  | ok a =>
    obtain ⟨pos₂, h₂⟩ := hf a rfl
    exact ⟨pos₂, hr.bind fun a' ha => by cases ha; exact h₂⟩

theorem Jumps.bind {r : Reader α} {f : α → Reader β} {o : ByteOrder} {x : Except Fault α}
    {g : α → Except Fault β} (hr : Jumps r b o x)
    (hf : ∀ a, x = .ok a → Jumps (f a) b o (g a)) : Jumps (r >>= f) b o (x >>= g) := by
  intro pos
  obtain ⟨pos₁, h₁⟩ := hr pos
  exact h₁.bind_exists fun a ha => hf a ha pos₁

/-- Items that stand at places of their own. -/
theorem Jumps.eachFrom {item : Nat → α → Reader β} {x : Nat → α → Except Fault β} {o : ByteOrder}
    (h : ∀ i a, Jumps (item i a) b o (x i a)) (as : List α) (row : Nat) (done : Array β) :
    Jumps (eachFrom item as row done) b o
      ((done ++ ·.toArray) <$> (as.zipIdx row).mapM fun p => x p.2 p.1) := by
  induction as generalizing row done with
  | nil =>
    have hd : done ++ #[] = done := Array.append_empty
    have hx : (done ++ ·.toArray) <$> (([] : List α).zipIdx row).mapM (fun p => x p.2 p.1) =
        .ok done := congrArg Except.ok hd
    rw [hx]
    exact Jumps.pure done b o
  | cons a as ih =>
    rw [List.zipIdx_cons, mapM_cons_append]
    exact (h row a).bind fun c _ => ih (row + 1) (done.push c)

theorem Jumps.each {item : Nat → α → Reader β} {x : Nat → α → Except Fault β} {o : ByteOrder}
    (h : ∀ i a, Jumps (item i a) b o (x i a)) (as : Array α) :
    Jumps (each as item) b o
      (List.toArray <$> as.toList.zipIdx.mapM fun p => x p.2 p.1) := by
  have he := Jumps.eachFrom h as.toList 0 #[]
  simpa [Reader.each] using he

end Reader

end DexRefs
