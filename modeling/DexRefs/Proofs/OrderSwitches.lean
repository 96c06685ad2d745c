import DexRefs.Image.Step
import DexRefs.Proofs.HeaderOutcome
import Mathlib.Data.List.Forall2

/-!
Sessions of a reader that differ in the byte orders they go by.  Steps of which no value is a word
of several bytes do the same in both orders; words of several bytes are read where they stand, with
their bytes reversed.  So two sessions with the same reads keep to the same places and fail alike,
whatever orders they start in and switch to.
-/

set_option autoImplicit false

namespace DexRefs

def reverseBytes (width n : Nat) : Nat :=
  littleEndian (littleEndianBytes width n).reverse

theorem reverseBytes_littleEndian (bs : List UInt8) :
    reverseBytes bs.length (littleEndian bs) = littleEndian bs.reverse := by
  rw [reverseBytes, littleEndianBytes_littleEndian]

theorem ByteOrder.value_of_ne {o o' : ByteOrder} (h : o ≠ o') (bs : List UInt8) :
    o'.value bs = reverseBytes bs.length (o.value bs) := by
  cases o with
  | little =>
    cases o' with
    | little => exact absurd rfl h
    | big => exact (reverseBytes_littleEndian bs).symm
  | big =>
    cases o' with
    | big => exact absurd rfl h
    | little =>
      have hr := reverseBytes_littleEndian bs.reverse
      rw [List.length_reverse, List.reverse_reverse] at hr
      exact hr.symm

namespace Reader

variable {α β : Type} {b : Bytes}

def ended (x : Except Fault α) (pos : Nat) (o : ByteOrder) : EStateM.Result Fault Cursor α :=
  match x with
  | .ok a => .ok a ⟨pos, o⟩
  | .error f => .error f ⟨pos, o⟩

/-- The reading does the same in both orders, and keeps the order. -/
def OrderFree (r : Reader α) (b : Bytes) : Prop :=
  ∀ pos, ∃ x pos', ∀ o, r b ⟨pos, o⟩ = ended x pos' o

theorem OrderFree.left : OrderFree left b :=
  fun pos => ⟨.ok (b.size - pos), pos, fun _ => rfl⟩

theorem OrderFree.bind {r : Reader α} {f : α → Reader β} (hr : OrderFree r b)
    (hf : ∀ a, OrderFree (f a) b) : OrderFree (r >>= f) b := by
  intro pos
  obtain ⟨x, pos₁, h₁⟩ := hr pos
  cases x with
  | error e => exact ⟨.error e, pos₁, fun o => by rw [bind_run, h₁]; rfl⟩
  | ok a =>
    obtain ⟨y, pos₂, h₂⟩ := hf a pos₁
    exact ⟨y, pos₂, fun o => by rw [bind_run, h₁]; exact h₂ o⟩

theorem OrderFree.take (n : Nat) : OrderFree (take n) b := by
  intro pos
  by_cases h : (b.window pos n).length < n
  · exact ⟨.error (.truncated pos n (b.window pos n).length), pos + (b.window pos n).length,
      fun o => by rw [take_run, if_pos h]; rfl⟩
  · exact ⟨.ok (b.window pos n), pos + n, fun o => by rw [take_run, if_neg h]; rfl⟩

theorem OrderFree.u8 : OrderFree u8 b := by
  intro pos
  cases h : b.suffix pos with
  | nil => exact ⟨.error (.truncated pos 1 0), pos, fun o => by rw [u8_run, h]; rfl⟩
  | cons x xs => exact ⟨.ok x.toNat, pos + 1, fun o => by rw [u8_run, h]; rfl⟩

theorem OrderFree.uleb128 : OrderFree uleb128 b := by
  intro pos
  cases h : uleb128? (b.suffix pos) with
  | none =>
    exact ⟨.error (.truncated (max pos b.size) 1 0), max pos b.size,
      fun o => by rw [uleb128_run, h]; rfl⟩
  | some r => exact ⟨.ok r.1, pos + r.2, fun o => by rw [uleb128_run, h]; rfl⟩

theorem OrderFree.string : OrderFree string b := by
  intro pos
  have hrun := string_run b pos
  cases hn : uleb128? (b.suffix pos) with
  | none =>
    exact ⟨.error (.truncated (max pos b.size) 1 0), max pos b.size,
      fun o => by rw [hrun, hn]; rfl⟩
  | some r =>
    cases ht : rawText? (3 * r.1) (b.suffix (pos + r.2)) with
    | none =>
      exact ⟨.error (.truncated b.size 1 0), b.size, fun o => by rw [hrun, hn]; simp only [ht]; rfl⟩
    | some bs =>
      exact ⟨.ok (String.ofList (imageText bs)),
        pos + r.2 + rawTextSize (3 * r.1) (b.suffix (pos + r.2)),
        fun o => by rw [hrun, hn]; simp only [ht]; rfl⟩

theorem word_ends (width : Nat) (b : Bytes) (pos : Nat) :
    (∃ f pos', ∀ o, word width b ⟨pos, o⟩ = .error f ⟨pos', o⟩) ∨
      ∃ bs pos', bs.length = width ∧ ∀ o, word width b ⟨pos, o⟩ = .ok (o.value bs) ⟨pos', o⟩ := by
  by_cases h : (b.window pos width).length < width
  · refine .inl ⟨.truncated pos width (b.window pos width).length,
      pos + (b.window pos width).length, fun o => ?_⟩
    rw [word, map_run, take_run, if_pos h]
  · have hl := b.length_window pos width
    refine .inr ⟨b.window pos width, pos + width, by omega, fun o => ?_⟩
    rw [word, map_run, take_run, if_neg h]

end Reader

namespace Step

def isSwitch : Step → Bool
  | order _ => true
  | _ => false

def wordSize? : Step → Option Nat
  | u16 => some 2
  | u32 => some 4
  | _ => none

/-- What a step gives in two orders from one place on, each time with the cursor after it.  The
cursors are at one place again and keep their orders. -/
inductive Alike (s : Step) (o o' : ByteOrder) :
    (r r' : Except StepFault StepValue × Cursor) → Prop
  | fault {f : StepFault} {pos : Nat} : Alike s o o' (.error f, ⟨pos, o⟩) (.error f, ⟨pos, o'⟩)
  | value {v : StepValue} {pos : Nat} (h : s.wordSize? = none ∨ o = o') :
      Alike s o o' (.ok v, ⟨pos, o⟩) (.ok v, ⟨pos, o'⟩)
  | turned {width n pos : Nat} (hs : s.wordSize? = some width) (ho : o ≠ o') :
      Alike s o o' (.ok (.number n), ⟨pos, o⟩)
        (.ok (.number (reverseBytes width n)), ⟨pos, o'⟩)

namespace Alike

variable {s : Step} {o o' : ByteOrder} {r r' : Except StepFault StepValue × Cursor}

theorem order_left (h : Alike s o o' r r') : r.2.order = o := by
  cases h <;> rfl

theorem pos_eq (h : Alike s o o' r r') : r.2.pos = r'.2.pos := by
  cases h <;> rfl

end Alike

section Steps

variable {b : Bytes} {s : Step}

theorem alike_of_orderFree {α : Type} {r : Reader α} (h : Reader.OrderFree r b)
    (f : α → StepValue) (hs : s.wordSize? = none) (pos : Nat) (o o' : ByteOrder) :
    Alike s o o' (ofReader r f b ⟨pos, o⟩) (ofReader r f b ⟨pos, o'⟩) := by
  obtain ⟨x, pos', hx⟩ := h pos
  rw [ofReader, ofReader, hx, hx]
  cases x with
  | error e => exact .fault
  | ok a => exact .value (.inl hs)

theorem alike_word {width : Nat} (hs : s.wordSize? = some width) (pos : Nat) (o o' : ByteOrder) :
    Alike s o o' (ofReader (Reader.word width) .number b ⟨pos, o⟩)
      (ofReader (Reader.word width) .number b ⟨pos, o'⟩) := by
  rcases Reader.word_ends width b pos with ⟨f, pos', hf⟩ | ⟨bs, pos', hwidth, hbs⟩
  · rw [ofReader, ofReader, hf, hf]
    exact .fault
  · rw [ofReader, ofReader, hbs, hbs]
    by_cases ho : o = o'
    · subst ho
      exact .value (.inr rfl)
    · rw [ByteOrder.value_of_ne ho, hwidth]
      exact .turned hs ho

/-- What one step keeps: from one place on, it gives alike answers in both orders. -/
theorem run_alike (hs : s.isSwitch = false) (b : Bytes) (pos : Nat) (o o' : ByteOrder) :
    Alike s o o' (s.run b ⟨pos, o⟩) (s.run b ⟨pos, o'⟩) := by
  cases s with
  | u8 => exact alike_of_orderFree .u8 _ rfl pos o o'
  | u16 => exact alike_word rfl pos o o'
  | u32 => exact alike_word rfl pos o o'
  | uleb128 => exact alike_of_orderFree .uleb128 _ rfl pos o o'
  | string => exact alike_of_orderFree .string _ rfl pos o o'
  | bytes n =>
    rw [run, run]
    split
    · exact .fault
    split
    · exact alike_of_orderFree (.bind .left .take) _ rfl pos o o'
    · exact alike_of_orderFree (.take _) _ rfl pos o o'
  | seek p =>
    rw [run, run]
    split
    · exact .fault
    split
    · exact .fault
    · exact .value (.inl rfl)
  | tell => exact .value (.inl rfl)
  | order name => cases hs

theorem order_run (hs : s.isSwitch = false) (b : Bytes) (c : Cursor) :
    (s.run b c).2.order = c.order :=
  (run_alike hs b c.pos c.order c.order).order_left

theorem pos_run (hs : s.isSwitch = true) (b : Bytes) (c : Cursor) :
    (s.run b c).2.pos = c.pos := by
  cases s with
  | order name =>
    rw [run]
    split <;> rfl
  | u8 | u16 | u32 | uleb128 | string | bytes | seek | tell => cases hs

end Steps

def answers (b : Bytes) (c : Cursor) (ss : List Step) :
    List (Step × Except StepFault StepValue × Cursor) :=
  (ss.zip (session b c ss)).filter (!·.1.isSwitch)

section Sessions

variable {b : Bytes} {s : Step} {c c' : Cursor} {ss ss' : List Step}

theorem answers_switch (hs : s.isSwitch = true) :
    answers b c (s :: ss) = answers b (s.run b c).2 ss := by
  simp [answers, session, hs]

theorem answers_read (hs : s.isSwitch = false) :
    answers b c (s :: ss) = (s, s.run b c) :: answers b (s.run b c).2 ss := by
  simp [answers, session, hs]

/-- The same reads and moves, with switches of the byte order anywhere between them. -/
inductive SameReads : List Step → List Step → Prop
  | done : SameReads [] []
  | left {s : Step} {ss ss' : List Step} (hs : s.isSwitch = true) (h : SameReads ss ss') :
      SameReads (s :: ss) ss'
  | right {s : Step} {ss ss' : List Step} (hs : s.isSwitch = true) (h : SameReads ss ss') :
      SameReads ss (s :: ss')
  | both {s : Step} {ss ss' : List Step} (hs : s.isSwitch = false) (h : SameReads ss ss') :
      SameReads (s :: ss) (s :: ss')

theorem sameReads_of_filter_eq (h : ss.filter (!·.isSwitch) = ss'.filter (!·.isSwitch)) :
    SameReads ss ss' := by
  induction ss generalizing ss' with
  | nil =>
    induction ss' with
    | nil => exact .done
    | cons s' ss' ih =>
      obtain ⟨hs', hrest⟩ := List.forall_mem_cons.mp (List.filter_eq_nil_iff.mp h.symm)
      exact .right (by simpa using hs') (ih (List.filter_eq_nil_iff.mpr hrest).symm)
  | cons s ss ih =>
    cases hs : s.isSwitch with
    | true => exact .left hs (ih (by simpa [hs] using h))
    | false =>
      rw [List.filter_cons_of_pos (by simp [hs])] at h
      induction ss' with
      | nil => cases h
      | cons s' ss' ih' =>
        cases hs' : s'.isSwitch with
        | true => exact .right hs' (ih' (by simpa [hs'] using h))
        | false =>
          rw [List.filter_cons_of_pos (by simp [hs'])] at h
          obtain ⟨rfl, hrest⟩ := List.cons.inj h
          exact .both hs (ih hrest)

def AlikeAnswers (p p' : Step × Except StepFault StepValue × Cursor) : Prop :=
  p.1 = p'.1 ∧ Alike p.1 p.2.2.order p'.2.2.order p.2 p'.2

/-- What whole sessions keep: they are at one place whenever they have made the same reads. -/
theorem SameReads.answers_alike (h : SameReads ss ss') (hpos : c.pos = c'.pos) :
    List.Forall₂ AlikeAnswers (answers b c ss) (answers b c' ss') := by
  induction h generalizing c c' with
  | done => exact .nil
  | left hs _ ih =>
    rw [answers_switch hs]
    exact ih ((pos_run hs b c).trans hpos)
  | right hs _ ih =>
    rw [answers_switch hs]
    exact ih (hpos.trans (pos_run hs b c').symm)
  | @both s ss ss' hs _ ih =>
    have halike : Alike s c.order c'.order (s.run b c) (s.run b c') := by
      have h := run_alike hs b c.pos c.order c'.order
      rwa [show (⟨c.pos, c'.order⟩ : Cursor) = c' by rw [hpos]] at h
    rw [answers_read hs, answers_read hs]
    refine .cons ⟨rfl, ?_⟩ (ih ?_)
    · rw [order_run hs, order_run hs]
      exact halike
    · exact halike.pos_eq

theorem run_unknown {name : String} (h : ByteOrder.ofName? name = none) :
    (order name).run b c = (.error (.unknownOrder name), c) := by
  rw [run, h]

theorem answers_unknown {name : String} (h : ByteOrder.ofName? name = none) :
    answers b c (.order name :: ss) = answers b c ss := by
  rw [answers_switch rfl, run_unknown h]

end Sessions

section Failures

variable {b : Bytes} {s : Step} {c d : Cursor} {f : Fault}

/-- Where the read of bytes starts that a failing step fails in.  Numbers in base 128 and strings
are read byte by byte, and fail where the bytes end. -/
def failingPos (b : Bytes) (pos : Nat) : Step → Nat
  | uleb128 | string => max pos b.size
  | _ => pos

/-- The fault `f` of a read of bytes from `start` on, which leaves the cursor at `d`. -/
structure FailsFrom (b : Bytes) (start : Nat) (o : ByteOrder) (f : Fault) (d : Cursor) : Prop where
  read : ∃ n, Reader.take n b ⟨start, o⟩ = .error f d ∧ f = .truncated start n (b.size - start)
  cursor : d = ⟨max start b.size, o⟩

theorem failsFrom_take {n start : Nat} {o : ByteOrder} (hn : 0 < n) (h : b.size < start + n) :
    FailsFrom b start o (.truncated start n (b.size - start)) ⟨max start b.size, o⟩ :=
  ⟨⟨n, Reader.take_short hn h, rfl⟩, rfl⟩

theorem failsFrom_of_take {n : Nat} (h : Reader.take n b c = .error f d) :
    FailsFrom b c.pos c.order f d := by
  have hl := b.length_window c.pos n
  by_cases hshort : b.size < c.pos + n ∧ 0 < n
  · have hrun := Reader.take_short (o := c.order) hshort.2 hshort.1
    cases h.symm.trans hrun
    exact failsFrom_take hshort.2 hshort.1
  · rw [Reader.take_run, if_neg (by omega)] at h
    cases h

theorem failsFrom_end (pos : Nat) (o : ByteOrder) :
    FailsFrom b (max pos b.size) o (.truncated (max pos b.size) 1 0) ⟨max pos b.size, o⟩ := by
  have h : FailsFrom b (max pos b.size) o _ _ := failsFrom_take Nat.one_pos (by omega)
  rwa [show b.size - max pos b.size = 0 by omega, show max (max pos b.size) b.size = max pos b.size
    by omega] at h

theorem ofReader_eq_error {α : Type} {r : Reader α} {g : α → StepValue}
    (h : ofReader r g b c = (.error (.read f), d)) : r b c = .error f d := by
  unfold ofReader at h
  split at h
  · cases h
  · next hr =>
    cases h
    exact hr

theorem failsFrom_word {width : Nat} (h : Reader.word width b c = .error f d) :
    FailsFrom b c.pos c.order f d := by
  rw [Reader.word, Reader.map_run] at h
  split at h
  · cases h
  · next ht =>
    cases h
    exact failsFrom_of_take ht

theorem failsFrom_uleb128 (h : Reader.uleb128 b c = .error f d) :
    FailsFrom b (max c.pos b.size) c.order f d := by
  have hrun := Reader.uleb128_run b c.pos c.order
  cases hn : uleb128? (b.suffix c.pos) with
  | none =>
    rw [hn] at hrun
    cases h.symm.trans hrun
    exact failsFrom_end c.pos c.order
  | some r =>
    rw [hn] at hrun
    cases h.symm.trans hrun

theorem failsFrom_string (h : Reader.string b c = .error f d) :
    FailsFrom b (max c.pos b.size) c.order f d := by
  have hrun := Reader.string_run b c.pos c.order
  cases hn : uleb128? (b.suffix c.pos) with
  | none =>
    rw [hn] at hrun
    cases h.symm.trans hrun
    exact failsFrom_end c.pos c.order
  | some r =>
    have hfit := uleb128?_length hn
    rw [Bytes.length_suffix] at hfit
    have hmax : max c.pos b.size = b.size := by omega
    have hend := failsFrom_end (b := b) c.pos c.order
    rw [hn] at hrun
    cases ht : rawText? (3 * r.1) (b.suffix (c.pos + r.2)) with
    | none =>
      simp only [ht] at hrun
      cases h.symm.trans hrun
      rwa [hmax] at hend ⊢
    | some bs =>
      simp only [ht] at hrun
      cases h.symm.trans hrun

/-- A step that fails for want of bytes fails in one read of them, and is left where that read
leaves the cursor: where it started, or where the bytes end if that is later. -/
theorem run_fails (h : s.run b c = (.error (.read f), d)) :
    FailsFrom b (s.failingPos b c.pos) c.order f d := by
  cases s with
  | u8 | u16 | u32 => exact failsFrom_word (ofReader_eq_error h)
  | uleb128 => exact failsFrom_uleb128 (ofReader_eq_error h)
  | string => exact failsFrom_string (ofReader_eq_error h)
  | bytes n =>
    rw [run] at h
    split at h
    · cases h
    split at h
    · exact failsFrom_of_take (n := b.size - c.pos) (ofReader_eq_error h)
    · exact failsFrom_of_take (ofReader_eq_error h)
  | seek p =>
    rw [run] at h
    split at h
    · cases h
    split at h <;> cases h
  | tell => cases h
  | order name =>
    rw [run] at h
    split at h <;> cases h

def IsForward : Step → Prop
  | bytes n => 0 ≤ n
  | seek p => 0 ≤ p
  | _ => True

theorem isWide_iff {n : Int} (h : 0 ≤ n) : isWide n = true ↔ 0x8000000000000000 ≤ n := by
  unfold isWide positionLimit
  simp only [Bool.or_eq_true, decide_eq_true_eq]
  omega

theorem run_wide {n : Int} (h : 0x8000000000000000 ≤ n) (b : Bytes) (c : Cursor) :
    (bytes n).run b c = (.error .wideCount, c) ∧ (seek n).run b c = (.error .widePosition, c) := by
  have hwide : isWide n = true := (isWide_iff (by omega)).mpr h
  rw [run, run, if_pos hwide, if_pos hwide]
  exact ⟨rfl, rfl⟩

theorem ofReader_fault {α : Type} {r : Reader α} {g : α → StepValue} {e : StepFault}
    (h : ofReader r g b c = (.error e, d)) : ∃ f, e = .read f := by
  unfold ofReader at h
  split at h
  · cases h
  · cases h
    exact ⟨_, rfl⟩

/-- A step either fails for want of bytes, or has a number that is too wide. -/
theorem fault_cases {e : StepFault} (hs : s.isSwitch = false) (hforward : s.IsForward)
    (h : s.run b c = (.error e, d)) :
    (∃ f, e = .read f) ∨ ∃ n : Int, 0x8000000000000000 ≤ n ∧ (s = bytes n ∨ s = seek n) := by
  cases s with
  | u8 | u16 | u32 | uleb128 | string => exact .inl (ofReader_fault h)
  | bytes n =>
    by_cases hn : isWide n = true
    · exact .inr ⟨n, (isWide_iff hforward).mp hn, .inl rfl⟩
    · rw [run, if_neg hn, if_neg (Int.not_lt.mpr hforward)] at h
      exact .inl (ofReader_fault h)
  | seek p =>
    by_cases hp : isWide p = true
    · exact .inr ⟨p, (isWide_iff hforward).mp hp, .inr rfl⟩
    · rw [run, if_neg hp, if_neg (Int.not_lt.mpr hforward)] at h
      cases h
  | tell => cases h
  | order name => cases hs

end Failures

/-- Two sessions with the same reads and moves, which start at one place: whatever orders they go
by, they are at one place after each of these steps, and answer it alike.  Nothing but a known order
that is set changes the order.  After a read that fails for want of bytes, a session goes on from
where that read started, or from the end of the bytes if that is later; a count or position of
`0x8000000000000000` or more is refused where the session stands. -/
theorem session_orders (b : Bytes) (pos : Nat) (o o' : ByteOrder) {ss ss' : List Step}
    (h : ss.filter (!·.isSwitch) = ss'.filter (!·.isSwitch)) :
    List.Forall₂ AlikeAnswers (answers b ⟨pos, o⟩ ss) (answers b ⟨pos, o'⟩ ss') ∧
      (∀ (s : Step) c, s.isSwitch = false → (s.run b c).2.order = c.order) ∧
      (∀ name o c, ByteOrder.ofName? name = some o →
        (order name).run b c = (.ok (.order o), ⟨c.pos, o⟩)) ∧
      (∀ name c, ByteOrder.ofName? name = none →
        (order name).run b c = (.error (.unknownOrder name), c) ∧
          ∀ ss, answers b c (.order name :: ss) = answers b c ss) ∧
      (∀ (s : Step) c f d, s.run b c = (.error (.read f), d) →
        FailsFrom b (s.failingPos b c.pos) c.order f d ∧
          ∀ ss, session b c (s :: ss) = (.error (.read f), d) ::
            session b ⟨max (s.failingPos b c.pos) b.size, c.order⟩ ss) ∧
      (∀ (s : Step) c e d, s.isSwitch = false → s.IsForward → s.run b c = (.error e, d) →
        (∃ f, e = .read f) ∨ ∃ n : Int, 0x8000000000000000 ≤ n ∧ (s = bytes n ∨ s = seek n)) ∧
      ∀ (n : Int) c, 0x8000000000000000 ≤ n →
        (bytes n).run b c = (.error .wideCount, c) ∧
          (seek n).run b c = (.error .widePosition, c) := by
  refine ⟨(sameReads_of_filter_eq h).answers_alike rfl, fun s c hs => order_run hs b c,
    fun name o c hname => ?_, fun name c hname => ?_, fun s c f d hf => ?_,
    fun s c e d => fault_cases, fun n c hn => run_wide hn b c⟩
  · rw [run, hname]
  · exact ⟨run_unknown hname, fun ss => answers_unknown hname⟩
  · have hfails := run_fails hf
    refine ⟨hfails, fun ss => ?_⟩
    rw [session, hf, hfails.cursor]

def littleFirst : List Step :=
  [u16, order "big", order "middle", u32, seek 6, u32, uleb128]

def bigFirst : List Step :=
  [u16, order "little", u32, seek 6, order "big", u32, uleb128]

theorem session_orders_switched :
    littleFirst.filter (!·.isSwitch) = bigFirst.filter (!·.isSwitch) ∧
      List.Forall₂ AlikeAnswers (answers #[1, 2, 3, 4, 5, 6, 7, 8] ⟨0, .little⟩ littleFirst)
        (answers #[1, 2, 3, 4, 5, 6, 7, 8] ⟨0, .big⟩ bigFirst) ∧
      answers #[1, 2, 3, 4, 5, 6, 7, 8] ⟨0, .little⟩ littleFirst =
        [(u16, .ok (.number 0x0201), ⟨2, .little⟩), (u32, .ok (.number 0x03040506), ⟨6, .big⟩),
          (seek 6, .ok .nothing, ⟨6, .big⟩),
          (u32, .error (.read (.truncated 6 4 2)), ⟨8, .big⟩),
          (uleb128, .error (.read (.truncated 8 1 0)), ⟨8, .big⟩)] ∧
      (answers #[1, 2, 3, 4, 5, 6, 7, 8] ⟨0, .big⟩ bigFirst).take 2 =
        [(u16, .ok (.number 0x0102), ⟨2, .big⟩), (u32, .ok (.number 0x06050403), ⟨6, .little⟩)] ∧
      (order "middle").run #[1, 2, 3, 4, 5, 6, 7, 8] ⟨2, .big⟩ =
        (.error (.unknownOrder "middle"), ⟨2, .big⟩) ∧
      FailsFrom #[1, 2, 3, 4, 5, 6, 7, 8] 6 .big (.truncated 6 4 2) ⟨8, .big⟩ := by
  have hreads : littleFirst.filter (!·.isSwitch) = bigFirst.filter (!·.isSwitch) := by decide
  obtain ⟨halike, -, -, hunknown, hfails, -⟩ :=
    session_orders #[1, 2, 3, 4, 5, 6, 7, 8] 0 .little .big hreads
  exact ⟨hreads, halike, rfl, rfl, (hunknown "middle" ⟨2, .big⟩ rfl).1,
    (hfails u32 ⟨6, .big⟩ _ _ rfl).1⟩

/-- A read of too many bytes to count leaves the cursor in front of the bytes that there are. -/
theorem session_orders_wideCount : ¬∀ (b : Bytes) (n : Nat) (c : Cursor) e d,
    (bytes n).run b c = (.error e, d) → d.pos = max c.pos b.size := by
  intro h
  have hrun := (run_wide (n := 0x8000000000000000) (by decide) #[97, 98, 99] ⟨0, .little⟩).1
  cases h #[97, 98, 99] 0x8000000000000000 ⟨0, .little⟩ _ _ hrun

end Step

end DexRefs
