import DexRefs.Proofs.Reading
import DexRefs.Proofs.Resolution

/-!
How archives are read: where the end record is looked for, which entries the directory lists, and
how far the walk through the numbered entries goes.  What keeps an archive from being read is
either a defect of it or something that is not supported.
-/

set_option autoImplicit false

namespace DexRefs

namespace EndRecord

variable {b : Bytes} {pos : Nat}

theorem lastSignature_eq_some {low n : Nat} (h : lastSignature b low n = some pos) :
    low ≤ pos ∧ pos ≤ low + n ∧ b.hasAt pos signature = true := by
  induction n with
  | zero =>
    rw [lastSignature, Option.ite_none_right_eq_some] at h
    obtain ⟨hs, hpos⟩ := h
    cases hpos
    exact ⟨Nat.le_refl _, Nat.le_refl _, hs⟩
  | succ n ih =>
    rw [lastSignature] at h
    split at h
    next hs =>
      cases h
      exact ⟨by omega, by omega, hs⟩
    next =>
      obtain ⟨hl, hn, hs⟩ := ih h
      exact ⟨hl, by omega, hs⟩

theorem locate_eq_some (h : locate b = some pos) :
    b.hasAt pos signature = true ∧ pos + length ≤ b.size ∧ b.size ≤ pos + (65536 + length) := by
  unfold locate at h
  split at h
  · cases h
  next hsize =>
    dsimp only at h
    split at h
    next hlast =>
      cases h
      rw [Bool.and_eq_true] at hlast
      exact ⟨hlast.1, by omega, by omega⟩
    next =>
      split at h
      next p hp =>
        rw [Option.ite_none_right_eq_some] at h
        obtain ⟨hfits, hpos⟩ := h
        cases hpos
        obtain ⟨hl, -, hs⟩ := lastSignature_eq_some hp
        exact ⟨hs, hfits, by omega⟩
      next => cases h

theorem find_eq_none (h : ∀ pos, b.size ≤ pos + (65536 + length) → pos + length ≤ b.size →
    b.hasAt pos signature = false) : find b = .ok none := by
  unfold find
  cases hl : locate b with
  | none => rfl
  | some pos =>
    obtain ⟨hs, hfits, hreach⟩ := locate_eq_some hl
    rw [h pos hreach hfits] at hs
    cases hs

/-- A locator in front of the end record that tells of another volume than this one. -/
structure Spanned (b : Bytes) (pos : Nat) : Prop where
  located : locate b = some pos
  preceded : locatorLength ≤ pos
  locator : b.hasAt (pos - locatorLength) locatorSignature = true
  elsewhere : b.wordAt (pos - locatorLength + 4) 4 ≠ 0 ∨
    1 < b.wordAt (pos - locatorLength + 16) 4

theorem find_eq_error {f : ArchiveFault} :
    find b = .error f ↔ f = .severalVolumes ∧ ∃ pos, Spanned b pos := by
  constructor
  · intro h
    unfold find at h
    split at h
    next pos hpos =>
      unfold readAt at h
      dsimp only at h
      split at h
      · cases h
      next hlocator =>
        rw [Bool.or_eq_true, not_or, decide_eq_true_iff] at hlocator
        split at h
        next helse =>
          cases h
          rw [Bool.or_eq_true, decide_eq_true_iff, decide_eq_true_iff] at helse
          exact ⟨rfl, pos, hpos, by omega, by simpa using hlocator.2, helse⟩
        next =>
          split at h
          · cases h
          split at h <;> cases h
    next => cases h
  · intro h
    obtain ⟨rfl, pos, hpos⟩ := h
    have hlocator : (decide (pos < locatorLength) ||
        !b.hasAt (pos - locatorLength) locatorSignature) = false := by
      simp [hpos.preceded, hpos.locator]
    have helse : (decide (b.wordAt (pos - locatorLength + 4) 4 ≠ 0) ||
        decide (1 < b.wordAt (pos - locatorLength + 16) 4)) = true := by
      rw [Bool.or_eq_true, decide_eq_true_iff, decide_eq_true_iff]
      exact hpos.elsewhere
    unfold find readAt
    simp only [hpos.located, hlocator, helse, if_true, Bool.false_eq_true, if_false]

end EndRecord

namespace Entry

variable {f : ArchiveFault}

theorem decodeName_eq_error {flags : Nat} {bs : List UInt8} :
    decodeName flags bs = .error f ↔
      hasFlag flags 11 = true ∧ utf8? bs = none ∧ f = .nameEncoding bs := by
  unfold decodeName
  by_cases h : hasFlag flags 11 = true
  · cases utf8? bs <;> simp [h, eq_comm]
  · simp [h]

theorem widen_isDefect {e : Entry} {data : Bytes} (h : e.widen data = .error f) :
    f.isDefect = true := by
  unfold widen at h
  dsimp only at h
  repeat' split at h
  all_goals cases h
  all_goals rfl

theorem readExtra_isDefect {e : Entry} {extra : Bytes} {fuel pos : Nat}
    (h : e.readExtra extra fuel pos = .error f) : f.isDefect = true := by
  induction fuel generalizing e pos with
  | zero => cases h
  | succ fuel ih =>
    rw [readExtra] at h
    split at h
    · cases h
    dsimp only at h
    split at h
    · cases h
      rfl
    split at h
    · split at h
      next => exact ih h
      next hw =>
        cases h
        exact widen_isDefect hw
    · exact ih h

variable {directory : Bytes} {shift : Int} {pos : Nat}

structure Begun (directory : Bytes) (pos : Nat) : Prop where
  fits : pos + directoryLength ≤ directory.size
  signature : directory.hasAt pos directorySignature = true

def nameAt (directory : Bytes) (pos : Nat) : List UInt8 :=
  directory.window (pos + directoryLength) (directory.wordAt (pos + 28) 2)

/-- First the name is read, then the version; what is left fails for a defect only. -/
theorem Begun.read_eq (h : Begun directory pos) (shift : Int) :
    ∃ rest : String → Except ArchiveFault (Entry × Nat),
      (∀ name f, rest name = .error f → f.isDefect = true) ∧
      (∀ name e next, rest name = .ok (e, next) → pos < next) ∧
      read directory shift pos =
        decodeName (directory.wordAt (pos + 8) 2) (nameAt directory pos) >>= fun name =>
          if 63 < directory.wordAt (pos + 6) 1 then
            .error (.newerVersion (directory.wordAt (pos + 6) 1))
          else rest name := by
  have hfits : ¬ directory.size < pos + directoryLength := Nat.not_lt.mpr h.fits
  have hsignature : ¬ (!directory.hasAt pos directorySignature) = true := by simp [h.signature]
  unfold read
  dsimp only
  rw [if_neg hfits, if_neg hsignature]
  refine ⟨_, ?_, ?_, rfl⟩
  · intro name f h
    rcases bind_eq_error.mp h with h | ⟨e, -, h⟩
    · exact readExtra_isDefect h
    · cases h
  · intro name e next h
    obtain ⟨e', -, he⟩ := bind_eq_ok.mp h
    cases he
    unfold directoryLength
    omega

theorem begun_or_error (directory : Bytes) (shift : Int) (pos : Nat) :
    Begun directory pos ∨ ∃ f, f.isDefect = true ∧ read directory shift pos = .error f := by
  unfold read
  dsimp only
  split
  · exact .inr ⟨_, rfl, rfl⟩
  next hfits =>
    split
    · exact .inr ⟨_, rfl, rfl⟩
    next hsignature => exact .inl ⟨by omega, by simpa using hsignature⟩

/-- Why an entry of the directory cannot be listed though it is not damaged. -/
inductive Unlisted (directory : Bytes) (pos : Nat) : ArchiveFault → Prop where
  | name (begun : Begun directory pos)
      (flag : hasFlag (directory.wordAt (pos + 8) 2) 11 = true)
      (illFormed : utf8? (nameAt directory pos) = none) :
      Unlisted directory pos (.nameEncoding (nameAt directory pos))
  | version {name : String} (begun : Begun directory pos)
      (named : decodeName (directory.wordAt (pos + 8) 2) (nameAt directory pos) = .ok name)
      (newer : 63 < directory.wordAt (pos + 6) 1) :
      Unlisted directory pos (.newerVersion (directory.wordAt (pos + 6) 1))

theorem Unlisted.isDefect (h : Unlisted directory pos f) : f.isDefect = false := by
  cases h <;> rfl

theorem read_eq_error (hf : f.isDefect = false) :
    read directory shift pos = .error f ↔ Unlisted directory pos f := by
  constructor
  · intro h
    rcases begun_or_error directory shift pos with hbegun | ⟨g, hg, hread⟩
    · obtain ⟨rest, hrest, -, hread⟩ := hbegun.read_eq shift
      rw [hread, bind_eq_error] at h
      rcases h with hname | ⟨name, hname, h⟩
      · obtain ⟨hflag, hill, rfl⟩ := decodeName_eq_error.mp hname
        exact .name hbegun hflag hill
      · split at h
        next hnewer =>
          cases h
          exact .version hbegun hname hnewer
        next =>
          rw [hrest name f h] at hf
          cases hf
    · cases h.symm.trans hread
      cases hf.symm.trans hg
  · intro h
    cases h with
    | name begun flag illFormed =>
      obtain ⟨rest, -, -, hread⟩ := begun.read_eq shift
      rw [hread, decodeName_eq_error.mpr ⟨flag, illFormed, rfl⟩]
      rfl
    | version begun named newer =>
      obtain ⟨rest, -, -, hread⟩ := begun.read_eq shift
      rw [hread, named]
      exact if_pos newer

theorem read_advances {e : Entry} {next : Nat} (h : read directory shift pos = .ok (e, next)) :
    pos < next := by
  rcases begun_or_error directory shift pos with hbegun | ⟨g, -, hread⟩
  · obtain ⟨rest, -, hrest, hread⟩ := hbegun.read_eq shift
    rw [hread, bind_eq_ok] at h
    obtain ⟨name, -, h⟩ := h
    split at h
    · cases h
    · exact hrest name e next h
  · cases h.symm.trans hread

/-- The entries that are listed one after the other from one position to another. -/
inductive Listed (directory : Bytes) (shift : Int) : Nat → List Entry → Nat → Prop where
  | nil (pos : Nat) : Listed directory shift pos [] pos
  | cons {pos next last : Nat} {e : Entry} {es : List Entry} (more : pos < directory.size)
      (first : read directory shift pos = .ok (e, next))
      (rest : Listed directory shift next es last) : Listed directory shift pos (e :: es) last

/-- Listing fails with the first entry that cannot be read.  By induction on the
fuel, which suffices since every entry takes at least a byte. -/
theorem readAll_eq_error {fuel : Nat} (hfuel : directory.size < pos + fuel) :
    readAll directory shift fuel pos = .error f ↔ ∃ es last,
      Listed directory shift pos es last ∧ last < directory.size ∧
        read directory shift last = .error f := by
  induction fuel generalizing pos with
  | zero =>
    constructor
    · intro h
      cases h
    · intro h
      obtain ⟨es, last, hlisted, hlast, -⟩ := h
      cases hlisted <;> omega
  | succ fuel ih =>
    rw [readAll]
    constructor
    · intro h
      split at h
      · cases h
      next hmore =>
        cases hread : read directory shift pos with
        | error g =>
          rw [hread] at h
          cases h
          exact ⟨[], pos, .nil pos, by omega, hread⟩
        | ok r =>
          rw [hread] at h
          obtain ⟨e, next⟩ := r
          have hnext := read_advances hread
          change (readAll directory shift fuel next >>= _) = _ at h
          rw [bind_eq_error] at h
          rcases h with h | ⟨rest, -, h⟩
          · obtain ⟨es, last, hlisted, hlast, hl⟩ := (ih (by omega)).mp h
            exact ⟨e :: es, last, .cons (by omega) hread hlisted, hlast, hl⟩
          · cases h
    · intro h
      obtain ⟨es, last, hlisted, hlast, hl⟩ := h
      cases hlisted with
      | nil =>
        rw [if_neg (by omega), hl]
        rfl
      | cons more first rest =>
        have hnext := read_advances first
        have hrest := (ih (by omega)).mpr ⟨_, last, rest, hlast, hl⟩
        rw [if_neg (by omega), first]
        change (readAll directory shift fuel _ >>= _) = _
        rw [hrest]
        rfl

end Entry

namespace EndRecord

def directory (e : EndRecord) (b : Bytes) : Bytes :=
  b.extract e.start.toNat (e.start.toNat + e.size)

end EndRecord

namespace Archive

variable {b : Bytes} {e : EndRecord} {f : ArchiveFault}

theorem ofEndRecord_bytes {a : Archive} (h : ofEndRecord b e = .ok a) : a.bytes = b := by
  unfold ofEndRecord at h
  split at h
  · cases h
  simp only [bind_eq_ok, pure_eq_ok] at h
  obtain ⟨listed, -, rfl⟩ := h
  rfl

theorem ofEndRecord_eq_error (hf : f.isDefect = false) :
    ofEndRecord b e = .error f ↔ 0 ≤ e.start ∧ ∃ es last,
      Entry.Listed (e.directory b) e.shift 0 es last ∧ last < (e.directory b).size ∧
        Entry.Unlisted (e.directory b) last f := by
  have hread : Entry.readAll (e.directory b) e.shift ((e.directory b).size + 1) 0 = .error f ↔ _ :=
    Entry.readAll_eq_error (by omega)
  simp only [Entry.read_eq_error hf] at hread
  rw [← hread]
  unfold ofEndRecord
  constructor
  · intro h
    split at h
    · cases h
      cases hf
    next hstart =>
      rw [bind_eq_error] at h
      rcases h with h | ⟨listed, -, h⟩
      · exact ⟨by omega, h⟩
      · cases h
  · intro h
    obtain ⟨hstart, hall⟩ := h
    rw [if_neg (by omega)]
    change (Entry.readAll (e.directory b) e.shift ((e.directory b).size + 1) 0 >>= _) = _
    rw [hall]
    rfl

end Archive

namespace Container

variable {a : Archive} {limit n : Nat}

def Readable (a : Archive) (n k : Nat) : Prop :=
  ∀ j < k, ∃ c, a.read? (entryName (n + j : Nat)) = some (.ok c)

theorem readable_zero : Readable a n 0 :=
  fun _ hj => absurd hj (Nat.not_lt_zero _)

theorem readable_succ {k : Nat} :
    Readable a n (k + 1) ↔ (∃ c, a.read? (entryName n) = some (.ok c)) ∧ Readable a (n + 1) k := by
  simp only [Readable, Nat.forall_lt_succ_left, Nat.add_zero, ← Nat.add_assoc,
    Nat.add_right_comm n 1]

theorem walk_of_error {f : ArchiveFault} (h : a.read? (entryName n) = some (.error f)) :
    walk a (limit + 1) n = .error f := by
  rw [walk, h]
  rfl

theorem walk_of_read {c : Bytes} (h : a.read? (entryName n) = some (.ok c)) :
    walk a (limit + 1) n =
      (walk a limit (n + 1)).map fun r => (⟨entryName n, c⟩ :: r.1, r.2) := by
  rw [walk, h]
  cases walk a limit (n + 1) <;> rfl

theorem walk_eq_error_of_read {c : Bytes} {f : ArchiveFault}
    (h : a.read? (entryName n) = some (.ok c)) :
    walk a (limit + 1) n = .error f ↔ walk a limit (n + 1) = .error f := by
  rw [walk_of_read h]
  cases walk a limit (n + 1) <;> simp [Except.map]

/-- The walk fails with the first entry that cannot be read, if it gets there.  By induction on
the limit, for all numbers from which the walk may go on. -/
theorem walk_eq_error {f : ArchiveFault} :
    walk a limit n = .error f ↔
      ∃ k < limit, Readable a n k ∧ a.read? (entryName (n + k : Nat)) = some (.error f) := by
  induction limit generalizing n with
  | zero => simp [walk]
  | succ limit ih =>
    simp only [Nat.exists_lt_succ_left, readable_zero, readable_succ, true_and, Nat.add_zero,
      ← Nat.add_assoc, Nat.add_right_comm n _ 1, and_assoc]
    cases hread : a.read? (entryName n) with
    | none => simp [walk, hread]
    | some entry =>
      cases entry with
      | error g => simp [walk_of_error hread]
      | ok c =>
        rw [walk_eq_error_of_read hread, ih]
        simp

theorem walk_names {ss : List Source} {complete : Bool} (h : walk a limit n = .ok (ss, complete)) :
    ss.map (·.name) = (List.range ss.length).map fun k => entryName (n + k : Nat) := by
  induction limit generalizing n ss with
  | zero =>
    cases h
    rfl
  | succ limit ih =>
    rw [walk] at h
    split at h
    next =>
      cases h
      rfl
    next entry hentry =>
      simp only [bind_eq_ok, pure_eq_ok] at h
      obtain ⟨c, -, ⟨rest, complete'⟩, hrest, he⟩ := h
      cases he
      simp only [List.map_cons, List.length_cons, List.range_succ_eq_map, Nat.add_zero,
        List.map_map, ih hrest, List.cons.injEq, true_and]
      refine List.map_congr_left fun k _ => ?_
      rw [Function.comp_apply, show n + k.succ = n + 1 + k by omega]

def oneFile (b : Bytes) : FileTree := { files := [(["app.dex"], b)] }

end Container

end DexRefs
