import DexRefs.Proofs.Loading

/-!
What more bytes can change.  Where the bytes of an image go on, a reading has the same outcome,
except that it may get further than where it missed bytes before.
-/

set_option autoImplicit false

namespace DexRefs

variable {p s : Bytes} {α β : Type}

/-- The outcome of a reading of `p`, and that of the same reading when `s` follows.  Only a reading
that asked for more than there was can end differently, and only once all it asked for is there. -/
inductive Continued (p s : Bytes) : Except Fault α → Except Fault α → Prop
  | ok (a : α) : Continued p s (.ok a) (.ok a)
  | fault (f : Fault) (hf : ∀ o n a, f ≠ .truncated o n a) : Continued p s (.error f) (.error f)
  | short {o n : Nat} {y : Except Fault α} (hn : p.size - o < n)
      (hy : p.size + s.size < o + n → y = .error (.truncated o n (p.size + s.size - o))) :
      Continued p s (.error (.truncated o n (p.size - o))) y

namespace Continued

theorem bind {x y : Except Fault α} {f g : α → Except Fault β} (h : Continued p s x y)
    (hfg : ∀ a, Continued p s (f a) (g a)) : Continued p s (x >>= f) (y >>= g) := by
  cases h with
  | ok a => exact hfg a
  | fault f hf => exact .fault f hf
  | short hn hy => exact .short hn fun hs => by rw [hy hs]; rfl

theorem map {x y : Except Fault α} (f : α → β) (h : Continued p s x y) :
    Continued p s (f <$> x) (f <$> y) := by
  rw [← bind_pure_comp, ← bind_pure_comp]
  exact h.bind fun a => .ok (f a)

theorem mapM {f g : α → Except Fault β} (h : ∀ a, Continued p s (f a) (g a)) (l : List α) :
    Continued p s (l.mapM f) (l.mapM g) := by
  induction l with
  | nil => exact .ok []
  | cons a l ih =>
    rw [List.mapM_cons, List.mapM_cons]
    exact (h a).bind fun b => ih.bind fun bs => .ok (b :: bs)

theorem slice {n : Nat} (h0 : 0 < n) (pos : Nat) :
    Continued p s (p.slice pos n) ((p ++ s).slice pos n) := by
  unfold Bytes.slice
  rw [Array.size_append]
  by_cases h : pos + n ≤ p.size
  · rw [if_pos h, if_pos (by omega), Bytes.window_append s h]
    exact .ok _
  · rw [if_neg h]
    refine .short (by omega) fun hs => ?_
    rw [if_neg (by omega)]

theorem wordAt (o : ByteOrder) {width : Nat} (h0 : 0 < width) (pos : Nat) :
    Continued p s (o.wordAt p width pos) (o.wordAt (p ++ s) width pos) :=
  (slice h0 pos).map o.value

theorem inRange (table : Table) (row index limit : Nat) (target : Table) (offset : Nat) :
    Continued p s (Tables.inRange table row index limit target offset)
      (Tables.inRange table row index limit target offset) := by
  unfold Tables.inRange
  split
  · exact .ok ()
  · exact .fault _ (by simp)

theorem missing {pos : Nat} {y : Except Fault α} (hpos : p.size ≤ pos)
    (hy : p.size + s.size ≤ pos → y = .error (.truncated pos 1 0)) :
    Continued p s (.error (.truncated pos 1 0)) y := by
  have h0 : p.size - pos = 0 := by omega
  have h := Continued.short (p := p) (s := s) (o := pos) (n := 1) (y := y) (by omega) fun hs => by
    rw [show p.size + s.size - pos = 0 by omega]
    exact hy (by omega)
  rwa [h0] at h

theorem stringAt (pos : Nat) : Continued p s (p.stringAt pos) ((p ++ s).stringAt pos) := by
  have hnil (h : p.size + s.size ≤ p.size) : s = #[] :=
    Array.eq_empty_of_size_eq_zero (by omega)
  unfold Bytes.stringAt
  -- a number or a text that does not end within the bytes may end in those that follow, if any do
  cases hu : uleb128? (p.suffix pos) with
  | none =>
    refine missing (by omega) fun hs => ?_
    by_cases hp : p.size ≤ pos
    · have hsize : (p ++ s).size ≤ pos := by
        rw [Array.size_append]
        omega
      rw [Bytes.suffix_eq_nil hsize, Nat.max_eq_left hsize, Nat.max_eq_left hp]
      rfl
    · rw [hnil (by omega), Array.append_empty, hu]
  | some r =>
    obtain ⟨units, n⟩ := r
    have hlen := uleb128?_length hu
    rw [Bytes.length_suffix] at hlen
    rw [Bytes.suffix_append s (by omega), uleb128?_append hu]
    dsimp only
    rw [Bytes.suffix_append s (show pos + n ≤ p.size by omega)]
    cases ht : rawText? (3 * units) (p.suffix (pos + n)) with
    | none =>
      refine missing (Nat.le_refl _) fun hs => ?_
      rw [hnil hs, Array.append_empty, List.append_nil, ht]
    | some bs =>
      rw [rawText?_append ht]
      exact .ok _

theorem rowsAt {e : Extent} {width : Nat} {f g : Nat → Nat → Except Fault α}
    (h : ∀ row pos, Continued p s (f row pos) (g row pos)) :
    Continued p s (Tables.rowsAt e width f) (Tables.rowsAt e width g) :=
  (mapM (fun i => h i (e.off + width * i)) (List.range e.size)).map List.toArray

theorem eachAt {f g : α × Nat → Except Fault β} (h : ∀ a, Continued p s (f a) (g a))
    (as : Array α) : Continued p s (List.toArray <$> as.toList.zipIdx.mapM f)
      (List.toArray <$> as.toList.zipIdx.mapM g) :=
  (mapM h as.toList.zipIdx).map List.toArray

section Tables

variable (o : ByteOrder) (strings types row : Nat)

theorem stringsAt (e : Extent) :
    Continued p s (Tables.stringsAt p o e) (Tables.stringsAt (p ++ s) o e) :=
  (rowsAt fun _ pos => wordAt o (by decide) pos).bind fun offsets =>
    eachAt (fun a => stringAt a.1) offsets

theorem typeAt (pos : Nat) :
    Continued p s (Tables.typeAt p o strings row pos) (Tables.typeAt (p ++ s) o strings row pos) :=
  (wordAt o (by decide) pos).bind fun d => (inRange ..).bind fun _ => .ok d

theorem protoRowAt (pos : Nat) : Continued p s (Tables.protoRowAt p o strings types row pos)
    (Tables.protoRowAt (p ++ s) o strings types row pos) :=
  (wordAt o (by decide) pos).bind fun _ => (wordAt o (by decide) _).bind fun _ =>
    (wordAt o (by decide) _).bind fun _ => (inRange ..).bind fun _ =>
    (inRange ..).bind fun _ => .ok _

theorem parameterAt (pos : Nat) : Continued p s (Tables.parameterAt p o types row pos)
    (Tables.parameterAt (p ++ s) o types row pos) :=
  (wordAt o (by decide) pos).bind fun t => (inRange ..).bind fun _ => .ok t

theorem parametersAt (q : Proto) : Continued p s (Tables.parametersAt p o types row q)
    (Tables.parametersAt (p ++ s) o types row q) := by
  unfold Tables.parametersAt
  split
  · exact .ok q
  · exact (wordAt o (by decide) _).bind fun _ =>
      (rowsAt fun _ pos => parameterAt o types row pos).bind fun _ => .ok _

theorem protosAt (e : Extent) : Continued p s (Tables.protosAt p o e strings types)
    (Tables.protosAt (p ++ s) o e strings types) :=
  (rowsAt fun row pos => protoRowAt o strings types row pos).bind fun rows =>
    eachAt (fun a => parametersAt o types a.2 a.1) rows

theorem memberAt (make : Nat → Nat → Nat → α) (table target : Table) (limit pos : Nat) :
    Continued p s (Tables.memberAt p o make table target strings types limit row pos)
      (Tables.memberAt (p ++ s) o make table target strings types limit row pos) :=
  (wordAt o (by decide) pos).bind fun _ => (wordAt o (by decide) _).bind fun _ =>
    (wordAt o (by decide) _).bind fun _ => (inRange ..).bind fun _ =>
    (inRange ..).bind fun _ => (inRange ..).bind fun _ => .ok _

theorem classDefAt (pos : Nat) : Continued p s (Tables.classDefAt p o types row pos)
    (Tables.classDefAt (p ++ s) o types row pos) :=
  (wordAt o (by decide) pos).bind fun t => (slice (by decide) _).bind fun _ =>
    (inRange ..).bind fun _ => .ok t

end Tables

theorem tables (h : Header) :
    Continued p s (Tables.ofBytes p h) (Tables.ofBytes (p ++ s) h) :=
  (stringsAt h.order h.strings).bind fun strings =>
    (rowsAt fun row pos => typeAt h.order strings.size row pos).bind fun types =>
    (protosAt h.order strings.size types.size h.protos).bind fun _ =>
    (rowsAt fun row _ => memberAt h.order strings.size types.size row ..).bind fun _ =>
    (rowsAt fun row _ => memberAt h.order strings.size types.size row ..).bind fun _ =>
    (rowsAt fun row pos => classDefAt h.order types.size row pos).bind fun _ => .ok _

section Header

variable (o : ByteOrder)

theorem skipAt (n pos : Nat) :
    Continued p s (Header.skipAt p o n pos) (Header.skipAt (p ++ s) o n pos) := by
  induction n generalizing pos with
  | zero => exact .ok ()
  | succ n ih => exact (wordAt o (by decide) pos).bind fun _ => ih (pos + 4)

theorem extentAt (pos : Nat) :
    Continued p s (Header.extentAt p o pos) (Header.extentAt (p ++ s) o pos) :=
  (wordAt o (by decide) pos).bind fun _ => (wordAt o (by decide) _).bind fun _ => .ok _

theorem wordsAt (v : Version) :
    Continued p s (Header.wordsAt p o v) (Header.wordsAt (p ++ s) o v) :=
  (wordAt o (by decide) 32).bind fun _ => (wordAt o (by decide) 36).bind fun _ =>
    (skipAt o 4 40).bind fun _ => (extentAt o 56).bind fun _ => (extentAt o 64).bind fun _ =>
    (extentAt o 72).bind fun _ => (extentAt o 80).bind fun _ => (extentAt o 88).bind fun _ =>
    (extentAt o 96).bind fun _ => (skipAt o 2 104).bind fun _ => .ok _

end Header

/-- What the magic and the tag decide is decided by bytes that are there. -/
theorem header : Continued p s (Header.ofBytes p) (Header.ofBytes (p ++ s)) := by
  refine (slice (by decide) 0).bind fun magic => ?_
  cases Version.ofMagic? magic with
  | none => exact .fault _ (by simp)
  | some v =>
    refine (slice (by decide) Fault.tagOffset).bind fun tag => ?_
    dsimp only
    cases ByteOrder.ofTag? (ByteOrder.little.value tag) with
    | none => exact .fault _ (by simp)
    | some o => exact wordsAt o v

theorem parts : Continued p s (Image.parts p) (Image.parts (p ++ s)) := by
  rw [Image.parts_eq, Image.parts_eq]
  exact header.bind fun h => (tables h).bind fun t => .ok (h, t)

theorem eq_of_not_truncated {x y : Except Fault α} (h : Continued p s x y)
    (hx : ∀ o n a, x ≠ .error (.truncated o n a)) : y = x := by
  cases h with
  | ok a => rfl
  | fault f hf => rfl
  | short hn hy => exact absurd rfl (hx _ _ _)

theorem of_truncated {o n a : Nat} {y : Except Fault α}
    (h : Continued p s (.error (.truncated o n a)) y) :
    a = p.size - o ∧ a < n ∧
      (p.size + s.size < o + n → y = .error (.truncated o n (p.size + s.size - o))) := by
  cases h with
  | fault f hf => exact absurd rfl (hf o n a)
  | short hn hy => exact ⟨rfl, hn, hy⟩

end Continued

namespace Image

theorem load_append (s : Bytes)
    (h : ∀ o n a, load p ≠ .error (.malformed (.truncated o n a))) : load (p ++ s) = load p := by
  have hp := Continued.parts (p := p) (s := s).eq_of_not_truncated fun o n a hx =>
    h o n a (load_eq_malformed.mpr hx)
  rw [load, load, hp]

theorem load_append_truncated {o n a : Nat}
    (h : load p = .error (.malformed (.truncated o n a))) :
    a = p.size - o ∧ a < n ∧ ∀ s : Bytes, p.size + s.size < o + n →
      load (p ++ s) = .error (.malformed (.truncated o n (p.size + s.size - o))) := by
  have hp (s : Bytes) : Continued p s (.error (.truncated o n a)) (parts (p ++ s)) :=
    load_eq_malformed.mp h ▸ Continued.parts
  have h0 := (hp #[]).of_truncated
  refine ⟨h0.1, h0.2.1, fun s hs => ?_⟩
  exact load_eq_malformed.mpr ((hp s).of_truncated.2.2 hs)

/-- Appended bytes change nothing unless the end was missed, and then the same read goes on missing
it as long as it reaches past the end.  So cutting an image leaves its outcome as it was or makes
a read miss bytes. -/
theorem load_prefix :
    (∀ p s : Bytes, (∀ o n a, load p ≠ .error (.malformed (.truncated o n a))) →
        load (p ++ s) = load p) ∧
      (∀ (p : Bytes) (o n a : Nat), load p = .error (.malformed (.truncated o n a)) →
        a = p.size - o ∧ a < n ∧ ∀ s : Bytes, p.size + s.size < o + n →
          load (p ++ s) = .error (.malformed (.truncated o n (p.size + s.size - o)))) ∧
      ∀ (b : Bytes) (cut : Nat), load (b.extract 0 cut) = load b ∨
        ∃ o n a, load (b.extract 0 cut) = .error (.malformed (.truncated o n a)) := by
  refine ⟨fun p s h => load_append s h, fun p o n a h => load_append_truncated h, fun b cut => ?_⟩
  by_cases h : ∃ o n a, load (b.extract 0 cut) = .error (.malformed (.truncated o n a))
  · exact .inr h
  · have hb : b.extract 0 cut ++ b.extract cut b.size = b := by
      rw [Array.extract_append_extract, Nat.zero_min]
      exact Array.extract_eq_self_of_le (Nat.le_max_right _ _)
    have hl := load_append (b.extract cut b.size) fun o n a hx => h ⟨o, n, a, hx⟩
    rw [hb] at hl
    exact .inl hl.symm

/-- Two bytes of a magic miss the end, and still do with a third; eight bytes that are no magic
are refused whatever follows. -/
theorem load_prefix_magic :
    load (#[0x64, 0x65] ++ #[0x78]) = .error (.malformed (.truncated 0 8 3)) ∧
      load (Array.replicate 8 0 ++ #[1, 2, 3]) = load (Array.replicate 8 0) ∧
      load (Array.replicate 8 0) = .error (.malformed (.badMagic (List.replicate 8 0))) := by
  obtain ⟨hsame, hmore, -⟩ := load_prefix
  have ht : load #[0x64, 0x65] = .error (.malformed (.truncated 0 8 2)) := by rfl
  have hb : load (Array.replicate 8 0) = .error (.malformed (.badMagic (List.replicate 8 0))) := by
    rfl
  refine ⟨(hmore _ _ _ _ ht).2.2 #[0x78] (by decide), hsame _ _ fun o n a h => ?_, hb⟩
  rw [hb] at h
  cases h

end Image

end DexRefs
