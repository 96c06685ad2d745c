import DexRefs.Image.Writer
import DexRefs.Proofs.Scopes

/-!
Names on the two sides of an image.  Flags belong to rows of the type table, and listings show
names; a name is on both sides just where two rows are read as it and only one of them is defined.
-/

set_option autoImplicit false

namespace DexRefs

namespace Tables

variable {t : Tables} {flags : Array Bool}

theorem getElem?_foldl_setIfInBounds (cs : List Nat) (flags : Array Bool) (k : Nat) :
    (cs.foldl (fun flags c => flags.setIfInBounds c true) flags)[k]? =
      flags[k]?.map fun b => decide (k ∈ cs) || b := by
  induction cs generalizing flags with
  | nil => simp
  | cons c cs ih =>
    rw [List.foldl_cons, ih, Array.getElem?_setIfInBounds]
    by_cases hc : c = k
    · subst hc
      by_cases hk : c < flags.size <;> simp [hk]
    · simp [hc, Ne.symm hc]

theorem flag_of_classify (h : t.classify = .ok flags) {k : Nat} {d : String}
    (hd : t.descriptor? k = some d) :
    flags[k]? = some (decide (k ∈ t.classDefs) || Descriptor.isBuiltIn d) := by
  obtain ⟨r, hr, hs⟩ := Option.bind_eq_some_iff.mp hd
  obtain ⟨hk, rfl⟩ := Array.getElem?_eq_some_iff.mp hr
  rw [classify] at h
  split at h
  next => cases h
  next =>
    simp only [bind_eq_ok, pure_eq_ok, Array.mapM_eq_mapM_toList, map_eq_ok] at h
    obtain ⟨_, ⟨builtIn, hb, rfl⟩, rfl⟩ := h
    have hrel := mapM_eq_ok_iff_forall₂.mp hb
    have hlen : k < builtIn.length := by
      rw [← hrel.length_eq]
      exact hk
    have hflag : builtIn[k] = Descriptor.isBuiltIn d := by
      have hget := hrel.get (i := k) hk hlen
      simp only [List.get_eq_getElem, Array.getElem_toList, hs, follow] at hget
      exact (Except.ok.inj hget).symm
    rw [Array.getElem?_zipWith, ← Array.foldl_toList, getElem?_foldl_setIfInBounds]
    simp [hk, hlen, hflag]

theorem mem_names_assemble {s : Selection} {l : List ClassRef} (h : t.assemble flags s = .ok l)
    {name : String} : name ∈ l.map ClassRef.name ↔
      ∃ k b, flags[k]? = some b ∧ s.covers b = true ∧ t.descriptor? k = some name := by
  have hmap : (selected flags s).map t.descriptor? = l.map fun c => some c.name :=
    map_eq_map_of_forall₂ (classOf_of_assemble h) fun _ _ hc => hc.name
  have hname : name ∈ l.map ClassRef.name ↔ some name ∈ (selected flags s).map t.descriptor? := by
    rw [hmap]
    simp
  rw [hname, List.mem_map]
  simp only [mem_selected]
  constructor
  · rintro ⟨k, ⟨b, hb, hc⟩, hd⟩
    exact ⟨k, b, hb, hc, hd⟩
  · rintro ⟨k, b, hb, hc, hd⟩
    exact ⟨k, ⟨b, hb, hc⟩, hd⟩

/-- Two types are read as this name, which is not built in; one of them is defined and the other
is not. -/
def Torn (t : Tables) (name : String) : Prop :=
  Descriptor.isBuiltIn name = false ∧ (∃ k ∈ t.classDefs, t.descriptor? k = some name) ∧
    ∃ k, k ∉ t.classDefs ∧ t.descriptor? k = some name

end Tables

namespace Image

variable {b : Bytes} {i : Image}

theorem flag_of_load (h : load b = .ok i) {k : Nat} {d : String}
    (hd : i.tables.descriptor? k = some d) :
    i.flags[k]? = some (decide (k ∈ i.tables.classDefs) || Descriptor.isBuiltIn d) := by
  obtain ⟨flags, hl, hc, -⟩ := load_of_parts (load_eq_ok h).1
  rw [h, Except.ok.injEq] at hl
  rw [hl]
  exact Tables.flag_of_classify hc (hl ▸ hd)

variable {l : List ClassRef} {name : String}

theorem mem_names_references (h : load b = .ok i) {s : Scope} (hl : i.references s = .ok l) :
    name ∈ l.map ClassRef.name ↔ ∃ k, i.tables.descriptor? k = some name ∧
      (Tables.Selection.ofScope s).covers
        (decide (k ∈ i.tables.classDefs) || Descriptor.isBuiltIn name) = true := by
  rw [Tables.mem_names_assemble hl]
  constructor
  · rintro ⟨k, f, hf, hc, hd⟩
    rw [flag_of_load h hd, Option.some.injEq] at hf
    exact ⟨k, hd, hf ▸ hc⟩
  · rintro ⟨k, hd, hc⟩
    exact ⟨k, _, flag_of_load h hd, hc, hd⟩

theorem mem_names_internal (h : load b = .ok i) (hl : i.references .internal = .ok l) :
    name ∈ l.map ClassRef.name ↔ ∃ k, i.tables.descriptor? k = some name ∧
      (k ∈ i.tables.classDefs ∨ Descriptor.isBuiltIn name = true) := by
  simp [mem_names_references h hl]

theorem mem_names_external (h : load b = .ok i) (hl : i.references .external = .ok l) :
    name ∈ l.map ClassRef.name ↔ ∃ k, i.tables.descriptor? k = some name ∧
      k ∉ i.tables.classDefs ∧ Descriptor.isBuiltIn name = false := by
  simp [mem_names_references h hl]

theorem torn_iff (h : load b = .ok i) {inside outside : List ClassRef}
    (hin : i.references .internal = .ok inside) (hout : i.references .external = .ok outside) :
    name ∈ inside.map ClassRef.name ∧ name ∈ outside.map ClassRef.name ↔ i.tables.Torn name := by
  rw [mem_names_internal h hin, mem_names_external h hout]
  constructor
  · rintro ⟨⟨k, hk, hdef⟩, m, hm, hundef, hbuilt⟩
    exact ⟨hbuilt, ⟨k, by simpa [hbuilt] using hdef, hk⟩, m, hundef, hm⟩
  · rintro ⟨hbuilt, ⟨k, hdef, hk⟩, m, hundef, hm⟩
    exact ⟨⟨k, hk, .inl hdef⟩, m, hm, hundef, hbuilt⟩

/-- The two sides of an image by name.  A name is on both just where it is torn; the name of a
defined type is on the inner side, and on the outer one just where it is torn.  Where no two types
are read as one name, no name is on both sides. -/
theorem references_apart (h : load b = .ok i) : ∃ inside outside,
    i.references .internal = .ok inside ∧ i.references .external = .ok outside ∧
    (∀ name, name ∈ inside.map ClassRef.name ∧ name ∈ outside.map ClassRef.name ↔
      i.tables.Torn name) ∧
    (∀ name, (∃ k ∈ i.tables.classDefs, i.tables.descriptor? k = some name) →
      name ∈ inside.map ClassRef.name ∧
        (name ∈ outside.map ClassRef.name ↔ i.tables.Torn name)) ∧
    ((∀ k m name, i.tables.descriptor? k = some name → i.tables.descriptor? m = some name →
        k = m) →
      (inside.map ClassRef.name).Disjoint (outside.map ClassRef.name)) := by
  obtain ⟨hparts, hsize⟩ := load_eq_ok h
  have hw := within_of_parts hparts
  obtain ⟨inside, hin⟩ := hw.assemble hsize (.ofScope .internal)
  obtain ⟨outside, hout⟩ := hw.assemble hsize (.ofScope .external)
  refine ⟨inside, outside, hin, hout, fun name => torn_iff h hin hout, ?_, ?_⟩
  · rintro name ⟨k, hdef, hk⟩
    have hname := (mem_names_internal h hin).mpr ⟨k, hk, .inl hdef⟩
    exact ⟨hname, by rw [← torn_iff h hin hout, and_iff_right hname]⟩
  · intro hunique name hi ho
    obtain ⟨-, ⟨k, hdef, hk⟩, m, hundef, hm⟩ := (torn_iff h hin hout).mp ⟨hi, ho⟩
    rw [hunique k m name hk hm] at hdef
    exact hundef hdef

def pairHeader : Header where
  version := .v035
  order := .little
  fileSize := 180
  headerSize := 112
  strings := ⟨2, 112⟩
  types := ⟨2, 120⟩
  protos := ⟨0, 0⟩
  fields := ⟨0, 0⟩
  methods := ⟨0, 0⟩
  classDefs := ⟨1, 128⟩

def pairImage (second : List UInt8) : Bytes :=
  (pairHeader.bytes 20 160 ++ [160, 170, 0, 1].flatMap (ByteOrder.little.bytes 4) ++
    classDefBytes .little 0 ++ [4, 0x4c, 0xed, 0xa0, 0xbd, 0xed, 0xb8, 0x80, 0x3b, 0] ++
    second).toArray

def pairDecoded (d : String) : Image where
  header := pairHeader
  tables :=
    { strings := #["L\ufffd\ufffd\ufffd\ufffd\ufffd\ufffd;", d]
      types := #[0, 1]
      protos := #[]
      fields := #[]
      methods := #[]
      classDefs := #[0] }
  flags := #[true, false]

theorem references_apart_plain :
    load (pairImage [8, 0x4c, 0x61, 0x2f, 0x62, 0x2f, 0x63, 0x64, 0x3b, 0]) =
        .ok (pairDecoded "La/b/cd;") ∧ ∃ inside outside,
      (pairDecoded "La/b/cd;").references .internal = .ok inside ∧
      (pairDecoded "La/b/cd;").references .external = .ok outside ∧
      (inside.map ClassRef.name).Disjoint (outside.map ClassRef.name) := by
  have h : load (pairImage [8, 0x4c, 0x61, 0x2f, 0x62, 0x2f, 0x63, 0x64, 0x3b, 0]) =
      .ok (pairDecoded "La/b/cd;") := by
    rw [← toOption_eq_some]
    decide +kernel
  obtain ⟨inside, outside, hin, hout, -, -, happart⟩ := references_apart h
  refine ⟨h, inside, outside, hin, hout, happart fun k m name hk hm => ?_⟩
  have hlt {k : Nat} (hk : (pairDecoded "La/b/cd;").tables.descriptor? k = some name) : k < 2 := by
    obtain ⟨_, hr, -⟩ := Option.bind_eq_some_iff.mp hk
    exact (Array.getElem?_eq_some_iff.mp hr).1
  have hinj : ∀ k < 2, ∀ m < 2, (pairDecoded "La/b/cd;").tables.descriptor? k =
      (pairDecoded "La/b/cd;").tables.descriptor? m → k = m := by decide
  exact hinj k (hlt hk) m (hlt hm) (hk.trans hm.symm)

/-- Two classes `L😀;` and `L😁;` are read under one name, which is on both sides. -/
theorem references_apart_faces : ∃ i inside outside,
    load (pairImage [4, 0x4c, 0xed, 0xa0, 0xbd, 0xed, 0xb8, 0x81, 0x3b, 0]) = .ok i ∧
      i.references .internal = .ok inside ∧ i.references .external = .ok outside ∧
      ∃ name, name ∈ inside.map ClassRef.name ∧ name ∈ outside.map ClassRef.name ∧
        ∃ k ∈ i.tables.classDefs, i.tables.descriptor? k = some name := by
  let face := "L\ufffd\ufffd\ufffd\ufffd\ufffd\ufffd;"
  refine ⟨pairDecoded face, [{ name := face, internal := true }], [{ name := face }], ?_, ?_, ?_,
    face, by simp, by simp, 0, by simp [pairDecoded], rfl⟩
  all_goals
    rw [← toOption_eq_some]
    decide +kernel

end Image

end DexRefs
