import DexRefs.Proofs.Loading
import DexRefs.Proofs.Written

/-!
Decoding undoes encoding.  Each part of a written image stands where the header says, so that what
is read by position there are the contents that were written, in either byte order.
-/

set_option autoImplicit false

namespace DexRefs

theorem length_protoBytes (o : ByteOrder) (p : Proto) : (protoBytes o p).length = 12 := by
  simp [protoBytes, ByteOrder.bytes_length]

theorem length_fieldBytes (o : ByteOrder) (f : FieldId) : (fieldBytes o f).length = 8 := by
  simp [fieldBytes, ByteOrder.bytes_length]

theorem length_methodBytes (o : ByteOrder) (m : MethodId) : (methodBytes o m).length = 8 := by
  simp [methodBytes, ByteOrder.bytes_length]

theorem length_classDefBytes (o : ByteOrder) (c : Nat) : (classDefBytes o c).length = 32 := by
  simp [classDefBytes, ByteOrder.bytes_length]

theorem Version.length_magic (v : Version) : v.magic.length = 8 := by cases v <;> decide

theorem Version.ofMagic?_magic (v : Version) : ofMagic? v.magic = some v := by
  cases v <;> decide

/-- The tag is written in the order of the image but always read little-endian. -/
theorem ByteOrder.ofTag?_bytes (o : ByteOrder) :
    ofTag? (little.value (o.bytes 4 little.tag)) = some o := by cases o <;> decide

theorem Header.length_bytes (h : Header) (dataSize dataOff : Nat) :
    (h.bytes dataSize dataOff).length = size := by
  have hw := Bytes.length_flatMap_of_forall (h.words dataSize dataOff) fun n _ =>
    h.order.bytes_length 4 n
  rw [Header.bytes, List.length_append, List.length_append, h.version.length_magic, hw]
  rfl

theorem Header.ofBytes_of_holds {b : Bytes} {h : Header} {dataSize dataOff : Nat}
    (hb : b.Holds 0 (h.bytes dataSize dataOff))
    (hw : ∀ n ∈ h.words dataSize dataOff, n < 2 ^ 32) : ofBytes b = .ok h := by
  have hs := hb.size_le (List.ne_nil_of_length_pos (by rw [length_bytes]; decide))
  rw [length_bytes, Nat.zero_add] at hs
  rw [bytes, Bytes.holds_append, Bytes.holds_append, List.length_append, h.version.length_magic,
    List.length_replicate] at hb
  obtain ⟨⟨hm, -⟩, hws⟩ := hb
  have hm := hm.window_eq
  rw [h.version.length_magic] at hm
  have hlen : (h.words dataSize dataOff).length = 20 := rfl
  have hrow := hws.row fun n _ => h.order.bytes_length 4 n
  have ht := (hrow 2 (by simp [words])).window_eq
  rw [h.order.bytes_length] at ht
  have hword (i : Nat) (hi : i < 20) :
      h.order.word b 4 (32 + 4 * i) = (h.words dataSize dataOff)[i] :=
    h.order.word_of_holds (hrow i hi) (hw _ (List.getElem_mem _))
  refine ofBytes_eq_ok.mpr ⟨hs, ?_, ?_, ?_⟩
  · rw [hm, Version.ofMagic?_magic]
  · have htag : b.window Fault.tagOffset 4 = h.order.bytes 4 ByteOrder.little.tag := ht
    rw [ByteOrder.word, htag, ByteOrder.ofTag?_bytes]
  · have hextent (i : Nat) (hi : i + 1 < 20) : extent b h.order (32 + 4 * i) =
        ⟨(h.words dataSize dataOff)[i], (h.words dataSize dataOff)[i + 1]⟩ := by
      unfold extent
      rw [hword i (by omega), ← hword (i + 1) hi]
      rfl
    unfold located
    rw [hword 0 (by decide), hword 1 (by decide), hextent 6 (by decide), hextent 8 (by decide),
      hextent 10 (by decide), hextent 12 (by decide), hextent 14 (by decide),
      hextent 16 (by decide)]
    rfl

namespace Contents

variable (t : Contents) (o : ByteOrder) (v : Version)

theorem length_protos_tables : t.tables.protos.toList.length = t.protos.length := by
  simp [tables, length_listOffsets]

theorem length_sections :
    ((stringOffsets (t.dataPos + (t.lists o).length) t.strings).flatMap (o.bytes 4)).length =
        4 * t.strings.length ∧
      (t.types.flatMap (o.bytes 4)).length = 4 * t.types.length ∧
      (t.tables.protos.toList.flatMap (protoBytes o)).length = 12 * t.protos.length ∧
      (t.fields.flatMap (fieldBytes o)).length = 8 * t.fields.length ∧
      (t.methods.flatMap (methodBytes o)).length = 8 * t.methods.length ∧
      (t.classDefs.flatMap (classDefBytes o)).length = 32 * t.classDefs.length := by
  refine ⟨?_, ?_, ?_, ?_, ?_, ?_⟩
  · rw [Bytes.length_flatMap_of_forall _ fun n _ => o.bytes_length 4 n, length_stringOffsets]
  · exact Bytes.length_flatMap_of_forall _ fun n _ => o.bytes_length 4 n
  · rw [Bytes.length_flatMap_of_forall _ fun p _ => length_protoBytes o p, length_protos_tables]
  · exact Bytes.length_flatMap_of_forall _ fun f _ => length_fieldBytes o f
  · exact Bytes.length_flatMap_of_forall _ fun m _ => length_methodBytes o m
  · exact Bytes.length_flatMap_of_forall _ fun c _ => length_classDefBytes o c

theorem length_rowBytes : Header.size + (t.rowBytes o).length = t.dataPos := by
  obtain ⟨hs, ht, hp, hf, hm, hc⟩ := t.length_sections o
  simp only [rowBytes, List.length_append, hs, ht, hp, hf, hm, hc]
  simp only [dataPos, classDefsPos, methodsPos, fieldsPos, protosPos, typesPos]
  omega

theorem size_encode : (t.encode o v).size = t.dataPos + (t.dataBytes o).length := by
  rw [← t.length_rowBytes o]
  simp [encode, Header.length_bytes]
  omega

/-- Where each part of a written image stands. -/
structure Sections (b : Bytes) : Prop where
  header : b.Holds 0 ((t.header o v).bytes (t.dataBytes o).length t.dataPos)
  stringIds : b.Holds Header.size
    ((stringOffsets (t.dataPos + (t.lists o).length) t.strings).flatMap (o.bytes 4))
  types : b.Holds t.typesPos (t.types.flatMap (o.bytes 4))
  protos : b.Holds t.protosPos (t.tables.protos.toList.flatMap (protoBytes o))
  fields : b.Holds t.fieldsPos (t.fields.flatMap (fieldBytes o))
  methods : b.Holds t.methodsPos (t.methods.flatMap (methodBytes o))
  classDefs : b.Holds t.classDefsPos (t.classDefs.flatMap (classDefBytes o))
  lists : b.Holds t.dataPos (t.lists o)
  strings : b.Holds (t.dataPos + (t.lists o).length) (t.strings.flatMap stringItem)

variable {t o v} {b : Bytes}

theorem sections_of_holds (h : b.Holds 0
    ((t.header o v).bytes (t.dataBytes o).length t.dataPos ++ t.rowBytes o ++ t.dataBytes o)) :
    t.Sections o v b := by
  obtain ⟨hs, ht, hp, hf, hm, -⟩ := t.length_sections o
  rw [Bytes.holds_append, Bytes.holds_append, List.length_append, Header.length_bytes,
    Nat.zero_add, Nat.zero_add, length_rowBytes] at h
  obtain ⟨⟨hh, hr⟩, hd⟩ := h
  rw [dataBytes, Bytes.holds_append] at hd
  simp only [rowBytes, Bytes.holds_append, List.length_append, hs, ht, hp, hf, hm,
    ← Nat.add_assoc] at hr
  obtain ⟨⟨⟨⟨⟨h₁, h₂⟩, h₃⟩, h₄⟩, h₅⟩, h₆⟩ := hr
  exact ⟨hh, h₁, h₂, h₃, h₄, h₅, h₆, hd.1, hd.2⟩

theorem sections_encode (t : Contents) (o : ByteOrder) (v : Version) :
    t.Sections o v (t.encode o v) :=
  sections_of_holds (Bytes.holds_toArray _)

/-- Contents that can be written: no text holds U+0000, every index is below the count of the table
it points into, what takes two bytes is below 65536, and all offsets fit into words. -/
structure WellFormed (t : Contents) : Prop where
  strings : ∀ s ∈ t.strings, '\x00' ∉ s.toList
  types : ∀ d ∈ t.types, d < t.strings.length
  protos : ∀ p ∈ t.protos, p.shorty < t.strings.length ∧ p.returnType < t.types.length ∧
    ∀ i ∈ p.parameters, i < t.types.length ∧ i < 2 ^ 16
  fields : ∀ f ∈ t.fields, f.owner < t.types.length ∧ f.type < t.types.length ∧
    f.name < t.strings.length ∧ f.owner < 2 ^ 16 ∧ f.type < 2 ^ 16
  methods : ∀ m ∈ t.methods, m.owner < t.types.length ∧ m.proto < t.protos.length ∧
    m.name < t.strings.length ∧ m.owner < 2 ^ 16 ∧ m.proto < 2 ^ 16
  classDefs : ∀ c ∈ t.classDefs, c < t.types.length
  size : ∀ o v, (t.encode o v).size < 2 ^ 32

theorem positions_le (t : Contents) : Header.size ≤ t.typesPos ∧ t.typesPos ≤ t.protosPos ∧
    t.protosPos ≤ t.fieldsPos ∧ t.fieldsPos ≤ t.methodsPos ∧ t.methodsPos ≤ t.classDefsPos ∧
    t.classDefsPos ≤ t.dataPos := by
  simp only [dataPos, classDefsPos, methodsPos, fieldsPos, protosPos, typesPos]
  omega

theorem lengths_le (t : Contents) : t.strings.length ≤ t.dataPos ∧ t.types.length ≤ t.dataPos ∧
    t.protos.length ≤ t.dataPos ∧ t.fields.length ≤ t.dataPos ∧ t.methods.length ≤ t.dataPos ∧
    t.classDefs.length ≤ t.dataPos := by
  simp only [dataPos, classDefsPos, methodsPos, fieldsPos, protosPos, typesPos]
  omega

theorem WellFormed.lengths_lt (h : t.WellFormed) :
    t.strings.length < 2 ^ 32 ∧ t.types.length < 2 ^ 32 ∧ t.protos.length < 2 ^ 32 := by
  have hs := h.size .little .v035
  have hle := t.lengths_le
  rw [size_encode] at hs
  omega

theorem WellFormed.words_lt (h : t.WellFormed) (o : ByteOrder) (v : Version) :
    ∀ n ∈ (t.header o v).words (t.dataBytes o).length t.dataPos, n < 2 ^ 32 := by
  have hsize := h.size o v
  have hrows := t.length_rowBytes o
  rw [size_encode] at hsize
  obtain ⟨h₁, h₂, h₃, h₄, h₅, h₆⟩ := t.positions_le
  obtain ⟨hs, ht, hp, hf, hm, hc⟩ := t.lengths_le
  have ws := Extent.written_le hs (show Header.size ≤ t.dataPos by omega)
  have wt := Extent.written_le ht (show t.typesPos ≤ t.dataPos by omega)
  have wp := Extent.written_le hp (show t.protosPos ≤ t.dataPos by omega)
  have wf := Extent.written_le hf (show t.fieldsPos ≤ t.dataPos by omega)
  have wm := Extent.written_le hm (show t.methodsPos ≤ t.dataPos by omega)
  have wc := Extent.written_le hc h₆
  simp only [Header.words, header, List.forall_mem_cons, List.not_mem_nil, false_implies,
    implies_true, and_true, ByteOrder.tag]
  omega

/-- Where its parameter list stands is all that is added to a prototype. -/
theorem signatures_tables (t : Contents) :
    t.tables.protos.toList.map Proto.signature = t.protos := by
  apply List.ext_getElem
  · rw [List.length_map, length_protos_tables]
  · intro i h₁ h₂
    simp [tables, Proto.signature]

theorem contents_tables (t : Contents) : t.tables.contents = t := by
  unfold Tables.contents
  rw [signatures_tables]
  rfl

theorem WellFormed.within (h : t.WellFormed) (o : ByteOrder) (v : Version) :
    t.tables.Within (t.header o v).counts := by
  have hp (p : Proto) (hp : p ∈ t.tables.protos) : p.signature ∈ t.protos := by
    rw [← signatures_tables]
    exact List.mem_map_of_mem (Array.mem_toList_iff.mpr hp)
  refine ⟨?_, fun p hm => (h.protos _ (hp p hm)).1, fun p hm => (h.protos _ (hp p hm)).2.1,
    fun p hm i hi => ((h.protos _ (hp p hm)).2.2 i hi).1, ?_, ?_, ?_, ?_, ?_, ?_, ?_⟩
  · exact fun d hd => h.types d (List.mem_toArray.mp hd)
  · exact fun f hf => (h.fields f (List.mem_toArray.mp hf)).1
  · exact fun f hf => (h.fields f (List.mem_toArray.mp hf)).2.1
  · exact fun f hf => (h.fields f (List.mem_toArray.mp hf)).2.2.1
  · exact fun m hm => (h.methods m (List.mem_toArray.mp hm)).1
  · exact fun m hm => (h.methods m (List.mem_toArray.mp hm)).2.1
  · exact fun m hm => (h.methods m (List.mem_toArray.mp hm)).2.2.1
  · exact fun c hc => h.classDefs c (List.mem_toArray.mp hc)

namespace Sections

theorem stringAt (hb : t.Sections o v b) (h : t.WellFormed) (hs : b.size < 2 ^ 32) (i : Nat)
    (hi : i < t.strings.length) :
    b.stringAt (o.word b 4 (Header.size + 4 * i)) = .ok t.strings[i] := by
  have hl := length_stringOffsets (t.dataPos + (t.lists o).length) t.strings
  have hi' : i < (stringOffsets (t.dataPos + (t.lists o).length) t.strings).length := by omega
  have hitem := holds_stringOffsets hb.strings i hi hi'
  have hlt := hitem.size_le (by simp [stringItem])
  have hrow := hb.stringIds.row (fun _ _ => o.bytes_length 4 _) i hi'
  rw [o.word_of_holds hrow (by omega)]
  exact stringAt_of_holds hitem (h.strings _ (List.getElem_mem hi))

theorem parametersAt (hb : t.Sections o v b) (h : t.WellFormed) (hs : b.size < 2 ^ 32) (i : Nat)
    (hi : i < t.protos.length) (hi' : i < (listOffsets t.dataPos t.protos).length) :
    (listOffsets t.dataPos t.protos)[i] < 2 ^ 32 ∧
      Tables.ListFits b o (listOffsets t.dataPos t.protos)[i] ∧
      Tables.parameterList b o (listOffsets t.dataPos t.protos)[i] = t.protos[i].parameters := by
  have hpos : 0 < t.dataPos := by
    have := t.positions_le
    have : Header.size = 112 := rfl
    omega
  obtain ⟨h0, he⟩ | ⟨h0, hl⟩ := holds_listOffsets hpos hb.lists i hi hi'
  · rw [h0, he]
    exact ⟨by decide, fun hn => absurd rfl hn, rfl⟩
  · have hne : t.protos[i].list o ≠ [] :=
      List.ne_nil_of_length_pos (by rw [length_list]; omega)
    have hle := hl.size_le hne
    rw [length_list] at hle
    have hp := (h.protos _ (List.getElem_mem hi)).2.2
    have hc := hl
    rw [Signature.list, Bytes.holds_append] at hc
    have hw := o.word_of_holds hc.1 (show t.protos[i].parameters.length < 256 ^ 4 by omega)
    refine ⟨by omega, fun _ => by omega, ?_⟩
    exact parameterList_of_holds h0 hl (by omega) fun i hi => (hp i hi).2

theorem protoAt (hb : t.Sections o v b) (h : t.WellFormed) (hs : b.size < 2 ^ 32) (i : Nat)
    (hi : i < t.tables.protos.toList.length) :
    Tables.proto b o (t.protosPos + 12 * i) = t.tables.protos.toList[i] := by
  have hn := t.length_protos_tables
  have hl := length_listOffsets t.dataPos t.protos
  obtain ⟨hoff, -, hpar⟩ := hb.parametersAt h hs i (by omega) (by omega)
  have hget : t.tables.protos.toList[i] = ⟨t.protos[i].shorty, t.protos[i].returnType,
      (listOffsets t.dataPos t.protos)[i], t.protos[i].parameters⟩ := by simp [tables]
  have hlt := h.lengths_lt
  have hp := h.protos _ (List.getElem_mem (show i < t.protos.length by omega))
  have hrow := hb.protos.row (fun p _ => length_protoBytes o p) i hi
  rw [hget, protoBytes, Bytes.holds_append, Bytes.holds_append, List.length_append,
    o.bytes_length, o.bytes_length] at hrow
  dsimp only at hrow
  have h₁ := o.word_of_holds hrow.1.1 (show t.protos[i].shorty < 256 ^ 4 by omega)
  have h₂ := o.word_of_holds hrow.1.2 (show t.protos[i].returnType < 256 ^ 4 by omega)
  have h₃ := o.word_of_holds hrow.2 hoff
  unfold Tables.proto Tables.protoRow
  rw [h₁, h₂, h₃, hpar, hget]

theorem fieldAt (hb : t.Sections o v b) (h : t.WellFormed) (i : Nat) (hi : i < t.fields.length) :
    Tables.field b o (t.fieldsPos + 8 * i) = t.fields[i] := by
  have hlt := h.lengths_lt
  obtain ⟨-, -, hname, howner, htype⟩ := h.fields _ (List.getElem_mem hi)
  have hrow := hb.fields.row (fun f _ => length_fieldBytes o f) i hi
  obtain ⟨h₁, h₂, h₃⟩ := o.member_of_holds hrow howner htype (by omega)
  unfold Tables.field
  rw [h₁, h₂, h₃]

theorem methodAt (hb : t.Sections o v b) (h : t.WellFormed) (i : Nat)
    (hi : i < t.methods.length) :
    Tables.method b o (t.methodsPos + 8 * i) = t.methods[i] := by
  have hlt := h.lengths_lt
  obtain ⟨-, -, hname, howner, hproto⟩ := h.methods _ (List.getElem_mem hi)
  have hrow := hb.methods.row (fun m _ => length_methodBytes o m) i hi
  obtain ⟨h₁, h₂, h₃⟩ := o.member_of_holds hrow howner hproto (by omega)
  unfold Tables.method
  rw [h₁, h₂, h₃]

theorem typeAt (hb : t.Sections o v b) (h : t.WellFormed) (i : Nat) (hi : i < t.types.length) :
    o.word b 4 (t.typesPos + 4 * i) = t.types[i] := by
  have hlt := h.lengths_lt
  have ht := h.types _ (List.getElem_mem hi)
  exact o.word_of_holds (hb.types.row (fun _ _ => o.bytes_length 4 _) i hi) (by omega)

theorem classDefAt (hb : t.Sections o v b) (h : t.WellFormed) (i : Nat)
    (hi : i < t.classDefs.length) :
    o.word b 4 (t.classDefsPos + 32 * i) = t.classDefs[i] := by
  have hlt := h.lengths_lt
  have hc := h.classDefs _ (List.getElem_mem hi)
  have hrow := hb.classDefs.row (fun c _ => length_classDefBytes o c) i hi
  rw [classDefBytes, List.flatMap_cons, Bytes.holds_append] at hrow
  exact o.word_of_holds hrow.1 (by omega)

/-- What stands where the header says are the tables that were written. -/
theorem located_eq (hb : t.Sections o v b) (h : t.WellFormed) (hs : b.size < 2 ^ 32) :
    Tables.located b (t.header o v) = t.tables := by
  have hstr := Extent.rows_written fun i hi => Tables.stringOf_of_eq_ok (hb.stringAt h hs i hi)
  have htyp := Extent.rows_written fun i hi => hb.typeAt h i hi
  have hpro := Extent.rows_written fun i hi => hb.protoAt h hs i hi
  have hfie := Extent.rows_written fun i hi => hb.fieldAt h i hi
  have hmet := Extent.rows_written fun i hi => hb.methodAt h i hi
  have hcls := Extent.rows_written fun i hi => hb.classDefAt h i hi
  rw [length_protos_tables] at hpro
  unfold Tables.located
  simp only [Contents.header, hstr, htyp, hpro, hfie, hmet, hcls]
  rfl

theorem placed (hb : t.Sections o v b) (h : t.WellFormed) (hs : b.size < 2 ^ 32) :
    Tables.Placed b (t.header o v) := by
  have hstr := Extent.fits_written hb.stringIds (fun _ _ => o.bytes_length 4 _) (by decide)
  have hpro := Extent.fits_written hb.protos (fun p _ => length_protoBytes o p) (by decide)
  rw [length_stringOffsets] at hstr
  rw [length_protos_tables] at hpro
  refine ⟨hstr, ?_, ?_, hpro, ?_, ?_, ?_, ?_, ?_⟩
  · intro i hi
    have h0 : t.strings.length ≠ 0 := Nat.ne_zero_of_lt hi
    have hoff : (t.header o v).strings.off = Header.size := if_neg h0
    rw [hoff]
    exact ⟨_, hb.stringAt h hs i hi⟩
  · exact Extent.fits_written hb.types (fun _ _ => o.bytes_length 4 _) (by decide)
  · exact Extent.fits_written hb.fields (fun f _ => length_fieldBytes o f) (by decide)
  · exact Extent.fits_written hb.methods (fun m _ => length_methodBytes o m) (by decide)
  · exact Extent.fits_written hb.classDefs (fun c _ => length_classDefBytes o c) (by decide)
  · intro i hi p hp
    have h0 : t.protos.length ≠ 0 := Nat.ne_zero_of_lt hi
    have hoff : (t.header o v).protos.off = t.protosPos := if_neg h0
    have hn := t.length_protos_tables
    have hl := length_listOffsets t.dataPos t.protos
    have hi' : i < t.protos.length := hi
    have hrow := congrArg Proto.parametersOff (hb.protoAt h hs i (by omega))
    have hget : t.tables.protos.toList[i].parametersOff =
        (listOffsets t.dataPos t.protos)[i] := by simp [tables]
    rw [hoff] at hp
    rw [hp.trans (hrow.trans hget)]
    exact (hb.parametersAt h hs i hi' (by omega)).2.1
  · rw [hb.located_eq h hs]
    exact h.within o v

end Sections

/-- Header and tables come back as they were written. -/
theorem WellFormed.parts_encode (h : t.WellFormed) (o : ByteOrder) (v : Version) :
    Image.parts (t.encode o v) = .ok (t.header o v, t.tables) := by
  have hb := t.sections_encode o v
  have hs := h.size o v
  have hh := Header.ofBytes_of_holds hb.header (h.words_lt o v)
  have ht := Tables.ofBytes_eq_ok.mpr ⟨hb.placed h hs, (hb.located_eq h hs).symm⟩
  exact Image.parts_eq_ok.mpr ⟨hh, ht⟩

/-- The image of what was written, in either byte order, has the tables that were written and the
flags that they decide. -/
theorem WellFormed.load_encode (h : t.WellFormed) : ∃ flags, flags.size = t.tables.types.size ∧
    ∀ o v, Image.load (t.encode o v) = .ok ⟨t.header o v, t.tables, flags⟩ := by
  obtain ⟨flags, -, hc, hs⟩ := Image.load_of_parts (h.parts_encode .little .v035)
  refine ⟨flags, hs, fun o v => ?_⟩
  obtain ⟨flags', hl, hc', -⟩ := Image.load_of_parts (h.parts_encode o v)
  rw [hc] at hc'
  cases hc'
  exact hl

/-- Decoding undoes encoding: version, byte order and contents come back, and the two byte orders
of the same contents cannot be told apart by tables, flags or listings. -/
theorem decode_encode (h : t.WellFormed) :
    (∀ o v, ∃ hd tb, Image.parts (t.encode o v) = .ok (hd, tb) ∧ hd.version = v ∧ hd.order = o ∧
        tb.contents = t) ∧
      ∀ v₁ v₂, ∃ i j, Image.load (t.encode .little v₁) = .ok i ∧
        Image.load (t.encode .big v₂) = .ok j ∧ i.tables = j.tables ∧ i.flags = j.flags ∧
        ∀ s, ∃ l, i.references s = .ok l ∧ j.references s = .ok l := by
  constructor
  · intro o v
    exact ⟨t.header o v, t.tables, h.parts_encode o v, rfl, rfl, t.contents_tables⟩
  · intro v₁ v₂
    obtain ⟨flags, hs, hl⟩ := h.load_encode
    have hw := Image.within_of_parts (h.parts_encode .little v₁)
    refine ⟨_, _, hl .little v₁, hl .big v₂, rfl, rfl, fun s => ?_⟩
    obtain ⟨l, ha⟩ := hw.assemble hs (.ofScope s)
    exact ⟨l, ha, ha⟩

def sample : Contents where
  strings := ["I", "LMain;", "V", "VI", "é", "😀"]
  types := [0, 1, 2]
  protos := [⟨3, 2, [0]⟩, ⟨2, 2, []⟩]
  fields := [⟨1, 0, 4⟩]
  methods := [⟨1, 0, 5⟩, ⟨1, 1, 5⟩]
  classDefs := [1]

theorem decode_encode_sample : sample.WellFormed ∧ ∃ hd tb,
    Image.parts (sample.encode .big .v039) = .ok (hd, tb) ∧ hd.version = .v039 ∧
      hd.order = .big ∧ tb.contents = sample := by
  have hs (o : ByteOrder) (v : Version) : (sample.encode o v).size < 2 ^ 32 := by
    cases o <;> cases v <;> decide +kernel
  have h : sample.WellFormed :=
    ⟨by decide, by decide, by decide, by decide, by decide, by decide, hs⟩
  exact ⟨h, (decode_encode h).1 .big .v039⟩

end Contents

end DexRefs
