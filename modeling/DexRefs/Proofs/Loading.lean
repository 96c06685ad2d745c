import DexRefs.Image.Load
import DexRefs.Proofs.Placement
import Mathlib.Data.List.Forall2

/-!
What loading gives.  An image is loaded by reading header and tables by position; what loads is
within range, and nothing that is within range makes the classification or a listing fail.
-/

set_option autoImplicit false

namespace DexRefs

section Outcomes

variable {ε α β : Type}

theorem mapM_eq_ok_iff_forall₂ {x : α → Except ε β} {l : List α} {bs : List β} :
    l.mapM x = .ok bs ↔ List.Forall₂ (fun a b => x a = .ok b) l bs := by
  induction l generalizing bs with
  | nil =>
    rw [List.mapM_nil, pure_eq_ok, List.forall₂_nil_left_iff]
    exact eq_comm
  | cons a l ih =>
    simp only [List.mapM_cons, bind_eq_ok, pure_eq_ok, List.forall₂_cons_left_iff, ih]
    constructor
    · rintro ⟨b, hb, bs', hbs, rfl⟩
      exact ⟨b, bs', hb, hbs, rfl⟩
    · rintro ⟨b, bs', hb, hbs, rfl⟩
      exact ⟨b, hb, bs', hbs, rfl⟩

theorem exists_of_mapM_eq_ok {x : α → Except ε β} {l : List α} {bs : List β}
    (h : l.mapM x = .ok bs) : ∀ b ∈ bs, ∃ a ∈ l, x a = .ok b := by
  rw [mapM_eq_ok_iff_forall₂] at h
  induction h with
  | nil => simp
  | cons hb _ ih =>
    refine List.forall_mem_cons.mpr ⟨⟨_, List.mem_cons_self, hb⟩, fun b hmem => ?_⟩
    obtain ⟨a, ha, hx⟩ := ih b hmem
    exact ⟨a, List.mem_cons_of_mem _ ha, hx⟩

theorem forall_of_mapM_eq_ok {x : α → Except ε β} {P : β → Prop} {l : List α} {bs : List β}
    (hP : ∀ a b, x a = .ok b → P b) (h : l.mapM x = .ok bs) : ∀ b ∈ bs, P b := by
  intro b hb
  obtain ⟨a, -, hx⟩ := exists_of_mapM_eq_ok h b hb
  exact hP a b hx

theorem map_eq_map_of_forall₂ {γ : Type} {R : α → β → Prop} {as : List α} {bs : List β}
    {f : α → γ} {g : β → γ} (h : List.Forall₂ R as bs) (hfg : ∀ a b, R a b → f a = g b) :
    as.map f = bs.map g := by
  induction h with
  | nil => rfl
  | cons hr _ ih => rw [List.map_cons, List.map_cons, hfg _ _ hr, ih]

theorem exists_mapM_iff {x : α → Except ε β} {l : List α} :
    (∃ bs, l.mapM x = .ok bs) ↔ ∀ a ∈ l, ∃ b, x a = .ok b := by
  induction l with
  | nil => simp [pure_eq_ok]
  | cons a l ih =>
    rw [List.forall_mem_cons, ← ih]
    simp only [List.mapM_cons, bind_eq_ok, pure_eq_ok]
    constructor
    · rintro ⟨_, b, hb, bs, hbs, rfl⟩
      exact ⟨⟨b, hb⟩, bs, hbs⟩
    · rintro ⟨⟨b, hb⟩, bs, hbs⟩
      exact ⟨_, b, hb, bs, hbs, rfl⟩

theorem exists_mapM_eq_ok {x : α → Except ε β} {l : List α} (h : ∀ a ∈ l, ∃ b, x a = .ok b) :
    ∃ bs, l.mapM x = .ok bs ∧ bs.length = l.length := by
  obtain ⟨bs, hbs⟩ := exists_mapM_iff.mpr h
  exact ⟨bs, hbs, (mapM_eq_ok_iff_forall₂.mp hbs).length_eq.symm⟩

theorem exists_arrayMapM_eq_ok {x : α → Except ε β} {as : Array α}
    (h : ∀ a ∈ as, ∃ b, x a = .ok b) : ∃ bs, as.mapM x = .ok bs ∧ bs.size = as.size := by
  obtain ⟨bs, hbs, hl⟩ := exists_mapM_eq_ok fun a ha => h a (Array.mem_toList_iff.mp ha)
  refine ⟨bs.toArray, ?_, by simpa using hl⟩
  rw [Array.mapM_eq_mapM_toList, hbs]
  rfl

theorem exists_foldlM_eq_ok {f : β → α → Except ε β} {as : Array α}
    (h : ∀ b, ∀ a ∈ as, ∃ b', f b a = .ok b') (b : β) : ∃ b', as.foldlM f b = .ok b' := by
  rw [← Array.foldlM_toList]
  have hl : ∀ b, ∀ a ∈ as.toList, ∃ b', f b a = .ok b' :=
    fun b a ha => h b a (Array.mem_toList_iff.mp ha)
  generalize as.toList = l at hl
  induction l generalizing b with
  | nil => exact ⟨b, rfl⟩
  | cons a l ih =>
    obtain ⟨b', hb⟩ := hl b a (by simp)
    obtain ⟨b'', hb'⟩ := ih b' fun c a' ha => hl c a' (by simp [ha])
    refine ⟨b'', ?_⟩
    simp only [List.foldlM_cons, bind_eq_ok]
    exact ⟨b', hb, hb'⟩

end Outcomes

namespace Tables

variable {t : Tables}

theorem follow_eq_ok {α : Type} {x : Option α} {a : α} : follow x = .ok a ↔ x = some a := by
  cases x <;> simp [follow]

theorem Within.descriptor (h : t.Within t.counts) {type : Nat} (ht : type < t.types.size) :
    ∃ d, t.descriptor? type = some d := by
  have hd := h.descriptors t.types[type] (Array.getElem_mem ht)
  have hs : t.types[type] < t.strings.size := hd
  refine ⟨t.strings[t.types[type]], ?_⟩
  simp [descriptor?, ht, hs]

theorem size_foldl_setIfInBounds (cs : List Nat) (flags : Array Bool) :
    (cs.foldl (fun flags c => flags.setIfInBounds c true) flags).size = flags.size := by
  induction cs generalizing flags with
  | nil => rfl
  | cons c cs ih => rw [List.foldl_cons, ih, Array.size_setIfInBounds]

theorem Within.classify (h : t.Within t.counts) :
    ∃ flags, t.classify = .ok flags ∧ flags.size = t.types.size := by
  have hd (d : Nat) (hm : d ∈ t.types) :
      ∃ b, (Descriptor.isBuiltIn <$> follow t.strings[d]?) = .ok b := by
    have hs : d < t.strings.size := h.descriptors d hm
    rw [Array.getElem?_eq_getElem hs]
    exact ⟨_, rfl⟩
  have hc : t.classDefs.any (t.types.size ≤ ·) = false := by
    rw [Array.any_eq_false']
    intro c hm
    have hlt : c < t.types.size := h.classDefs c hm
    simpa using hlt
  obtain ⟨bs, hbs, hl⟩ := exists_arrayMapM_eq_ok hd
  have hsize (defined : Array Bool) (hs : defined.size = t.types.size) :
      (Array.zipWith (· || ·) defined bs).size = t.types.size := by
    rw [Array.size_zipWith, hs, hl, Nat.min_self]
  refine ⟨_, ?_, hsize (t.classDefs.foldl (fun flags c => flags.setIfInBounds c true)
    (Array.replicate t.types.size false)) ?_⟩
  · unfold Tables.classify
    rw [hc, hbs]
    rfl
  · rw [← Array.foldl_toList, size_foldl_setIfInBounds, Array.size_replicate]

theorem Within.slots (h : t.Within t.counts) (flags : Array Bool) (s : Selection) :
    ∃ slots, t.slots flags s = .ok slots := by
  have hp (p : Nat × Bool) (hm : p ∈ Array.zip (Array.range t.types.size) flags) :
      p.1 < t.types.size := by
    obtain ⟨i, hi, rfl⟩ := Array.mem_iff_getElem.mp hm
    rw [Array.size_zip, Array.size_range] at hi
    simpa using (show i < t.types.size by omega)
  unfold Tables.slots
  refine (exists_arrayMapM_eq_ok fun p hm => ?_).imp fun _ hs => hs.1
  obtain ⟨d, hd⟩ := h.descriptor (hp p hm)
  rw [hd]
  split
  · exact ⟨_, rfl⟩
  · exact ⟨_, rfl⟩

theorem Within.resolveField (h : t.Within t.counts) (c : ClassRef) {f : FieldId}
    (hf : f ∈ t.fields) : ∃ r, t.resolveField c f = .ok r := by
  have hn : f.name < t.strings.size := h.fieldNames f hf
  obtain ⟨d, hd⟩ := h.descriptor (h.fieldTypes f hf)
  simp only [Tables.resolveField, bind_eq_ok, pure_eq_ok, follow_eq_ok]
  exact ⟨_, _, Array.getElem?_eq_getElem hn, d, hd, rfl⟩

theorem Within.resolveMethod (h : t.Within t.counts) (c : ClassRef) {m : MethodId}
    (hm : m ∈ t.methods) : ∃ r, t.resolveMethod c m = .ok r := by
  have hp : m.proto < t.protos.size := h.methodProtos m hm
  have hn : m.name < t.strings.size := h.methodNames m hm
  have hmem := Array.getElem_mem hp
  obtain ⟨d, hd⟩ := h.descriptor (h.returnTypes _ hmem)
  obtain ⟨ds, hds, -⟩ := exists_mapM_eq_ok fun i hi => by
    obtain ⟨d, hd⟩ := h.descriptor (h.parameters _ hmem i hi)
    exact ⟨d, follow_eq_ok.mpr hd⟩
  simp only [Tables.resolveMethod, bind_eq_ok, pure_eq_ok, follow_eq_ok]
  exact ⟨_, _, Array.getElem?_eq_getElem hp, _, Array.getElem?_eq_getElem hn, ds, hds, d, hd, rfl⟩

theorem exists_addMember_eq_ok {α ρ : Type} {owner : α → Nat}
    {resolve : ClassRef → α → Except ListingFault ρ} (add : ClassRef → ρ → ClassRef)
    (slots : Array (Option ClassRef)) {a : α} (h : ∀ c, ∃ r, resolve c a = .ok r) :
    ∃ slots', addMember owner resolve add slots a = .ok slots' := by
  unfold addMember
  split
  next c _ =>
    obtain ⟨r, hr⟩ := h c
    rw [hr]
    exact ⟨_, rfl⟩
  next => exact ⟨_, rfl⟩

theorem checkFlags_eq_ok {flags : Array Bool} {u : Unit} :
    t.checkFlags flags = .ok u ↔ flags.size = t.types.size := by
  unfold checkFlags
  split
  next h => simp [h, pure, Except.pure]
  next h => simp [h]

/-- Within range, a listing fails for no choice of classes. -/
theorem Within.assemble (h : t.Within t.counts) {flags : Array Bool}
    (hf : flags.size = t.types.size) (s : Selection) : ∃ l, t.assemble flags s = .ok l := by
  obtain ⟨slots, hs⟩ := h.slots flags s
  obtain ⟨slots₁, h₁⟩ := exists_foldlM_eq_ok (f := t.addField)
    (fun slots _ hf => exists_addMember_eq_ok _ slots fun c => h.resolveField c hf) slots
  obtain ⟨slots₂, h₂⟩ := exists_foldlM_eq_ok (f := t.addMethod)
    (fun slots _ hm => exists_addMember_eq_ok _ slots fun c => h.resolveMethod c hm) slots₁
  simp only [Tables.assemble, bind_eq_ok, pure_eq_ok, checkFlags_eq_ok]
  exact ⟨_, (), hf, slots, hs, slots₁, h₁, slots₂, h₂, rfl⟩

end Tables

namespace Image

theorem parts_of_reads {b : Bytes} {x : Except Fault (Header × Tables)} {d : Cursor}
    (h : Reader.Reads readParts b start x d) : parts b = x := by
  unfold parts
  cases x with
  | ok p => rw [show readParts b start = .ok p d from h]
  | error f =>
    obtain ⟨e, he⟩ := h
    rw [he]

theorem exists_readParts_reads (b : Bytes) (c : Cursor) : ∃ d, Reader.Reads readParts b c
    (Header.ofBytes b >>= fun h => Tables.ofBytes b h >>= fun t => pure (h, t)) d := by
  obtain ⟨o, hr, ho⟩ := Header.read_reads b c
  cases hb : Header.ofBytes b with
  | error f =>
    rw [hb] at hr
    exact ⟨c, hr.bind fun h hh => by cases hh⟩
  | ok h =>
    rw [hb] at hr
    obtain rfl := ho h hb
    obtain ⟨pos, ht⟩ := Tables.read_jumps b h 112
    refine ⟨⟨pos, h.order⟩, hr.bind fun h' hh => ?_⟩
    cases hh
    exact ht.bind fun t _ => .pure (h, t)

theorem parts_eq (b : Bytes) :
    parts b = Header.ofBytes b >>= fun h => Tables.ofBytes b h >>= fun t => pure (h, t) := by
  obtain ⟨d, hd⟩ := exists_readParts_reads b start
  exact parts_of_reads hd

/-- Where a stream stands does not matter: reading starts by going to the header. -/
theorem partsFrom_fst (b : Bytes) (pos : Nat) : (partsFrom b pos).1 = parts b := by
  obtain ⟨d, hd⟩ := exists_readParts_reads b ⟨pos, .little⟩
  rw [← parts_eq] at hd
  unfold partsFrom
  cases hp : parts b with
  | ok p =>
    rw [hp] at hd
    rw [show readParts b ⟨pos, .little⟩ = .ok p d from hd]
  | error f =>
    rw [hp] at hd
    obtain ⟨e, he⟩ := hd
    rw [he]

theorem parts_eq_ok {b : Bytes} {h : Header} {t : Tables} :
    parts b = .ok (h, t) ↔ Header.ofBytes b = .ok h ∧ Tables.ofBytes b h = .ok t := by
  simp only [parts_eq, bind_eq_ok, pure_eq_ok, Prod.mk.injEq]
  constructor
  · intro hx
    obtain ⟨_, hh, _, ht, rfl, rfl⟩ := hx
    exact ⟨hh, ht⟩
  · intro hx
    obtain ⟨hh, ht⟩ := hx
    exact ⟨h, hh, t, ht, rfl, rfl⟩

theorem within_of_parts {b : Bytes} {h : Header} {t : Tables} (hp : parts b = .ok (h, t)) :
    t.Within t.counts := by
  obtain ⟨hb, rfl⟩ := Tables.ofBytes_eq_ok.mp (parts_eq_ok.mp hp).2
  rw [Tables.counts_located]
  exact hb.indices

theorem ofParts_of_within {h : Header} {t : Tables} (ht : t.Within t.counts) :
    ∃ flags, ofParts (h, t) = .ok ⟨h, t, flags⟩ ∧ t.classify = .ok flags ∧
      flags.size = t.types.size := by
  obtain ⟨flags, hc, hs⟩ := ht.classify
  refine ⟨flags, ?_, hc, hs⟩
  simp only [ofParts, hc, bind_eq_ok, pure_eq_ok]
  exact ⟨flags, rfl, (), by rw [Tables.checkFlags_eq_ok.mpr hs]; rfl, rfl⟩

/-- Header and tables decide how loading ends. -/
theorem load_of_parts {b : Bytes} {h : Header} {t : Tables} (hp : parts b = .ok (h, t)) :
    ∃ flags, load b = .ok ⟨h, t, flags⟩ ∧ t.classify = .ok flags ∧
      flags.size = t.types.size := by
  obtain ⟨flags, hl, hf⟩ := ofParts_of_within (h := h) (within_of_parts hp)
  refine ⟨flags, ?_, hf⟩
  rw [load, hp]
  exact hl

theorem load_eq_malformed {b : Bytes} {f : Fault} :
    load b = .error (.malformed f) ↔ parts b = .error f := by
  constructor
  · intro hl
    cases hp : parts b with
    | error g =>
      rw [load, hp] at hl
      cases hl
      rfl
    | ok p =>
      obtain ⟨flags, hl', -⟩ := load_of_parts hp
      rw [hl] at hl'
      cases hl'
  · intro hp
    rw [load, hp]
    rfl

theorem load_eq_ok {b : Bytes} {i : Image} (hl : load b = .ok i) :
    parts b = .ok (i.header, i.tables) ∧ i.flags.size = i.tables.types.size := by
  cases hp : parts b with
  | error f =>
    rw [load_eq_malformed.mpr hp] at hl
    cases hl
  | ok p =>
    obtain ⟨flags, hl', -, hs⟩ := load_of_parts hp
    rw [hl] at hl'
    cases hl'
    exact ⟨rfl, hs⟩

/-- Loading ends with an image or with one of the four faults of malformed bytes.  In an image all
indices are in range and each type has its flag, so that no question about it fails. -/
theorem load_safe (b : Bytes) :
    (∃ i, load b = .ok i ∧ i.tables.Within i.tables.counts ∧
        i.flags.size = i.tables.types.size ∧ (∀ s, ∃ l, i.references s = .ok l) ∧
        ∀ k < i.tables.types.size,
          (∃ d, i.tables.descriptor? k = some d) ∧ ∃ f, i.isInternal? k = some f) ∨
      ∃ f : Fault, load b = .error (.malformed f) ∧ f.kind ∈
        ["BadMagicError", "BadEndianTagError", "TruncatedInputError", "IndexOutOfRangeError"] := by
  cases hp : parts b with
  | error f =>
    refine .inr ⟨f, load_eq_malformed.mpr hp, ?_⟩
    cases f <;> simp [Fault.kind]
  | ok p =>
    obtain ⟨h, t⟩ := p
    have ht := within_of_parts hp
    obtain ⟨flags, hl, -, hs⟩ := load_of_parts hp
    refine .inl ⟨⟨h, t, flags⟩, hl, ht, hs, fun s => ht.assemble hs (.ofScope s), fun k hk => ?_⟩
    have hf : k < flags.size := hs.symm ▸ hk
    exact ⟨ht.descriptor hk, flags[k], Array.getElem?_eq_getElem hf⟩

end Image

end DexRefs
