import DexRefs.Proofs.Loading

/-!
What a listing holds.  The passes over the member tables are followed slot by slot: whatever other
classes were given in between, a slot ends with the members of its own class, in table order.
-/

set_option autoImplicit false

namespace DexRefs

namespace Tables

section Slots

variable {α ρ : Type} (owner : α → Nat) (resolve : ClassRef → α → Except ListingFault ρ)
  (add : ClassRef → ρ → ClassRef)

/-- From `x` to `y`, the slot number `i` was given its members among those in `l`. -/
def Collects (i : Nat) (l : List α) (x y : Option (Option ClassRef)) : Prop :=
  match x with
  | some (some c) => ∃ rs,
    List.Forall₂ (fun a r => resolve c a = .ok r) (l.filter (owner · = i)) rs ∧
      y = some (some (rs.foldl add c))
  | _ => y = x

variable {owner resolve add} {slots slots' : Array (Option ClassRef)} {i : Nat}

theorem Collects.of_none {l : List α} {x : Option (Option ClassRef)}
    (h : ∀ c, x = some (some c) → l.filter (owner · = i) = []) :
    Collects owner resolve add i l x x := by
  match x with
  | some (some c) => exact ⟨[], by rw [h c rfl]; exact .nil, rfl⟩
  | some none => rfl
  | none => rfl

/-- A member resolves in the same way whatever its class was given before. -/
theorem Collects.trans {l₁ l₂ : List α} {x y z : Option (Option ClassRef)}
    (hadd : ∀ c r, resolve (add c r) = resolve c) (h₁ : Collects owner resolve add i l₁ x y)
    (h₂ : Collects owner resolve add i l₂ y z) :
    Collects owner resolve add i (l₁ ++ l₂) x z := by
  have hfold (rs : List ρ) (c : ClassRef) : resolve (rs.foldl add c) = resolve c := by
    induction rs generalizing c with
    | nil => rfl
    | cons r rs ih => rw [List.foldl_cons, ih, hadd]
  match x with
  | some (some c) =>
    obtain ⟨rs₁, hr₁, rfl⟩ := h₁
    obtain ⟨rs₂, hr₂, rfl⟩ := h₂
    rw [hfold] at hr₂
    refine ⟨rs₁ ++ rs₂, ?_, by rw [List.foldl_append]⟩
    rw [List.filter_append]
    exact List.rel_append hr₁ hr₂
  | some none =>
    cases h₁
    exact h₂
  | none =>
    cases h₁
    exact h₂

theorem collects_addMember {a : α} (h : addMember owner resolve add slots a = .ok slots')
    (i : Nat) : Collects owner resolve add i [a] slots[i]? slots'[i]? := by
  unfold addMember at h
  split at h
  next c hc =>
    simp only [bind_eq_ok, pure_eq_ok] at h
    obtain ⟨r, hr, rfl⟩ := h
    by_cases hi : owner a = i
    · subst hi
      obtain ⟨hlt, -⟩ := Array.getElem?_eq_some_iff.mp hc
      rw [hc]
      exact ⟨[r], by simpa using hr, by simp [hlt]⟩
    · rw [Array.getElem?_setIfInBounds_ne hi]
      exact .of_none fun _ _ => by simp [hi]
  next hnone =>
    cases h
    refine .of_none fun d hd => ?_
    have hi : owner a ≠ i := by
      rintro rfl
      exact hnone d hd
    simp [hi]

theorem collects_foldlM {l : List α} (hadd : ∀ c r, resolve (add c r) = resolve c)
    (h : l.foldlM (addMember owner resolve add) slots = .ok slots') (i : Nat) :
    Collects owner resolve add i l slots[i]? slots'[i]? := by
  induction l generalizing slots with
  | nil =>
    cases h
    exact .of_none fun _ _ => rfl
  | cons a l ih =>
    simp only [List.foldlM_cons, bind_eq_ok] at h
    obtain ⟨slots₁, h₁, h₂⟩ := h
    exact (collects_addMember h₁ i).trans hadd (ih h₂)

theorem size_eq_of_collects {l : List α}
    (h : ∀ i, Collects owner resolve add i l slots[i]? slots'[i]?) : slots'.size = slots.size := by
  have hnone (i : Nat) : slots'[i]? = none ↔ slots[i]? = none := by
    have hi := h i
    unfold Collects at hi
    split at hi
    next hc =>
      obtain ⟨rs, -, hy⟩ := hi
      rw [hy, hc]
      simp
    next => rw [hi]
  simp only [Array.getElem?_eq_none_iff] at hnone
  exact Nat.le_antisymm ((hnone slots.size).mpr (Nat.le_refl _))
    ((hnone slots'.size).mp (Nat.le_refl _))

end Slots

structure FieldOf (t : Tables) (name : String) (internal : Bool) (f : FieldId) (r : FieldRef) :
    Prop where
  declaringClass : r.declaringClass = name
  name : t.strings[f.name]? = some r.name
  typeName : t.descriptor? f.type = some r.typeName
  internal : r.internal = internal

structure MethodOf (t : Tables) (name : String) (internal : Bool) (m : MethodId) (r : MethodRef) :
    Prop where
  declaringClass : r.declaringClass = name
  name : t.strings[m.name]? = some r.name
  signature : ∃ p, t.protos[m.proto]? = some p ∧
    List.Forall₂ (fun type d => t.descriptor? type = some d) p.parameters r.argumentTypes ∧
    t.descriptor? p.returnType = some r.returnType
  internal : r.internal = internal

/-- The type number `type` is listed as `c`: under its descriptor, with its flag, and with all
rows of the member tables that name it, in the order of the tables. -/
structure ClassOf (t : Tables) (flags : Array Bool) (type : Nat) (c : ClassRef) : Prop where
  name : t.descriptor? type = some c.name
  internal : flags[type]? = some c.internal
  fields : List.Forall₂ (t.FieldOf c.name c.internal)
    (t.fields.toList.filter (·.owner = type)) c.fields
  methods : List.Forall₂ (t.MethodOf c.name c.internal)
    (t.methods.toList.filter (·.owner = type)) c.methods

/-- The types that a listing covers, in ascending order. -/
def selected (flags : Array Bool) (s : Selection) : List Nat :=
  (List.range flags.size).filter fun i => flags[i]?.any s.covers

variable {t : Tables}

theorem mem_selected {flags : Array Bool} {s : Selection} {i : Nat} :
    i ∈ selected flags s ↔ ∃ b, flags[i]? = some b ∧ s.covers b = true := by
  simp only [selected, List.mem_filter, List.mem_range, Option.any_eq_true]
  constructor
  · intro h
    exact h.2
  · intro h
    obtain ⟨b, hb, hc⟩ := h
    obtain ⟨hi, -⟩ := Array.getElem?_eq_some_iff.mp hb
    exact ⟨hi, b, hb, hc⟩

theorem fieldOf_of_resolveField {c : ClassRef} {f : FieldId} {r : FieldRef}
    (h : t.resolveField c f = .ok r) : t.FieldOf c.name c.internal f r := by
  simp only [resolveField, bind_eq_ok, pure_eq_ok, follow_eq_ok] at h
  obtain ⟨name, hn, type, ht, rfl⟩ := h
  exact ⟨rfl, hn, ht, rfl⟩

theorem methodOf_of_resolveMethod {c : ClassRef} {m : MethodId} {r : MethodRef}
    (h : t.resolveMethod c m = .ok r) : t.MethodOf c.name c.internal m r := by
  simp only [resolveMethod, bind_eq_ok, pure_eq_ok, follow_eq_ok] at h
  obtain ⟨p, hp, name, hn, ds, hds, d, hd, rfl⟩ := h
  have hargs := (mapM_eq_ok_iff_forall₂.mp hds).imp fun _ _ h => follow_eq_ok.mp h
  exact ⟨rfl, hn, ⟨p, hp, hargs, hd⟩, rfl⟩

theorem resolveField_addField (c : ClassRef) (r : FieldRef) :
    t.resolveField (c.addField r) = t.resolveField c := rfl

theorem resolveMethod_addMethod (c : ClassRef) (r : MethodRef) :
    t.resolveMethod (c.addMethod r) = t.resolveMethod c := rfl

theorem foldl_addField (rs : List FieldRef) (c : ClassRef) :
    rs.foldl ClassRef.addField c = { c with fields := c.fields ++ rs } := by
  induction rs generalizing c with
  | nil => simp
  | cons r rs ih => simp [ih, ClassRef.addField]

theorem foldl_addMethod (rs : List MethodRef) (c : ClassRef) :
    rs.foldl ClassRef.addMethod c = { c with methods := c.methods ++ rs } := by
  induction rs generalizing c with
  | nil => simp
  | cons r rs ih => simp [ih, ClassRef.addMethod]

/-- Before members are handed out, the selected types have slots and the others have none. -/
theorem slots_eq_ok {flags : Array Bool} {s : Selection} {slots : Array (Option ClassRef)}
    (hf : flags.size = t.types.size) (h : t.slots flags s = .ok slots) :
    slots.size = flags.size ∧ ∀ i b, flags[i]? = some b →
      (s.covers b = true → ∃ d, t.descriptor? i = some d ∧
        slots[i]? = some (some { name := d, internal := b })) ∧
      (s.covers b = false → slots[i]? = some none) := by
  unfold Tables.slots at h
  rw [Array.mapM_eq_mapM_toList, map_eq_ok] at h
  obtain ⟨l, hl, rfl⟩ := h
  have hrel := mapM_eq_ok_iff_forall₂.mp hl
  have hlen : l.length = flags.size := by
    rw [← hrel.length_eq]
    simp [hf]
  refine ⟨by simpa using hlen, fun i b hb => ?_⟩
  obtain ⟨hi, rfl⟩ := Array.getElem?_eq_some_iff.mp hb
  have hslot : (if s.covers flags[i] then do
        let name ← follow (t.descriptor? i)
        pure (some { name, internal := flags[i] })
      else pure none) = Except.ok l[i] := by
    simpa using hrel.get (i := i) (by simp; omega) (by omega)
  have hget : l.toArray[i]? = some l[i] := by simp
  rw [hget]
  constructor
  · intro hc
    rw [if_pos hc] at hslot
    simp only [bind_eq_ok, pure_eq_ok, follow_eq_ok] at hslot
    obtain ⟨d, hd, hs⟩ := hslot
    exact ⟨d, hd, by rw [hs]⟩
  · intro hc
    rw [if_neg (by simp [hc]), pure_eq_ok] at hslot
    rw [hslot]

theorem forall₂_filterMap_id {R : Nat → ClassRef → Prop} {p : Nat → Bool} {is : List Nat}
    {slots : List (Option ClassRef)}
    (h : List.Forall₂ (fun i x => (p i = true → ∃ c, x = some c ∧ R i c) ∧
      (p i = false → x = none)) is slots) :
    List.Forall₂ R (is.filter p) (slots.filterMap id) := by
  induction h with
  | nil => exact .nil
  | @cons i x is slots hx _ ih =>
    cases hp : p i with
    | true =>
      obtain ⟨c, rfl, hc⟩ := hx.1 hp
      simpa [hp] using ⟨hc, ih⟩
    | false =>
      obtain rfl := hx.2 hp
      simpa [hp] using ih

theorem classOf_of_collects {flags : Array Bool} {i : Nat} {d : String} {b : Bool}
    {y z : Option (Option ClassRef)} (hb : flags[i]? = some b) (hd : t.descriptor? i = some d)
    (hy : Collects FieldId.owner t.resolveField ClassRef.addField i t.fields.toList
      (some (some { name := d, internal := b })) y)
    (hz : Collects MethodId.owner t.resolveMethod ClassRef.addMethod i t.methods.toList y z) :
    ∃ c, z = some (some c) ∧ t.ClassOf flags i c := by
  obtain ⟨fs, hfs, rfl⟩ := hy
  obtain ⟨ms, hms, rfl⟩ := hz
  refine ⟨_, rfl, ?_⟩
  rw [foldl_addField] at hms ⊢
  rw [foldl_addMethod]
  exact ⟨hd, hb, hfs.imp fun _ _ h => fieldOf_of_resolveField h,
    hms.imp fun _ _ h => methodOf_of_resolveMethod h⟩

theorem classOf_of_assemble {flags : Array Bool} {s : Selection} {l : List ClassRef}
    (h : t.assemble flags s = .ok l) :
    List.Forall₂ (t.ClassOf flags) (selected flags s) l := by
  simp only [assemble, bind_eq_ok, pure_eq_ok, checkFlags_eq_ok, ← Array.foldlM_toList] at h
  obtain ⟨_, hf, slots, hs, slots₁, h₁, slots₂, h₂, rfl⟩ := h
  obtain ⟨hsize, hslots⟩ := slots_eq_ok hf hs
  have hc₁ (i : Nat) : Collects FieldId.owner t.resolveField ClassRef.addField i t.fields.toList
      slots[i]? slots₁[i]? := collects_foldlM resolveField_addField h₁ i
  have hc₂ (i : Nat) : Collects MethodId.owner t.resolveMethod ClassRef.addMethod i
      t.methods.toList slots₁[i]? slots₂[i]? := collects_foldlM resolveMethod_addMethod h₂ i
  have hsize₂ : slots₂.size = flags.size := by
    rw [size_eq_of_collects hc₂, size_eq_of_collects hc₁, hsize]
  refine forall₂_filterMap_id (List.forall₂_of_length_eq_of_get (by simp [hsize₂]) ?_)
  intro i hi hi'
  have hlt : i < flags.size := by simpa using hi
  have hb := Array.getElem?_eq_getElem hlt
  have hlast : slots₂[i]? = some (slots₂.toList.get ⟨i, hi'⟩) := by simp [hsize₂, hlt]
  have hi₁ := hc₁ i
  have hi₂ := hc₂ i
  rw [hlast] at hi₂
  simp only [List.get_eq_getElem, List.getElem_range, hb, Option.any_some]
  constructor
  · intro hcov
    obtain ⟨d, hd, hslot⟩ := (hslots i _ hb).1 hcov
    rw [hslot] at hi₁
    obtain ⟨c, hc, hclass⟩ := classOf_of_collects hb hd hi₁ hi₂
    exact ⟨c, Option.some.inj hc, hclass⟩
  · intro hcov
    rw [(hslots i _ hb).2 hcov] at hi₁
    rw [show slots₁[i]? = some none from hi₁] at hi₂
    exact Option.some.inj hi₂

section Unique

variable {name : String} {internal : Bool}

theorem FieldOf.unique : Relator.RightUnique (t.FieldOf name internal) := by
  rintro f ⟨d, n, ty, i⟩ ⟨d', n', ty', i'⟩ h h'
  cases h.declaringClass.trans h'.declaringClass.symm
  cases h.name.symm.trans h'.name
  cases h.typeName.symm.trans h'.typeName
  cases h.internal.trans h'.internal.symm
  rfl

theorem MethodOf.unique : Relator.RightUnique (t.MethodOf name internal) := by
  rintro m ⟨d, n, as, ty, i⟩ ⟨d', n', as', ty', i'⟩ h h'
  obtain ⟨p, hp, has, hty⟩ := h.signature
  obtain ⟨p', hp', has', hty'⟩ := h'.signature
  cases hp.symm.trans hp'
  have hunique : Relator.RightUnique fun type d => t.descriptor? type = some d :=
    fun _ _ _ h h' => Option.some.inj (h.symm.trans h')
  cases List.right_unique_forall₂' hunique has has'
  cases hty.symm.trans hty'
  cases h.declaringClass.trans h'.declaringClass.symm
  cases h.name.symm.trans h'.name
  cases h.internal.trans h'.internal.symm
  rfl

theorem ClassOf.unique (flags : Array Bool) : Relator.RightUnique (t.ClassOf flags) := by
  rintro type ⟨n, i, fs, ms⟩ ⟨n', i', fs', ms'⟩ h h'
  cases h.name.symm.trans h'.name
  cases h.internal.symm.trans h'.internal
  cases List.right_unique_forall₂' FieldOf.unique h.fields h'.fields
  cases List.right_unique_forall₂' MethodOf.unique h.methods h'.methods
  rfl

end Unique

/-- A listing of tables within range: the selected types in ascending order, each once, with just
the rows of the member tables that name it.  Types with equal descriptors keep their members
apart. -/
theorem assemble_exact (h : t.Within t.counts) {flags : Array Bool}
    (hf : flags.size = t.types.size) (s : Selection) :
    ∃ l is, t.assemble flags s = .ok l ∧ is.Pairwise (· < ·) ∧
      (∀ i, i ∈ is ↔ ∃ b, flags[i]? = some b ∧
        (s.internal = true ∧ b = true ∨ s.external = true ∧ b = false)) ∧
      List.Forall₂ (t.ClassOf flags) is l := by
  obtain ⟨l, hl⟩ := h.assemble hf s
  refine ⟨l, selected flags s, hl, ?_, fun i => ?_, classOf_of_assemble hl⟩
  · exact List.pairwise_lt_range.filter _
  · simp [mem_selected, Selection.covers]

def twins : Tables where
  strings := #["LA;", "I", "x", "VI", "V"]
  types := #[0, 0, 1, 4]
  protos := #[⟨3, 3, 160, [2]⟩]
  fields := #[⟨1, 2, 2⟩, ⟨0, 2, 2⟩, ⟨2, 0, 1⟩, ⟨1, 0, 1⟩]
  methods := #[⟨0, 0, 2⟩, ⟨1, 0, 2⟩]
  classDefs := #[0]

theorem assemble_exact_twins : twins.Within twins.counts ∧
    #[true, false, true, true].size = twins.types.size ∧ ∃ l is,
      twins.assemble #[true, false, true, true] ⟨false, true⟩ = .ok l ∧
      is.Pairwise (· < ·) ∧ (∀ i, i ∈ is ↔ ∃ b, #[true, false, true, true][i]? = some b ∧
        (false = true ∧ b = true ∨ true = true ∧ b = false)) ∧
      List.Forall₂ (twins.ClassOf #[true, false, true, true]) is l := by
  have h : twins.Within twins.counts := by constructor <;> decide
  have hf : #[true, false, true, true].size = twins.types.size := by decide
  exact ⟨h, hf, assemble_exact h hf ⟨false, true⟩⟩

example : (twins.assemble #[true, false, true, true] ⟨false, true⟩).toOption =
    some [{ name := "LA;"
            fields := [⟨"LA;", "x", "I", false⟩, ⟨"LA;", "I", "LA;", false⟩]
            methods := [⟨"LA;", "x", ["I"], "V", false⟩] }] := by decide +kernel

end Tables

end DexRefs
