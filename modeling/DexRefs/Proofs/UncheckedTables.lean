import DexRefs.Proofs.Scopes

/-!
Listings of tables that nothing has checked.  A listing follows the indices of selected types and of
the member rows that name a selected type, and no others: it fails just where one of these leads
nowhere.  Selecting fewer types leaves fewer indices to follow, and the classes that are still
selected are listed as before.
-/

set_option autoImplicit false

namespace DexRefs

namespace Tables

variable {t t' : Tables} {flags : Array Bool} {s s' : Selection}

/-- An index that a listing has to follow leads nowhere: the descriptor of a selected type, or a
column of a member row that names a selected type, the columns of a prototype included. -/
inductive Dangling (t : Tables) (flags : Array Bool) (s : Selection) : Prop where
  | descriptor {type d : Nat} (hs : type ∈ selected flags s) (hd : t.types[type]? = some d)
      (h : t.strings.size ≤ d)
  | fieldName {f : FieldId} (hf : f ∈ t.fields) (hs : f.owner ∈ selected flags s)
      (h : t.strings.size ≤ f.name)
  | fieldType {f : FieldId} (hf : f ∈ t.fields) (hs : f.owner ∈ selected flags s)
      (h : t.descriptor? f.type = none)
  | methodProto {m : MethodId} (hm : m ∈ t.methods) (hs : m.owner ∈ selected flags s)
      (h : t.protos.size ≤ m.proto)
  | methodName {m : MethodId} (hm : m ∈ t.methods) (hs : m.owner ∈ selected flags s)
      (h : t.strings.size ≤ m.name)
  | parameter {m : MethodId} {p : Proto} {type : Nat} (hm : m ∈ t.methods)
      (hs : m.owner ∈ selected flags s) (hp : t.protos[m.proto]? = some p)
      (ht : type ∈ p.parameters) (h : t.descriptor? type = none)
  | returnType {m : MethodId} {p : Proto} (hm : m ∈ t.methods) (hs : m.owner ∈ selected flags s)
      (hp : t.protos[m.proto]? = some p) (h : t.descriptor? p.returnType = none)

/-! ### What fails -/

section Outcomes

variable {α β : Type}

def MayDangle (x : Except ListingFault α) : Prop :=
  ∀ f, x = .error f → f = .danglingIndex

theorem MayDangle.ok (a : α) : MayDangle (.ok a : Except ListingFault α) := by
  intro f h
  cases h

theorem MayDangle.follow (x : Option α) : MayDangle (follow x) := by
  intro f h
  cases x with
  | none =>
    cases h
    rfl
  | some a => cases h

theorem MayDangle.bind {x : Except ListingFault α} {f : α → Except ListingFault β}
    (hx : MayDangle x) (hf : ∀ a, MayDangle (f a)) : MayDangle (x >>= f) := by
  intro e h
  obtain h | ⟨a, -, h⟩ := bind_eq_error.mp h
  · exact hx e h
  · exact hf a e h

theorem MayDangle.mapM {x : α → Except ListingFault β} (hx : ∀ a, MayDangle (x a)) (l : List α) :
    MayDangle (l.mapM x) := by
  induction l with
  | nil => exact .ok []
  | cons a l ih =>
    rw [List.mapM_cons]
    exact (hx a).bind fun b => ih.bind fun bs => .ok (b :: bs)

theorem MayDangle.foldlM {f : β → α → Except ListingFault β} (hf : ∀ b a, MayDangle (f b a))
    (l : List α) (b : β) : MayDangle (l.foldlM f b) := by
  induction l generalizing b with
  | nil => exact .ok b
  | cons a l ih => exact (hf b a).bind ih

theorem MayDangle.error_iff {x : Except ListingFault α} (h : MayDangle x) :
    x = .error .danglingIndex ↔ ¬∃ a, x = .ok a := by
  cases x with
  | ok a => simp
  | error f => simp [h f rfl]

end Outcomes

theorem mayDangle_slots (t : Tables) (flags : Array Bool) (s : Selection) :
    MayDangle (t.slots flags s) := by
  unfold Tables.slots
  rw [Array.mapM_eq_mapM_toList]
  refine MayDangle.bind (.mapM (fun p => ?_) _) fun l => .ok l.toArray
  split
  · exact (MayDangle.follow _).bind fun _ => .ok _
  · exact .ok none

theorem mayDangle_resolveField (t : Tables) (c : ClassRef) (f : FieldId) :
    MayDangle (t.resolveField c f) :=
  (MayDangle.follow _).bind fun _ => (MayDangle.follow _).bind fun _ => .ok _

theorem mayDangle_resolveMethod (t : Tables) (c : ClassRef) (m : MethodId) :
    MayDangle (t.resolveMethod c m) :=
  (MayDangle.follow _).bind fun _ => (MayDangle.follow _).bind fun _ =>
    (MayDangle.mapM (fun _ => .follow _) _).bind fun _ => (MayDangle.follow _).bind fun _ => .ok _

theorem mayDangle_addMember {α ρ : Type} {owner : α → Nat}
    {resolve : ClassRef → α → Except ListingFault ρ} {add : ClassRef → ρ → ClassRef}
    (hr : ∀ c a, MayDangle (resolve c a)) (slots : Array (Option ClassRef)) (a : α) :
    MayDangle (addMember owner resolve add slots a) := by
  unfold addMember
  split
  next c _ => exact (hr c a).bind fun r => .ok _
  next => exact .ok slots

theorem mayDangle_assemble (hf : flags.size = t.types.size) (s : Selection) :
    MayDangle (t.assemble flags s) := by
  have hflags : t.checkFlags flags = .ok () := checkFlags_eq_ok.mpr hf
  simp only [assemble, hflags, ← Array.foldlM_toList]
  exact (MayDangle.ok ()).bind fun _ => (mayDangle_slots t flags s).bind fun slots =>
    (MayDangle.foldlM (mayDangle_addMember (mayDangle_resolveField t)) _ slots).bind fun slots =>
      (MayDangle.foldlM (mayDangle_addMember (mayDangle_resolveMethod t)) _ slots).bind fun slots =>
        .ok _

/-! ### What succeeds -/

section Passes

variable {α ρ : Type} {owner : α → Nat} {resolve : ClassRef → α → Except ListingFault ρ}
  {add : ClassRef → ρ → ClassRef} {slots slots' : Array (Option ClassRef)} {is : List Nat}

def Occupied (slots : Array (Option ClassRef)) (is : List Nat) : Prop :=
  ∀ i, (∃ c, slots[i]? = some (some c)) ↔ i ∈ is

theorem Occupied.addMember {a : α} (hs : Occupied slots is)
    (h : addMember owner resolve add slots a = .ok slots') : Occupied slots' is := by
  unfold Tables.addMember at h
  split at h
  next c hc =>
    simp only [bind_eq_ok, pure_eq_ok] at h
    obtain ⟨r, -, rfl⟩ := h
    intro i
    rw [← hs i]
    by_cases hi : owner a = i
    · subst hi
      obtain ⟨hlt, -⟩ := Array.getElem?_eq_some_iff.mp hc
      simp only [hc, Array.getElem?_setIfInBounds_self_of_lt hlt, Option.some.injEq, exists_eq']
    · rw [Array.getElem?_setIfInBounds_ne hi]
  next =>
    cases h
    exact hs

theorem Occupied.foldlM {l : List α} (hs : Occupied slots is)
    (h : l.foldlM (Tables.addMember owner resolve add) slots = .ok slots') :
    Occupied slots' is := by
  induction l generalizing slots with
  | nil =>
    cases h
    exact hs
  | cons a l ih =>
    simp only [List.foldlM_cons, bind_eq_ok] at h
    obtain ⟨slots₁, h₁, h₂⟩ := h
    exact ih (hs.addMember h₁) h₂

/-- A pass goes through if and only if each member whose type has a slot resolves.  Slots stay as
they are but for their members, on which no resolving depends. -/
theorem exists_foldlM_addMember (owner : α → Nat) (add : ClassRef → ρ → ClassRef)
    {R : α → Prop} (hR : ∀ c a, (∃ r, resolve c a = .ok r) ↔ R a)
    (hs : Occupied slots is) (l : List α) :
    (∃ slots', l.foldlM (addMember owner resolve add) slots = .ok slots') ↔
      ∀ a ∈ l, owner a ∈ is → R a := by
  induction l generalizing slots with
  | nil => simp [pure_eq_ok]
  | cons a l ih =>
    have hstep : (∃ slots₁, addMember owner resolve add slots a = .ok slots₁) ↔
        (owner a ∈ is → R a) := by
      rw [← hs (owner a)]
      unfold addMember
      split
      next c hc => simp only [hc, ← hR c a, bind_eq_ok, pure_eq_ok, Option.some.injEq, exists_eq',
        forall_const, exists_comm, exists_and_left, and_true]
      next hnone => simpa [pure_eq_ok] using fun c hc => absurd hc (hnone c)
    rw [List.forall_mem_cons, ← hstep]
    simp only [List.foldlM_cons, bind_eq_ok]
    constructor
    · rintro ⟨slots', slots₁, h₁, h⟩
      exact ⟨⟨slots₁, h₁⟩, (ih (hs.addMember h₁)).mp ⟨slots', h⟩⟩
    · rintro ⟨⟨slots₁, h₁⟩, hl⟩
      obtain ⟨slots', h⟩ := (ih (hs.addMember h₁)).mpr hl
      exact ⟨slots', slots₁, h₁, h⟩

end Passes

def FieldResolves (t : Tables) (f : FieldId) : Prop :=
  f.name < t.strings.size ∧ ∃ d, t.descriptor? f.type = some d

def MethodResolves (t : Tables) (m : MethodId) : Prop :=
  m.name < t.strings.size ∧ ∃ p, t.protos[m.proto]? = some p ∧
    (∀ type ∈ p.parameters, ∃ d, t.descriptor? type = some d) ∧
    ∃ d, t.descriptor? p.returnType = some d

theorem exists_getElem?_iff {α : Type} {as : Array α} {i : Nat} :
    (∃ a, as[i]? = some a) ↔ i < as.size := by
  rw [← Option.isSome_iff_exists, isSome_getElem?]

theorem exists_resolveField (c : ClassRef) (f : FieldId) :
    (∃ r, t.resolveField c f = .ok r) ↔ t.FieldResolves f := by
  rw [FieldResolves, ← exists_getElem?_iff]
  simp only [resolveField, bind_eq_ok, pure_eq_ok, follow_eq_ok]
  constructor
  · rintro ⟨_, name, hn, d, hd, rfl⟩
    exact ⟨⟨name, hn⟩, d, hd⟩
  · rintro ⟨⟨name, hn⟩, d, hd⟩
    exact ⟨_, name, hn, d, hd, rfl⟩

theorem exists_resolveMethod (c : ClassRef) (m : MethodId) :
    (∃ r, t.resolveMethod c m = .ok r) ↔ t.MethodResolves m := by
  rw [MethodResolves, ← exists_getElem?_iff]
  have hparameters (p : Proto) :
      (∃ ds, p.parameters.mapM (fun i => follow (t.descriptor? i)) = .ok ds) ↔
        ∀ type ∈ p.parameters, ∃ d, t.descriptor? type = some d := by
    simp only [exists_mapM_iff, follow_eq_ok]
  simp only [resolveMethod, bind_eq_ok, pure_eq_ok, follow_eq_ok, ← hparameters]
  constructor
  · rintro ⟨_, p, hp, name, hn, ds, hds, d, hd, rfl⟩
    exact ⟨⟨name, hn⟩, p, hp, ⟨ds, hds⟩, d, hd⟩
  · rintro ⟨⟨name, hn⟩, p, hp, ⟨ds, hds⟩, d, hd⟩
    exact ⟨_, p, hp, name, hn, ds, hds, d, hd, rfl⟩

theorem mem_zip_range (hf : flags.size = t.types.size) {p : Nat × Bool} :
    p ∈ (Array.zip (Array.range t.types.size) flags).toList ↔ flags[p.1]? = some p.2 := by
  simp only [Array.mem_toList_iff, Array.mem_iff_getElem?, Array.getElem?_zip_eq_some,
    Array.getElem?_range, Option.ite_none_right_eq_some, Option.some.injEq]
  constructor
  · rintro ⟨i, ⟨-, rfl⟩, hb⟩
    exact hb
  · intro hb
    obtain ⟨hlt, -⟩ := Array.getElem?_eq_some_iff.mp hb
    exact ⟨p.1, ⟨hf ▸ hlt, rfl⟩, hb⟩

theorem occupied_slots (hf : flags.size = t.types.size) {slots : Array (Option ClassRef)}
    (h : t.slots flags s = .ok slots) : Occupied slots (selected flags s) := by
  obtain ⟨hsize, hslots⟩ := slots_eq_ok hf h
  intro i
  rw [mem_selected]
  cases hb : flags[i]? with
  | none =>
    have hnone : slots[i]? = none := by simpa [hsize] using hb
    simp [hnone]
  | some b =>
    obtain ⟨hsome, hnone⟩ := hslots i b hb
    cases hcovers : s.covers b with
    | false => simp [hnone hcovers, hcovers]
    | true =>
      obtain ⟨d, -, hslot⟩ := hsome hcovers
      simp [hslot, hcovers]

theorem exists_slots (hf : flags.size = t.types.size) (s : Selection) :
    (∃ slots, t.slots flags s = .ok slots) ↔
      ∀ type ∈ selected flags s, ∃ d, t.descriptor? type = some d := by
  constructor
  · rintro ⟨slots, h⟩ type htype
    obtain ⟨b, hb, hcovers⟩ := mem_selected.mp htype
    obtain ⟨d, hd, -⟩ := ((slots_eq_ok hf h).2 type b hb).1 hcovers
    exact ⟨d, hd⟩
  · intro h
    unfold Tables.slots
    simp only [Array.mapM_eq_mapM_toList, map_eq_ok]
    rw [exists_comm]
    simp only [exists_eq_right', exists_mapM_iff, mem_zip_range hf]
    rintro ⟨type, b⟩ hb
    split
    next hcovers =>
      obtain ⟨d, hd⟩ := h type (mem_selected.mpr ⟨b, hb, hcovers⟩)
      rw [hd]
      exact ⟨_, rfl⟩
    next => exact ⟨none, rfl⟩

structure Resolves (t : Tables) (flags : Array Bool) (s : Selection) : Prop where
  descriptors : ∀ type ∈ selected flags s, ∃ d, t.descriptor? type = some d
  fields : ∀ f ∈ t.fields, f.owner ∈ selected flags s → t.FieldResolves f
  methods : ∀ m ∈ t.methods, m.owner ∈ selected flags s → t.MethodResolves m

theorem exists_assemble (hf : flags.size = t.types.size) (s : Selection) :
    (∃ l, t.assemble flags s = .ok l) ↔ t.Resolves flags s := by
  have hfields {slots : Array (Option ClassRef)} (hs : Occupied slots (selected flags s)) :=
    exists_foldlM_addMember FieldId.owner ClassRef.addField (exists_resolveField (t := t)) hs
      t.fields.toList
  have hmethods {slots : Array (Option ClassRef)} (hs : Occupied slots (selected flags s)) :=
    exists_foldlM_addMember MethodId.owner ClassRef.addMethod (exists_resolveMethod (t := t)) hs
      t.methods.toList
  simp only [Array.mem_toList_iff] at hfields hmethods
  simp only [assemble, bind_eq_ok, pure_eq_ok, checkFlags_eq_ok, ← Array.foldlM_toList]
  constructor
  · rintro ⟨_, _, -, slots, hs, slots₁, h₁, slots₂, h₂, rfl⟩
    have ho := occupied_slots hf hs
    -- the first pass adds fields to classes, and so leaves each slot as it was for the second
    have ho₁ : Occupied slots₁ (selected flags s) := ho.foldlM h₁
    exact ⟨(exists_slots hf s).mp ⟨slots, hs⟩, (hfields ho).mp ⟨slots₁, h₁⟩,
      (hmethods ho₁).mp ⟨slots₂, h₂⟩⟩
  · rintro ⟨hdescriptors, hrows, hrows'⟩
    obtain ⟨slots, hs⟩ := (exists_slots hf s).mpr hdescriptors
    have ho := occupied_slots hf hs
    obtain ⟨slots₁, h₁⟩ := (hfields ho).mpr hrows
    obtain ⟨slots₂, h₂⟩ := (hmethods (ho.foldlM h₁)).mpr hrows'
    exact ⟨_, (), hf, slots, hs, slots₁, h₁, slots₂, h₂, rfl⟩

/-! ### Which indices decide -/

theorem Dangling.not_resolves {s : Selection} (hd : t.Dangling flags s) :
    ¬t.Resolves flags s := by
  rintro ⟨hdescriptors, hfields, hmethods⟩
  cases hd with
  | @descriptor type d hs hd h =>
    obtain ⟨e, he⟩ := hdescriptors type hs
    rw [descriptor?, hd] at he
    have hnone : t.strings[d]? = none := Array.getElem?_eq_none h
    simp [hnone] at he
  | fieldName hf hs h => exact absurd (hfields _ hf hs).1 (by omega)
  | fieldType hf hs h =>
    obtain ⟨d, hd⟩ := (hfields _ hf hs).2
    cases h.symm.trans hd
  | methodProto hm hs h =>
    obtain ⟨p, hp, -⟩ := (hmethods _ hm hs).2
    have hnone := Array.getElem?_eq_none h
    cases hnone.symm.trans hp
  | methodName hm hs h => exact absurd (hmethods _ hm hs).1 (by omega)
  | parameter hm hs hp ht h =>
    obtain ⟨p', hp', hparameters, -⟩ := (hmethods _ hm hs).2
    cases hp.symm.trans hp'
    obtain ⟨d, hd⟩ := hparameters _ ht
    cases h.symm.trans hd
  | returnType hm hs hp h =>
    obtain ⟨p', hp', -, d, hd⟩ := (hmethods _ hm hs).2
    cases hp.symm.trans hp'
    cases h.symm.trans hd

theorem dangling_iff (hf : flags.size = t.types.size) (s : Selection) :
    t.Dangling flags s ↔ ¬t.Resolves flags s := by
  refine ⟨Dangling.not_resolves, fun hres => ?_⟩
  by_contra hd
  refine hres ⟨fun type hs => ?_, fun f hfield hs => ⟨?_, ?_⟩, fun m hm hs => ⟨?_, ?_⟩⟩
  · obtain ⟨b, hb, -⟩ := mem_selected.mp hs
    obtain ⟨hlt, -⟩ := Array.getElem?_eq_some_iff.mp hb
    have htype := Array.getElem?_eq_getElem (hf ▸ hlt)
    have hstring := Nat.lt_of_not_le fun h => hd (.descriptor hs htype h)
    exact ⟨_, by rw [descriptor?, htype]; exact Array.getElem?_eq_getElem hstring⟩
  · exact Nat.lt_of_not_le fun h => hd (.fieldName hfield hs h)
  · exact Option.ne_none_iff_exists'.mp fun h => hd (.fieldType hfield hs h)
  · exact Nat.lt_of_not_le fun h => hd (.methodName hm hs h)
  · have hproto := Nat.lt_of_not_le fun h => hd (.methodProto hm hs h)
    have hp := Array.getElem?_eq_getElem hproto
    exact ⟨_, hp, fun type ht => Option.ne_none_iff_exists'.mp fun h =>
      hd (.parameter hm hs hp ht h), Option.ne_none_iff_exists'.mp fun h =>
      hd (.returnType hm hs hp h)⟩

/-- Tables that differ at most in their class definitions and in the member rows that name no
selected type. -/
structure Agrees (flags : Array Bool) (s : Selection) (t t' : Tables) : Prop where
  strings : t'.strings = t.strings
  types : t'.types = t.types
  protos : t'.protos = t.protos
  fields : t'.fields.toList.filter (·.owner ∈ selected flags s) =
    t.fields.toList.filter (·.owner ∈ selected flags s)
  methods : t'.methods.toList.filter (·.owner ∈ selected flags s) =
    t.methods.toList.filter (·.owner ∈ selected flags s)

theorem Agrees.symm (h : Agrees flags s t t') : Agrees flags s t' t :=
  ⟨h.strings.symm, h.types.symm, h.protos.symm, h.fields.symm, h.methods.symm⟩

theorem Agrees.descriptor? (h : Agrees flags s t t') : t'.descriptor? = t.descriptor? := by
  funext type
  rw [Tables.descriptor?, Tables.descriptor?, h.strings, h.types]

theorem mem_rows_iff {α : Type} {owner : α → Nat} {is : List Nat} {l l' : List α}
    (h : l'.filter (owner · ∈ is) = l.filter (owner · ∈ is)) {a : α} (ha : owner a ∈ is) :
    a ∈ l' ↔ a ∈ l := by
  have hmem : a ∈ l'.filter (owner · ∈ is) ↔ a ∈ l.filter (owner · ∈ is) := by rw [h]
  simpa [ha] using hmem

theorem rows_of_type {α : Type} {owner : α → Nat} {is : List Nat} {l l' : List α}
    (h : l'.filter (owner · ∈ is) = l.filter (owner · ∈ is)) {i : Nat} (hi : i ∈ is) :
    l'.filter (owner · = i) = l.filter (owner · = i) := by
  have hrows (l : List α) : (l.filter (owner · ∈ is)).filter (owner · = i) =
      l.filter (owner · = i) := by
    rw [List.filter_filter]
    refine List.filter_congr fun a _ => ?_
    by_cases ha : owner a = i
    · simp [ha, hi]
    · simp [ha]
  rw [← hrows, h, hrows]

theorem Agrees.resolves (h : Agrees flags s t t') (hr : t.Resolves flags s) :
    t'.Resolves flags s := by
  refine ⟨?_, fun f hf hs => ?_, fun m hm hs => ?_⟩
  · rw [h.descriptor?]
    exact hr.descriptors
  · rw [FieldResolves, h.strings, h.descriptor?]
    rw [← Array.mem_toList_iff, mem_rows_iff h.fields hs, Array.mem_toList_iff] at hf
    exact hr.fields f hf hs
  · rw [MethodResolves, h.strings, h.protos, h.descriptor?]
    rw [← Array.mem_toList_iff, mem_rows_iff h.methods hs, Array.mem_toList_iff] at hm
    exact hr.methods m hm hs

theorem Agrees.classOf (h : Agrees flags s t t') {type : Nat} {c : ClassRef}
    (hs : type ∈ selected flags s) (hc : t'.ClassOf flags type c) : t.ClassOf flags type c := by
  refine ⟨h.descriptor? ▸ hc.name, hc.internal, ?_, ?_⟩
  · rw [← rows_of_type h.fields hs]
    exact hc.fields.imp fun f r hr =>
      ⟨hr.declaringClass, h.strings ▸ hr.name, h.descriptor? ▸ hr.typeName, hr.internal⟩
  · rw [← rows_of_type h.methods hs]
    exact hc.methods.imp fun m r hr => ⟨hr.declaringClass, h.strings ▸ hr.name,
      h.protos ▸ h.descriptor? ▸ hr.signature, hr.internal⟩

/-- Rows that name no selected type have no part in the listing, nor in whether there is one. -/
theorem Agrees.assemble_eq (h : Agrees flags s t t') (hf : flags.size = t.types.size) :
    t'.assemble flags s = t.assemble flags s := by
  have hf' : flags.size = t'.types.size := by rw [h.types, hf]
  cases hl : t.assemble flags s with
  | ok l =>
    obtain ⟨l', hl'⟩ := (exists_assemble hf' s).mpr
      (h.resolves ((exists_assemble hf s).mp ⟨l, hl⟩))
    have hclasses : List.Forall₂ (t.ClassOf flags) (selected flags s) l' :=
      ((List.forall₂_and_left _ _).mpr ⟨fun _ => id, classOf_of_assemble hl'⟩).imp
        fun _ _ hc => h.classOf hc.1 hc.2
    rw [hl', List.right_unique_forall₂' (ClassOf.unique flags) hclasses (classOf_of_assemble hl)]
  | error f =>
    have hdangling := mayDangle_assemble hf s
    obtain rfl := hdangling f hl
    rw [hdangling.error_iff, exists_assemble hf s] at hl
    rw [(mayDangle_assemble hf' s).error_iff, exists_assemble hf' s]
    exact fun hr => hl (h.symm.resolves hr)

theorem Resolves.narrow (h : t.Resolves flags s) (hsub : selected flags s' ⊆ selected flags s) :
    t.Resolves flags s' :=
  ⟨fun type hs => h.descriptors type (hsub hs), fun f hf hs => h.fields f hf (hsub hs),
    fun m hm hs => h.methods m hm (hsub hs)⟩

/-- A listing of any tables fails if and only if an index that it has to follow leads nowhere, and
in no other way.  What stands in rows that name no selected type is all one, and with fewer types
selected it lists those of its classes that are still selected. -/
theorem assemble_fails_iff (hf : flags.size = t.types.size) (s : Selection) :
    (t.assemble flags s = .error .danglingIndex ↔ t.Dangling flags s) ∧
    ((∃ l, t.assemble flags s = .ok l) ↔ ¬t.Dangling flags s) ∧
    (∀ t', Agrees flags s t t' → t'.assemble flags s = t.assemble flags s) ∧
    ∀ s' l, selected flags s' ⊆ selected flags s → t.assemble flags s = .ok l →
      t.assemble flags s' = .ok (l.filter fun c => s'.covers c.internal) := by
  rw [(mayDangle_assemble hf s).error_iff, dangling_iff hf, not_not, exists_assemble hf s]
  refine ⟨Iff.rfl, Iff.rfl, fun t' ht' => ht'.assemble_eq hf, fun s' l hsub hl => ?_⟩
  obtain ⟨l', hl'⟩ := (exists_assemble hf s').mpr
    (((exists_assemble hf s).mp ⟨l, hl⟩).narrow hsub)
  rw [hl', assemble_narrow hsub hl hl']

def frayed : Tables where
  strings := #["LA;", "I", "x"]
  types := #[0, 1, 9]
  protos := #[⟨1, 1, 0, [1, 2]⟩, ⟨1, 1, 0, []⟩]
  fields := #[⟨2, 8, 8⟩, ⟨1, 0, 2⟩, ⟨7, 7, 7⟩]
  methods := #[⟨0, 0, 2⟩, ⟨1, 1, 2⟩, ⟨9, 9, 9⟩]

def mended : Tables :=
  { frayed with types := #[0, 1, 1], fields := #[⟨2, 0, 2⟩, ⟨1, 0, 2⟩, ⟨7, 7, 7⟩] }

theorem assemble_fails_iff_frayed :
    #[true, false, true].size = frayed.types.size ∧ #[true, false, true].size = mended.types.size ∧
    frayed.assemble #[true, false, true] ⟨true, false⟩ = .error .danglingIndex ∧
    ¬frayed.Dangling #[true, false, true] ⟨false, true⟩ ∧
    (∃ l, frayed.assemble #[true, false, true] ⟨false, true⟩ = .ok l) ∧
    { frayed with methods := #[⟨1, 1, 2⟩, ⟨0, 0, 0⟩] }.assemble #[true, false, true] ⟨false, true⟩ =
      frayed.assemble #[true, false, true] ⟨false, true⟩ ∧
    ∃ l, mended.assemble #[true, false, true] ⟨true, true⟩ = .ok l ∧
      mended.assemble #[true, false, true] ⟨true, false⟩ =
        .ok (l.filter fun c => Selection.covers ⟨true, false⟩ c.internal) := by
  have hf : #[true, false, true].size = frayed.types.size := by decide
  have hm : #[true, false, true].size = mended.types.size := by decide
  obtain ⟨hfails, -, -, -⟩ := assemble_fails_iff hf ⟨true, false⟩
  obtain ⟨-, hlists, hagrees, -⟩ := assemble_fails_iff hf ⟨false, true⟩
  obtain ⟨-, -, -, hnarrow⟩ := assemble_fails_iff hm ⟨true, true⟩
  have hparameter : frayed.Dangling #[true, false, true] ⟨true, false⟩ :=
    .parameter (m := ⟨0, 0, 2⟩) (by simp [frayed]) (by decide) rfl (by simp : 2 ∈ [1, 2]) rfl
  have hl : frayed.assemble #[true, false, true] ⟨false, true⟩ =
      .ok [{ name := "I"
             fields := [⟨"I", "x", "LA;", false⟩]
             methods := [⟨"I", "x", [], "I", false⟩] }] := by
    rw [← toOption_eq_some]
    decide +kernel
  have hsome : (mended.assemble #[true, false, true] ⟨true, true⟩).toOption.isSome = true := by
    decide +kernel
  obtain ⟨l, hall⟩ := Option.isSome_iff_exists.mp hsome
  exact ⟨hf, hm, hfails.mpr hparameter, hlists.mp ⟨_, hl⟩, hlists.mpr (hlists.mp ⟨_, hl⟩),
    hagrees _ ⟨rfl, rfl, rfl, by decide, by decide⟩, l, toOption_eq_some.mp hall,
    hnarrow ⟨true, false⟩ l (by decide) (toOption_eq_some.mp hall)⟩

end Tables

end DexRefs
