import DexRefs.Proofs.ListedNames

/-!
Classification in closed form.  The passes over the class definitions and over the descriptors
give each type one flag, which depends on nothing but its descriptor and on whether some class
definition names it; and they fail just where an index leads nowhere.
-/

set_option autoImplicit false

namespace DexRefs

namespace Descriptor

theorem isBuiltIn_eq_true {d : String} :
    isBuiltIn d = true ↔ d.length = 1 ∨ ∃ cs, d.toList = '[' :: cs := by
  rw [← String.length_toList, isBuiltIn]
  generalize d.toList = cs
  match cs with
  | [] => simp
  | [c] => simp
  | c :: c' :: cs => simp

end Descriptor

namespace Tables

variable {t : Tables}

/-- A type is internal if some class definition names its row, or its descriptor has just one
character or begins with a bracket. -/
def Internal (t : Tables) (type : Nat) : Prop :=
  type ∈ t.classDefs ∨ ∃ d, t.descriptor? type = some d ∧
    (d.length = 1 ∨ ∃ cs, d.toList = '[' :: cs)

def flag (t : Tables) (type : Nat) : Bool :=
  decide (type ∈ t.classDefs) || (t.descriptor? type).any Descriptor.isBuiltIn

theorem flag_eq_true {type : Nat} : t.flag type = true ↔ t.Internal type := by
  simp [flag, Internal, Option.any_eq_true, Descriptor.isBuiltIn_eq_true]

theorem mapM_follow (strings : Array String) (ds : List Nat) :
    ds.mapM (fun d => Descriptor.isBuiltIn <$> follow strings[d]?) =
      if ds.any (strings.size ≤ ·) then .error .danglingIndex
      else .ok (ds.map fun d => strings[d]?.any Descriptor.isBuiltIn) := by
  induction ds with
  | nil => rfl
  | cons d ds ih =>
    rw [List.mapM_cons, ih, List.any_cons]
    by_cases hd : strings.size ≤ d
    · rw [Array.getElem?_eq_none hd, decide_eq_true hd, Bool.true_or, if_pos rfl]
      rfl
    · have hsome : strings[d]? = some strings[d] := Array.getElem?_eq_getElem (by omega)
      rw [hsome, decide_eq_false hd, Bool.false_or, List.map_cons, hsome]
      cases ds.any (strings.size ≤ ·) with
      | true => rfl
      | false => rfl

/-- Both passes at once: the flags of all types, or the first of the passes that fails. -/
theorem classify_eq (t : Tables) : t.classify =
    if t.classDefs.any (t.types.size ≤ ·) then .error t.definedFault
    else if t.types.any (t.strings.size ≤ ·) then .error .danglingIndex
    else .ok ((Array.range t.types.size).map t.flag) := by
  unfold classify
  split
  · rfl
  rw [Array.mapM_eq_mapM_toList, mapM_follow, Array.any_toList]
  split
  · rfl
  · refine congrArg Except.ok (Array.ext_getElem? fun i => ?_)
    rw [Array.getElem?_zipWith, ← Array.foldl_toList, getElem?_foldl_setIfInBounds]
    by_cases hi : i < t.types.size
    · simp [hi, flag, descriptor?]
    · simp [hi]

theorem classify_congr {t t' : Tables} (hs : t'.strings = t.strings) (ht : t'.types = t.types)
    (hc : ∀ c, c ∈ t'.classDefs ↔ c ∈ t.classDefs) : t'.classify = t.classify := by
  have hany (p : Nat → Bool) : t'.classDefs.any p = t.classDefs.any p := by
    rw [Bool.eq_iff_iff, Array.any_eq_true', Array.any_eq_true']
    simp only [hc]
  have hflag : t'.flag = t.flag := by
    funext i
    simp only [flag, descriptor?, hs, ht, hc]
  rw [classify_eq, classify_eq, definedFault, definedFault, hany, hany, hs, ht, hflag]

theorem any_le {as : Array Nat} {n : Nat} : as.any (n ≤ ·) = true ↔ ∃ a ∈ as, n ≤ a := by
  rw [Array.any_eq_true']
  simp only [decide_eq_true_eq]

theorem Internal.lt (hc : ∀ c ∈ t.classDefs, c < t.types.size) {type : Nat}
    (h : t.Internal type) : type < t.types.size := by
  rcases h with h | ⟨d, hd, -⟩
  · exact hc type h
  · obtain ⟨_, hr, -⟩ := Option.bind_eq_some_iff.mp hd
    exact (Array.getElem?_eq_some_iff.mp hr).1

theorem Internal.append {type : Nat} (h : t.Internal type) (ds : Array Nat) :
    { t with classDefs := t.classDefs ++ ds }.Internal type := by
  rcases h with h | h
  · exact .inl (Array.mem_append.mpr (.inl h))
  · exact .inr h

theorem of_classify_eq_ok {flags : Array Bool} (h : t.classify = .ok flags) :
    flags.size = t.types.size ∧ ∀ i : Nat, flags[i]? = some true ↔ t.Internal i := by
  rw [classify_eq] at h
  split at h
  next => cases h
  next hdefs =>
    have hc : ∀ c ∈ t.classDefs, c < t.types.size := fun c hc =>
      Nat.lt_of_not_le fun hle => hdefs (any_le.mpr ⟨c, hc, hle⟩)
    split at h
    next => cases h
    next =>
      rw [Except.ok.injEq] at h
      subst h
      refine ⟨by simp, fun i => ?_⟩
      simp only [Array.getElem?_map, Array.getElem?_range, Option.map_eq_some_iff,
        Option.ite_none_right_eq_some]
      constructor
      · rintro ⟨j, ⟨-, hj⟩, hflag⟩
        cases hj
        exact flag_eq_true.mp hflag
      · intro hi
        exact ⟨i, ⟨hi.lt hc, rfl⟩, flag_eq_true.mpr hi⟩

/-- Some class definition names no type, and some holds a number that is no index.  The second is
enough where there are fewer types than `indexLimit`, and no memory holds more. -/
def Overflows (t : Tables) : Prop :=
  (∃ c ∈ t.classDefs, t.types.size ≤ c) ∧ ∃ c ∈ t.classDefs, indexLimit ≤ c

/-- Some class definition names no type, or some type has no descriptor. -/
def Dangles (t : Tables) : Prop :=
  (∃ c ∈ t.classDefs, t.types.size ≤ c) ∨ ∃ d ∈ t.types, t.strings.size ≤ d

theorem definedFault_eq (t : Tables) [Decidable (∃ c ∈ t.classDefs, indexLimit ≤ c)] :
    t.definedFault =
      if ∃ c ∈ t.classDefs, indexLimit ≤ c then .indexOverflow else .danglingIndex := by
  simp only [definedFault, any_le]

theorem classify_eq_error {f : ListingFault} : t.classify = .error f ↔
    f = .indexOverflow ∧ t.Overflows ∨ f = .danglingIndex ∧ ¬ t.Overflows ∧ t.Dangles := by
  classical
  rw [classify_eq, definedFault_eq]
  simp only [any_le]
  unfold Overflows Dangles
  by_cases hc : ∃ c ∈ t.classDefs, t.types.size ≤ c
  · by_cases hw : ∃ c ∈ t.classDefs, indexLimit ≤ c
    · simp [hc, hw, eq_comm]
    · simp [hc, hw, eq_comm]
  · by_cases hd : ∃ d ∈ t.types, t.strings.size ≤ d
    · simp [hc, hd, eq_comm]
    · simp [hc, hd]

/-- The class is listed under the descriptor of the type, and its flag and those of its members,
each by the row that it comes from, say whether their declaring class is internal. -/
structure Flagged (t : Tables) (type : Nat) (c : ClassRef) : Prop where
  name : t.descriptor? type = some c.name
  internal : c.internal = true ↔ t.Internal type
  fields : List.Forall₂ (fun f r => r.internal = true ↔ t.Internal f.owner)
    (t.fields.toList.filter (·.owner = type)) c.fields
  methods : List.Forall₂ (fun m r => r.internal = true ↔ t.Internal m.owner)
    (t.methods.toList.filter (·.owner = type)) c.methods

theorem forall₂_flags {α ρ : Type} {owner : α → Nat} {R : α → ρ → Prop} {flag : ρ → Bool}
    {internal : Bool} {type : Nat} {rows : List α} {members : List ρ}
    (h : List.Forall₂ R (rows.filter (owner · = type)) members)
    (hflag : ∀ a r, R a r → flag r = internal) (hi : internal = true ↔ t.Internal type) :
    List.Forall₂ (fun a r => flag r = true ↔ t.Internal (owner a))
      (rows.filter (owner · = type)) members := by
  have howner : ∀ a ∈ rows.filter (owner · = type), owner a = type := by
    intro a ha
    simpa using (List.mem_filter.mp ha).2
  refine ((List.forall₂_and_left _ _).mpr ⟨howner, h⟩).imp fun a r har => ?_
  rw [har.1, hflag a r har.2, hi]

theorem ClassOf.flagged {flags : Array Bool} {type : Nat} {c : ClassRef}
    (h : t.ClassOf flags type c) (hf : ∀ i, flags[i]? = some true ↔ t.Internal i) :
    t.Flagged type c := by
  have hi : c.internal = true ↔ t.Internal type := by
    rw [← hf, h.internal, Option.some.injEq]
  exact ⟨h.name, hi, forall₂_flags h.fields (fun _ _ hr => hr.internal) hi,
    forall₂_flags h.methods (fun _ _ hr => hr.internal) hi⟩

end Tables

namespace Image

variable {b : Bytes} {i : Image}

theorem flagged_of_references (h : load b = .ok i) {s : Scope} {l : List ClassRef}
    (hl : i.references s = .ok l) :
    List.Forall₂ i.tables.Flagged (Tables.selected i.flags (.ofScope s)) l := by
  obtain ⟨flags, hload, hc, -⟩ := load_of_parts (load_eq_ok h).1
  rw [h, Except.ok.injEq] at hload
  have hflags := (Tables.of_classify_eq_ok hc).2
  rw [show flags = i.flags by rw [hload]] at hflags
  exact (Tables.classOf_of_assemble hl).imp fun _ _ hclass => hclass.flagged hflags

end Image

/-- Classification in full.  Within range each type has its flag, which is set just where the type
is internal; what counts of the class definitions is only which types they name, and more of them
only set more flags.  It fails just where an index leads nowhere.  In a listing of an image, a
class and its members carry the flag of the type. -/
theorem Tables.classify_flags :
    (∀ t : Tables, t.Within t.counts → ∃ flags, t.classify = .ok flags ∧
      flags.size = t.types.size ∧ ∀ i : Nat, flags[i]? = some true ↔ t.Internal i) ∧
    (∀ (t : Tables) (ds : Array Nat), (∀ c, c ∈ ds ↔ c ∈ t.classDefs) →
      { t with classDefs := ds }.classify = t.classify) ∧
    (∀ (t : Tables) (ds : Array Nat) (flags more : Array Bool), t.classify = .ok flags →
      { t with classDefs := t.classDefs ++ ds }.classify = .ok more →
      ∀ i : Nat, flags[i]? = some true → more[i]? = some true) ∧
    (∀ (b : Bytes) (i : Image), Image.load b = .ok i → ∀ s, ∃ l, i.references s = .ok l ∧
      List.Forall₂ i.tables.Flagged (selected i.flags (.ofScope s)) l) ∧
    ∀ t : Tables,
      (t.classify = .error .danglingIndex ↔ ¬ t.Overflows ∧ t.Dangles) ∧
      (t.classify = .error .indexOverflow ↔ t.Overflows) := by
  refine ⟨fun t ht => ?_, fun t ds hds => ?_, ?_, fun b i hb s => ?_, fun t => ?_⟩
  · obtain ⟨flags, hf, -⟩ := ht.classify
    exact ⟨flags, hf, of_classify_eq_ok hf⟩
  · exact classify_congr rfl rfl hds
  · intro t ds flags more hf hm i hi
    exact ((of_classify_eq_ok hm).2 i).mpr ((((of_classify_eq_ok hf).2 i).mp hi).append ds)
  · obtain ⟨hparts, hsize⟩ := Image.load_eq_ok hb
    obtain ⟨l, hl⟩ := (Image.within_of_parts hparts).assemble hsize (.ofScope s)
    exact ⟨l, hl, Image.flagged_of_references hb hl⟩
  · simp [classify_eq_error]

namespace Tables

theorem classify_flags_twins : twins.Within twins.counts ∧
    (∃ flags, twins.classify = .ok flags ∧ flags.size = twins.types.size ∧
      ∀ i : Nat, flags[i]? = some true ↔ twins.Internal i) ∧
    { twins with classDefs := #[0, 0] }.classify = twins.classify ∧
    (∃ flags more : Array Bool, twins.classify = .ok flags ∧
      { twins with classDefs := twins.classDefs ++ #[1] }.classify = .ok more ∧
      ∀ i : Nat, flags[i]? = some true → more[i]? = some true) ∧
    ∃ b i l, Image.load b = .ok i ∧ i.references .all = .ok l ∧
      List.Forall₂ i.tables.Flagged (selected i.flags (.ofScope .all)) l := by
  obtain ⟨hflags, hdefs, hmore, himage, -⟩ := classify_flags
  have h : twins.Within twins.counts := by constructor <;> decide
  have hf : twins.classify = .ok #[true, false, true, true] := by decide +kernel
  have hm : { twins with classDefs := twins.classDefs ++ #[1] }.classify =
      .ok #[true, true, true, true] := by decide +kernel
  let second : List UInt8 := [8, 0x4c, 0x61, 0x2f, 0x62, 0x2f, 0x63, 0x64, 0x3b, 0]
  have hload : Image.load (Image.pairImage second) = .ok (Image.pairDecoded "La/b/cd;") := by
    rw [← toOption_eq_some]
    decide +kernel
  obtain ⟨l, hl, hl'⟩ := himage _ _ hload .all
  exact ⟨h, hflags twins h, hdefs twins #[0, 0] (by simp [twins]),
    ⟨_, _, hf, hm, hmore twins #[1] _ _ hf hm⟩, _, _, l, hload, hl, hl'⟩

/-- One type, and a class definition that holds the least number that is no index. -/
def wideClass : Tables where
  strings := #["LA;"]
  types := #[0]
  classDefs := #[0x8000000000000000]

theorem classify_flags_wideClass : wideClass.classify = .error .indexOverflow ∧
    ¬ (wideClass.classify = .error .danglingIndex ↔
      (∃ c ∈ wideClass.classDefs, wideClass.types.size ≤ c) ∨
        ∃ d ∈ wideClass.types, wideClass.strings.size ≤ d) := by
  have h : wideClass.classify = .error .indexOverflow := by decide +kernel
  refine ⟨h, fun hiff => ?_⟩
  have hdangling := hiff.mpr (.inl ⟨0x8000000000000000, by simp [wideClass], by simp [wideClass]⟩)
  rw [h] at hdangling
  cases hdangling

end Tables

end DexRefs
