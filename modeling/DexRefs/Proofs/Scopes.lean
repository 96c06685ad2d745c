import DexRefs.Proofs.Isolation
import DexRefs.Proofs.Membership

/-!
Scopes.  The listings of an image for two scopes differ by the classes that they leave out, never by
the members of a class.  Over a whole scan nothing else differs, nothing is counted twice and
nothing is lost.
-/

set_option autoImplicit false

namespace DexRefs

theorem total_append (ms ns : List Nat) : total (ms ++ ns) = total ms + total ns := by
  induction ms with
  | nil => simp [total]
  | cons m ms ih => simp [total, ih, Nat.add_assoc]

namespace Tables

variable {t : Tables} {flags : Array Bool}

theorem length_filter_lt_succ {α : Type} (owner : α → Nat) (as : List α) (n : Nat) :
    (as.filter (owner · < n + 1)).length =
      (as.filter (owner · < n)).length + (as.filter (owner · = n)).length := by
  have hlt : ∀ a ∈ as, (decide (owner a < n) && decide (owner a < n + 1)) = decide (owner a < n) :=
    fun a _ => by rw [← Bool.decide_and, decide_eq_decide]; omega
  have heq : ∀ a ∈ as, (!decide (owner a < n) && decide (owner a < n + 1)) = decide (owner a = n) :=
    fun a _ => by rw [← decide_not, ← Bool.decide_and, decide_eq_decide]; omega
  rw [List.length_eq_length_filter_add (owner · < n), List.filter_filter, List.filter_filter,
    List.filter_congr hlt, List.filter_congr heq]

/-- Counted owner by owner, each row is counted once. -/
theorem total_filter_owner {α : Type} (owner : α → Nat) (as : List α) (n : Nat) :
    total ((List.range n).map fun i => (as.filter (owner · = i)).length) =
      (as.filter (owner · < n)).length := by
  induction n with
  | zero => simp [total]
  | succ n ih =>
    rw [List.range_succ, List.map_append, total_append, ih, length_filter_lt_succ]
    simp [total]

theorem selected_all (flags : Array Bool) :
    selected flags ⟨true, true⟩ = List.range flags.size := by
  refine List.filter_eq_self.mpr fun i hi => ?_
  rw [Array.getElem?_eq_getElem (by simpa using hi)]
  simp [Selection.covers]

@[simp] theorem covers_internal (b : Bool) : (Selection.ofScope .internal).covers b = b := by
  cases b <;> rfl

@[simp] theorem covers_external (b : Bool) : (Selection.ofScope .external).covers b = !b := by
  cases b <;> rfl

theorem filter_selected {s s' : Selection} (h : selected flags s' ⊆ selected flags s) :
    (selected flags s).filter (fun i => flags[i]?.any s'.covers) = selected flags s' := by
  rw [selected, selected, List.filter_filter]
  refine List.filter_congr fun i hi => ?_
  have hcovers (hs' : flags[i]?.any s'.covers = true) : flags[i]?.any s.covers = true :=
    (List.mem_filter.mp (h (List.mem_filter.mpr ⟨hi, hs'⟩))).2
  cases hs' : flags[i]?.any s'.covers with
  | false => rfl
  | true => rw [hcovers hs', Bool.and_self]

/-- Where fewer types are selected, fewer are listed, and these as before. -/
theorem assemble_narrow {s s' : Selection} {l l' : List ClassRef}
    (hsub : selected flags s' ⊆ selected flags s) (h : t.assemble flags s = .ok l)
    (h' : t.assemble flags s' = .ok l') : l' = l.filter fun c => s'.covers c.internal := by
  have hrel := classOf_of_assemble h'
  rw [← filter_selected hsub] at hrel
  refine List.right_unique_forall₂' (ClassOf.unique flags) hrel
    (List.rel_filter ?_ (classOf_of_assemble h))
  intro i c hc
  simp [hc.internal]

theorem assemble_filter {s : Selection} {l l' : List ClassRef}
    (h : t.assemble flags ⟨true, true⟩ = .ok l) (h' : t.assemble flags s = .ok l') :
    l' = l.filter fun c => s.covers c.internal := by
  refine assemble_narrow ?_ h h'
  rw [selected_all]
  exact List.filter_subset_self _

/-- The full listing has each type once, and each row of a member table once. -/
theorem Within.length_listing (hw : t.Within t.counts) {l : List ClassRef}
    (h : t.assemble flags ⟨true, true⟩ = .ok l) :
    l.length = t.types.size ∧ total (l.map (·.fields.length)) = t.fields.size ∧
      total (l.map (·.methods.length)) = t.methods.size := by
  have hall := classOf_of_assemble h
  have hsize : flags.size = t.types.size := by
    simp only [Tables.assemble, bind_eq_ok, checkFlags_eq_ok] at h
    obtain ⟨_, hf, -⟩ := h
    exact hf
  rw [selected_all, hsize] at hall
  refine ⟨by simpa using hall.length_eq.symm, ?_, ?_⟩
  · have hf : ∀ f ∈ t.fields.toList, decide (f.owner < t.types.size) = true := fun f hm =>
      decide_eq_true (hw.fieldOwners f (Array.mem_toList_iff.mp hm))
    rw [← map_eq_map_of_forall₂ hall fun i c hc => hc.fields.length_eq,
      total_filter_owner FieldId.owner, List.filter_eq_self.mpr hf, Array.length_toList]
  · have hm : ∀ m ∈ t.methods.toList, decide (m.owner < t.types.size) = true := fun m hm =>
      decide_eq_true (hw.methodOwners m (Array.mem_toList_iff.mp hm))
    rw [← map_eq_map_of_forall₂ hall fun i c hc => hc.methods.length_eq,
      total_filter_owner MethodId.owner, List.filter_eq_self.mpr hm, Array.length_toList]

end Tables

namespace Scan

open Logged (Ends)

structure SameImage (a b : ImageResult) : Prop where
  source : b.source = a.source
  ok : b.ok = a.ok
  error : b.error = a.error
  errorKind : b.errorKind = a.errorKind
  errorOffset : b.errorOffset = a.errorOffset
  version : b.version = a.version
  order : b.order = a.order
  counts : b.counts = a.counts

section Entries

variable {s : Source} {scope : Scope} {a b : ImageResult}

theorem EntryOf.sameImage (ha : EntryOf .all s a) (hb : EntryOf scope s b) : SameImage a b := by
  cases ha with
  | decoded hi _ =>
    cases hb with
    | decoded hi' _ =>
      cases hi.symm.trans hi'
      exact ⟨rfl, rfl, rfl, rfl, rfl, rfl, rfl, rfl⟩
    | failed hf => cases hi.symm.trans hf
  | failed hf =>
    cases hb with
    | decoded hi _ => cases hf.symm.trans hi
    | failed hf' =>
      cases hf.symm.trans hf'
      exact ⟨rfl, rfl, rfl, rfl, rfl, rfl, rfl, rfl⟩

theorem EntryOf.classes_eq (ha : EntryOf .all s a) (hb : EntryOf scope s b) :
    b.classes = a.classes.filter fun c => (Tables.Selection.ofScope scope).covers c.internal := by
  cases ha with
  | decoded hi hl =>
    cases hb with
    | decoded hi' hl' =>
      cases hi.symm.trans hi'
      exact Tables.assemble_filter hl hl'
    | failed hf => cases hi.symm.trans hf
  | failed hf =>
    cases hb with
    | decoded hi _ => cases hf.symm.trans hi
    | failed _ => rfl

theorem EntryOf.counts_eq (ha : EntryOf .all s a) (hok : a.ok = true) :
    a.classes.length = a.counts.types ∧ a.fieldRefs = a.counts.fields ∧
      a.methodRefs = a.counts.methods := by
  cases ha with
  | decoded hi hl =>
    exact (Image.within_of_parts (Image.load_eq_ok hi).1).length_listing hl
  | failed _ => cases hok

end Entries

theorem total_filter_internal (g : ClassRef → Nat) (l : List ClassRef) :
    total ((l.filter (·.internal)).map g) + total ((l.filter (!·.internal)).map g) =
      total (l.map g) := by
  induction l with
  | nil => rfl
  | cons c l ih => cases hc : c.internal <;> simp [hc, total] <;> omega

theorem total_decoded_add {x y z : Source → ImageResult} {f : ImageResult → Nat}
    (hy : ∀ s, (y s).ok = (x s).ok) (hz : ∀ s, (z s).ok = (x s).ok)
    (hf : ∀ s, f (y s) + f (z s) = f (x s)) (ss : List Source) :
    total (((ss.map y).filter (·.ok)).map f) + total (((ss.map z).filter (·.ok)).map f) =
      total (((ss.map x).filter (·.ok)).map f) := by
  induction ss with
  | nil => rfl
  | cons s ss ih =>
    have hs := hf s
    cases hx : (x s).ok <;> simp [hx, hy, hz, total] <;> omega

/-- The summary of a result gives these numbers: how many images there are, how many of them are
decoded and failed, and how many classes and members the decoded ones list. -/
structure Summarizes (r : ScanResult) (n : Tally) : Prop where
  line : r.summary = "DEX images: " ++ toString n.images ++ " | Decoded: " ++ toString n.decoded ++
    " | Failed: " ++ toString n.failed ++ " | Classes: " ++ toString n.classes ++
    " | Fields: " ++ toString n.fields ++ " | Methods: " ++ toString n.methods
  images : n.images = r.results.length
  decoded : n.decoded = (r.results.filter (·.ok)).length
  failed : n.failed = (r.results.filter (!·.ok)).length
  classes : n.classes = ((r.results.filter (·.ok)).flatMap (·.classes)).length
  fields : n.fields =
    (((r.results.filter (·.ok)).flatMap (·.classes)).flatMap (·.fields)).length
  methods : n.methods =
    (((r.results.filter (·.ok)).flatMap (·.classes)).flatMap (·.methods)).length

/-- The results `i` for internal classes and `e` for external ones divide the result `a` for all. -/
structure Decomposes (a i e : ScanResult) : Prop where
  internal : List.Forall₂ (fun x y => SameImage x y ∧ y.classes = x.classes.filter (·.internal))
    a.results i.results
  external : List.Forall₂ (fun x y => SameImage x y ∧ y.classes = x.classes.filter (!·.internal))
    a.results e.results
  counts : ∀ x ∈ a.results, x.ok = true → x.classes.length = x.counts.types ∧
    x.fieldRefs = x.counts.fields ∧ x.methodRefs = x.counts.methods
  summaries : ∃ l m n, Summarizes a l ∧ Summarizes i m ∧ Summarizes e n ∧
    (∀ x ∈ [l, m, n], x.decoded + x.failed = x.images) ∧ m.classes + n.classes = l.classes ∧
    m.fields + n.fields = l.fields ∧ m.methods + n.methods = l.methods

theorem total_length {α β : Type} (f : α → List β) (as : List α) :
    total (as.map fun a => (f a).length) = (as.flatMap f).length := by
  induction as with
  | nil => rfl
  | cons a as ih => simp [total, ih]

theorem total_flatMap_length {α β γ : Type} (f : α → List β) (g : β → List γ) (as : List α) :
    total (as.map fun a => total ((f a).map fun b => (g b).length)) =
      ((as.flatMap f).flatMap g).length := by
  simp only [total_length, List.flatMap_assoc]

theorem summarizes_finish (r : ScanResult) (now : Moment) :
    Summarizes (r.finish now) (r.finish now).tally where
  line := by
    have hdecimal (n : Nat) : decimal n = toString n := rfl
    have hjoin (a b c d e f : String) : " | ".intercalate [a, b, c, d, e, f] =
        a ++ " | " ++ b ++ " | " ++ c ++ " | " ++ d ++ " | " ++ e ++ " | " ++ f := rfl
    change r.tally.text = _
    simp only [Tally.text, hjoin, hdecimal, ← String.toList_inj]
    simp
    rfl
  images := rfl
  decoded := rfl
  failed := rfl
  classes := total_length _ _
  fields := total_flatMap_length _ _ _
  methods := total_flatMap_length _ _ _

theorem Summarizes.decoded_add_failed {r : ScanResult} {n : Tally} (h : Summarizes r n) :
    n.decoded + n.failed = n.images := by
  rw [h.decoded, h.failed, h.images]
  exact (List.length_eq_length_filter_add _).symm

variable {entryOf : Scope → Source → ImageResult}

theorem decomposes_of_entries (hentry : ∀ σ s, EntryOf σ s (entryOf σ s)) (ss : List Source)
    {r : Scope → ScanResult} (hr : ∀ σ, (r σ).results = ss.map (entryOf σ))
    (hsummary : ∀ σ, Summarizes (r σ) (r σ).tally) :
    Decomposes (r .all) (r .internal) (r .external) := by
  have hsame (σ : Scope) (s : Source) := (hentry .all s).sameImage (hentry σ s)
  have hinternal (s : Source) :
      (entryOf .internal s).classes = (entryOf .all s).classes.filter (·.internal) := by
    simpa using (hentry .all s).classes_eq (hentry .internal s)
  have hexternal (s : Source) :
      (entryOf .external s).classes = (entryOf .all s).classes.filter (!·.internal) := by
    simpa using (hentry .all s).classes_eq (hentry .external s)
  have hadd {f : ImageResult → Nat}
      (hf : ∀ s, f (entryOf .internal s) + f (entryOf .external s) = f (entryOf .all s)) :
      total ((r .internal).decoded.map f) + total ((r .external).decoded.map f) =
        total ((r .all).decoded.map f) := by
    simp only [ScanResult.decoded, hr]
    exact total_decoded_add (fun s => (hsame .internal s).ok) (fun s => (hsame .external s).ok)
      hf ss
  refine ⟨?_, ?_, ?_, _, _, _, hsummary .all, hsummary .internal, hsummary .external, ?_, ?_, ?_, ?_⟩
  · rw [hr, hr, List.forall₂_map_left_iff, List.forall₂_map_right_iff, List.forall₂_same]
    exact fun s _ => ⟨hsame .internal s, hinternal s⟩
  · rw [hr, hr, List.forall₂_map_left_iff, List.forall₂_map_right_iff, List.forall₂_same]
    exact fun s _ => ⟨hsame .external s, hexternal s⟩
  · rw [hr, List.forall_mem_map]
    exact fun s _ => (hentry .all s).counts_eq
  · simp [(hsummary _).decoded_add_failed]
  · refine hadd fun s => ?_
    rw [hinternal, hexternal]
    exact (List.length_eq_length_filter_add _).symm
  · refine hadd fun s => ?_
    simp only [ImageResult.fieldRefs, hinternal, hexternal]
    exact total_filter_internal _ _
  · refine hadd fun s => ?_
    simp only [ImageResult.methodRefs, hinternal, hexternal]
    exact total_filter_internal _ _

/-- Scans of the same sources for the three scopes, each in its own time and with streams standing
anywhere: they tell the same of each image, and those for internal and for external classes divide
the classes, and with them the members, that the scan for all lists in full. -/
theorem scopes_decompose {settings : Scope → ScanSettings} {asked : Scope → Value}
    (hoff : ∀ σ, (settings σ).failFast.truthy = false)
    (hscope : ∀ σ, resolveScope (asked σ) (settings σ).scope = .ok σ) (clock : Scope → Clock)
    (target : String) {n : Nat} (contents : Vector Bytes n) (positions : Scope → Vector Nat n)
    (hs : List (StreamSource n)) :
    ∃ r : Scope → ScanResult,
      (∀ σ, Ends (streams (clock σ) (settings σ) (asked σ) target contents (positions σ) hs)
        (.ok (r σ))) ∧ Decomposes (r .all) (r .internal) (r .external) := by
  choose entryOf hentry using exists_entryOf
  let r (σ : Scope) : ScanResult := ScanResult.finish
    { target, scope := σ, started := (clock σ).started
      results := hs.map fun h => entryOf σ (h.source contents) } (clock σ).finished
  have hends (σ : Scope) := streams_ends_map (clock σ) (settings σ) (hscope σ) (hoff σ) (hentry σ)
    target contents (positions σ) hs
  have hresults (σ : Scope) : (r σ).results = (hs.map (·.source contents)).map (entryOf σ) := by
    simp [r, ScanResult.finish]
  exact ⟨r, hends, decomposes_of_entries hentry _ hresults fun σ => summarizes_finish _ _⟩

theorem scopes_decompose_shared :
    (∀ σ : Scope, resolveScope .null (.text σ.name) = .ok σ) ∧ (Value.bool false).truthy = false ∧
      ∃ r : Scope → ScanResult, (∀ σ, Ends (sharedScan σ (.bool false)) (.ok (r σ))) ∧
        Decomposes (r .all) (r .internal) (r .external) ∧
        (r .all).summary =
          "DEX images: 3 | Decoded: 1 | Failed: 2 | Classes: 4 | Fields: 3 | Methods: 1" ∧
        (r .internal).summary =
          "DEX images: 3 | Decoded: 1 | Failed: 2 | Classes: 3 | Fields: 1 | Methods: 1" ∧
        (r .external).summary =
          "DEX images: 3 | Decoded: 1 | Failed: 2 | Classes: 1 | Fields: 2 | Methods: 0" := by
  obtain ⟨r, hr, hd⟩ := @scopes_decompose
    (fun σ => { scope := .text σ.name, failFast := .bool false }) (fun _ => .null) (fun _ => rfl)
    resolveScope_name (fun _ => sharedClock) "<memory>" 2
    #v[bigEndianImage, Array.replicate 8 0] (fun _ => #v[500, 3]) [⟨"a", 1⟩, ⟨"b", 0⟩, ⟨"c", 1⟩]
  have hends (σ : Scope) : Ends (sharedScan σ (.bool false)) (.ok (r σ)) := hr σ
  have hsummary (σ : Scope) {s : String} (h : (match sharedScan σ (.bool false) {} with
      | .ok r _ => some r.summary
      | .error _ _ => none) = some s) : (r σ).summary = s := by
    obtain ⟨u, hu⟩ := (hends σ).run {}
    rw [hu] at h
    exact Option.some.inj h
  exact ⟨resolveScope_name, rfl, r, hends, hd, hsummary .all (by decide +kernel),
    hsummary .internal (by decide +kernel), hsummary .external (by decide +kernel)⟩

end Scan

end DexRefs
