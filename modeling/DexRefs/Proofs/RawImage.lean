import DexRefs.Proofs.ArchiveReading
import DexRefs.Proofs.FailFast

/-!
Scanning a file that holds an image as it is.  Whether a file is an archive is told by its end, and
an image goes on being one whatever is appended to it; so an image that ends like an archive is
taken for the latter.
-/

set_option autoImplicit false

namespace DexRefs

namespace Container

variable {files : FileTree} {path : String} {b : Bytes} {limits : Limits}

theorem resolved_raw (hb : files.content? (Path.ofString path) = some b)
    (hsize : exceeds b.size limits.maxFileSize = .ok false) (hfind : EndRecord.find b = .ok none) :
    resolved files path limits = .ok [⟨(Path.ofString path).name, b⟩] := by
  rw [resolved_of_content hb, held, hsize, hfind]

theorem archived_names {text : String} {e : EndRecord} {limit : Value} {ss : List Source}
    (h : archived text b e limit = .ok ss) :
    ss ≠ [] ∧ ss.map (·.name) = (List.range ss.length).map fun k => entryName (1 + k : Nat) := by
  unfold archived at h
  split at h
  · cases h
  split at h
  · cases h
  split at h
  · cases h
  next archive _ max _ sources complete hwalk =>
    split at h
    · cases h
    next hne =>
      cases h
      exact ⟨by simpa using hne, walk_names hwalk⟩

theorem resolved_names {e : EndRecord} {ss : List Source}
    (hb : files.content? (Path.ofString path) = some b)
    (hsize : exceeds b.size limits.maxFileSize = .ok false)
    (hfind : EndRecord.find b = .ok (some e)) (h : resolved files path limits = .ok ss) :
    ss ≠ [] ∧ ss.map (·.name) = (List.range ss.length).map fun k => entryName (1 + k : Nat) := by
  rw [resolved_of_content hb, held, hsize, hfind] at h
  exact archived_names h

end Container

namespace Scan

open Logged (Ends)

variable {scope : Scope} {settings : ScanSettings} {asked : Value}

theorem entry_source {failFast : Bool} {s : Source} {r : ImageResult}
    (h : entry failFast scope s = .ok r) : r.source = s.name := by
  unfold entry at h
  split at h
  · cases h
    rfl
  · split at h <;> cases h
    rfl
  · cases h

variable {files : FileTree} {path : String} {b : Bytes} {i : Image}

theorem file_results {clock : Clock} {ss : List Source} {r : ScanResult}
    (hscope : resolveScope asked settings.scope = .ok scope)
    (hss : Container.resolved files path ⟨settings.maxFileSize, settings.maxDexEntries⟩ = .ok ss)
    (hr : Ends (file clock settings asked files path) (.ok r)) :
    r.results.map (·.source) = ss.map (·.name) := by
  have hends := file_ends_of_ok hss (sources_ends clock hscope path ss)
  obtain ⟨rs, hrs, hfinish⟩ := bind_eq_ok.mp (hends.unique hr)
  cases hfinish
  exact (map_eq_map_of_forall₂ (mapM_eq_ok_iff_forall₂.mp hrs)
    fun _ _ he => (entry_source he).symm).symm

theorem mapM_entry_singleton {l : List ClassRef} (name : String) (failFast : Bool)
    (hi : Image.load b = .ok i) (hl : i.references scope = .ok l) :
    [(⟨name, b⟩ : Source)].mapM (entry failFast scope) = .ok [decodedEntry name scope i l] := by
  rw [List.mapM_cons, entry_of_ok (s := ⟨name, b⟩) _ hi hl]
  rfl

/-- A file with no end record is scanned like its bytes at hand; an image in a file with one gives
way to the entries of the archive. -/
theorem file_raw (hb : files.content? (Path.ofString path) = some b)
    (hsize : Container.exceeds b.size settings.maxFileSize = .ok false)
    (hscope : resolveScope asked settings.scope = .ok scope) (hi : Image.load b = .ok i) :
    (EndRecord.find b = .ok none → ∀ clock clock' name target, ∃ r r' e,
        Ends (file clock settings asked files path) (.ok r) ∧
        Ends (sources clock' settings asked target [⟨name, b⟩]) (.ok r') ∧
        r'.results = [e] ∧ r.results = [{ e with source := (Path.ofString path).name }]) ∧
      (∀ e, EndRecord.find b = .ok (some e) → ∀ clock r,
        Ends (file clock settings asked files path) (.ok r) →
        r.results ≠ [] ∧ r.results.map (·.source) =
          (List.range r.results.length).map fun k => Container.entryName (1 + k : Nat)) ∧
      ((∀ pos, b.size ≤ pos + (65536 + EndRecord.length) → pos + EndRecord.length ≤ b.size →
        b.hasAt pos EndRecord.signature = false) → EndRecord.find b = .ok none) := by
  obtain ⟨l, hl⟩ := Image.exists_references hi scope
  have hsources (clock : Clock) (target name : String) := sources_ends clock hscope target
    [(⟨name, b⟩ : Source)]
  simp only [mapM_entry_singleton _ _ hi hl] at hsources
  refine ⟨fun hfind clock clock' name target => ?_, fun e hfind clock r hr => ?_,
    EndRecord.find_eq_none⟩
  · have hopen : Container.resolved files path ⟨settings.maxFileSize, settings.maxDexEntries⟩ =
        .ok [⟨(Path.ofString path).name, b⟩] := Container.resolved_raw hb hsize hfind
    exact ⟨_, _, _, file_ends_of_ok hopen (hsources clock path _), hsources clock' target name, rfl,
      rfl⟩
  · cases hss : Container.resolved files path ⟨settings.maxFileSize, settings.maxDexEntries⟩ with
    | error f => cases hr.unique (file_ends_of_error hss)
    | ok ss =>
      obtain ⟨hne, hnames⟩ := Container.resolved_names hb hsize hfind hss
      have hresults := file_results hscope hss hr
      have hlength := congrArg List.length hresults
      rw [List.length_map, List.length_map] at hlength
      refine ⟨fun hnil => hne ?_, ?_⟩
      · rw [hnil] at hlength
        exact List.length_eq_zero_iff.mp hlength.symm
      · rw [hresults, hlength, hnames]

def emptyImage : Bytes := ({} : Contents).encode .little .v035

def emptyArchive : Bytes := (EndRecord.signature ++ List.replicate 18 0).toArray

theorem load_of_decided {b : Bytes} (h : (match Image.load b with
    | .ok _ => true
    | .error _ => false) = true) : ∃ i, Image.load b = .ok i := by
  cases hb : Image.load b with
  | ok i => exact ⟨i, rfl⟩
  | error f => rw [hb] at h; cases h

theorem find_bigEndianImage : EndRecord.find bigEndianImage = .ok none := by
  decide +kernel

theorem exceeds_bigEndianImage :
    Container.exceeds bigEndianImage.size (.int 268435456) = .ok false := by
  decide +kernel

theorem exists_references_bigEndianImage : ∃ i l, Image.load bigEndianImage = .ok i ∧
    i.references .internal = .ok l ∧ l.map (fun c => (c.name, c.fields.length, c.methods.length)) =
      [("I", 0, 0), ("LA;", 1, 1), ("V", 0, 0)] := by
  have hrun : ((Image.load bigEndianImage).toOption.bind fun i =>
      (i.references .internal).toOption.map fun l =>
        l.map fun c => (c.name, c.fields.length, c.methods.length)) =
          some [("I", 0, 0), ("LA;", 1, 1), ("V", 0, 0)] := by
    decide +kernel
  obtain ⟨i, hi, hrun⟩ := Option.bind_eq_some_iff.mp hrun
  obtain ⟨l, hl, hclasses⟩ := Option.map_eq_some_iff.mp hrun
  exact ⟨i, l, toOption_eq_some.mp hi, toOption_eq_some.mp hl, hclasses⟩

theorem file_raw_bigEndian :
    (Container.oneFile bigEndianImage).content? (Path.ofString "app.dex") = some bigEndianImage ∧
      EndRecord.find bigEndianImage = .ok none ∧ (∃ i, Image.load bigEndianImage = .ok i) ∧
      ∃ r r' e,
        Ends (file sharedClock {} (.text "internal") (Container.oneFile bigEndianImage) "app.dex")
          (.ok r) ∧
        Ends (sources sharedClock {} (.text "internal") "<memory>" [⟨"b", bigEndianImage⟩])
          (.ok r') ∧
        r'.results = [e] ∧ r.results = [{ e with source := "app.dex" }] ∧
        e.classes.map (fun c => (c.name, c.fields.length, c.methods.length)) =
          [("I", 0, 0), ("LA;", 1, 1), ("V", 0, 0)] := by
  have hb : (Container.oneFile bigEndianImage).content? (Path.ofString "app.dex") =
      some bigEndianImage := rfl
  obtain ⟨i, l, hi, hl, hclasses⟩ := exists_references_bigEndianImage
  have hscope : resolveScope (.text "internal") (.text "all") = .ok .internal := rfl
  have hraw := @file_raw .internal {} (.text "internal") (Container.oneFile bigEndianImage)
    "app.dex" bigEndianImage i hb exceeds_bigEndianImage hscope hi
  obtain ⟨r, r', e, hr, hr', hresults', hresults⟩ :=
    hraw.1 find_bigEndianImage sharedClock sharedClock "b" "<memory>"
  refine ⟨hb, find_bigEndianImage, ⟨i, hi⟩, r, r', e, hr, hr', hresults', hresults, ?_⟩
  have hends : Ends (sources sharedClock {} (.text "internal") "<memory>" [⟨"b", bigEndianImage⟩])
    _ := sources_ends sharedClock hscope "<memory>" [⟨"b", bigEndianImage⟩]
  obtain ⟨es, hes, hfinish⟩ := bind_eq_ok.mp (hends.unique hr')
  cases hes.symm.trans (mapM_entry_singleton "b" _ hi hl)
  cases hfinish
  cases hresults'
  exact hclasses

def refusal? {α : Type} : Except ScanFault α → Option ContainerFault
  | .error (.container f) => some f
  | _ => none

theorem refusal?_eq_some {α : Type} {x : Except ScanFault α} {f : ContainerFault} :
    refusal? x = some f ↔ x = .error (.container f) := by
  cases x with
  | error g => cases g <;> simp [refusal?]
  | ok a => simp [refusal?]

/-- An image stays one when an archive is appended to it, and is no longer taken for one. -/
theorem file_raw_archived :
    (Container.oneFile (emptyImage ++ emptyArchive)).content? (Path.ofString "app.dex") =
        some (emptyImage ++ emptyArchive) ∧
      Container.exceeds (emptyImage ++ emptyArchive).size (.int 268435456) = .ok false ∧
      (∃ i, Image.load (emptyImage ++ emptyArchive) = .ok i) ∧
      Ends (file sharedClock {} (.text "external") (Container.oneFile (emptyImage ++ emptyArchive))
        "app.dex") (.error (.container (.noImages "app.dex"))) := by
  have hrun : refusal? (Container.resolved (Container.oneFile (emptyImage ++ emptyArchive))
      "app.dex" ⟨.int 268435456, .int 100⟩) = some (.noImages "app.dex") := by
    decide +kernel
  exact ⟨rfl, by decide +kernel, load_of_decided (by decide +kernel),
    file_ends_of_error (refusal?_eq_some.mp hrun)⟩

end Scan

end DexRefs
