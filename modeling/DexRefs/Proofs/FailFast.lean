import DexRefs.Proofs.Isolation
import DexRefs.Proofs.Resolution

/-!
The two failure modes.  A scan that fails fast and one that goes on tell the same: the first ends
with the fault that the second notes in its first failed entry, and if there is none, with the same
result.
-/

set_option autoImplicit false

namespace DexRefs

namespace Scan

open Logged (Ends Traces)

/-- The entry tells the fault by its message, its kind and its place. -/
structure Tells (e : ImageResult) (f : Fault) : Prop where
  message : e.error = some f.message
  kind : e.errorKind = some f.kind
  offset : e.errorOffset = some f.offset

/-- By induction on the sources: up to the first that fails, both modes go the same way. -/
theorem mapM_entry_failFast {scope : Scope} {ss : List Source} {rs : List ImageResult}
    (h : List.Forall₂ (EntryOf scope) ss rs) :
    (rs.filter (!·.ok) = [] → ss.mapM (entry true scope) = .ok rs) ∧
      ∀ e es, rs.filter (!·.ok) = e :: es →
        ∃ f, Tells e f ∧ ss.mapM (entry true scope) = .error (.load (.malformed f)) := by
  induction h with
  | nil => exact ⟨fun _ => rfl, fun _ _ h => by cases h⟩
  | @cons s r ss rs hr _ ih =>
    rw [List.mapM_cons]
    cases hr with
    | decoded hi hl =>
      rw [entry_of_ok true hi hl]
      refine ⟨fun hnone => ?_, fun e es hsome => ?_⟩
      · rw [ih.1 (by simpa [ImageResult.ok] using hnone)]
        rfl
      · obtain ⟨f, hf, hm⟩ := ih.2 e es (by simpa [ImageResult.ok] using hsome)
        exact ⟨f, hf, by rw [hm]; rfl⟩
    | failed hf =>
      rw [entry_of_malformed true hf]
      refine ⟨fun hnone => ?_, fun e es hsome => ?_⟩
      · simp [ImageResult.ok] at hnone
      · have he := (List.cons.inj (by simpa [ImageResult.ok] using hsome)).1
        subst he
        exact ⟨_, ⟨rfl, rfl, rfl⟩, rfl⟩

inductive Echoes (r : ScanResult) : Except ScanFault ScanResult → Prop where
  | result {r' : ScanResult} (hnone : r.failed = []) (results : r'.results = r.results)
      (scope : r'.scope = r.scope) (target : r'.target = r.target)
      (summary : r'.summary = r.summary) : Echoes r (.ok r')
  | fault {e : ImageResult} {es : List ImageResult} {f : Fault} (hfirst : r.failed = e :: es)
      (ht : Tells e f) : Echoes r (.error (.load (.malformed f)))

/-- `strict`, which fails fast, and `lenient`, which goes on, tell the same. -/
structure Agree (lenient strict : Logged ScanFault ScanResult) (r : ScanResult) : Prop where
  lenient : Ends lenient (.ok r)
  returns_iff : (∃ r', Ends strict (.ok r')) ↔ r.failed = []
  same : ∀ r', Ends strict (.ok r') →
    r'.results = r.results ∧ r'.scope = r.scope ∧ r'.target = r.target ∧ r'.summary = r.summary
  first : ∀ e es, r.failed = e :: es →
    ∃ f, Tells e f ∧ Ends strict (.error (.load (.malformed f)))

theorem Echoes.agree {lenient strict : Logged ScanFault ScanResult} {r : ScanResult}
    {o : Except ScanFault ScanResult} (h : Echoes r o) (hl : Ends lenient (.ok r))
    (hs : Ends strict o) : Agree lenient strict r := by
  cases h with
  | @result r' hnone h₁ h₂ h₃ h₄ =>
    refine ⟨hl, ⟨fun _ => hnone, fun _ => ⟨r', hs⟩⟩, fun r'' hr => ?_, fun e es he => ?_⟩
    · cases hr.unique hs
      exact ⟨h₁, h₂, h₃, h₄⟩
    · cases hnone.symm.trans he
  | @fault e es f hfirst ht =>
    refine ⟨hl, ⟨fun hr => ?_, fun hnone => ?_⟩, fun r' hr => ?_, fun e' es' he => ?_⟩
    · obtain ⟨r', hr⟩ := hr
      cases hr.unique hs
    · cases hfirst.symm.trans hnone
    · cases hr.unique hs
    · cases hfirst.symm.trans he
      exact ⟨f, ht, hs⟩

variable {settings : ScanSettings} {off on asked : Value} {scope : Scope}

theorem streams_echo (clock clock' : Clock) (hoff : off.truthy = false) (hon : on.truthy = true)
    (hscope : resolveScope asked settings.scope = .ok scope) (target : String) {n : Nat}
    (contents : Vector Bytes n) (positions positions' : Vector Nat n)
    (hs : List (StreamSource n)) : ∃ r o,
      Ends (streams clock { settings with failFast := off } asked target contents positions hs)
        (.ok r) ∧
      Ends (streams clock' { settings with failFast := on } asked target contents positions' hs) o ∧
      Echoes r o := by
  choose entryOf hentry using exists_entryOf scope
  have hlenient := streams_ends_map clock { settings with failFast := off } hscope hoff hentry
    target contents positions hs
  have hstrict := streams_ends clock' { settings with failFast := on } hscope target contents
    positions' hs
  have hall : List.Forall₂ (EntryOf scope) (hs.map (·.source contents))
      (hs.map fun h => entryOf (h.source contents)) := by
    rw [List.forall₂_map_left_iff, List.forall₂_map_right_iff, List.forall₂_same]
    exact fun h _ => hentry _
  obtain ⟨hnone, hsome⟩ := mapM_entry_failFast hall
  rw [hon] at hstrict
  cases hfailed : (hs.map fun h => entryOf (h.source contents)).filter (!·.ok) with
  | nil =>
    rw [hnone hfailed] at hstrict
    exact ⟨_, _, hlenient, hstrict, .result hfailed rfl rfl rfl rfl⟩
  | cons e es =>
    obtain ⟨f, hf, hm⟩ := hsome e es hfailed
    rw [hm] at hstrict
    exact ⟨_, _, hlenient, hstrict, .fault hfailed hf⟩

section File

def scanned (clock : Clock) (settings : ScanSettings) (asked : Value) (files : FileTree)
    (path : String) : Except ScanFault ScanResult := do
  let ss ← Container.resolved files path ⟨settings.maxFileSize, settings.maxDexEntries⟩
  let scope ← resolveScope asked settings.scope
  let results ← ss.mapM (entry settings.failFast.truthy scope)
  .ok (ScanResult.finish { target := path, scope, started := clock.started, results }
    clock.finished)

theorem exists_traces_sources (clock : Clock) (settings : ScanSettings) (asked : Value)
    (target : String) (ss : List Source) :
    ∃ rs, Traces (sources clock settings asked target ss) (do
      let scope ← resolveScope asked settings.scope
      let results ← ss.mapM (entry settings.failFast.truthy scope)
      .ok (ScanResult.finish { target, scope, started := clock.started, results }
        clock.finished)) rs := by
  have hss : (List.ofFn fun i : Fin ss.length => (⟨ss[i].name, i⟩ : StreamSource ss.length)).map
      (·.source (Vector.ofFn fun i => ss[i].bytes)) = ss := by
    apply List.ext_getElem
    · simp
    · intro i h₁ h₂
      simp [StreamSource.source]
  have h := exists_traces_streams clock settings asked target
    (Vector.ofFn fun i : Fin ss.length => ss[i].bytes) (Vector.replicate ss.length 0)
    (List.ofFn fun i => ⟨ss[i].name, i⟩)
  rw [hss] at h
  exact h

theorem sources_ends (clock : Clock) (hscope : resolveScope asked settings.scope = .ok scope)
    (target : String) (ss : List Source) :
    Ends (sources clock settings asked target ss)
      (ss.mapM (entry settings.failFast.truthy scope) >>= fun results =>
        .ok (ScanResult.finish { target, scope, started := clock.started, results }
          clock.finished)) := by
  obtain ⟨_, h⟩ := exists_traces_sources clock settings asked target ss
  rw [hscope] at h
  exact h.ends

theorem file_ends (clock : Clock) (settings : ScanSettings) (asked : Value) (files : FileTree)
    (path : String) :
    Ends (file clock settings asked files path) (scanned clock settings asked files path) := by
  obtain ⟨_, hopen⟩ := Container.exists_traces_openPath files path
    ⟨settings.maxFileSize, settings.maxDexEntries⟩
  obtain ⟨rs, h⟩ := hopen.bind fun ss _ => exists_traces_sources clock settings asked path ss
  exact Traces.ends (.bind_ok (.log ..) h)

variable {clock : Clock} {files : FileTree} {path : String}

theorem file_ends_of_error {f : ScanFault} (h : Container.resolved files path
      ⟨settings.maxFileSize, settings.maxDexEntries⟩ = .error f) :
    Ends (file clock settings asked files path) (.error f) := by
  have hends := file_ends clock settings asked files path
  unfold scanned at hends
  rw [h] at hends
  exact hends

theorem file_ends_of_ok {ss : List Source} {o : Except ScanFault ScanResult}
    (h : Container.resolved files path ⟨settings.maxFileSize, settings.maxDexEntries⟩ = .ok ss)
    (hs : Ends (sources clock settings asked path ss) o) :
    Ends (file clock settings asked files path) o := by
  obtain ⟨_, hsources⟩ := exists_traces_sources clock settings asked path ss
  have hends := file_ends clock settings asked files path
  unfold scanned at hends
  rw [h] at hends
  exact hs.unique hsources.ends ▸ hends

end File

/-- The two failure modes agree on sources, whatever their streams, and on files.  The fault of an
image is not taken for one of the file that holds it, and the latter ends both modes alike. -/
theorem failFast_agrees (clock clock' : Clock) (hoff : off.truthy = false)
    (hon : on.truthy = true) (hscope : resolveScope asked settings.scope = .ok scope) :
    (∀ (target : String) (n : Nat) (contents : Vector Bytes n) (positions positions' : Vector Nat n)
      (hs : List (StreamSource n)), ∃ r, Agree
        (streams clock { settings with failFast := off } asked target contents positions hs)
        (streams clock' { settings with failFast := on } asked target contents positions' hs) r) ∧
      ∀ (files : FileTree) (path : String),
        (∃ ss r, Ends (Container.openPath files path
            ⟨settings.maxFileSize, settings.maxDexEntries⟩) (.ok ss) ∧
          Agree (file clock { settings with failFast := off } asked files path)
            (file clock' { settings with failFast := on } asked files path) r) ∨
        ∃ f, Ends (Container.openPath files path
            ⟨settings.maxFileSize, settings.maxDexEntries⟩) (.error f) ∧
          Ends (file clock { settings with failFast := off } asked files path) (.error f) ∧
          Ends (file clock' { settings with failFast := on } asked files path) (.error f) := by
  constructor
  · intro target n contents positions positions' hs
    obtain ⟨r, o, hl, hst, he⟩ :=
      streams_echo clock clock' hoff hon hscope target contents positions positions' hs
    exact ⟨r, he.agree hl hst⟩
  · intro files path
    have hopen := Container.openPath_ends files path ⟨settings.maxFileSize, settings.maxDexEntries⟩
    cases hr : Container.resolved files path ⟨settings.maxFileSize, settings.maxDexEntries⟩ with
    | error f =>
      rw [hr] at hopen
      exact .inr ⟨f, hopen, file_ends_of_error hr, file_ends_of_error hr⟩
    | ok ss =>
      rw [hr] at hopen
      obtain ⟨r, o, hl, hst, he⟩ := streams_echo clock clock' hoff hon hscope path
        (Vector.ofFn fun i => ss[i].bytes) (Vector.replicate ss.length 0)
        (Vector.replicate ss.length 0) (List.ofFn fun i => ⟨ss[i].name, i⟩)
      exact .inl ⟨ss, r, hopen, he.agree (file_ends_of_ok hr hl) (file_ends_of_ok hr hst)⟩

theorem failFast_agrees_shared :
    (Value.bool false).truthy = false ∧ (Value.int 1).truthy = true ∧
      resolveScope .null (.text "external") = .ok .external ∧
      ∃ r, Agree (sharedScan .external (.bool false)) (sharedScan .external (.int 1)) r ∧
        r.failed.map (fun e => (e.source, e.errorKind)) =
          [("a", some "BadMagicError"), ("c", some "BadMagicError")] ∧
        ¬ ∃ r', Ends (sharedScan .external (.int 1)) (.ok r') := by
  have hscope := resolveScope_name .external
  have hagrees := (@failFast_agrees { scope := .text "external" } (.bool false) (.int 1) .null
    .external sharedClock sharedClock rfl rfl hscope).1
  obtain ⟨r, hr⟩ := hagrees "<memory>" 2 #v[bigEndianImage, Array.replicate 8 0] #v[500, 3]
    #v[500, 3] [⟨"a", 1⟩, ⟨"b", 0⟩, ⟨"c", 1⟩]
  have hagree : Agree (sharedScan .external (.bool false)) (sharedScan .external (.int 1)) r := hr
  have hrun : (match sharedScan .external (.bool false) {} with
      | .ok r _ => r.failed.map fun e => (e.source, e.errorKind)
      | .error _ _ => []) = [("a", some "BadMagicError"), ("c", some "BadMagicError")] := by
    decide +kernel
  obtain ⟨u, hu⟩ := hagree.lenient.run {}
  rw [hu] at hrun
  refine ⟨rfl, rfl, hscope, r, hagree, hrun, fun hreturns => ?_⟩
  have hnone := hagree.returns_iff.mp hreturns
  dsimp only at hrun
  rw [hnone] at hrun
  cases hrun

end Scan

end DexRefs
