import DexRefs.Image.Writer
import DexRefs.Proofs.Loading
import DexRefs.Proofs.Outcomes
import DexRefs.Scan.Run

/-!
A scan treats each source on its own.  Its outcome is that of going through names and bytes alone:
neither the places where streams stand nor the records so far, nor other sources, have a part in
the entry of a source.
-/

set_option autoImplicit false

namespace DexRefs

namespace Image

theorem exists_references {b : Bytes} {i : Image} (h : load b = .ok i) (scope : Scope) :
    ∃ l, i.references scope = .ok l := by
  obtain ⟨hp, hs⟩ := load_eq_ok h
  exact (within_of_parts hp).assemble hs (.ofScope scope)

theorem load_cases (b : Bytes) :
    (∃ i, load b = .ok i) ∨ ∃ f, load b = .error (.malformed f) := by
  cases hp : parts b with
  | ok p =>
    obtain ⟨flags, hl, -⟩ := load_of_parts hp
    exact .inl ⟨_, hl⟩
  | error f => exact .inr ⟨f, load_eq_malformed.mpr hp⟩

end Image

namespace Scan

open Logged (Ends Traces)

/-- What decoding gives, told by the bytes alone. -/
def decode (b : Bytes) (scope : Scope) : Except ScanFault (Image × List ClassRef) :=
  match Image.parts b with
  | .error f => .error (.load (.malformed f))
  | .ok p =>
    match listParts p scope with
    | .ok r => .ok r
    | .error f => .error (.load f)

/-- The entry of a source, told by its name and bytes. -/
def entry (failFast : Bool) (scope : Scope) (s : Source) : Except ScanFault ImageResult :=
  match decode s.bytes scope with
  | .ok (i, l) => .ok (decodedEntry s.name scope i l)
  | .error (.load (.malformed f)) =>
    if failFast then .error (.load (.malformed f)) else .ok (failedEntry s.name scope f)
  | .error f => .error f

theorem exists_traces_decodeLogged (b : Bytes) (pos : Nat) (scope : Scope) :
    ∃ rs, Traces (decodeLogged b pos scope) (decode b scope) rs := by
  unfold decodeLogged decode
  rw [Image.partsFrom_fst]
  cases Image.parts b with
  | error f => exact ⟨_, .throw _⟩
  | ok p =>
    dsimp only
    cases listParts p scope with
    | ok r => exact ⟨_, .bind_ok (.note ..) (.pure r)⟩
    | error f => exact ⟨_, .bind_ok (.note ..) (.throw _)⟩

theorem exists_traces_timedDecode (clock : Clock) (s : Source) (pos : Nat) (scope : Scope) :
    ∃ rs, Traces (timedDecode clock s pos scope) (decode s.bytes scope) rs := by
  obtain ⟨rs, hdecode⟩ := exists_traces_decodeLogged s.bytes pos scope
  exact ⟨_, .bind_ok (.log ..) (.followedBy hdecode (.log ..))⟩

theorem exists_traces_scanSource (clock : Clock) (failFast : Bool) (scope : Scope) (s : Source)
    (pos : Nat) : ∃ rs, Traces (scanSource clock failFast scope s pos) (entry failFast scope s) rs := by
  obtain ⟨rs, hdecode⟩ := exists_traces_timedDecode clock s pos scope
  unfold entry
  revert hdecode
  match decode s.bytes scope with
  | .ok (i, l) => exact fun h => ⟨_, .within _ (.bind_ok h.attempt (.bind_ok (.log ..) (.pure _)))⟩
  | .error (.load (.malformed f)) =>
    cases failFast with
    | true => exact fun h => ⟨_, .within _ (.bind_ok h.attempt (.throw _))⟩
    | false => exact fun h => ⟨_, .within _ (.bind_ok h.attempt (.bind_ok (.log ..) (.pure _)))⟩
  | .error (.load (.listing _)) | .error (.container _) | .error (.archive _)
  | .error (.setting _) | .error (.scope _) =>
    exact fun h => ⟨_, .within _ (.bind_ok h.attempt (.throw _))⟩

/-- By induction on the sources, for all places where the streams may stand by then. -/
theorem exists_traces_scanAll (clock : Clock) (failFast : Bool) (scope : Scope) {n : Nat}
    (contents : Vector Bytes n) (positions : Vector Nat n) (hs : List (StreamSource n)) :
    ∃ rs, Traces (scanAll clock failFast scope contents positions hs)
      ((hs.map (·.source contents)).mapM (entry failFast scope)) rs := by
  induction hs generalizing positions with
  | nil => exact ⟨_, .pure []⟩
  | cons h hs ih =>
    rw [List.map_cons, List.mapM_cons]
    obtain ⟨_, hfirst⟩ := exists_traces_scanSource clock failFast scope (h.source contents)
      positions[h.stream]
    refine hfirst.bind fun r _ => ?_
    obtain ⟨_, hrest⟩ := ih _
    exact hrest.bind fun rs _ => ⟨_, .pure (r :: rs)⟩

theorem exists_traces_streams (clock : Clock) (settings : ScanSettings) (asked : Value)
    (target : String) {n : Nat} (contents : Vector Bytes n) (positions : Vector Nat n)
    (hs : List (StreamSource n)) :
    ∃ rs, Traces (streams clock settings asked target contents positions hs) (do
      let scope ← resolveScope asked settings.scope
      let results ← (hs.map (·.source contents)).mapM (entry settings.failFast.truthy scope)
      .ok (ScanResult.finish { target, scope, started := clock.started, results }
        clock.finished)) rs := by
  unfold streams
  cases resolveScope asked settings.scope with
  | error f => exact ⟨_, .bind_error (.throw f)⟩
  | ok scope =>
    have hscanned (results : List ImageResult) : ∃ rs, Traces (do
        let result : ScanResult :=
          .finish { target, scope, started := clock.started, results } clock.finished
        Logged.log tool .info result.summary
        pure result : Logged ScanFault ScanResult)
          (.ok (.finish { target, scope, started := clock.started, results } clock.finished)) rs :=
      ⟨_, .bind_ok (.log ..) (.pure _)⟩
    obtain ⟨_, hall⟩ :=
      exists_traces_scanAll clock settings.failFast.truthy scope contents positions hs
    obtain ⟨rs, h⟩ := hall.bind fun results _ => hscanned results
    exact ⟨rs, .pure_bind h⟩

theorem streams_ends (clock : Clock) (settings : ScanSettings) {asked : Value} {scope : Scope}
    (hscope : resolveScope asked settings.scope = .ok scope) (target : String) {n : Nat}
    (contents : Vector Bytes n) (positions : Vector Nat n) (hs : List (StreamSource n)) :
    Ends (streams clock settings asked target contents positions hs)
      ((hs.map (·.source contents)).mapM (entry settings.failFast.truthy scope) >>= fun results =>
        .ok (ScanResult.finish { target, scope, started := clock.started, results }
          clock.finished)) := by
  obtain ⟨_, h⟩ := exists_traces_streams clock settings asked target contents positions hs
  rw [hscope] at h
  exact h.ends

/-- What a scan that goes on after failures has to say about a source: what its image holds, or why
there is no image. -/
inductive EntryOf (scope : Scope) (s : Source) : ImageResult → Prop where
  | decoded {i : Image} {l : List ClassRef} (hi : Image.load s.bytes = .ok i)
      (hl : i.references scope = .ok l) : EntryOf scope s
        { source := s.name, scope, version := i.header.version.digits, order := i.header.order.name,
          counts := i.tables.counts, classes := l, error := none, errorKind := none,
          errorOffset := none }
  | failed {f : Fault} (hf : Image.load s.bytes = .error (.malformed f)) : EntryOf scope s
        { source := s.name, scope, version := "", order := "", counts := ⟨0, 0, 0, 0, 0, 0⟩,
          classes := [], error := some f.message, errorKind := some f.kind,
          errorOffset := some f.offset }

section Entry

variable {scope : Scope} {s : Source} {r : ImageResult}

theorem exists_entryOf (scope : Scope) (s : Source) : ∃ r, EntryOf scope s r := by
  rcases Image.load_cases s.bytes with ⟨i, hi⟩ | ⟨f, hf⟩
  · obtain ⟨l, hl⟩ := Image.exists_references hi scope
    exact ⟨_, .decoded hi hl⟩
  · exact ⟨_, .failed hf⟩

theorem listParts_of_load {b : Bytes} {i : Image} {l : List ClassRef} (hi : Image.load b = .ok i)
    (hl : i.references scope = .ok l) : listParts (i.header, i.tables) scope = .ok (i, l) := by
  obtain ⟨hp, -⟩ := Image.load_eq_ok hi
  have hparts : Image.ofParts (i.header, i.tables) = .ok i := by
    rw [Image.load, hp] at hi
    exact hi
  simp only [listParts, bind_eq_ok, pure_eq_ok]
  exact ⟨i, hparts, l, by rw [hl]; rfl, rfl⟩

theorem decode_of_ok {b : Bytes} {i : Image} {l : List ClassRef} (hi : Image.load b = .ok i)
    (hl : i.references scope = .ok l) : decode b scope = .ok (i, l) := by
  obtain ⟨hp, -⟩ := Image.load_eq_ok hi
  unfold decode
  simp only [hp, listParts_of_load hi hl]

theorem decode_of_malformed {b : Bytes} {f : Fault} (hf : Image.load b = .error (.malformed f)) :
    decode b scope = .error (.load (.malformed f)) := by
  unfold decode
  rw [Image.load_eq_malformed.mp hf]

theorem entry_of_ok {i : Image} {l : List ClassRef} (failFast : Bool)
    (hi : Image.load s.bytes = .ok i) (hl : i.references scope = .ok l) :
    entry failFast scope s = .ok (decodedEntry s.name scope i l) := by
  unfold entry
  rw [decode_of_ok hi hl]

theorem entry_of_malformed {f : Fault} (failFast : Bool)
    (hf : Image.load s.bytes = .error (.malformed f)) :
    entry failFast scope s = if failFast then .error (.load (.malformed f))
      else .ok (failedEntry s.name scope f) := by
  unfold entry
  rw [decode_of_malformed hf]

theorem EntryOf.entry_eq (h : EntryOf scope s r) : entry false scope s = .ok r := by
  cases h with
  | decoded hi hl => exact entry_of_ok false hi hl
  | failed hf => exact entry_of_malformed false hf

/-- An entry is the same in both failure modes. -/
theorem entryOf_of_entry {failFast : Bool} (h : entry failFast scope s = .ok r) :
    EntryOf scope s r := by
  obtain ⟨e', he'⟩ := exists_entryOf scope s
  cases he' with
  | decoded hi hl =>
    rw [entry_of_ok failFast hi hl] at h
    cases h
    exact .decoded hi hl
  | failed hf =>
    rw [entry_of_malformed failFast hf] at h
    cases failFast with
    | true => cases h
    | false =>
      cases h
      exact .failed hf

theorem EntryOf.ok_iff (h : EntryOf scope s r) :
    r.ok = false ↔ ∃ f, Image.load s.bytes = .error f := by
  cases h with
  | decoded hi _ => simp [ImageResult.ok, hi]
  | failed hf => simp [ImageResult.ok, hf]

end Entry

theorem streams_ends_map (clock : Clock) (settings : ScanSettings) {asked : Value} {scope : Scope}
    (hscope : resolveScope asked settings.scope = .ok scope)
    (hoff : settings.failFast.truthy = false) {entryOf : Source → ImageResult}
    (hentry : ∀ s, EntryOf scope s (entryOf s)) (target : String) {n : Nat}
    (contents : Vector Bytes n) (positions : Vector Nat n) (hs : List (StreamSource n)) :
    Ends (streams clock settings asked target contents positions hs)
      (.ok (ScanResult.finish
        { target, scope, started := clock.started
          results := hs.map fun h => entryOf (h.source contents) } clock.finished)) := by
  have hmap : (hs.map (·.source contents)).mapM (entry false scope) =
      .ok (hs.map fun h => entryOf (h.source contents)) := by
    rw [mapM_eq_ok_iff_forall₂, List.forall₂_map_left_iff, List.forall₂_map_right_iff,
      List.forall₂_same]
    exact fun h _ => (hentry (h.source contents)).entry_eq
  have h := streams_ends clock settings hscope target contents positions hs
  rw [hoff, hmap] at h
  exact h

/-- A scan that keeps its sources apart: the entry of a source is the same in whatever company it is
scanned. -/
structure Isolates {n : Nat} (contents : Vector Bytes n) (entryOf : Source → ImageResult)
    (scan : Vector Nat n → List (StreamSource n) → Logged ScanFault ScanResult) : Prop where
  results : ∀ positions hs, ∃ r, Ends (scan positions hs) (.ok r) ∧
    r.results = hs.map (fun h => entryOf (h.source contents)) ∧
    (r.allFailed = true ↔ hs ≠ [] ∧ ∀ h ∈ hs, ∃ f, Image.load (h.source contents).bytes = .error f)
  append : ∀ positions positions₁ positions₂ xs ys, ∃ r r₁ r₂,
    Ends (scan positions (xs ++ ys)) (.ok r) ∧ Ends (scan positions₁ xs) (.ok r₁) ∧
    Ends (scan positions₂ ys) (.ok r₂) ∧ r.results = r₁.results ++ r₂.results
  permute : ∀ positions₁ positions₂ xs ys, xs.Perm ys → ∃ r₁ r₂,
    Ends (scan positions₁ xs) (.ok r₁) ∧ Ends (scan positions₂ ys) (.ok r₂) ∧
    r₁.results.Perm r₂.results

theorem allFailed_iff (r : ScanResult) :
    r.allFailed = true ↔ r.results ≠ [] ∧ ∀ e ∈ r.results, e.ok = false := by
  simp [ScanResult.allFailed, ScanResult.failed, List.length_filter_eq_length_iff]

/-- Whatever streams hold and wherever they stand, and whichever sources share them, each source has
one entry, in its place, that only its own name and bytes and the scope decide. -/
theorem streams_isolated (scope : Scope) : ∃ entryOf : Source → ImageResult,
    (∀ s, EntryOf scope s (entryOf s)) ∧
      ∀ (clock : Clock) (settings : ScanSettings) (asked : Value) (target : String),
        resolveScope asked settings.scope = .ok scope → settings.failFast.truthy = false →
        ∀ (n : Nat) (contents : Vector Bytes n),
          Isolates contents entryOf (streams clock settings asked target contents) := by
  choose entryOf hentry using exists_entryOf scope
  refine ⟨entryOf, hentry, fun clock settings asked target hscope hoff n contents => ?_⟩
  have hends := streams_ends_map clock settings hscope hoff hentry target contents
  refine ⟨fun positions hs => ⟨_, hends positions hs, rfl, ?_⟩, ?_, ?_⟩
  · rw [allFailed_iff]
    simp only [ScanResult.finish, ne_eq, List.map_eq_nil_iff, List.forall_mem_map,
      (hentry _).ok_iff]
  · intro positions positions₁ positions₂ xs ys
    exact ⟨_, _, _, hends positions (xs ++ ys), hends positions₁ xs, hends positions₂ ys,
      List.map_append⟩
  · intro positions₁ positions₂ xs ys h
    exact ⟨_, _, hends positions₁ xs, hends positions₂ ys, h.map _⟩

def bigEndianImage : Bytes :=
  ({ strings := ["I", "LA;", "LB;", "V", "VI", "x"]
     types := [0, 1, 2, 3]
     protos := [⟨4, 3, [0]⟩]
     fields := [⟨2, 0, 5⟩, ⟨1, 2, 5⟩, ⟨2, 1, 5⟩]
     methods := [⟨1, 0, 5⟩]
     classDefs := [1] } : Contents).encode .big .v039

def sharedClock : Clock where
  started := .date ⟨2024, 1, 1⟩
  finished := .date ⟨2024, 1, 2⟩

def sharedScan (scope : Scope) (failFast : Value) : Logged ScanFault ScanResult :=
  streams sharedClock { scope := .text scope.name, failFast } .null "<memory>"
    #v[bigEndianImage, Array.replicate 8 0] #v[500, 3] [⟨"a", 1⟩, ⟨"b", 0⟩, ⟨"c", 1⟩]

theorem resolveScope_name (scope : Scope) : resolveScope .null (.text scope.name) = .ok scope := by
  cases scope <;> rfl

theorem streams_isolated_shared :
    resolveScope .null (.text "external") = .ok .external ∧ (Value.bool false).truthy = false ∧
      ∃ entryOf : Source → ImageResult, (∀ s, EntryOf .external s (entryOf s)) ∧
        ∃ r, Ends (sharedScan .external (.bool false)) (.ok r) ∧
          r.results = [entryOf ⟨"a", Array.replicate 8 0⟩, entryOf ⟨"b", bigEndianImage⟩,
            entryOf ⟨"c", Array.replicate 8 0⟩] ∧
          r.results.map (fun e => (e.errorKind, e.classes.map (·.name))) =
            [(some "BadMagicError", []), (none, ["LB;"]), (some "BadMagicError", [])] := by
  have hscope := resolveScope_name .external
  obtain ⟨entryOf, hentry, hscan⟩ := streams_isolated .external
  have hiso := hscan sharedClock { scope := .text "external", failFast := .bool false } .null
    "<memory>" hscope rfl 2 #v[bigEndianImage, Array.replicate 8 0]
  obtain ⟨r, hr, hresults, -⟩ := hiso.results #v[500, 3] [⟨"a", 1⟩, ⟨"b", 0⟩, ⟨"c", 1⟩]
  have hends : Ends (sharedScan .external (.bool false)) (.ok r) := hr
  refine ⟨hscope, rfl, entryOf, hentry, r, hends, hresults, ?_⟩
  have hrun : (match sharedScan .external (.bool false) {} with
      | .ok r _ => r.results.map fun e => (e.errorKind, e.classes.map (·.name))
      | .error _ _ => []) =
        [(some "BadMagicError", []), (none, ["LB;"]), (some "BadMagicError", [])] := by
    decide +kernel
  obtain ⟨u, hu⟩ := hends.run {}
  rw [hu] at hrun
  exact hrun

end Scan

end DexRefs
