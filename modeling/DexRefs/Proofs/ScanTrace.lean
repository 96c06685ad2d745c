import DexRefs.Log.Logger
import DexRefs.Proofs.FailFast
import DexRefs.Report.Document

/-!
What a scan logs.  The records about a source are told by its entry: that decoding starts, that its
tables were loaded if they were, that decoding is completed, and what came of it.  A scan logs those
of its sources one after the other and then its summary, or stops after the first malformed image.
-/

set_option autoImplicit false

namespace DexRefs

namespace Scan

open Logged (Traces)

def sourceRecord (name : String) (level : Level) (message : String)
    (context : Option Value := none) : Record :=
  { level, logger := tool, tool, message, operation := some ("decode:" ++ name), context }

def startedRecord (name : String) : Record :=
  sourceRecord name .debug ("Started: decode " ++ name)

def completedRecord (clock : Clock) (name : String) : Record :=
  sourceRecord name .info
    ("Completed: decode " ++ name ++ " (" ++ secondsText (clock.lap name) ++ " sec)")

def loadedRecord (c : Counts) : Record where
  level := .debug
  logger := tablesLogger
  tool := tablesLogger
  message := "Loaded tables: " ++ decimal c.strings ++ " strings, " ++ decimal c.types ++
    " types, " ++ decimal c.protos ++ " protos, " ++ decimal c.fields ++ " fields, " ++
    decimal c.methods ++ " methods, " ++ decimal c.classDefs ++ " class defs"

def entryContext (e : ImageResult) : Value :=
  .table [("source", .text e.source), ("error_kind", Report.optional .text e.errorKind),
    ("offset", Report.optional .int e.errorOffset)]

/-- What came of a source: an error where its entry is failed, and else what its image holds. -/
def verdictRecord (e : ImageResult) : Record :=
  match e.error with
  | some message =>
    sourceRecord e.source .error ("Failed to decode " ++ e.source ++ ": " ++ message)
      (some (entryContext e))
  | none =>
    sourceRecord e.source .debug
      ("DEX " ++ e.source ++ ": version " ++ e.version ++ ", " ++ e.order ++ "-endian, " ++
        decimal e.classes.length ++ " class reference(s)")

def summaryRecord (operation : Option String) (r : ScanResult) : Record :=
  { level := .info, logger := tool, tool, message := r.summary, operation }

def entryRecords (clock : Clock) (e : ImageResult) : List Record :=
  startedRecord e.source :: (if e.ok then [loadedRecord e.counts] else []) ++
    [completedRecord clock e.source, verdictRecord e]

section Sources

variable {clock : Clock} {scope : Scope} {s : Source} {e : ImageResult}

theorem decodeLogged_traces {b : Bytes} {i : Image} {l : List ClassRef}
    (hi : Image.load b = .ok i) (hl : i.references scope = .ok l) (pos : Nat) :
    Traces (decodeLogged b pos scope) (.ok (i, l)) fun _ => [loadedRecord i.tables.counts] := by
  obtain ⟨hp, -⟩ := Image.load_eq_ok hi
  unfold decodeLogged
  rw [Image.partsFrom_fst, hp]
  refine Traces.bind_ok (.note ..) ?_
  rw [listParts_of_load hi hl]
  exact .pure (i, l)

theorem decodeLogged_traces_of_malformed {b : Bytes} {f : Fault}
    (hf : Image.load b = .error (.malformed f)) (pos : Nat) :
    Traces (decodeLogged b pos scope) (.error (.load (.malformed f))) fun _ => [] := by
  unfold decodeLogged
  rw [Image.partsFrom_fst, Image.load_eq_malformed.mp hf]
  exact .throw _

/-- Decoding is logged at both ends, however it ends. -/
theorem timedDecode_traces {o : Except ScanFault (Image × List ClassRef)} {rs : List Record}
    {pos : Nat} (h : Traces (decodeLogged s.bytes pos scope) o fun _ => rs) :
    Traces (timedDecode clock s pos scope) o fun operation =>
      [{ startedRecord s.name with operation }] ++
        (rs ++ [{ completedRecord clock s.name with operation }]) := by
  have hstarted : "Started: decode " ++ s.name = "Started: " ++ ("decode " ++ s.name) := by
    rw [← String.append_assoc]
    rfl
  have hcompleted : "Completed: decode " ++ s.name = "Completed: " ++ ("decode " ++ s.name) := by
    rw [← String.append_assoc]
    rfl
  unfold timedDecode startedRecord completedRecord
  rw [hstarted, hcompleted]
  exact .bind_ok (.log ..) (.followedBy h (.log ..))

theorem scanSource_traces (he : EntryOf scope s e) (failFast : Bool)
    (hok : failFast = true → e.ok = true) (pos : Nat) :
    Traces (scanSource clock failFast scope s pos) (.ok e) fun _ => entryRecords clock e := by
  unfold scanSource
  cases he with
  | @decoded i l hi hl =>
    have hdecode : Traces (timedDecode clock s pos scope) _ _ :=
      timedDecode_traces (decodeLogged_traces hi hl pos)
    exact Traces.congr (.within _ (.bind_ok hdecode.attempt (.bind_ok (.log ..) (.pure _))))
        fun _ => rfl
  | @failed f hf =>
    have hdecode : Traces (timedDecode clock s pos scope) _ _ :=
      timedDecode_traces (decodeLogged_traces_of_malformed hf pos)
    cases failFast with
    | true => cases hok rfl
    | false =>
      exact Traces.congr (.within _ (.bind_ok hdecode.attempt (.bind_ok (.log ..) (.pure _))))
        fun _ => rfl

/-- A malformed image ends a scan that fails fast before anything is said about what came of it. -/
theorem scanSource_stops {f : Fault} (hf : Image.load s.bytes = .error (.malformed f))
    (pos : Nat) :
    Traces (scanSource clock true scope s pos) (.error (.load (.malformed f))) fun _ =>
      [startedRecord s.name, completedRecord clock s.name] := by
  have hdecode : Traces (timedDecode clock s pos scope) _ _ :=
    timedDecode_traces (decodeLogged_traces_of_malformed hf pos)
  unfold scanSource
  exact Traces.congr (.within _ (.bind_ok hdecode.attempt (.throw _))) fun _ => rfl

end Sources

section Loop

variable {clock : Clock} {scope : Scope} {n : Nat} {contents : Vector Bytes n}

theorem scanAll_traces {failFast : Bool} {hs : List (StreamSource n)} {es : List ImageResult}
    (h : List.Forall₂ (EntryOf scope) (hs.map (·.source contents)) es)
    (hok : failFast = true → ∀ e ∈ es, e.ok = true) (positions : Vector Nat n) :
    Traces (scanAll clock failFast scope contents positions hs) (.ok es) fun _ =>
      es.flatMap (entryRecords clock) := by
  induction hs generalizing es positions with
  | nil =>
    cases h
    exact .pure []
  | cons s hs ih =>
    rw [List.map_cons] at h
    cases h with
    | @cons _ e _ es he hes =>
      have hfirst : Traces (scanSource clock failFast scope _ positions[s.stream]) _ _ :=
        scanSource_traces he failFast (fun hff => hok hff e (by simp)) _
      have hrest := ih hes fun hff e' he' => hok hff e' (by simp [he'])
      exact Traces.congr (.bind_ok hfirst (.bind_ok (hrest _) (.pure _))) fun _ => by simp

/-- By induction on the entries before the first failed one, at which a scan that fails fast
stops. -/
theorem scanAll_stops {hs : List (StreamSource n)} {before after : List ImageResult}
    {e : ImageResult}
    (h : List.Forall₂ (EntryOf scope) (hs.map (·.source contents)) (before ++ e :: after))
    (hbefore : ∀ e' ∈ before, e'.ok = true) (he : e.ok = false) (positions : Vector Nat n) :
    ∃ f, Tells e f ∧
      Traces (scanAll clock true scope contents positions hs) (.error (.load (.malformed f)))
        fun _ => before.flatMap (entryRecords clock) ++
          [startedRecord e.source, completedRecord clock e.source] := by
  induction before generalizing hs positions with
  | nil =>
    cases hs with
    | nil => cases h
    | cons s hs =>
      rw [List.map_cons, List.nil_append] at h
      cases h with
      | cons hentry _ =>
        cases hentry with
        | decoded => cases he
        | @failed f hf => exact ⟨f, ⟨rfl, rfl, rfl⟩, .bind_error (scanSource_stops hf _)⟩
  | cons e' before ih =>
    cases hs with
    | nil => cases h
    | cons s hs =>
      rw [List.map_cons, List.cons_append] at h
      cases h with
      | cons hentry hrest =>
        obtain ⟨hok, hrest'⟩ := List.forall_mem_cons.mp hbefore
        have hfirst : Traces (scanSource clock true scope _ positions[s.stream]) _ _ :=
          scanSource_traces hentry true (fun _ => hok) _
        obtain ⟨f, hf, hstop⟩ := ih hrest hrest' _
        exact ⟨f, hf, Traces.congr (.bind_ok hfirst (.bind_error hstop)) fun _ => by simp⟩

end Loop

def engineRecords (clock : Clock) (e : ImageResult) : List Record :=
  [startedRecord e.source, completedRecord clock e.source, verdictRecord e]

/-- The records `rs` tell of the sources with the entries `told`, one after the other, and then
`last`.  Each logger has its part in them, and the errors are those of the failed entries. -/
structure Chronicle (clock : Clock) (told : List ImageResult) (last rs : List Record) : Prop where
  whole : rs = told.flatMap (entryRecords clock) ++ last
  engine : rs.filter (·.logger = tool) = told.flatMap (engineRecords clock) ++ last
  tables : rs.filter (·.logger = tablesLogger) =
    (told.filter (·.ok)).map fun e => loadedRecord e.counts
  errors : rs.filter (·.level = .error) = (told.filter (!·.ok)).map verdictRecord

section Chronicles

variable {clock : Clock}

theorem logger_verdictRecord (e : ImageResult) : (verdictRecord e).logger = tool := by
  unfold verdictRecord
  split <;> rfl

theorem level_verdictRecord (e : ImageResult) :
    (verdictRecord e).level = if e.ok then .debug else .error := by
  unfold verdictRecord ImageResult.ok
  cases e.error <;> rfl

theorem filter_tool_entryRecords (e : ImageResult) :
    (entryRecords clock e).filter (·.logger = tool) = engineRecords clock e := by
  have hloaded : (loadedRecord e.counts).logger ≠ tool := by
    simp [loadedRecord, tablesLogger, tool]
  cases hok : e.ok <;>
    simp [entryRecords, engineRecords, hok, hloaded, logger_verdictRecord, startedRecord,
      completedRecord, sourceRecord]

theorem filter_tables_entryRecords (e : ImageResult) :
    (entryRecords clock e).filter (·.logger = tablesLogger) =
      if e.ok then [loadedRecord e.counts] else [] := by
  have htool : tool ≠ tablesLogger := by
    simp [tablesLogger, tool]
  cases hok : e.ok <;>
    simp [entryRecords, hok, htool, logger_verdictRecord, loadedRecord, startedRecord,
      completedRecord, sourceRecord]

theorem filter_error_entryRecords (e : ImageResult) :
    (entryRecords clock e).filter (·.level = .error) = if e.ok then [] else [verdictRecord e] := by
  have hlevel := level_verdictRecord e
  cases hok : e.ok <;>
    simp [entryRecords, hok, hlevel, loadedRecord, startedRecord, completedRecord, sourceRecord]

theorem Chronicle.nil {last : List Record}
    (hlast : ∀ r ∈ last, r.logger = tool ∧ r.level ≠ .error) :
    Chronicle clock [] last last where
  whole := rfl
  engine := List.filter_eq_self.mpr fun r hr => by simp [(hlast r hr).1]
  tables := List.filter_eq_nil_iff.mpr fun r hr => by
    simp [(hlast r hr).1, tool, tablesLogger]
  errors := List.filter_eq_nil_iff.mpr fun r hr => by simp [(hlast r hr).2]

theorem Chronicle.cons {told : List ImageResult} {last rs : List Record} (e : ImageResult)
    (h : Chronicle clock told last rs) :
    Chronicle clock (e :: told) last (entryRecords clock e ++ rs) where
  whole := by rw [h.whole, List.flatMap_cons, List.append_assoc]
  engine := by
    rw [List.filter_append, filter_tool_entryRecords, h.engine, List.flatMap_cons,
      List.append_assoc]
  tables := by
    rw [List.filter_append, filter_tables_entryRecords, h.tables]
    cases hok : e.ok <;> simp [hok]
  errors := by
    rw [List.filter_append, filter_error_entryRecords, h.errors]
    cases hok : e.ok <;> simp [hok]

theorem chronicle_flatMap {last : List Record}
    (hlast : ∀ r ∈ last, r.logger = tool ∧ r.level ≠ .error) (told : List ImageResult) :
    Chronicle clock told last (told.flatMap (entryRecords clock) ++ last) := by
  induction told with
  | nil => exact .nil hlast
  | cons e told ih =>
    rw [List.flatMap_cons, List.append_assoc]
    exact ih.cons e

end Chronicles

section Modes

variable {clock : Clock} {settings : ScanSettings} {asked : Value} {scope : Scope} {target : String}
  {n : Nat} {contents : Vector Bytes n} {positions : Vector Nat n} {hs : List (StreamSource n)}
  {rs : List Record}

theorem streams_traces {es : List ImageResult} {r : ScanResult}
    (hscope : resolveScope asked settings.scope = .ok scope)
    (h : Traces (scanAll clock settings.failFast.truthy scope contents positions hs) (.ok es)
      fun _ => rs)
    (hr : r = .finish { target, scope, started := clock.started, results := es } clock.finished) :
    Traces (streams clock settings asked target contents positions hs) (.ok r)
      fun operation => rs ++ [summaryRecord operation r] := by
  subst hr
  unfold streams
  rw [hscope]
  exact Traces.congr (.bind_ok (.pure scope) (.bind_ok h (.bind_ok (.log ..) (.pure _))))
    fun _ => rfl

theorem streams_traces_error {f : ScanFault}
    (hscope : resolveScope asked settings.scope = .ok scope)
    (h : Traces (scanAll clock settings.failFast.truthy scope contents positions hs) (.error f)
      fun _ => rs) :
    Traces (streams clock settings asked target contents positions hs) (.error f) fun _ => rs := by
  unfold streams
  rw [hscope]
  exact .bind_ok (.pure scope) (.bind_error h)

/-- How a scan that fails fast ends, and what it logs, where one that goes on logs `rs` and has the
result `r`.  It says the same until decoding the first malformed image is completed. -/
inductive Curtails (clock : Clock) (r : ScanResult) (rs : Option String → List Record) :
    Except ScanFault ScanResult → (Option String → List Record) → Prop where
  | whole (hnone : r.failed = []) : Curtails clock r rs (.ok r) rs
  | stopped {before after : List ImageResult} {e : ImageResult} {f : Fault}
      {rs' : Option String → List Record} (hresults : r.results = before ++ e :: after)
      (hbefore : ∀ e' ∈ before, e'.ok = true) (ht : Tells e f)
      (hbegins : ∀ operation, rs' operation <+: rs operation)
      (htold : ∀ operation, Chronicle clock before
        [startedRecord e.source, completedRecord clock e.source] (rs' operation)) :
      Curtails clock r rs (.error (.load (.malformed f))) rs'

theorem exists_entries (scope : Scope) (ss : List Source) :
    ∃ es, List.Forall₂ (EntryOf scope) ss es := by
  choose entryOf hentry using exists_entryOf scope
  refine ⟨ss.map entryOf, ?_⟩
  rw [List.forall₂_map_right_iff, List.forall₂_same]
  exact fun s _ => hentry s

theorem first_failed (es : List ImageResult) :
    (∀ e ∈ es, e.ok = true) ∨ ∃ before e after, es = before ++ e :: after ∧
      (∀ e' ∈ before, e'.ok = true) ∧ e.ok = false := by
  cases h : es.find? (!·.ok) with
  | none => exact .inl (by simpa using h)
  | some e =>
    obtain ⟨he, before, after, hes, hbefore⟩ := List.find?_eq_some_iff_append.mp h
    exact .inr ⟨before, e, after, hes, by simpa using hbefore, by simpa using he⟩

end Modes

/-- A logger under the scan's own name that is set up to pass on everything. -/
inductive Verbose : Logger → Prop where
  | intro {o : LoggerOptions} {s : String} {files files' : FileTree} {l : Logger}
      (named : o.tool = tool) (own : o.handsOn = false) (level : o.level = .text s)
      (debug : upperCase s = "DEBUG") (setUp : Logger.ofOptions o files = .ok (l, files')) :
      Verbose l

theorem Verbose.spec {l : Logger} (h : Verbose l) :
    l.name = tool ∧ ∀ level, l.passes level = true := by
  obtain @⟨o, s, files, files', l, named, own, level, debug, setUp⟩ := h
  have hknown : Logger.levelNumber? (upperCase s) = some 10 := by
    rw [debug]
    rfl
  rw [Logger.ofOptions_of_known own level hknown] at setUp
  cases hopen : Logger.openFile o files with
  | error f =>
    rw [hopen] at setUp
    cases setUp
  | ok p =>
    rw [hopen] at setUp
    cases setUp
    refine ⟨?_, fun level => ?_⟩
    · simp only [Logger.name, named]
      decide +kernel
    · cases level <;> rfl

/-- What a scan that goes on after failures logs, and how much of it one that fails fast does.
What was logged before has no part in it, the operation under way is noted in the summary alone,
and it is under way again when the scan ends, in whichever way. -/
theorem streams_traced (clock : Clock) {settings : ScanSettings} {off on asked : Value}
    {scope : Scope} (hoff : off.truthy = false) (hon : on.truthy = true)
    (hscope : resolveScope asked settings.scope = .ok scope) (target : String) {n : Nat}
    (contents : Vector Bytes n) (positions : Vector Nat n) (hs : List (StreamSource n)) :
    ∃ r rs o rs',
      List.Forall₂ (EntryOf scope) (hs.map (·.source contents)) r.results ∧
      Traces (streams clock { settings with failFast := off } asked target contents positions hs)
        (.ok r) rs ∧
      (∀ operation, Chronicle clock r.results [summaryRecord operation r] (rs operation)) ∧
      Traces (streams clock { settings with failFast := on } asked target contents positions hs)
        o rs' ∧
      Curtails clock r rs o rs' ∧
      ∀ l, Verbose l → l.name = tool ∧ ∀ level, l.passes level = true := by
  obtain ⟨es, hes⟩ := exists_entries scope (hs.map (·.source contents))
  have hlenient : Traces (scanAll clock off.truthy scope contents positions hs) (.ok es) _ :=
    scanAll_traces hes (fun h => by rw [hoff] at h; cases h) positions
  have hchronicle (r : ScanResult) (operation : Option String) :
      Chronicle clock es [summaryRecord operation r] _ :=
    chronicle_flatMap (by simp [summaryRecord]) es
  rcases first_failed es with hok | ⟨before, e, after, hsplit, hbefore, he⟩
  · have hstrict : Traces (scanAll clock on.truthy scope contents positions hs) (.ok es) _ :=
      scanAll_traces hes (fun _ => hok) positions
    have hnone : es.filter (!·.ok) = [] :=
      List.filter_eq_nil_iff.mpr fun e he => by simp [hok e he]
    exact ⟨_, _, _, _, hes, streams_traces hscope hlenient rfl, hchronicle _,
      streams_traces hscope hstrict rfl, .whole hnone, fun _ => Verbose.spec⟩
  · obtain ⟨f, hf, hstop⟩ := scanAll_stops (hsplit ▸ hes) hbefore he positions
    rw [← hon] at hstop
    refine ⟨_, _, _, _, hes, streams_traces hscope hlenient rfl, hchronicle _,
      streams_traces_error hscope hstop, .stopped hsplit hbefore hf (fun _ => ?_) (fun _ => ?_),
      fun _ => Verbose.spec⟩
    · rw [hsplit]
      simp [entryRecords, he]
    · exact chronicle_flatMap (by simp [startedRecord, completedRecord, sourceRecord]) before

theorem streams_traced_shared :
    (Value.bool false).truthy = false ∧ (Value.int 1).truthy = true ∧
      resolveScope .null (.text "external") = .ok .external ∧
      ∃ rs rs' o, (∃ r, Traces (sharedScan .external (.bool false)) (.ok r) rs) ∧
        (rs (some "audit")).map (fun x => (x.level, x.operation)) =
          [(.debug, some "decode:a"), (.info, some "decode:a"), (.error, some "decode:a"),
           (.debug, some "decode:b"), (.debug, none), (.info, some "decode:b"),
           (.debug, some "decode:b"), (.debug, some "decode:c"), (.info, some "decode:c"),
           (.error, some "decode:c"), (.info, some "audit")] ∧
        Traces (sharedScan .external (.int 1)) o rs' ∧
        (rs' (some "audit")).map (·.message) =
          ["Started: decode a", "Completed: decode a (0.000 sec)"] ∧
        Verbose { tool := "dexdeps", level := 10 } := by
  have hscope := resolveScope_name .external
  obtain ⟨r, rs, o, rs', -, hlenient, -, hstrict, -, -⟩ :=
    @streams_traced sharedClock { scope := .text "external" } (.bool false) (.int 1) .null .external
      rfl rfl hscope "<memory>" 2 #v[bigEndianImage, Array.replicate 8 0] #v[500, 3]
      [⟨"a", 1⟩, ⟨"b", 0⟩, ⟨"c", 1⟩]
  have hlenient' : Traces (sharedScan .external (.bool false)) (.ok r) rs := hlenient
  have hstrict' : Traces (sharedScan .external (.int 1)) o rs' := hstrict
  refine ⟨rfl, rfl, hscope, rs, rs', o, ⟨r, hlenient'⟩, ?_, hstrict', ?_, ?_⟩
  · rw [← hlenient'.added (some "audit")]
    decide +kernel
  · rw [← hstrict'.added (some "audit")]
    decide +kernel
  · have hdebug : upperCase "DEBUG" = "DEBUG" := by decide +kernel
    have hlogger : Logger.ofOptions
        { tool := "dexdeps", level := .text "DEBUG", console := false } {} =
          .ok ({ tool := "dexdeps", level := 10 }, {}) :=
      Logger.ofOptions_of_known rfl rfl (by rw [hdebug]; rfl)
    exact .intro rfl rfl rfl hdebug hlogger

end Scan

end DexRefs
