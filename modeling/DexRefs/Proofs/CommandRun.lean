import DexRefs.Console.EmojiCodes
import DexRefs.Proofs.RawImage
import DexRefs.Proofs.ToldEvents

/-!
How the command ends.  What it does is decided by its settings and by the outcome of the scan; it
ends before it is completed where no logger can be set up or the report cannot be written, and in
no other case.
-/

set_option autoImplicit false

namespace DexRefs

namespace Scan

open Logged (Ends)

variable {clock : Clock} {settings : ScanSettings} {asked : Value} {files : FileTree}
  {path : String} {scope : Scope}

theorem scanned_eq_ok {r : ScanResult} : scanned clock settings asked files path = .ok r ↔
    ∃ ss scope rs, Container.resolved files path ⟨settings.maxFileSize, settings.maxDexEntries⟩ =
        .ok ss ∧ resolveScope asked settings.scope = .ok scope ∧
      ss.mapM (entry settings.failFast.truthy scope) = .ok rs ∧
      r = ScanResult.finish { target := path, scope, started := clock.started, results := rs }
        clock.finished := by
  simp only [scanned, bind_eq_ok, Except.ok.injEq]
  constructor
  · rintro ⟨ss, hss, scope, hscope, rs, hrs, rfl⟩
    exact ⟨ss, scope, rs, hss, hscope, hrs, rfl⟩
  · rintro ⟨ss, scope, rs, hss, hscope, hrs, rfl⟩
    exact ⟨ss, hss, scope, hscope, rs, hrs, rfl⟩

theorem tame_of_scanned {r : ScanResult} (h : scanned clock settings asked files path = .ok r) :
    (∀ e ∈ r.results, Render.Tame e) ∧ '[' ∉ r.summary.toList := by
  obtain ⟨ss, scope, rs, -, -, hrs, rfl⟩ := scanned_eq_ok.mp h
  refine ⟨forall_of_mapM_eq_ok (fun s e hs => Render.tame_of_entryOf (entryOf_of_entry hs)) hrs, ?_⟩
  have hdecimal (n : Nat) : '[' ∉ (decimal n).toList := not_mem_decimal (by decide) n
  simp [ScanResult.finish, Tally.text, hdecimal]

end Scan

namespace Command

open Logged (Ends)

/-! ### Loggers -/

theorem upperChar_of_lt {c : Char} (h : c.toNat < 0x61) : upperChar c = [c] := by
  have hexpansions : (upperExpansions.toList.all fun x => decide (0x61 ≤ x.1)) = true := by
    decide +kernel
  have hruns : (upperRuns.toList.all fun r => decide (0x61 ≤ r.first)) = true := by
    decide +kernel
  simp only [List.all_eq_true, decide_eq_true_eq, Array.mem_toList_iff] at hexpansions hruns
  have hexpansion : upperExpansions.find? (·.1 == c.toNat) = none := by
    rw [Array.find?_eq_none]
    intro x hx heq
    rw [beq_iff_eq] at heq
    exact absurd (hexpansions x hx) (by omega)
  have hrun : upperRuns.find? (·.holds c.toNat) = none := by
    rw [Array.find?_eq_none]
    intro r hr hholds
    simp only [CaseRun.holds, Bool.and_eq_true, decide_eq_true_eq] at hholds
    exact absurd (hruns r hr) (by omega)
  rw [upperChar, hexpansion, hrun]

theorem upperCase_of_lt {s : String} (h : (s.toList.all fun c => decide (c.toNat < 0x61)) = true) :
    upperCase s = s := by
  simp only [List.all_eq_true, decide_eq_true_eq] at h
  have hmap : s.toList.flatMap upperChar = s.toList := by
    rw [List.flatMap_congr fun c hc => upperChar_of_lt (h c hc), List.flatMap_singleton']
  rw [upperCase, hmap, String.ofList_toList]

/-- Why a logger for the console cannot be set up. -/
inductive Unusable (o : LoggerOptions) (files : FileTree) : LoggerFault → Prop where
  | levelType (other : ∀ s, o.level ≠ .text s) : Unusable o files .levelType
  | unknownLevel {s : String} (level : o.level = .text s)
      (unknown : Logger.levelNumber? (upperCase s) = none)
      (other : upperCase s ≠ "BASIC_FORMAT" ∧ upperCase s ≠ "_STYLES") :
      Unusable o files (.unknownLevel (upperCase s))
  | layout {s : String} (level : o.level = .text s) (name : upperCase s = "BASIC_FORMAT") :
      Unusable o files (.unknownLevel Logger.basicLayout)
  | styles {s : String} (level : o.level = .text s) (name : upperCase s = "_STYLES") :
      Unusable o files (.noLevel "_STYLES")
  | fileType {s : String} {n : Nat} (level : o.level = .text s)
      (known : Logger.levelNumber? (upperCase s) = some n)
      (other : o.file ≠ .null ∧ ∀ p, o.file ≠ .text p) : Unusable o files .fileType
  | file {s p : String} {n : Nat} {f : FileFault} {made : FileTree} (level : o.level = .text s)
      (known : Logger.levelNumber? (upperCase s) = some n) (path : o.file = .text p)
      (unwritable : LogFile.create (Path.ofString p) o.limit o.backups files = .error (f, made)) :
      Unusable o files (.file f)

variable {files made : FileTree} {f : LoggerFault} {l : LoggerOptions} {s : String}

theorem openFile_of_other (hother : l.file ≠ .null ∧ ∀ p, l.file ≠ .text p) :
    Logger.openFile l files = .error (.fileType, files) := by
  unfold Logger.openFile
  split
  next hnull => exact absurd hnull hother.1
  next p hp => exact absurd hp (hother.2 p)
  next => rfl

theorem openFile_of_unwritable {p : String} {g : FileFault} (hpath : l.file = .text p)
    (h : LogFile.create (Path.ofString p) l.limit l.backups files = .error (g, made)) :
    Logger.openFile l files = .error (.file g, made) := by
  simp only [Logger.openFile, hpath, h]

theorem openFile_eq_error (h : Logger.openFile l files = .error (f, made)) :
    (f = .fileType ∧ l.file ≠ .null ∧ ∀ p, l.file ≠ .text p) ∨
      ∃ p g, f = .file g ∧ l.file = .text p ∧
        LogFile.create (Path.ofString p) l.limit l.backups files = .error (g, made) := by
  unfold Logger.openFile at h
  split at h
  · cases h
  next p hp =>
    split at h
    · cases h
    next g t hcreate =>
      cases h
      exact .inr ⟨p, g, rfl, hp, hcreate⟩
  next hnull hother =>
    cases h
    exact .inl ⟨rfl, hnull, hother⟩

theorem ofOptions_of_unknown (hconsole : l.console = true) (hown : l.handsOn = false)
    (hlevel : l.level = .text s) (hunknown : Logger.levelNumber? (upperCase s) = none) :
    Logger.ofOptions l files = .error
      (if upperCase s = "BASIC_FORMAT" then .unknownLevel Logger.basicLayout
        else if upperCase s = "_STYLES" then .noLevel (upperCase s)
        else .unknownLevel (upperCase s), files) := by
  simp only [Logger.ofOptions, hlevel, hown, Logger.levelOf, hunknown, hconsole,
    Bool.false_eq_true, if_false]
  by_cases hbasic : upperCase s = "BASIC_FORMAT"
  · simp only [if_pos hbasic]
    rfl
  by_cases hstyles : upperCase s = "_STYLES"
  · simp only [if_neg hbasic, if_pos hstyles]
    rfl
  · simp only [if_neg hbasic, if_neg hstyles]
    rfl

theorem ofOptions_of_other (hlevel : ∀ s, l.level ≠ .text s) :
    Logger.ofOptions l files = .error (.levelType, files) := by
  unfold Logger.ofOptions
  split
  next s hs => exact absurd hs (hlevel s)
  next => rfl

theorem Unusable.ofOptions_eq (hconsole : l.console = true) (hown : l.handsOn = false)
    (h : Unusable l files f) : ∃ made, Logger.ofOptions l files = .error (f, made) := by
  cases h with
  | levelType other => exact ⟨_, ofOptions_of_other other⟩
  | unknownLevel level unknown other =>
    rw [ofOptions_of_unknown hconsole hown level unknown, if_neg other.1, if_neg other.2]
    exact ⟨_, rfl⟩
  | layout level name =>
    rw [ofOptions_of_unknown hconsole hown level (by rw [name]; rfl), if_pos name]
    exact ⟨_, rfl⟩
  | styles level name =>
    rw [ofOptions_of_unknown hconsole hown level (by rw [name]; rfl), name]
    exact ⟨_, rfl⟩
  | fileType level known other =>
    rw [Logger.ofOptions_of_known hown level known, openFile_of_other other]
    exact ⟨_, rfl⟩
  | file level known path unwritable =>
    rw [Logger.ofOptions_of_known hown level known, openFile_of_unwritable path unwritable]
    exact ⟨_, rfl⟩

theorem ofOptions_eq_error (hconsole : l.console = true) (hown : l.handsOn = false) :
    (∃ made, Logger.ofOptions l files = .error (f, made)) ↔ Unusable l files f := by
  refine ⟨?_, Unusable.ofOptions_eq hconsole hown⟩
  rintro ⟨made, h⟩
  by_cases hother : ∀ s, l.level ≠ .text s
  · rw [ofOptions_of_other hother] at h
    cases h
    exact .levelType hother
  simp only [ne_eq, not_forall, not_not] at hother
  obtain ⟨s, hlevel⟩ := hother
  cases hn : Logger.levelNumber? (upperCase s) with
  | some n =>
    rw [Logger.ofOptions_of_known hown hlevel hn] at h
    cases hopen : Logger.openFile l files with
    | ok p =>
      rw [hopen] at h
      cases h
    | error g =>
      rw [hopen] at h
      cases h
      obtain ⟨rfl, hother⟩ | ⟨p, g, rfl, hpath, hcreate⟩ := openFile_eq_error hopen
      · exact .fileType hlevel hn hother
      · exact .file hlevel hn hpath hcreate
  | none =>
    rw [ofOptions_of_unknown hconsole hown hlevel hn] at h
    obtain ⟨rfl, -⟩ := Prod.mk.inj (Except.error.inj h)
    split
    next hname => exact .layout hlevel hname
    next hbasic =>
      split
      next hname =>
        rw [hname]
        exact .styles hlevel hname
      next hstyles => exact .unknownLevel hlevel hn ⟨hbasic, hstyles⟩

/-! ### The scan -/

variable {host : Host} {clock : Clock} {o : Options} {settings : Settings}

def asked (o : Options) : Value :=
  (o.scope.map fun s => .text s.name).getD .null

def scanOf (clock : Clock) (o : Options) (settings : Settings) (logger : Logger)
    (files : FileTree) : Logged ScanFault ScanResult :=
  Scan.file clock (scanSettings o settings.scan) (asked o)
    (logger.write clock.started files (Scan.startRecord o.path)) o.path

def recordsOf {α : Type} (logger : Logger) (x : Logged ScanFault α) : List Record :=
  let trace := match x {} with
    | .ok _ t => t
    | .error _ t => t
  trace.records.toList.filter fun r => logger.passes r.level

def logged {α : Type} (clock : Clock) (logger : Logger) (x : Logged ScanFault α) (out : Outcome) :
    Outcome :=
  { out with
    files := (recordsOf logger x).foldl (logger.write clock.started) out.files
    records := recordsOf logger x }

def finished (host : Host) (clock : Clock) (o : Options) (settings : Settings)
    (x : Except ScanFault ScanResult) (out : Outcome) : Outcome :=
  match x with
  | .error f => { out with exitCode := 1 }.tell host [faultEvent f]
  | .ok r => conclude host clock o (showsMembers o settings.scan) r out

theorem scan_eq (host : Host) {logger : Logger} {x : Except ScanFault ScanResult} (out : Outcome)
    (h : Ends (scanOf clock o settings logger out.files) x) :
    scan host clock o settings logger out = finished host clock o settings x
      (logged clock logger (scanOf clock o settings logger out.files) out) := by
  obtain ⟨u, hu⟩ := h.run {}
  unfold logged recordsOf
  rw [hu]
  unfold scanOf asked at hu
  unfold scan
  dsimp only
  rw [hu]
  cases x <;> rfl

theorem scanOf_ends (clock : Clock) (o : Options) (settings : Settings) (logger : Logger)
    (files : FileTree) : ∃ x, Ends (scanOf clock o settings logger files) x :=
  ⟨_, Scan.file_ends ..⟩

theorem tame_of_scanOf {logger : Logger} {r : ScanResult}
    (h : Ends (scanOf clock o settings logger files) (.ok r)) :
    (∀ e ∈ r.results, Render.Tame e) ∧ '[' ∉ r.summary.toList :=
  Scan.tame_of_scanned ((Scan.file_ends ..).unique h)

/-- The outcome of the scan, where the command gets as far as that. -/
def Scans (host : Host) (clock : Clock) (files : FileTree) (o : Options)
    (x : Except ScanFault ScanResult) : Prop :=
  ∃ logger t, Logger.ofOptions (loggerOptions o (settingsOf host files o).1.log) files =
      .ok (logger, t) ∧
    Ends (scanOf clock o (settingsOf host files o).1 logger t) x

theorem Scans.unique {x y : Except ScanFault ScanResult} (hx : Scans host clock files o x)
    (hy : Scans host clock files o y) : x = y := by
  obtain ⟨logger, t, hlogger, hx⟩ := hx
  obtain ⟨logger', t', hlogger', hy⟩ := hy
  cases hlogger.symm.trans hlogger'
  exact hx.unique hy

/-! ### The run after what was told -/

theorem finished_after {es : List Event} {t : String} (x : Except ScanFault ScanResult)
    (out : Outcome) : finished host clock o settings x (out.after es t) =
      (finished host clock o settings x out).after es t := by
  cases x with
  | error f => exact Outcome.tell_after { out with exitCode := 1 } [faultEvent f]
  | ok r => exact conclude_after _ r out

theorem logged_after {α : Type} {es : List Event} {t : String} (logger : Logger)
    (x : Logged ScanFault α) (out : Outcome) :
    logged clock logger x (out.after es t) = (logged clock logger x out).after es t := rfl

theorem scan_after {es : List Event} {t : String} (logger : Logger) (out : Outcome) :
    scan host clock o settings logger (out.after es t) =
      (scan host clock o settings logger out).after es t := by
  obtain ⟨x, hx⟩ := scanOf_ends clock o settings logger out.files
  rw [scan_eq host out hx, scan_eq host (out.after es t) hx, logged_after, finished_after,
    Outcome.after_files]

theorem start_after {es : List Event} {t : String} (out : Outcome) :
    start host clock o settings (out.after es t) =
      (start host clock o settings out).after es t := by
  unfold start
  dsimp only [Outcome.after_files]
  split
  · rfl
  next logger made _ => exact scan_after logger { out with files := made }

/-- A run is what it does once its settings are told of. -/
theorem run_eq {screen : Render.Screen} {calls : Nat} {told : String}
    (h : Render.text screen (settingsOf (Host.ofScreen screen calls) files o).2 = .ok told) :
    run (Host.ofScreen screen calls) clock files o =
      (start (Host.ofScreen screen calls) clock o
        (settingsOf (Host.ofScreen screen calls) files o).1 { files }).after
          (settingsOf (Host.ofScreen screen calls) files o).2 told := by
  have htold : Outcome.tell (Host.ofScreen screen calls) { files }
      (settingsOf (Host.ofScreen screen calls) files o).2 =
        Outcome.after (settingsOf (Host.ofScreen screen calls) files o).2 told { files } := by
    rw [Outcome.tell_of_text h]
    simp [Outcome.shown, Outcome.after]
  unfold run
  dsimp only
  rw [htold, Outcome.andThen_after start_after]
  rfl

/-! ### Reports -/

variable {screen : Render.Screen} {calls : Nat} {members : Bool} {r : ScanResult} {out b : Outcome}

/-- A report is asked for, and cannot be written. -/
def ReportFails (clock : Clock) (o : Options) (members : Bool) (r : ScanResult)
    (files : FileTree) (f : FileFault) : Prop :=
  ∃ p made, o.output = some p ∧ p ≠ "" ∧
    writeText files (Path.ofString p) (reportText clock members (Path.ofString p) r) =
      .error (f, made)

def savedEvents (o : Options) (p : String) : List Event :=
  if o.json then [] else [.success (Markup.escape ("Report saved: " ++ (Path.ofString p).text))]

inductive Reports (screen : Render.Screen) (clock : Clock) (o : Options) (members : Bool)
    (r : ScanResult) (out : Outcome) : Outcome → Prop where
  | nothing (unasked : ∀ p, o.output = some p → p = "") : Reports screen clock o members r out out
  | written {p t : String} {files : FileTree} (output : o.output = some p) (named : p ≠ "")
      (text : writeText out.files (Path.ofString p)
        (reportText clock members (Path.ofString p) r) = .ok files)
      (told : Render.text screen (savedEvents o p) = .ok t) :
      Reports screen clock o members r out ({ out with files }.shown (savedEvents o p) t)
  | failed {f : FileFault} {made : FileTree} (fails : ReportFails clock o members r out.files f) :
      Reports screen clock o members r out ({ out with files := made }.fail (.report f))

theorem report_reports (o : Options) (members : Bool) (r : ScanResult) (out : Outcome) :
    Reports screen clock o members r out
      (report (Host.ofScreen screen calls) clock o members r out) := by
  unfold report
  split
  next hnone => exact .nothing fun p hp => by cases hnone.symm.trans hp
  next hempty => exact .nothing fun p hp => (Option.some.inj (hempty.symm.trans hp)).symm
  next p hnamed houtput =>
    dsimp only
    split
    next f made hwrite => exact .failed ⟨p, made, houtput, hnamed, hwrite⟩
    next files hwrite =>
      have hsaved : ∀ e ∈ savedEvents o p, Render.Displayed screen e := by
        unfold savedEvents
        split
        · simp
        · exact List.forall_mem_singleton.mpr (Render.displayed_success (Render.shows_escape _))
      obtain ⟨t, ht⟩ := Render.exists_text_of_displayed hsaved
      have htold : Outcome.tell (Host.ofScreen screen calls) { out with files } (savedEvents o p) =
          _ := Outcome.tell_of_text ht _
      exact htold ▸ .written houtput hnamed hwrite ht

namespace Reports

variable {g : CommandFault}

theorem fault_iff (h : Reports screen clock o members r out b) (hnone : out.fault = none) :
    b.fault = some g ↔ ∃ f, g = .report f ∧ ReportFails clock o members r out.files f := by
  cases h with
  | nothing unasked =>
    simp only [hnone, reduceCtorEq, false_iff, not_exists, not_and]
    rintro f - ⟨p, _, houtput, hnamed, -⟩
    exact hnamed (unasked p houtput)
  | written output named text =>
    simp only [Outcome.shown, hnone, reduceCtorEq, false_iff, not_exists, not_and]
    rintro f - ⟨p, _, houtput, -, hwrite⟩
    cases output.symm.trans houtput
    cases text.symm.trans hwrite
  | @failed f made fails =>
    simp only [Outcome.fail, Option.some.injEq]
    constructor
    · rintro rfl
      exact ⟨f, rfl, fails⟩
    · rintro ⟨f', rfl, p, _, houtput, -, hwrite⟩
      obtain ⟨q, _, houtput', -, hwrite'⟩ := fails
      cases houtput.symm.trans houtput'
      cases hwrite.symm.trans hwrite'
      rfl

theorem exitCode_eq (h : Reports screen clock o members r out b) (hnone : b.fault = none) :
    b.exitCode = out.exitCode := by
  cases h with
  | nothing | written => rfl
  | failed => cases hnone

theorem exitCode_of_fault (h : Reports screen clock o members r out b) (hnone : out.fault = none)
    (hg : b.fault = some g) : b.exitCode = 1 := by
  cases h with
  | nothing | written => cases hnone.symm.trans hg
  | failed => rfl

theorem eq_of_unasked (h : Reports screen clock o members r out b) (houtput : o.output = none) :
    b = out := by
  cases h with
  | nothing => rfl
  | written output => cases houtput.symm.trans output
  | failed fails =>
    obtain ⟨p, _, output, -⟩ := fails
    cases houtput.symm.trans output

end Reports

/-! ### Conclusions -/

def Told (screen : Render.Screen) (document : String) (out : Outcome) : Prop :=
  ∃ t, Render.text screen out.events = .ok t ∧ out.output = t ++ document

theorem Told.shown {es : List Event} {t : String} (h : Told screen "" out)
    (ht : Render.text screen es = .ok t) : Told screen "" (out.shown es t) := by
  obtain ⟨t', ht', houtput⟩ := h
  exact ⟨_, Render.text_append_of_ok ht' ht, by simp [Outcome.shown, houtput]⟩

def document (clock : Clock) (o : Options) (r : ScanResult) : String :=
  if o.json then Report.documentText clock.finished r ++ "\n" else ""

theorem Reports.told (h : Reports screen clock o members r out b)
    (hout : Told screen (document clock o r) out) : Told screen (document clock o r) b := by
  cases h with
  | nothing | failed => exact hout
  | @written p t files output named text told =>
    unfold document savedEvents at *
    cases hjson : o.json with
    | true =>
      simp only [hjson, if_true] at told hout ⊢
      cases told
      simpa [Told, Outcome.shown] using hout
    | false =>
      simp only [hjson, Bool.false_eq_true, if_false] at told hout ⊢
      exact Told.shown hout told

/-- The result can be delivered: as JSON, or as far as the screen can show it. -/
def Deliverable (screen : Render.Screen) (o : Options) (members : Bool) (r : ScanResult) : Prop :=
  o.json = true ∨ ∃ t, Render.text screen (Display.result members r) = .ok t

inductive Delivers (screen : Render.Screen) (clock : Clock) (o : Options) (members : Bool)
    (r : ScanResult) (out : Outcome) : Outcome → Prop where
  | printed (json : o.json = true) : Delivers screen clock o members r out
      { out with output := out.output ++ Report.documentText clock.finished r ++ "\n" }
  | shown {es : List Event} {t : String} (json : o.json = false)
      (result : ∃ t, Render.text screen (Display.result members r) = .ok t)
      (told : Render.text screen es = .ok t) :
      Delivers screen clock o members r out (out.shown es t)
  | hidden {es : List Event} {t : String} {f : Render.Fault} (json : o.json = false)
      (fault : Render.text screen (Display.result members r) = .error f)
      (told : Render.text screen es = .ok t) :
      Delivers screen clock o members r out ((out.shown es t).fail (.display f))

theorem deliver_delivers (o : Options) (members : Bool) (r : ScanResult) (out : Outcome) :
    Delivers screen clock o members r out
      (deliver (Host.ofScreen screen calls) clock o members r out) := by
  obtain ⟨w, hw⟩ : ∃ w, Render.text screen (partialWarning r) = .ok w :=
    Render.exists_text_of_displayed (displayed_partialWarning r)
  unfold deliver
  cases hjson : o.json with
  | true => exact .printed hjson
  | false =>
    simp only [Bool.false_eq_true, if_false]
    cases hresult : Render.text screen (Display.result members r) with
    | ok t =>
      have htold := Render.text_append_of_ok hresult hw
      rw [Outcome.tell_of_text htold]
      exact .shown hjson ⟨t, hresult⟩ htold
    | error f =>
      have hfault : Render.text screen (Display.result members r ++ partialWarning r) =
          .error f := by
        rw [Render.text_append, hresult]
        rfl
      obtain ⟨es, t, ht, heq⟩ := Outcome.tell_of_fault hfault out
      rw [heq]
      exact .hidden hjson hresult ht

inductive Concludes (screen : Render.Screen) (clock : Clock) (o : Options) (members : Bool)
    (r : ScanResult) (out : Outcome) : Outcome → Prop where
  | hidden {b : Outcome} {f : Render.Fault} (json : o.json = false)
      (fault : Render.text screen (Display.result members r) = .error f)
      (ends : b.fault = some (.display f) ∧ b.exitCode = 1)
      (told : Told screen "" out → Told screen (document clock o r) b) :
      Concludes screen clock o members r out b
  | delivered {d b : Outcome} (deliverable : Deliverable screen o members r)
      (reports : Reports screen clock o members r d b)
      (kept : d.fault = none ∧ d.files = out.files)
      (exitCode : d.exitCode = if r.allFailed then 1 else 0)
      (told : Told screen "" out → Told screen (document clock o r) d) :
      Concludes screen clock o members r out b

theorem conclude_concludes (calls : Nat) (o : Options) (members : Bool) (r : ScanResult)
    (hnone : out.fault = none) : Concludes screen clock o members r out
      (conclude (Host.ofScreen screen calls) clock o members r out) := by
  have hdelivers : Delivers screen clock o members r _
      (deliver (Host.ofScreen screen calls) clock o members r
        { out with exitCode := if r.allFailed then 1 else 0 }) := deliver_delivers ..
  unfold conclude
  generalize deliver (Host.ofScreen screen calls) clock o members r
    { out with exitCode := if r.allFailed then 1 else 0 } = d at hdelivers
  have hreports : Reports screen clock o members r d
      (report (Host.ofScreen screen calls) clock o members r d) := report_reports ..
  cases hdelivers with
  | printed json =>
    change Concludes screen clock o members r out (if out.fault.isSome then _ else _)
    rw [if_neg (by simp [hnone])]
    refine .delivered (.inl json) hreports ⟨hnone, rfl⟩ rfl fun h => ?_
    obtain ⟨t, ht, houtput⟩ := h
    exact ⟨t, ht, by simp [document, json, houtput, String.append_assoc]⟩
  | shown json result told =>
    change Concludes screen clock o members r out (if out.fault.isSome then _ else _)
    rw [if_neg (by simp [hnone])]
    refine .delivered (.inr result) hreports ⟨hnone, rfl⟩ rfl fun h => ?_
    rw [document, if_neg (by simp [json])]
    exact Told.shown h told
  | hidden json fault told =>
    change Concludes screen clock o members r out (if true then _ else _)
    rw [if_pos rfl]
    refine .hidden json fault ⟨rfl, rfl⟩ fun h => ?_
    rw [document, if_neg (by simp [json])]
    exact Told.shown h told

namespace Concludes

variable {g : CommandFault}

theorem fault_iff (h : Concludes screen clock o members r out b) : b.fault = some g ↔
    (∃ f, g = .display f ∧ o.json = false ∧
      Render.text screen (Display.result members r) = .error f) ∨
    ∃ f, g = .report f ∧ Deliverable screen o members r ∧
      ReportFails clock o members r out.files f := by
  cases h with
  | @hidden _ f json fault ends told =>
    have hnot : ¬Deliverable screen o members r := by simp [Deliverable, json, fault]
    simp only [ends.1, Option.some.injEq, json, fault, hnot, Except.error.injEq, true_and,
      false_and, and_false, exists_false, or_false]
    exact ⟨fun hg => ⟨f, hg.symm, rfl⟩, fun ⟨f', hg, hf⟩ => hf ▸ hg.symm⟩
  | @delivered d _ deliverable reports kept exitCode told =>
    rw [reports.fault_iff kept.1, kept.2]
    constructor
    · rintro ⟨f, rfl, hf⟩
      exact .inr ⟨f, rfl, deliverable, hf⟩
    · rintro (⟨f, rfl, hjson, hf⟩ | ⟨f, rfl, -, hf⟩)
      · obtain hd | ⟨t, ht⟩ := deliverable
        · cases hjson.symm.trans hd
        · cases hf.symm.trans ht
      · exact ⟨f, rfl, hf⟩

theorem exitCode_eq (h : Concludes screen clock o members r out b) (hnone : b.fault = none) :
    b.exitCode = if r.allFailed then 1 else 0 := by
  cases h with
  | hidden json fault ends => cases hnone.symm.trans ends.1
  | delivered deliverable reports kept exitCode told =>
    rw [reports.exitCode_eq hnone, exitCode]

theorem exitCode_of_fault (h : Concludes screen clock o members r out b) (hg : b.fault = some g) :
    b.exitCode = 1 := by
  cases h with
  | hidden json fault ends => exact ends.2
  | delivered deliverable reports kept exitCode told => exact reports.exitCode_of_fault kept.1 hg

theorem told (h : Concludes screen clock o members r out b) (hout : Told screen "" out) :
    Told screen (document clock o r) b := by
  cases h with
  | hidden json fault ends told => exact told hout
  | delivered deliverable reports kept exitCode told => exact reports.told (told hout)

/-- Without a report the run completes if and only if the result can be delivered, and the files are
then left as they were. -/
theorem unasked (h : Concludes screen clock o members r out b) (houtput : o.output = none) :
    (b.fault = none ↔ Deliverable screen o members r) ∧
      (Deliverable screen o members r → b.files = out.files) := by
  cases h with
  | @hidden _ f json fault ends told =>
    have hnot : ¬Deliverable screen o members r := by simp [Deliverable, json, fault]
    simp [ends.1, hnot]
  | delivered deliverable reports kept exitCode told =>
    rw [reports.eq_of_unasked houtput]
    exact ⟨iff_of_true kept.1 deliverable, fun _ => kept.2⟩

end Concludes

/-! ### The run -/

theorem settingsOf_of_error {path : String} {g : SettingsFault} (hconfig : o.config = some path)
    (hload : Settings.load host.calls files path = .error g) :
    settingsOf host files o = ({}, if o.json then [] else [settingsWarning g]) := by
  simp only [settingsOf, hconfig, hload]

theorem finished_config (config : Option String) (x : Except ScanFault ScanResult)
    (out : Outcome) : finished host clock { o with config } settings x out =
      finished host clock o settings x out := by
  cases x <;> rfl

theorem scan_config (config : Option String) (logger : Logger) (out : Outcome) :
    scan host clock { o with config } settings logger out =
      scan host clock o settings logger out := by
  obtain ⟨x, hx⟩ := scanOf_ends clock o settings logger out.files
  have hconfig : scanOf clock { o with config } settings logger out.files =
    scanOf clock o settings logger out.files := rfl
  rw [scan_eq host out hx, scan_eq host out (hconfig ▸ hx), finished_config, hconfig]

theorem start_config (config : Option String) (out : Outcome) :
    start host clock { o with config } settings out = start host clock o settings out := by
  have hlogger : loggerOptions { o with config } settings.log = loggerOptions o settings.log := rfl
  unfold start
  simp only [hlogger, scan_config]

theorem start_of_error (hlogger : Logger.ofOptions (loggerOptions o settings.log) files =
    .error (f, made)) :
    start host clock o settings { files } = Outcome.fail { files := made } (.logger f) := by
  unfold start
  rw [hlogger]

theorem start_of_ok {logger : Logger} {x : Except ScanFault ScanResult}
    (hlogger : Logger.ofOptions (loggerOptions o settings.log) files = .ok (logger, made))
    (hx : Ends (scanOf clock o settings logger made) x) :
    start host clock o settings { files } = finished host clock o settings x
      (logged clock logger (scanOf clock o settings logger made) { files := made }) := by
  have hscan := scan_eq host { files := made } hx
  unfold start
  dsimp only at hscan ⊢
  rw [hlogger]
  exact hscan

theorem Told.after {es : List Event} {t document : String} (h : Told screen document out)
    (ht : Render.text screen es = .ok t) : Told screen document (out.after es t) := by
  obtain ⟨t', ht', houtput⟩ := h
  exact ⟨_, Render.text_append_of_ok ht ht', by simp [Outcome.after, houtput, String.append_assoc]⟩

def SomeMember (P : Member → Prop) (r : ScanResult) : Prop :=
  ∃ e ∈ r.results, e.ok = true ∧ ∃ c ∈ e.classes, ∃ m ∈ c.members, P m

/-- How a run ends. -/
structure Endings (host : Host) (screen : Render.Screen) (clock : Clock) (files : FileTree)
    (o : Options) : Prop where
  logger : ∀ f, (run host clock files o).fault = some (.logger f) ↔
    Unusable (loggerOptions o (settingsOf host files o).1.log) files f
  display : ∀ f, (run host clock files o).fault = some (.display f) ↔
    o.json = false ∧ ∃ r, Scans host clock files o (.ok r) ∧
      Render.text screen (Display.result (showsMembers o (settingsOf host files o).1.scan) r) =
        .error f
  /-- A result that cannot be shown has a member whose name and type share a tag, one that closes or
  whose style cannot be looked up. -/
  harmful : ∀ r f, Scans host clock files o (.ok r) →
    Render.text screen (Display.result (showsMembers o (settingsOf host files o).1.scan) r) =
      .error f →
    showsMembers o (settingsOf host files o).1.scan = true ∧ SomeMember (¬·.Harmless) r
  /-- A result cannot be shown with a member whose name and type share a tag that closes or whose
  name cannot be read. -/
  unreadable : ∀ r, Scans host clock files o (.ok r) →
    showsMembers o (settingsOf host files o).1.scan = true → SomeMember (¬·.Readable) r →
    ∃ f, Render.text screen
      (Display.result (showsMembers o (settingsOf host files o).1.scan) r) = .error f
  report : ∀ f, (run host clock files o).fault = some (.report f) ↔
    (run host clock files { o with output := none }).fault = none ∧
      ∃ r, Scans host clock files o (.ok r) ∧
        ReportFails clock o (showsMembers o (settingsOf host files o).1.scan) r
          (run host clock files { o with output := none }).files f
  failed : ∀ f, (run host clock files o).fault = some f → (run host clock files o).exitCode = 1
  completed : (run host clock files o).fault = none →
    (∃ r, Scans host clock files o (.ok r) ∧
      (run host clock files o).exitCode = if r.allFailed then 1 else 0) ∨
    ∃ f, Scans host clock files o (.error f) ∧ (run host clock files o).exitCode = 1 ∧
      (run host clock files o).events = (settingsOf host files o).2 ++ [faultEvent f]
  output : ∃ t, Render.text screen (run host clock files o).events = .ok t ∧
    ((run host clock files o).output = t ∨ o.json = true ∧ ∃ r, Scans host clock files o (.ok r) ∧
      (run host clock files o).output = t ++ (Report.documentText clock.finished r ++ "\n"))
  /-- Settings that cannot be used are told of, and leave the defaults. -/
  defaults : ∀ path g, o.config = some path → Settings.load host.calls files path = .error g →
    ∃ told, Render.text screen (if o.json then [] else [settingsWarning g]) = .ok told ∧
      run host clock files o =
        { run host clock files { o with config := none } with
          events := (if o.json then [] else [settingsWarning g]) ++
            (run host clock files { o with config := none }).events
          output := told ++ (run host clock files { o with config := none }).output }

theorem text_result_iff (htame : (∀ e ∈ r.results, Render.Tame e) ∧ '[' ∉ r.summary.toList) :
    (∃ t, Render.text screen (Display.result members r) = .ok t) ↔
      (members = true → ∀ e ∈ r.results, Render.MembersFit screen e) := by
  rw [Render.exists_text, Render.displayed_result,
    and_iff_right (Render.framed_of_tame htame.1 htame.2)]

theorem exists_error_iff {ε α : Type} {x : Except ε α} :
    (∃ f, x = .error f) ↔ ¬∃ a, x = .ok a := by
  cases x <;> simp

theorem harmful_of_fault {g : Render.Fault}
    (htame : (∀ e ∈ r.results, Render.Tame e) ∧ '[' ∉ r.summary.toList)
    (h : Render.text screen (Display.result members r) = .error g) :
    members = true ∧ SomeMember (¬·.Harmless) r := by
  have hnot := exists_error_iff.mp ⟨g, h⟩
  rw [text_result_iff htame, Classical.not_imp] at hnot
  refine ⟨hnot.1, Classical.byContradiction fun hall => hnot.2 fun e he hok c hc m hm => ?_⟩
  refine Render.labelFits_of_harmless (Classical.byContradiction fun hm' => hall ?_)
  exact ⟨e, he, hok, c, hc, m, hm, hm'⟩

theorem fault_of_unreadable (htame : (∀ e ∈ r.results, Render.Tame e) ∧ '[' ∉ r.summary.toList)
    (hmembers : members = true) (h : SomeMember (¬·.Readable) r) :
    ∃ f, Render.text screen (Display.result members r) = .error f := by
  obtain ⟨e, he, hok, c, hc, m, hm, hunreadable⟩ := h
  rw [exists_error_iff, text_result_iff htame]
  exact fun hall => hunreadable (hall hmembers e he hok c hc m hm).readable

theorem run_defaults {path : String} {g : SettingsFault} (hconfig : o.config = some path)
    (hload : Settings.load calls files path = .error g) :
    ∃ told, Render.text screen (if o.json then [] else [settingsWarning g]) = .ok told ∧
      run (Host.ofScreen screen calls) clock files o =
        (run (Host.ofScreen screen calls) clock files { o with config := none }).after
          (if o.json then [] else [settingsWarning g]) told := by
  have hsettings : settingsOf (Host.ofScreen screen calls) files o = _ :=
    settingsOf_of_error hconfig hload
  obtain ⟨told, htold⟩ : ∃ told, Render.text screen
      (settingsOf (Host.ofScreen screen calls) files o).2 = .ok told :=
    Render.exists_text_of_displayed (displayed_settings _ _ _)
  have hrun : run (Host.ofScreen screen calls) clock files o = _ := run_eq htold
  have hnone : Render.text screen
      (settingsOf (Host.ofScreen screen calls) files { o with config := none }).2 = .ok "" := rfl
  have hdefaults : run (Host.ofScreen screen calls) clock files { o with config := none } = _ :=
    run_eq hnone
  have hempty (out : Outcome) : out.after [] "" = out := by simp [Outcome.after]
  rw [hsettings] at htold hrun
  rw [← start_config none] at hrun
  refine ⟨told, htold, hrun.trans ?_⟩
  rw [hdefaults]
  exact congrArg (Outcome.after _ told) (hempty _).symm

section Ending

variable {told : String} {logger : Logger}

theorem endings_of_error
    (htold : Render.text screen (settingsOf (Host.ofScreen screen calls) files o).2 = .ok told)
    (hlogger : Logger.ofOptions
      (loggerOptions o (settingsOf (Host.ofScreen screen calls) files o).1.log) files =
        .error (f, made)) :
    Endings (Host.ofScreen screen calls) screen clock files o := by
  have hrun : run (Host.ofScreen screen calls) clock files o = _ := run_eq htold
  rw [start_of_error hlogger] at hrun
  have hscans (x : Except ScanFault ScanResult) :
      ¬Scans (Host.ofScreen screen calls) clock files o x := by
    rintro ⟨logger, t, hok, -⟩
    cases hlogger.symm.trans hok
  have hunusable (g : LoggerFault) : (∃ made, Logger.ofOptions
      (loggerOptions o (settingsOf (Host.ofScreen screen calls) files o).1.log) files =
        .error (g, made)) ↔ _ := ofOptions_eq_error rfl rfl
  refine ⟨fun g => ?_, fun g => ?_, fun r g h => absurd h (hscans _),
    fun r h => absurd h (hscans _), fun g => ?_, fun g _ => ?_, fun h => ?_, ?_, ?_⟩
  · rw [hrun, ← hunusable, hlogger]
    simp [Outcome.fail]
  · simp [hrun, hscans, Outcome.fail]
  · simp [hrun, hscans, Outcome.fail]
  · rw [hrun]
    rfl
  · rw [hrun] at h
    cases h
  · rw [hrun]
    exact ⟨told, by simpa [Outcome.after, Outcome.fail] using htold, .inl (by
      simp [Outcome.after, Outcome.fail])⟩
  · exact fun path g => run_defaults

theorem scans_iff {x : Except ScanFault ScanResult}
    (hlogger : Logger.ofOptions (loggerOptions o (settingsOf host files o).1.log) files =
      .ok (logger, made))
    (hx : Ends (scanOf clock o (settingsOf host files o).1 logger made) x)
    (y : Except ScanFault ScanResult) : Scans host clock files o y ↔ x = y :=
  ⟨fun hy => Scans.unique ⟨logger, made, hlogger, hx⟩ hy, fun h => ⟨logger, made, hlogger, h ▸ hx⟩⟩

theorem not_unusable
    (hlogger : Logger.ofOptions (loggerOptions o (settingsOf host files o).1.log) files =
      .ok (logger, made)) (g : LoggerFault) :
    ¬Unusable (loggerOptions o (settingsOf host files o).1.log) files g := by
  rw [← ofOptions_eq_error rfl rfl, hlogger]
  simp

theorem endings_of_fault {g : ScanFault}
    (htold : Render.text screen (settingsOf (Host.ofScreen screen calls) files o).2 = .ok told)
    (hlogger : Logger.ofOptions
      (loggerOptions o (settingsOf (Host.ofScreen screen calls) files o).1.log) files =
        .ok (logger, made))
    (hx : Ends (scanOf clock o (settingsOf (Host.ofScreen screen calls) files o).1 logger made)
      (.error g)) : Endings (Host.ofScreen screen calls) screen clock files o := by
  obtain ⟨t, ht⟩ : ∃ t, Render.text screen [faultEvent g] = .ok t :=
    Render.exists_text_of_displayed (List.forall_mem_singleton.mpr (displayed_faultEvent g))
  have hrun : run (Host.ofScreen screen calls) clock files o = _ := run_eq htold
  rw [start_of_ok hlogger hx, finished, Outcome.tell_of_text ht] at hrun
  have hscans := scans_iff hlogger hx
  refine ⟨fun g' => ?_, fun f => ?_, fun r f h => ?_, fun r h => ?_, fun f => ?_, fun f h => ?_,
    fun h => ?_, ?_, ?_⟩
  · simp [hrun, not_unusable hlogger, Outcome.shown, logged]
  · simp [hrun, hscans, Outcome.shown, logged]
  · cases (hscans _).mp h
  · cases (hscans _).mp h
  · simp [hrun, hscans, Outcome.shown, logged]
  · rw [hrun] at h
    cases h
  · rw [hrun]
    exact .inr ⟨g, (hscans _).mpr rfl, rfl, by simp [Outcome.shown, Outcome.after, logged]⟩
  · rw [hrun]
    refine ⟨told ++ t, ?_, .inl ?_⟩
    · simpa [Outcome.shown, Outcome.after, logged] using Render.text_append_of_ok htold ht
    · simp [Outcome.shown, Outcome.after, logged]
  · exact fun path g => run_defaults

def scannedOutcome (clock : Clock) (o : Options) (settings : Settings) (logger : Logger)
    (files : FileTree) : Outcome :=
  logged clock logger (scanOf clock o settings logger files) { files }

theorem exists_concludes
    (htold : Render.text screen (settingsOf (Host.ofScreen screen calls) files o).2 = .ok told)
    (hlogger : Logger.ofOptions
      (loggerOptions o (settingsOf (Host.ofScreen screen calls) files o).1.log) files =
        .ok (logger, made))
    (hx : Ends (scanOf clock o (settingsOf (Host.ofScreen screen calls) files o).1 logger made)
      (.ok r)) :
    ∃ b, run (Host.ofScreen screen calls) clock files o =
        b.after (settingsOf (Host.ofScreen screen calls) files o).2 told ∧
      Concludes screen clock o
        (showsMembers o (settingsOf (Host.ofScreen screen calls) files o).1.scan) r
        (scannedOutcome clock o (settingsOf (Host.ofScreen screen calls) files o).1 logger made)
        b := by
  refine ⟨_, ?_, conclude_concludes calls o _ r rfl⟩
  rw [run_eq htold, start_of_ok hlogger hx, finished, scannedOutcome]

/-- The same run without a report. -/
theorem exists_unasked
    (htold : Render.text screen (settingsOf (Host.ofScreen screen calls) files o).2 = .ok told)
    (hlogger : Logger.ofOptions
      (loggerOptions o (settingsOf (Host.ofScreen screen calls) files o).1.log) files =
        .ok (logger, made))
    (hx : Ends (scanOf clock o (settingsOf (Host.ofScreen screen calls) files o).1 logger made)
      (.ok r)) :
    ∃ b : Outcome, run (Host.ofScreen screen calls) clock files { o with output := none } =
        b.after (settingsOf (Host.ofScreen screen calls) files o).2 told ∧
      (b.fault = none ↔ Deliverable screen o
        (showsMembers o (settingsOf (Host.ofScreen screen calls) files o).1.scan) r) ∧
      (Deliverable screen o
        (showsMembers o (settingsOf (Host.ofScreen screen calls) files o).1.scan) r →
        b.files = (scannedOutcome clock o
          (settingsOf (Host.ofScreen screen calls) files o).1 logger made).files) := by
  have hsettings : settingsOf (Host.ofScreen screen calls) files { o with output := none } =
    settingsOf (Host.ofScreen screen calls) files o := rfl
  have hscan (settings : Settings) : scanOf clock { o with output := none } settings logger made =
    scanOf clock o settings logger made := rfl
  have hscanned (settings : Settings) :
      scannedOutcome clock { o with output := none } settings logger made =
        scannedOutcome clock o settings logger made := by
    rw [scannedOutcome, hscan]
    rfl
  rw [← hsettings] at htold hlogger hx
  rw [← hscan] at hx
  obtain ⟨b, hrun, hends⟩ := exists_concludes htold hlogger hx
  rw [hscanned, hsettings] at hends
  exact ⟨b, hrun, hends.unasked rfl⟩

theorem endings_of_result
    (htold : Render.text screen (settingsOf (Host.ofScreen screen calls) files o).2 = .ok told)
    (hlogger : Logger.ofOptions
      (loggerOptions o (settingsOf (Host.ofScreen screen calls) files o).1.log) files =
        .ok (logger, made))
    (hx : Ends (scanOf clock o (settingsOf (Host.ofScreen screen calls) files o).1 logger made)
      (.ok r)) : Endings (Host.ofScreen screen calls) screen clock files o := by
  obtain ⟨b, hrun, hends⟩ := exists_concludes htold hlogger hx
  obtain ⟨b', hunasked, hcompletes, hfiles⟩ := exists_unasked htold hlogger hx
  have htame := tame_of_scanOf hx
  have hscans := scans_iff hlogger hx
  refine ⟨fun g => ?_, fun g => ?_, fun r' g h hg => ?_, fun r' h hmembers => ?_, fun g => ?_,
    fun g h => ?_, fun h => ?_, ?_, ?_⟩
  · simp [hrun, not_unusable hlogger, hends.fault_iff]
  · simp [hrun, hscans, hends.fault_iff]
  · cases (hscans _).mp h
    exact harmful_of_fault htame hg
  · cases (hscans _).mp h
    exact fault_of_unreadable htame hmembers
  · rw [hunasked, hrun, Outcome.after_fault, Outcome.after_fault, Outcome.after_files,
      hends.fault_iff, hcompletes]
    constructor
    · rintro (⟨f, hf, -⟩ | ⟨f, hf, hdeliverable, hfails⟩)
      · cases hf
      · cases hf
        exact ⟨hdeliverable, r, (hscans _).mpr rfl, hfiles hdeliverable ▸ hfails⟩
    · rintro ⟨hdeliverable, r', hr', hfails⟩
      cases (hscans _).mp hr'
      exact .inr ⟨g, rfl, hdeliverable, hfiles hdeliverable ▸ hfails⟩
  · rw [hrun] at h ⊢
    exact hends.exitCode_of_fault h
  · rw [hrun] at h ⊢
    exact .inl ⟨r, (hscans _).mpr rfl, hends.exitCode_eq h⟩
  · obtain ⟨t, ht, hprinted⟩ := (hends.told ⟨"", rfl, rfl⟩).after htold
    rw [hrun]
    refine ⟨t, ht, ?_⟩
    rw [hprinted, document]
    cases hjson : o.json with
    | true => exact .inr ⟨rfl, r, (hscans _).mpr rfl, rfl⟩
    | false => exact .inl (String.append_empty ..)
  · exact fun path g => run_defaults

/-- A run ends in one of these ways, whatever its options, its settings and its files are. -/
theorem run_endings (screen : Render.Screen) (calls : Nat) (clock : Clock) (files : FileTree)
    (o : Options) : Endings (Host.ofScreen screen calls) screen clock files o := by
  obtain ⟨told, htold⟩ : ∃ told, Render.text screen
      (settingsOf (Host.ofScreen screen calls) files o).2 = .ok told :=
    Render.exists_text_of_displayed (displayed_settings _ _ _)
  cases hlogger : Logger.ofOptions
      (loggerOptions o (settingsOf (Host.ofScreen screen calls) files o).1.log) files with
  | error p => exact endings_of_error htold hlogger
  | ok p =>
    obtain ⟨x, hx⟩ := scanOf_ends clock o (settingsOf (Host.ofScreen screen calls) files o).1 p.1 p.2
    cases x with
    | error g => exact endings_of_fault htold hlogger hx
    | ok r => exact endings_of_result htold hlogger hx

end Ending

def traceFiles : FileTree where
  files :=
    [(["app.dex"], Scan.emptyImage),
     (["c.toml"], (utf8Bytes "[global]\nlog_level = \"TRACE\"\n").toArray)]

def traceOptions : Options := { path := "app.dex", config := some "c.toml" }

def traceScreen : Render.Screen := { columns := 80, codes := Emoji.published }

def traceHost : Host :=
  .ofScreen traceScreen 988

def textOf? : Value → Option String
  | .text s => some s
  | _ => none

theorem textOf?_eq_some {v : Value} {s : String} : textOf? v = some s ↔ v = .text s := by
  cases v <;> simp [textOf?]

/-- The settings can be read and the file could be scanned, but the command only ends. -/
theorem run_endings_unknownLevel :
    request traceFiles ["app.dex", "--config", "c.toml"] = .ok (.scan traceOptions) ∧
      (Settings.load 988 traceFiles "c.toml").toBool = true ∧
      (run traceHost Scan.sharedClock traceFiles traceOptions).fault =
        some (.logger (.unknownLevel "TRACE")) ∧
      (run traceHost Scan.sharedClock traceFiles traceOptions).exitCode = 1 ∧
      (run traceHost Scan.sharedClock traceFiles traceOptions).output = "" ∧
      (run traceHost Scan.sharedClock traceFiles traceOptions).events = [] := by
  have hrequest : request traceFiles ["app.dex", "--config", "c.toml"] =
      .ok (.scan traceOptions) := by
    decide +kernel
  have hsettings : (Settings.load 988 traceFiles "c.toml").toBool = true ∧
      (settingsOf traceHost traceFiles traceOptions).2 = [] ∧
      textOf? (loggerOptions traceOptions (settingsOf traceHost traceFiles traceOptions).1.log).level =
        some "TRACE" := by
    decide +kernel
  obtain ⟨hload, hevents, hlevel⟩ := hsettings
  have hcapitals : upperCase "TRACE" = "TRACE" := upperCase_of_lt rfl
  have hunknown : Logger.levelNumber? (upperCase "TRACE") = none := by
    rw [hcapitals]
    rfl
  have hlogger : Logger.ofOptions
      (loggerOptions traceOptions (settingsOf traceHost traceFiles traceOptions).1.log)
        traceFiles = .error _ :=
    ofOptions_of_unknown rfl rfl (textOf?_eq_some.mp hlevel) hunknown
  rw [hcapitals] at hlogger
  have htold : Render.text traceScreen
      (settingsOf traceHost traceFiles traceOptions).2 = .ok "" := by
    rw [hevents]
    rfl
  have hrun : run traceHost Scan.sharedClock traceFiles traceOptions =
      (start traceHost Scan.sharedClock traceOptions
        (settingsOf traceHost traceFiles traceOptions).1 { files := traceFiles }).after
          (settingsOf traceHost traceFiles traceOptions).2 "" := run_eq htold
  rw [start_of_error hlogger, hevents] at hrun
  rw [hrun]
  exact ⟨hrequest, hload, rfl, rfl, rfl, rfl⟩

end Command

end DexRefs
