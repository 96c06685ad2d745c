import DexRefs.Command.Arguments
import DexRefs.Console.Render
import DexRefs.Log.Logger
import DexRefs.Report.Document
import DexRefs.Report.Graph
import DexRefs.Report.Text
import DexRefs.Scan.Run
import DexRefs.Settings.File

/-!
Running the command: settings and logger, the scan, what is shown, the report that is written, and
the exit code.  Faults of the input and of what is scanned are shown; those of the logger, of what
is shown and of the report's file end the command.
-/

set_option autoImplicit false

namespace DexRefs

namespace Command

/-- What the command runs on: a console that gives the text of an event, and how many calls may be
under way while settings are read. -/
structure Host where
  display : Event → Except Render.Fault String
  calls : Nat := 988

inductive CommandFault where
  | logger (f : LoggerFault)
  | display (f : Render.Fault)
  | report (f : FileFault)
  deriving DecidableEq, Repr

def CommandFault.message : CommandFault → String
  | logger f => f.message
  | display f => f.message
  | report .occupied => "The report cannot be written: a file stands in its way"
  | report .notDirectory => "The report cannot be written: a file stands in its way"
  | report .isDirectory => "The report cannot be written: it is a directory"
  | report .notFound => "The report cannot be written: it has no directory"
  | report .badName => "The report cannot be written: no file can have its name"
  | report .longName => "The report cannot be written: its name is too long"

/-- How the command ends: the text on standard output, the events that it shows, the files as they
are then, the records that passed the logger, and the fault that ended it, if any. -/
structure Outcome where
  exitCode : Nat := 0
  output : String := ""
  events : List Event := []
  files : FileTree
  records : List Record := []
  fault : Option CommandFault := none

namespace Outcome

def fail (out : Outcome) (f : CommandFault) : Outcome :=
  { out with exitCode := 1, fault := some f }

/-- Shows events up to the first that cannot be shown, which ends the command. -/
def tell (host : Host) (out : Outcome) : List Event → Outcome
  | [] => out
  | e :: es =>
    match host.display e with
    | .error f => out.fail (.display f)
    | .ok text => { out with events := out.events ++ [e], output := out.output ++ text }.tell host es

def andThen (out : Outcome) (next : Outcome → Outcome) : Outcome :=
  if out.fault.isSome then out else next out

end Outcome

def versionText : String :=
  "dexdeps, version 1.0.0\n"

def helpText : String :=
  "\n".intercalate
    ["Usage: dexdeps [OPTIONS] PATH",
     "",
     "  List the class, field and method references of a DEX image.",
     "",
     "  PATH is a raw .dex file or an APK/JAR/AAR archive containing classes.dex,",
     "  classes2.dex, ...",
     "",
     "Options:",
     "  --version                       Show the version and exit.",
     "  -s, --scope [all|internal|external]",
     "                                  Which classes to list.  Default: [scan] scope",
     "                                  from config (all).",
     "  -o, --output FILE               Write a report (.json, .graphml, anything",
     "                                  else: text).",
     "  --json                          Print the result as JSON to stdout.",
     "  --members / --no-members        Show fields and methods of each class.",
     "  --fail-fast                     Abort on the first malformed DEX image.",
     "  --config FILE                   TOML configuration file.",
     "  -v, --verbose                   Enable debug logging.",
     "  --help                          Show this message and exit.",
     ""]

/-! ### Settings -/

def settingsWarning (f : SettingsFault) : Event :=
  .warning (Markup.escape ("Could not load configuration (" ++ f.message ++ "), using defaults."))

/-- The settings of the file that is named; where it cannot be used, those that hold without
one. -/
def settingsOf (host : Host) (files : FileTree) (o : Options) : Settings × List Event :=
  match o.config with
  | none => ({}, [])
  | some path =>
    match Settings.load host.calls files path with
    | .ok s => (s, [])
    | .error f => ({}, if o.json then [] else [settingsWarning f])

def loggerOptions (o : Options) (s : LogSettings) : LoggerOptions where
  tool := Scan.tool
  level := if o.verbose || s.debug.truthy then .text "DEBUG" else s.level
  file := s.file
  json := s.json.truthy

def scanSettings (o : Options) (s : ScanSettings) : ScanSettings :=
  if o.failFast then { s with failFast := .bool true } else s

def showsMembers (o : Options) (s : ScanSettings) : Bool :=
  o.members.getD s.showMembers.truthy

/-! ### Results -/

def faultEvent (f : ScanFault) : Event :=
  .error <| Markup.escape <|
    match f.inputKind? with
    | some kind => kind ++ ": " ++ f.message
    | none => "Scan failed: " ++ f.message

def partialWarning (r : ScanResult) : List Event :=
  if r.failed.isEmpty || r.allFailed then []
  else
    [.warning (decimal r.failed.length ++ " of " ++ decimal r.results.length ++
      " DEX image(s) could not be decoded.")]

/-- The report in the format that the suffix of its file asks for.  No letter beyond ASCII is a
capital of the letters in `.json` and `.graphml`. -/
def reportText (clock : Clock) (members : Bool) (path : Path) (r : ScanResult) : String :=
  match String.ofList (path.suffix.toList.map Char.toLower) with
  | ".json" => Report.documentText clock.finished r
  | ".graphml" => (Report.graph r).graphML
  | _ => Report.text members r

def writeText (files : FileTree) (path : Path) (text : String) : FileTree.Made := do
  let files ← files.makeDirectories path.parent
  files.write path (utf8Bytes text).toArray

variable (host : Host) (clock : Clock)

def report (o : Options) (members : Bool) (r : ScanResult) (out : Outcome) : Outcome :=
  match o.output with
  | none | some "" => out
  | some s =>
    let path := Path.ofString s
    match writeText out.files path (reportText clock members path r) with
    | .error (f, files) => { out with files }.fail (.report f)
    | .ok files =>
      { out with files }.tell host <|
        if o.json then [] else [.success (Markup.escape ("Report saved: " ++ path.text))]

def deliver (o : Options) (members : Bool) (r : ScanResult) (out : Outcome) : Outcome :=
  if o.json then { out with output := out.output ++ Report.documentText clock.finished r ++ "\n" }
  else out.tell host (Display.result members r ++ partialWarning r)

/-- Delivers a result and writes the report.  It is a failure that no image could be decoded. -/
def conclude (o : Options) (members : Bool) (r : ScanResult) (out : Outcome) : Outcome :=
  (deliver host clock o members r { out with exitCode := if r.allFailed then 1 else 0 }).andThen
    (report host clock o members r)

/-! ### The command -/

/-- Scans and concludes.  The scan finds its first record already written, should the log file be
the file that it reads. -/
def scan (o : Options) (settings : Settings) (logger : Logger) (out : Outcome) : Outcome :=
  let write := fun (t : FileTree) (r : Record) => logger.write clock.started t r
  let scanned := scanSettings o settings.scan
  let asked := (o.scope.map fun s => Value.text s.name).getD .null
  let found := write out.files (Scan.startRecord o.path)
  let (result, trace) : Except ScanFault ScanResult × Trace :=
    match Scan.file clock scanned asked found o.path {} with
    | .ok r t => (.ok r, t)
    | .error f t => (.error f, t)
  let records := trace.records.toList.filter fun r => logger.passes r.level
  let out := { out with files := records.foldl write out.files, records }
  match result with
  | .error f => { out with exitCode := 1 }.tell host [faultEvent f]
  | .ok r => conclude host clock o (showsMembers o settings.scan) r out

def start (o : Options) (settings : Settings) (out : Outcome) : Outcome :=
  match Logger.ofOptions (loggerOptions o settings.log) out.files with
  | .error (f, files) => { out with files }.fail (.logger f)
  | .ok (logger, files) => scan host clock o settings logger { out with files }

def run (files : FileTree) (o : Options) : Outcome :=
  let (settings, events) := settingsOf host files o
  (Outcome.tell host { files } events).andThen (start host clock o settings)

def answer (files : FileTree) : Request → Outcome
  | .version => { output := versionText, files }
  | .help => { output := helpText, files }
  | .scan o => run host clock files o

end Command

end DexRefs
