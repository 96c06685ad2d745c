import DexRefs.Command.Run
import DexRefs.Console.EmojiCodes
import Std.Time.DateTime.Timestamp

/-!
The program: the files that the arguments name are read into a tree, the command is run on it, and
what it changed is written back.
-/

set_option autoImplicit false

namespace DexRefs

namespace Program

def diskPath (place : List String) : String :=
  "/" ++ "/".intercalate place

def visit (t : FileTree) (place : List String) : IO FileTree := do
  let path := (← IO.currentDir) / diskPath place
  if ← path.isDir then return { t with directories := t.directories ++ [place] }
  if ← path.pathExists then return t.putAt place (← IO.FS.readBinFile path).data
  return t

def visitAlong (t : FileTree) (s : String) : IO FileTree := do
  let path := Path.ofString s
  let (t, _) ← path.parts.foldlM
    (fun (t, place) part => do
      let place := if part = ".." then place.dropLast else place ++ [part]
      return (← visit t place, place))
    (t, t.start path)
  return t

def logPaths (s : LogSettings) : List String :=
  match s.file with
  | .text path => path :: (List.range 5).map fun n => path ++ "." ++ decimal (n + 1)
  | _ => []

def writeBack (before after : FileTree) : IO Unit := do
  let here ← IO.currentDir
  for place in after.directories do
    IO.FS.createDirAll (here / diskPath place)
  for (place, content) in after.files do
    if before.files.lookup place ≠ some content then
      IO.FS.createDirAll (here / diskPath place.dropLast)
      IO.FS.writeBinFile (here / diskPath place) ⟨content⟩
  for (place, _) in before.files do
    if (after.files.lookup place).isNone then IO.FS.removeFile (here / diskPath place)

def now : IO Moment := do
  let t ← Std.Time.Timestamp.now
  return .ofEpochMicros (t.toNanosecondsSinceUnixEpoch.val.toNat / 1000)

def timed (files : FileTree) (o : Command.Options) (s : ScanSettings) : IO Clock := do
  let started ← now
  let limits : Container.Limits := ⟨s.maxFileSize, s.maxDexEntries⟩
  let sources := match Container.openPath files o.path limits {} with
    | .ok ss _ => ss
    | .error _ _ => []
  let laps ← sources.mapM fun source => do
    let start ← IO.monoMsNow
    let _ ← IO.lazyPure fun _ =>
      match Image.load source.bytes with
      | .ok image => (image.references .all).isOk
      | .error _ => false
    return (source.name, (← IO.monoMsNow) - start)
  return { started, finished := ← now, lap := fun name => (laps.lookup name).getD 0 }

def consoleColumns : Nat := 80

def host : Command.Host where
  display := Render.eventText { columns := consoleColumns, codes := Emoji.published }

def tell (out : Command.Outcome) : IO UInt32 := do
  for r in out.records do
    IO.eprintln (Record.levelCell r.level ++ " " ++ r.message)
  IO.print out.output
  if let some f := out.fault then IO.eprintln f.message
  return UInt32.ofNat out.exitCode

def usage (f : Command.UsageFault) : IO UInt32 := do
  IO.eprintln "Usage: dexdeps [OPTIONS] PATH\nTry 'dexdeps --help' for help.\n"
  IO.eprintln ("Error: " ++ f.message)
  return 2

def scan (files : FileTree) (o : Command.Options) : IO UInt32 := do
  let (settings, _) := Command.settingsOf host files o
  let files ← (logPaths settings.log).foldlM visitAlong files
  let clock ← timed files o settings.scan
  let out := Command.run host clock files o
  writeBack files out.files
  tell out

def run (arguments : List String) : IO UInt32 := do
  let here := (Path.ofString (← IO.currentDir).toString).parts
  match Command.words arguments with
  | .error f => usage f
  | .ok ws =>
    let files ← (ws.filterMap Command.Word.file?).foldlM visitAlong
      { here, directories := [here] }
    match Command.request files arguments with
    | .error f => usage f
    | .ok (.scan o) => scan files o
    | .ok r =>
      tell (Command.answer host { started := ← now, finished := ← now } files r)

end Program

end DexRefs

def main (arguments : List String) : IO UInt32 :=
  DexRefs.Program.run arguments
