import DexRefs.Log.File
import DexRefs.Log.Line
import DexRefs.Text.UpperCase

/-!
Loggers.  A logger passes records from a level on to a log file, and to the console where it has
one; one that hands its records on to the logger above it has neither.
-/

set_option autoImplicit false

namespace DexRefs

structure LoggerOptions where
  tool : String
  level : Value := .text "INFO"
  file : Value := .null
  json : Bool := false
  limit : Int := 10485760
  backups : Nat := 5
  console : Bool := true
  handsOn : Bool := false
  deriving Repr

inductive LoggerFault where
  | levelType
  | noLevel (name : String)
  | unknownLevel (name : String)
  | fileType
  | file (f : FileFault)
  deriving DecidableEq, Repr

def LoggerFault.message : LoggerFault → String
  | levelType => "The log level is not a text"
  | noLevel name => "No level: " ++ quoted name
  | unknownLevel name => "Unknown level: " ++ quoted name
  | fileType => "The log file is not a path"
  | file _ => "The log file cannot be written"

structure Logger where
  tool : String
  level : Nat
  file : Option LogFile := none
  json : Bool := false
  console : Bool := false
  handsOn : Bool := false
  deriving Repr

namespace Logger

def levelNumber? : String → Option Nat
  | "NOTSET" => some 0
  | "DEBUG" => some 10
  | "INFO" => some 20
  | "WARN" => some 30
  | "WARNING" => some 30
  | "ERROR" => some 40
  | "FATAL" => some 50
  | "CRITICAL" => some 50
  | _ => none

def basicLayout : String :=
  "%(levelname)s:%(name)s:%(message)s"

/-- The number of the level that a name in capitals stands for.  Names that stand for nothing mean
the level of what is told in passing, and two names stand for things that are no levels. -/
def levelOf (name : String) : Except LoggerFault Nat :=
  match levelNumber? name with
  | some n => .ok n
  | none =>
    if name = "BASIC_FORMAT" then .error (.unknownLevel basicLayout)
    else if name = "_STYLES" then .error (.noLevel name)
    else .ok Level.info.number

def defaultLevel : Nat :=
  Level.warning.number

def threshold (l : Logger) : Nat :=
  if l.level = 0 then defaultLevel else l.level

def passes (l : Logger) (level : Level) : Bool :=
  l.threshold ≤ level.number

/-- The tool's own name if it begins with the name of the whole, which comes before it
otherwise. -/
def name (l : Logger) : String :=
  if "dexdeps".toList.isPrefixOf l.tool.toList then l.tool else "dexdeps." ++ l.tool

def outlets (l : Logger) : Nat :=
  l.console.toNat + l.file.isSome.toNat

def openFile (o : LoggerOptions) (t : FileTree) :
    Except (LoggerFault × FileTree) (Option LogFile × FileTree) :=
  match o.file with
  | .null => .ok (none, t)
  | .text s =>
    match LogFile.create (Path.ofString s) o.limit o.backups t with
    | .ok (f, t) => .ok (some f, t)
    | .error (f, t) => .error (.file f, t)
  | _ => .error (.fileType, t)

def ofOptions (o : LoggerOptions) (t : FileTree) :
    Except (LoggerFault × FileTree) (Logger × FileTree) := do
  match o.level with
  | .text s =>
    if o.handsOn then return ({ tool := o.tool, level := 0, handsOn := true }, t)
    let levelName := upperCase s
    let level ← (levelOf levelName).mapError (·, t)
    if o.console ∧ (levelNumber? levelName).isNone then throw (.unknownLevel levelName, t)
    let (file, t) ← openFile o t
    return ({ tool := o.tool, level, file, json := o.json, console := o.console }, t)
  | _ => throw (.levelType, t)

theorem ofOptions_of_known {o : LoggerOptions} {t : FileTree} {s : String} {n : Nat}
    (hown : o.handsOn = false) (hlevel : o.level = .text s)
    (hknown : levelNumber? (upperCase s) = some n) :
    ofOptions o t = (openFile o t).map fun p =>
      ({ tool := o.tool, level := n, file := p.1, json := o.json, console := o.console }, p.2) := by
  simp only [ofOptions, hlevel, hown, levelOf, hknown]
  cases o.console <;> cases openFile o t <;> rfl

def write (l : Logger) (moment : Moment) (t : FileTree) (r : Record) : FileTree :=
  match l.file with
  | some f => if l.passes r.level then f.append (r.line l.json moment) t else t
  | none => t

end Logger

end DexRefs
