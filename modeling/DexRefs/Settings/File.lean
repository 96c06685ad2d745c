import DexRefs.Files.Tree
import DexRefs.Settings
import DexRefs.Toml.Document

/-!
Settings files: TOML documents with a table for each group of settings.
-/

set_option autoImplicit false

namespace DexRefs

inductive SettingsFault where
  | missing (path : String)
  | encoding (d : Utf8Defect)
  | document (f : Toml.Fault)
  | noTable (group : String)
  deriving DecidableEq, Repr

def SettingsFault.message : SettingsFault → String
  | missing path => "Configuration file not found: " ++ path
  | encoding d => "The file is not UTF-8: " ++ d.reason.wording ++ " at byte " ++ decimal d.start
  | document f => f.message
  | noTable group => "'" ++ group ++ "' is not a table"

namespace Settings

def group (document : Value) (name : String) : Except SettingsFault Value :=
  match document.get? name with
  | none => .ok (.table [])
  | some (.table es) => .ok (.table es)
  | some _ => .error (.noTable name)

def ofDocument (document : Value) : Except SettingsFault Settings := do
  let log ← group document "global"
  let scan ← group document "scan"
  return { log := .ofTable log, scan := .ofTable scan }

/-- The settings of a file with this content. -/
def ofBytes (calls : Nat) (b : Bytes) : Except SettingsFault Settings := do
  if let some d := utf8Defect? b.toList then throw (.encoding d)
  ofDocument (← (Toml.read calls (repairUtf8 b.toList)).mapError .document)

def load (calls : Nat) (files : FileTree) (path : String) : Except SettingsFault Settings :=
  let path := Path.ofString path
  match files.content? path with
  | some b => ofBytes calls b
  | none => .error (.missing path.text)

end Settings

end DexRefs
