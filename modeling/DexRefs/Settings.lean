import DexRefs.Value

/-!
Settings of logging and of scans, with their defaults.  A setting is a value of any type until it
is used.
-/

set_option autoImplicit false

namespace DexRefs

structure LogSettings where
  level : Value := .text "INFO"
  file : Value := .null
  json : Value := .bool false
  debug : Value := .bool false
  deriving Repr

structure ScanSettings where
  scope : Value := .text "all"
  maxFileSize : Value := .int 268435456
  maxDexEntries : Value := .int 100
  failFast : Value := .bool false
  showMembers : Value := .bool true
  deriving Repr

structure Settings where
  log : LogSettings := {}
  scan : ScanSettings := {}
  deriving Repr

namespace LogSettings

def ofTable (section_ : Value) : LogSettings :=
  let default : LogSettings := {}
  { level := (section_.get? "log_level").getD default.level
    file := (section_.get? "log_file").getD default.file
    json := (section_.get? "log_json").getD default.json
    debug := (section_.get? "debug").getD default.debug }

end LogSettings

namespace ScanSettings

def ofTable (section_ : Value) : ScanSettings :=
  let default : ScanSettings := {}
  { scope := (section_.get? "scope").getD default.scope
    maxFileSize := (section_.get? "max_file_size").getD default.maxFileSize
    maxDexEntries := (section_.get? "max_dex_entries").getD default.maxDexEntries
    failFast := (section_.get? "fail_fast").getD default.failFast
    showMembers := (section_.get? "show_members").getD default.showMembers }

end ScanSettings

end DexRefs
