import DexRefs.Files.Tree
import DexRefs.Scope

/-!
Arguments of the command line.  Options may stand before and after the path; what follows `--` is
no option.  Long options take a value after `=` or in the next argument, short ones in the rest of
their argument or in the next one, and short options without values may share an argument.
-/

set_option autoImplicit false

namespace DexRefs

namespace Command

inductive Switch where
  | scope
  | output
  | json
  | members (shown : Bool)
  | failFast
  | config
  | verbose
  | help
  | version
  deriving DecidableEq, Repr

def Switch.takesValue : Switch → Bool
  | scope => true
  | output => true
  | config => true
  | _ => false

def Switch.name : Switch → String
  | scope => "--scope"
  | output => "--output"
  | json => "--json"
  | members true => "--members"
  | members false => "--no-members"
  | failFast => "--fail-fast"
  | config => "--config"
  | verbose => "--verbose"
  | help => "--help"
  | version => "--version"

def switches : List Switch :=
  [.scope, .output, .json, .members true, .members false, .failFast, .config, .verbose, .version,
   .help]

def Switch.ofName? (s : String) : Option Switch :=
  switches.find? fun o => o.name = s

def Switch.ofLetter? : Char → Option Switch
  | 's' => some .scope
  | 'o' => some .output
  | 'v' => some .verbose
  | _ => none

inductive UsageFault where
  | unknownOption (name : String)
  | missingValue (name : String)
  | unexpectedValue (name : String)
  | missingPath
  | extraPath (path : String)
  | unknownScope (name : String)
  | notFound (path : String)
  | isDirectory (path : String)
  deriving DecidableEq, Repr

def UsageFault.message : UsageFault → String
  | unknownOption name => "No such option: " ++ name
  | missingValue name => "Option '" ++ name ++ "' requires an argument."
  | unexpectedValue name => "Option '" ++ name ++ "' does not take a value."
  | missingPath => "Missing argument 'PATH'."
  | extraPath path => "Got unexpected extra argument (" ++ path ++ ")"
  | unknownScope name => "'" ++ name ++ "' is not one of 'all', 'internal', 'external'."
  | notFound path => "File '" ++ path ++ "' does not exist."
  | isDirectory path => "File '" ++ path ++ "' is a directory."

/-! ### Words -/

/-- What an argument, with the one after it where it is the value of an option, stands for. -/
inductive Word where
  | path (s : String)
  | flag (o : Switch)
  | option (o : Switch) (value : String)
  deriving DecidableEq, Repr

def letters : List Char → Except UsageFault (List Word × Option Switch)
  | [] => .ok ([], none)
  | c :: cs =>
    match Switch.ofLetter? c with
    | none => .error (.unknownOption ("-" ++ c.toString))
    | some o =>
      if o.takesValue then
        if cs.isEmpty then .ok ([], some o) else .ok ([.option o (String.ofList cs)], none)
      else do
        let (ws, rest) ← letters cs
        return (.flag o :: ws, rest)

def dashed (cs : List Char) : Except UsageFault (List Word × Option Switch) :=
  let name := String.ofList (cs.takeWhile (· ≠ '='))
  let value := cs.dropWhile (· ≠ '=')
  match Switch.ofName? name with
  | some o =>
    match o.takesValue, value with
    | true, [] => .ok ([], some o)
    | true, _ :: v => .ok ([.option o (String.ofList v)], none)
    | false, [] => .ok ([.flag o], none)
    | false, _ => .error (.unexpectedValue name)
  | none =>
    if ['-', '-'].isPrefixOf cs then .error (.unknownOption name) else letters (cs.drop 1)

def words : List String → Except UsageFault (List Word)
  | [] => .ok []
  | a :: rest =>
    if a = "--" then .ok (rest.map .path)
    else if a.toList.head? = some '-' ∧ a ≠ "-" then do
      match ← dashed a.toList with
      | (ws, none) => return ws ++ (← words rest)
      | (ws, some o) =>
        match rest with
        | [] => .error (.missingValue o.name)
        | v :: rest => return ws ++ .option o v :: (← words rest)
    else do return .path a :: (← words rest)

def Word.file? : Word → Option String
  | path s => some s
  | option .output s => some s
  | option .config s => some s
  | _ => none

/-! ### Options -/

structure Options where
  path : String
  scope : Option Scope := none
  output : Option String := none
  json : Bool := false
  members : Option Bool := none
  failFast : Bool := false
  config : Option String := none
  verbose : Bool := false
  deriving DecidableEq, Repr

inductive Request where
  | scan (o : Options)
  | version
  | help
  deriving DecidableEq, Repr

def lastValue (o : Switch) (ws : List Word) : Option String :=
  (ws.filterMap fun
    | .option p v => if p = o then some v else none
    | _ => none).getLast?

def hasFlag (o : Switch) (ws : List Word) : Bool :=
  ws.contains (.flag o)

def lastMembers (ws : List Word) : Option Bool :=
  (ws.filterMap fun
    | .flag (.members shown) => some shown
    | _ => none).getLast?

def paths (ws : List Word) : List String :=
  ws.filterMap fun
    | .path s => some s
    | _ => none

/-- A scope may be written in capitals; those of its letters are all in ASCII. -/
def scopeOf (s : String) : Except UsageFault Scope :=
  match Scope.ofName? (String.ofList (s.toList.map Char.toLower)) with
  | some scope => .ok scope
  | none => .error (.unknownScope s)

def existingFile (files : FileTree) (s : String) : Except UsageFault Unit :=
  match files.kindOf s with
  | .file => .ok ()
  | .directory => .error (.isDirectory s)
  | .missing => .error (.notFound s)

def noDirectory (files : FileTree) (s : String) : Except UsageFault Unit :=
  match files.kindOf s with
  | .directory => .error (.isDirectory s)
  | _ => .ok ()

def optionsOf (files : FileTree) (ws : List Word) : Except UsageFault Options := do
  let path ← match paths ws with
    | [path] => pure path
    | [] => throw .missingPath
    | _ :: extra :: _ => throw (.extraPath extra)
  existingFile files path
  let scope ← (lastValue .scope ws).mapM scopeOf
  let output := lastValue .output ws
  if let some s := output then noDirectory files s
  let config := lastValue .config ws
  if let some s := config then existingFile files s
  return {
    path, scope, output, config
    json := hasFlag .json ws
    members := lastMembers ws
    failFast := hasFlag .failFast ws
    verbose := hasFlag .verbose ws }

/-- What arguments ask for.  The first one to ask for the version or for help is answered,
whatever else there is. -/
def request (files : FileTree) (arguments : List String) : Except UsageFault Request := do
  let ws ← words arguments
  match ws.find? fun w => w = .flag .version ∨ w = .flag .help with
  | some (.flag .version) => return .version
  | some _ => return .help
  | none => return .scan (← optionsOf files ws)

end Command

end DexRefs
