import DexRefs.Log.Logger
import DexRefs.Template.Fill

/-!
Sessions of a logger: calls with a message, arguments for its template and named values, of which
some are instructions and the others become the context of the record; operations and timed
spans; and stretches in which an error is being handled.
-/

set_option autoImplicit false

namespace DexRefs

/-- A call.  One that `traces` logs the errors being handled unless told otherwise. -/
structure LogCall where
  level : Level
  traces : Bool := false
  message : Value
  arguments : List Value := []
  named : List (String × Value) := []
  deriving Repr

inductive LogStep where
  | call (c : LogCall)
  | operation (name : Option String) (steps : List LogStep)
  | timed (label : Value) (steps : List LogStep)
  | handling (r : Raised) (steps : List LogStep)
  deriving Inhabited

inductive CallFault where
  | nameTaken (name : String)
  | additionType
  | stackLevelType
  | reservedName (name : String)
  | template (f : Template.Fault)
  deriving DecidableEq, Repr

namespace LogCall

def instructions : List String :=
  ["exc_info", "stack_info", "stacklevel"]

def recordParts : List String :=
  ["name", "msg", "args", "levelname", "levelno", "pathname", "filename", "module", "exc_info",
   "exc_text", "stack_info", "lineno", "funcName", "created", "msecs", "relativeCreated", "thread",
   "threadName", "processName", "process", "message", "asctime"]

/-- What is added to the record beside the context. -/
def additions (c : LogCall) : Except CallFault (List (String × Value)) :=
  match c.named.lookup "extra" with
  | some (.table es) => .ok es
  | some v => if v.truthy then .error .additionType else .ok []
  | none => .ok []

def context (c : LogCall) (added : List (String × Value)) : Option Value :=
  let own := c.named.filter fun e => e.1 ≠ "extra" ∧ ¬instructions.contains e.1
  if own.isEmpty then added.lookup "deps_context" else some (.table own)

def checkStackLevel (c : LogCall) : Except CallFault Unit :=
  match c.named.lookup "stacklevel" with
  | none | some (.int _) | some (.bool _) | some (.float _) => .ok ()
  | some _ => .error .stackLevelType

def checkAdditions (added : List (String × Value)) : Except CallFault Unit :=
  match added.find? fun e => recordParts.contains e.1 with
  | some e => .error (.reservedName e.1)
  | none => .ok ()

def isTraced (c : LogCall) : Bool :=
  match c.named.lookup "exc_info" with
  | some v => v.truthy
  | none => c.traces

/-- The record of a call, if the logger passes it and its template can be filled.  A template that
cannot be filled is a fault of the call where the logger has a console. -/
def record? (l : Logger) (operation : Option String) (raised : List Raised) (c : LogCall) :
    Except CallFault (Option Record) := do
  if let some e := c.named.find? fun e => ["self", "msg"].contains e.1 then
    throw (.nameTaken e.1)
  let added ← c.additions
  if ¬l.passes c.level then return none
  c.checkStackLevel
  checkAdditions added
  match Template.fill c.message.display c.arguments with
  | .error f => if l.console then throw (.template f) else return none
  | .ok message =>
    return some
      { level := c.level, logger := l.name, tool := l.tool, message, operation
        context := c.context added
        raised := if c.isTraced then some raised else none }

end LogCall

namespace LogStep

structure Setting where
  logger : Logger
  moment : Moment
  seconds : String

abbrev Session := StateT FileTree (Except CallFault)

def runCall (s : Setting) (operation : Option String) (raised : List Raised) (c : LogCall) :
    Session Unit := do
  match ← liftM (c.record? s.logger operation raised) with
  | some r => modify fun t => s.logger.write s.moment t r
  | none => pure ()

def spanCall (level : Level) (before : String) (label : Value) (after : String) : LogCall :=
  { level, message := .text (before ++ label.display ++ after) }

mutual

def run (s : Setting) (operation : Option String) (raised : List Raised) :
    LogStep → Session Unit
  | .call c => runCall s operation raised c
  | .operation name steps => runAll s name raised steps
  | .timed label steps => do
    runCall s operation raised (spanCall .debug "Started: " label "")
    runAll s operation raised steps
    runCall s operation raised
      (spanCall .info "Completed: " label (" (" ++ s.seconds ++ " sec)"))
  | .handling r steps => runAll s operation (raised ++ [r]) steps

def runAll (s : Setting) (operation : Option String) (raised : List Raised) :
    List LogStep → Session Unit
  | [] => pure ()
  | step :: steps => do
    run s operation raised step
    runAll s operation raised steps

end

end LogStep

end DexRefs
