import DexRefs.Value

/-!
Log records and the trace that they form.  A reading, a scan or a whole run adds records to a
trace; an operation in whose course they are added is noted in them.
-/

set_option autoImplicit false

namespace DexRefs

inductive Level where
  | debug
  | info
  | warning
  | error
  deriving DecidableEq, Repr

def Level.number : Level → Nat
  | debug => 10
  | info => 20
  | warning => 30
  | error => 40

def Level.name : Level → String
  | debug => "DEBUG"
  | info => "INFO"
  | warning => "WARNING"
  | error => "ERROR"

structure Raised where
  origin : String
  error : String
  deriving DecidableEq, Repr

/-- What is logged at one time.  `tool` is the component that logs and `logger` the name under
which it does.  The errors being handled, the first one first, are logged where that is asked
for. -/
structure Record where
  level : Level
  logger : String
  tool : String
  message : String
  operation : Option String := none
  context : Option Value := none
  raised : Option (List Raised) := none
  deriving Repr

structure Trace where
  operation : Option String := none
  records : Array Record := #[]
  deriving Repr

/-- A computation that logs.  Its records are kept when it fails. -/
abbrev Logged (ε : Type) := EStateM ε Trace

namespace Logged

def add {ε : Type} (r : Record) : Logged ε Unit :=
  fun t => .ok () { t with records := t.records.push r }

def note {ε : Type} (logger : String) (level : Level) (message : String) : Logged ε Unit :=
  add { level, logger, tool := logger, message }

def log {ε : Type} (tool : String) (level : Level) (message : String)
    (context : Option Value := none) : Logged ε Unit :=
  fun t => add { level, logger := tool, tool, message, operation := t.operation, context } t

/-- Runs a computation as an operation.  However it ends, the operation before is the current one
again. -/
def within {ε α : Type} (operation : String) (act : Logged ε α) : Logged ε α :=
  fun t =>
    match act { t with operation := some operation } with
    | .ok a u => .ok a { u with operation := t.operation }
    | .error e u => .error e { u with operation := t.operation }

def followedBy {ε α : Type} (act : Logged ε α) (last : Logged ε Unit) : Logged ε α :=
  fun t =>
    match act t with
    | .ok a u => (do last; pure a) u
    | .error e u => (do last; throw e) u

def attempt {ε α : Type} (act : Logged ε α) : Logged ε (Except ε α) :=
  fun t =>
    match act t with
    | .ok a u => .ok (.ok a) u
    | .error e u => .ok (.error e) u

end Logged

end DexRefs
