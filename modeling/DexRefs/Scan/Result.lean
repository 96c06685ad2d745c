import DexRefs.Calendar
import DexRefs.Image.Tables
import DexRefs.Reference
import DexRefs.Scope
import DexRefs.Total

/-!
Results of scans: one entry for each image, and the whole of a file.
-/

set_option autoImplicit false

namespace DexRefs

/-- What was found in one image.  An entry with an error is failed, whatever the error says. -/
structure ImageResult where
  source : String
  scope : Scope := .all
  version : String := ""
  order : String := ""
  counts : Counts := {}
  classes : List ClassRef := []
  error : Option String := none
  errorKind : Option String := none
  errorOffset : Option Int := none
  deriving DecidableEq, Repr

namespace ImageResult

def ok (r : ImageResult) : Bool :=
  r.error.isNone

def internalClasses (r : ImageResult) : Nat :=
  r.classes.countP (·.internal)

def externalClasses (r : ImageResult) : Nat :=
  r.classes.countP (!·.internal)

def fieldRefs (r : ImageResult) : Nat :=
  total (r.classes.map (·.fields.length))

def methodRefs (r : ImageResult) : Nat :=
  total (r.classes.map (·.methods.length))

end ImageResult

structure Tally where
  images : Nat
  decoded : Nat
  failed : Nat
  classes : Nat
  fields : Nat
  methods : Nat
  deriving DecidableEq, Repr

def Tally.text (n : Tally) : String :=
  let number (name : String) (n : Nat) : String := name ++ ": " ++ decimal n
  " | ".intercalate
    [number "DEX images" n.images, number "Decoded" n.decoded, number "Failed" n.failed,
     number "Classes" n.classes, number "Fields" n.fields, number "Methods" n.methods]

structure ScanResult where
  target : String
  scope : Scope := .all
  started : Moment
  finished : Option Moment := none
  results : List ImageResult := []
  summary : String := ""
  deriving DecidableEq, Repr

namespace ScanResult

def duration? (r : ScanResult) : Option Int :=
  r.finished.map fun m => m.micros - r.started.micros

def failed (r : ScanResult) : List ImageResult :=
  r.results.filter (!·.ok)

def decoded (r : ScanResult) : List ImageResult :=
  r.results.filter (·.ok)

/-- There were images, and none was decoded. -/
def allFailed (r : ScanResult) : Bool :=
  !r.results.isEmpty && r.failed.length == r.results.length

/-- Members and classes are counted in decoded images only. -/
def tally (r : ScanResult) : Tally :=
  let sum (f : ImageResult → Nat) : Nat := total (r.decoded.map f)
  { images := r.results.length
    decoded := r.decoded.length
    failed := r.failed.length
    classes := sum (·.classes.length)
    fields := sum (·.fieldRefs)
    methods := sum (·.methodRefs) }

/-- Closes the result: its end and its summary. -/
def finish (r : ScanResult) (now : Moment) : ScanResult :=
  { r with finished := some now, summary := r.tally.text }

end ScanResult

end DexRefs
