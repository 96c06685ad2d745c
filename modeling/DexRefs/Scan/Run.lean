import DexRefs.Container
import DexRefs.Scan.Result
import DexRefs.Settings

/-!
Scanning the images of a file.  Each image is decoded on its own: one that is malformed becomes a
failed entry, unless the scan is to fail fast, and then its fault ends the scan.  What happens to
each image is logged in the course of an operation named after it.
-/

set_option autoImplicit false

namespace DexRefs

/-- The times that a scan notes: when it started and finished, and how long the decoding of an
image took, in thousandths of a second. -/
structure Clock where
  started : Moment
  finished : Moment
  lap : String → Nat := fun _ => 0

/-- A named source whose bytes are those of one of `n` streams. -/
structure StreamSource (n : Nat) where
  name : String
  stream : Fin n
  deriving DecidableEq, Repr

def StreamSource.source {n : Nat} (contents : Vector Bytes n) (h : StreamSource n) : Source :=
  ⟨h.name, contents[h.stream]⟩

namespace Scan

def tablesLogger : String := "dexdeps.tables"

def tool : String := "dexdeps"

def secondsText (thousandths : Nat) : String :=
  decimal (thousandths / 1000) ++ "." ++ decimalPadded 3 (thousandths % 1000)

def resolveScope (asked setting : Value) : Except ScanFault Scope :=
  let v := if asked.truthy then asked else setting
  match v with
  | .text s =>
    match Scope.ofName? s with
    | some scope => .ok scope
    | none => .error (.scope v)
  | _ => .error (.scope v)

def listParts (p : Header × Tables) (scope : Scope) : Except LoadFault (Image × List ClassRef) := do
  let image ← Image.ofParts p
  let classes ← (image.references scope).mapError .listing
  pure (image, classes)

def decodedEntry (name : String) (scope : Scope) (image : Image) (classes : List ClassRef) :
    ImageResult :=
  { source := name, scope
    version := image.header.version.digits
    order := image.header.order.name
    counts := image.tables.counts
    classes }

def failedEntry (name : String) (scope : Scope) (f : Fault) : ImageResult :=
  { source := name, scope
    error := some f.message
    errorKind := some f.kind
    errorOffset := some f.offset }

def tablesMessage (c : Counts) : String :=
  "Loaded tables: " ++ decimal c.strings ++ " strings, " ++ decimal c.types ++ " types, " ++
    decimal c.protos ++ " protos, " ++ decimal c.fields ++ " fields, " ++ decimal c.methods ++
    " methods, " ++ decimal c.classDefs ++ " class defs"

def decodedMessage (name : String) (image : Image) (classes : List ClassRef) : String :=
  "DEX " ++ name ++ ": version " ++ image.header.version.digits ++ ", " ++
    image.header.order.name ++ "-endian, " ++ decimal classes.length ++ " class reference(s)"

def failureContext (name : String) (f : Fault) : Value :=
  .table [("source", .text name), ("error_kind", .text f.kind), ("offset", .int f.offset)]

/-- Decodes an image from a stream that stands at `pos`, and logs that its tables were loaded. -/
def decodeLogged (b : Bytes) (pos : Nat) (scope : Scope) :
    Logged ScanFault (Image × List ClassRef) := do
  match (Image.partsFrom b pos).1 with
  | .error f => throw (.load (.malformed f))
  | .ok p =>
    Logged.note tablesLogger .debug (tablesMessage p.2.counts)
    match listParts p scope with
    | .ok r => pure r
    | .error f => throw (.load f)

def timedDecode (clock : Clock) (s : Source) (pos : Nat) (scope : Scope) :
    Logged ScanFault (Image × List ClassRef) := do
  let label := "decode " ++ s.name
  Logged.log tool .debug ("Started: " ++ label)
  Logged.followedBy (decodeLogged s.bytes pos scope)
    (Logged.log tool .info
      ("Completed: " ++ label ++ " (" ++ secondsText (clock.lap s.name) ++ " sec)"))

def scanSource (clock : Clock) (failFast : Bool) (scope : Scope) (s : Source) (pos : Nat) :
    Logged ScanFault ImageResult :=
  Logged.within ("decode:" ++ s.name) do
    match ← Logged.attempt (timedDecode clock s pos scope) with
    | .ok (image, classes) =>
      Logged.log tool .debug (decodedMessage s.name image classes)
      pure (decodedEntry s.name scope image classes)
    | .error (.load (.malformed f)) =>
      if failFast then throw (.load (.malformed f))
      else
        Logged.log tool .error ("Failed to decode " ++ s.name ++ ": " ++ f.message)
          (some (failureContext s.name f))
        pure (failedEntry s.name scope f)
    | .error f => throw f

/-- Scans one source after the other.  Decoding moves the stream of a source, which later sources
may share. -/
def scanAll (clock : Clock) (failFast : Bool) (scope : Scope) {n : Nat}
    (contents : Vector Bytes n) :
    (positions : Vector Nat n) → List (StreamSource n) → Logged ScanFault (List ImageResult)
  | _, [] => pure []
  | positions, h :: hs => do
    let s := h.source contents
    let pos := positions[h.stream]
    let r ← scanSource clock failFast scope s pos
    let rs ← scanAll clock failFast scope contents
      (positions.set h.stream (Image.partsFrom s.bytes pos).2) hs
    pure (r :: rs)

def streams (clock : Clock) (settings : ScanSettings) (asked : Value) (target : String) {n : Nat}
    (contents : Vector Bytes n) (positions : Vector Nat n) (hs : List (StreamSource n)) :
    Logged ScanFault ScanResult := do
  let scope ← match resolveScope asked settings.scope with
    | .ok scope => pure scope
    | .error f => throw f
  let results ← scanAll clock settings.failFast.truthy scope contents positions hs
  let result := ScanResult.finish { target, scope, started := clock.started, results }
    clock.finished
  Logged.log tool .info result.summary
  pure result

def sources (clock : Clock) (settings : ScanSettings) (asked : Value) (target : String)
    (ss : List Source) : Logged ScanFault ScanResult :=
  streams clock settings asked target (Vector.ofFn fun i => ss[i].bytes)
    (Vector.replicate ss.length 0) (List.ofFn fun i => ⟨ss[i].name, i⟩)

def startRecord (path : String) : Record :=
  { level := .info, logger := tool, tool, message := "Starting reference scan of " ++ path }

def file (clock : Clock) (settings : ScanSettings) (asked : Value) (files : FileTree)
    (path : String) : Logged ScanFault ScanResult := do
  Logged.log tool .info (startRecord path).message
  let ss ← Container.openPath files path ⟨settings.maxFileSize, settings.maxDexEntries⟩
  sources clock settings asked path ss

end Scan

end DexRefs
