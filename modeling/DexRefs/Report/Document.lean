import DexRefs.Json
import DexRefs.Scan.Result

/-!
The full result of a scan as one document, for other programs to read.
-/

set_option autoImplicit false

namespace DexRefs.Report

def optional {α : Type} (f : α → Value) : Option α → Value
  | some a => f a
  | none => .null

def number (n : Nat) : Value :=
  .int n

def fieldValue (f : FieldRef) : Value :=
  .table
    [("declaring_class", .text f.declaringClass), ("name", .text f.name),
     ("type_name", .text f.typeName), ("internal", .bool f.internal)]

def methodValue (m : MethodRef) : Value :=
  .table
    [("declaring_class", .text m.declaringClass), ("name", .text m.name),
     ("argument_types", .list (m.argumentTypes.map .text)),
     ("return_type", .text m.returnType), ("internal", .bool m.internal)]

def classValue (c : ClassRef) : Value :=
  .table
    [("name", .text c.name), ("internal", .bool c.internal),
     ("fields", .list (c.fields.map fieldValue)),
     ("methods", .list (c.methods.map methodValue))]

def countsValue (c : Counts) : Value :=
  .table
    [("strings", number c.strings), ("types", number c.types), ("protos", number c.protos),
     ("fields", number c.fields), ("methods", number c.methods),
     ("class_defs", number c.classDefs)]

def imageValue (r : ImageResult) : Value :=
  .table
    [("source", .text r.source), ("scope", .text r.scope.name), ("version", .text r.version),
     ("endian", .text r.order), ("counts", countsValue r.counts),
     ("classes", .list (r.classes.map classValue)),
     ("error", optional .text r.error), ("error_kind", optional .text r.errorKind),
     ("error_offset", optional .int r.errorOffset)]

def scanValue (r : ScanResult) : Value :=
  .table
    [("target", .text r.target), ("scope", .text r.scope.name),
     ("start_time", .text r.started.isoShort),
     ("end_time", optional (fun m => .text m.isoShort) r.finished),
     ("results", .list (r.results.map imageValue)), ("summary", .text r.summary)]

def seconds (micros : Int) : Value :=
  .float (Binary64.ofRatio (micros < 0) micros.natAbs 1000000)

def durationValue (r : ScanResult) : Value :=
  optional seconds r.duration?

def document (generated : Moment) (r : ScanResult) : Value :=
  .table
    [("generated_at", .text generated.iso), ("duration_seconds", durationValue r),
     ("scan", scanValue r)]

def documentText (generated : Moment) (r : ScanResult) : String :=
  Json.indented 0 (document generated r)

end DexRefs.Report
