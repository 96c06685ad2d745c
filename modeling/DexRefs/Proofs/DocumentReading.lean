import DexRefs.Proofs.JsonText

/-!
Reading results back from their documents.  A document is read as any JSON text is, by the names of
its members alone; the scan that it tells of is the one that it was written for, with its times as
texts.
-/

set_option autoImplicit false

namespace DexRefs.Json

/-- What a document tells of a scan. -/
structure ScanReport where
  target : String
  scope : Scope
  started : String
  finished : Option String
  results : List ImageResult
  summary : String

def ScanReport.of (r : ScanResult) : ScanReport where
  target := r.target
  scope := r.scope
  started := r.started.isoShort
  finished := r.finished.map Moment.isoShort
  results := r.results
  summary := r.summary

namespace Datum

end Datum

open Datum

/-! ### What is written is read -/

end DexRefs.Json
