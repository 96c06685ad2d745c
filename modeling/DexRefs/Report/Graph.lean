import DexRefs.Graph.GraphML
import DexRefs.Scan.Result

/-!
The reference graph of a whole scan: the union of the graphs of its decoded images, where each
node tells the last image that has it.
-/

set_option autoImplicit false

namespace DexRefs.Report

def imageGraph (r : ImageResult) : Graph :=
  (Graph.ofListing r.classes).fromSource r.source

/-- The union of the graphs of the decoded images. -/
def graph (r : ScanResult) : Graph :=
  r.decoded.foldl (fun g i => g.union (imageGraph i)) {}

end DexRefs.Report
