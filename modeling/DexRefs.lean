import DexRefs.Image.Step
import DexRefs.Log.Session
import DexRefs.Main
import DexRefs.Proofs.RoundTrip
import DexRefs.Proofs.Stability
import DexRefs.Proofs.FailFast
import DexRefs.Proofs.Scopes
import DexRefs.Proofs.FirstDefect
import DexRefs.Proofs.UnitText
import DexRefs.Proofs.RawImage
import DexRefs.Proofs.ArchiveFaults
import DexRefs.Proofs.MergedGraph
import DexRefs.Proofs.ListedNames
import DexRefs.Proofs.UsageRanking
import DexRefs.Proofs.NumberedEntries
import DexRefs.Proofs.EscapedText
import DexRefs.Proofs.ShownResults
import DexRefs.Proofs.CommandRun
import DexRefs.Proofs.NumberText
import DexRefs.Proofs.JsonText
import DexRefs.Proofs.ExitCode
import DexRefs.Proofs.StringOutcome
import DexRefs.Proofs.HeaderOutcome
import DexRefs.Proofs.Classification
import DexRefs.Proofs.UncheckedTables
import DexRefs.Proofs.ReportLines
import DexRefs.Proofs.ShownNames
import DexRefs.Proofs.GraphReading
import DexRefs.Proofs.OrderSwitches
import DexRefs.Proofs.NumberGroups
import DexRefs.Proofs.ScanTrace
