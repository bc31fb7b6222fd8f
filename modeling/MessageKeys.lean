import MessageKeys.Main
import MessageKeys.Pattern.Name
import MessageKeys.Proofs.Key.Length
import MessageKeys.Proofs.Key.Literal
import MessageKeys.Proofs.Key.RoundTrip
import MessageKeys.Proofs.Key.Slice
import MessageKeys.Proofs.Key.Tiling
import MessageKeys.Proofs.Key.Recut
import MessageKeys.Proofs.Key.Steps
import MessageKeys.Proofs.Resolve.LongestPrefix
import MessageKeys.Proofs.Resolve.Composition
import MessageKeys.Proofs.Resolve.Extremum
import MessageKeys.Proofs.Document.Agreement
import MessageKeys.Proofs.Document.Loading
import MessageKeys.Proofs.Document.Nodes
import MessageKeys.Proofs.Report.Completion
import MessageKeys.Proofs.Report.Verdict
import MessageKeys.Proofs.Report.Coverage
import MessageKeys.Proofs.Report.Extension
import MessageKeys.Proofs.Report.Listing
import MessageKeys.Proofs.Report.Highlight
import MessageKeys.Proofs.Command.ExitCode
import MessageKeys.Proofs.Command.Frame
import MessageKeys.Proofs.Config.Discovery
import MessageKeys.Proofs.Config.Fields
import MessageKeys.Proofs.Pattern.WholeName
