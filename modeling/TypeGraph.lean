import TypeGraph.Json.Merge
import TypeGraph.Loader.Draft
import TypeGraph.Log.Call
import TypeGraph.Main
import TypeGraph.Proofs.Command.Delivery
import TypeGraph.Proofs.Command.Logging
import TypeGraph.Proofs.Command.Rejection
import TypeGraph.Proofs.Grouping
import TypeGraph.Proofs.Imports
import TypeGraph.Proofs.Loader.Files
import TypeGraph.Proofs.Loader.Locality
import TypeGraph.Proofs.Loader.Metadata
import TypeGraph.Proofs.Loader.Nesting
import TypeGraph.Proofs.Loader.Origins
import TypeGraph.Proofs.Report
import TypeGraph.Proofs.Report.Identifiers
import TypeGraph.Proofs.Report.Options
import TypeGraph.Proofs.Session.Permanence
