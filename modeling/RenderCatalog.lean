import RenderCatalog.Machine
import RenderCatalog.Main
import RenderCatalog.Proofs.Artifact.Pool
import RenderCatalog.Proofs.Component.Phrase
import RenderCatalog.Proofs.Component.Plan
import RenderCatalog.Proofs.Component.Precedence
import RenderCatalog.Proofs.Conformance
import RenderCatalog.Proofs.Payload.Bounds
import RenderCatalog.Proofs.Payload.Callable
import RenderCatalog.Proofs.Payload.Closed
import RenderCatalog.Proofs.Payload.Rendered
import RenderCatalog.Proofs.Program.Validate
import RenderCatalog.Proofs.Program.Works
import RenderCatalog.Proofs.Report.Colour
import RenderCatalog.Proofs.Schema.Consistent
import RenderCatalog.Proofs.Schema.Described
import RenderCatalog.Proofs.Schema.RoundTrip
import RenderCatalog.Proofs.Settings.Extensions
import RenderCatalog.Proofs.Settings.Printed
import RenderCatalog.Proofs.Source.Comment
import RenderCatalog.Proofs.Source.Extract
import RenderCatalog.Proofs.Source.Listing
import RenderCatalog.Proofs.Source.WrittenProps
import RenderCatalog.Proofs.Sync.Lookup
import RenderCatalog.Proofs.Sync.Refused
