import FrontendPolicy.Main
import FrontendPolicy.Session
import FrontendPolicy.Proofs.Json.Literal
import FrontendPolicy.Proofs.Json.Token
import FrontendPolicy.Proofs.Json.Skip
import FrontendPolicy.Proofs.Json.Reader
import FrontendPolicy.Proofs.Json.Record
import FrontendPolicy.Proofs.Json.Written
import FrontendPolicy.Proofs.Json.Ensures
import FrontendPolicy.Proofs.Json.Rearranged
import FrontendPolicy.Proofs.Json.Placed
import FrontendPolicy.Proofs.Text.Utf8
import FrontendPolicy.Proofs.Text.Lossy
import FrontendPolicy.Proofs.Path
import FrontendPolicy.Proofs.Inputs
import FrontendPolicy.Proofs.Action.Spelling
import FrontendPolicy.Proofs.Options.Changes
import FrontendPolicy.Proofs.Options.Meaning
import FrontendPolicy.Proofs.Options.Rearranged
import FrontendPolicy.Proofs.Options.RoundTrip
import FrontendPolicy.Proofs.Options.Loading
import FrontendPolicy.Proofs.Options.Independence
import FrontendPolicy.Proofs.Options.EmptyPaths
import FrontendPolicy.Proofs.Options.Saving
import FrontendPolicy.Proofs.Options.Unused
import FrontendPolicy.Proofs.Store
import FrontendPolicy.Proofs.Session
import FrontendPolicy.Proofs.Session.Failed
import FrontendPolicy.Proofs.Command.Grammar
import FrontendPolicy.Proofs.Command.Line
import FrontendPolicy.Proofs.Json.Unambiguous
import FrontendPolicy.Proofs.Report.Printed
import FrontendPolicy.Proofs.Command.Check
import FrontendPolicy.Proofs.Command.Events
import FrontendPolicy.Proofs.Program
import FrontendPolicy.Proofs.Options.ArtifactName
import FrontendPolicy.Proofs.Report.Listing
import FrontendPolicy.Proofs.Json.Forms
import FrontendPolicy.Proofs.Options.Forms
import FrontendPolicy.Proofs.Json.Redundant
import FrontendPolicy.Proofs.Options.Redundant
import FrontendPolicy.Proofs.Json.Layout
import FrontendPolicy.Proofs.Report.Json
import FrontendPolicy.Proofs.Command.Layout
import FrontendPolicy.Proofs.Text.LowerForms
import FrontendPolicy.Proofs.Action.NormalForm
import FrontendPolicy.Proofs.Action.Literal
import FrontendPolicy.Proofs.Path.Steps
import FrontendPolicy.Proofs.Options.Equality
import FrontendPolicy.Proofs.Path.Shown
import FrontendPolicy.Proofs.Options.Shown
import FrontendPolicy.Proofs.Options.Enumeration
import FrontendPolicy.Proofs.Options.SingleOutput
import FrontendPolicy.Proofs.Command.Row
