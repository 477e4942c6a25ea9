import SearchQuery.Json.Reading
import SearchQuery.Query.Combination
import SearchQuery.Query.Location
import SearchQuery.Options.Decode
import SearchQuery.Options.Loading
import SearchQuery.Range.Positional
import SearchQuery.Constraint.Basic
import SearchQuery.Geo.Constraint
import SearchQuery.Search
import SearchQuery.Proofs.Arguments
import SearchQuery.Proofs.CallingForms
import SearchQuery.Proofs.Events
import SearchQuery.Proofs.Folding
import SearchQuery.Proofs.Number.Integer
import SearchQuery.Proofs.Json.Equality
import SearchQuery.Proofs.Json.Token
import SearchQuery.Proofs.Json.RoundTrip
import SearchQuery.Proofs.Text.Blank
import SearchQuery.Proofs.Options.RoundTrip
import SearchQuery.Proofs.Options.Environment
import SearchQuery.Proofs.Options.Texts
import SearchQuery.Proofs.Options.Variables
import SearchQuery.Proofs.Options.Language
import SearchQuery.Proofs.Options.Envelope
import SearchQuery.Proofs.Constraint.Custom
import SearchQuery.Proofs.Constraint.Distinct
import SearchQuery.Proofs.Constraint.Merging
import SearchQuery.Proofs.Constraint.Name
import SearchQuery.Proofs.Constraint.Range
import SearchQuery.Proofs.Constraint.Value
import SearchQuery.Proofs.Geo.ShapeSet
import SearchQuery.Proofs.Geo.Built
import SearchQuery.Proofs.Geo.Coherence
import SearchQuery.Proofs.Geo.Partition
import SearchQuery.Proofs.Query.Agreement
import SearchQuery.Proofs.Query.Equality
import SearchQuery.Proofs.Query.Directory
import SearchQuery.Proofs.Query.Expression
import SearchQuery.Proofs.Range.Body
import SearchQuery.Proofs.Range.Distinct
import SearchQuery.Proofs.Range.Element
import SearchQuery.Proofs.Range.Name
import SearchQuery.Proofs.Range.NormalForm
import SearchQuery.Proofs.Range.Positional
import SearchQuery.Proofs.Search
import SearchQuery.Proofs.Unwrapping
