import GeoFacet.Main
import GeoFacet.Proofs.Facet.Assembling
import GeoFacet.Proofs.Filter.Agreement
import GeoFacet.Proofs.Search.Walk
import GeoFacet.Proofs.Sql.Keyset
import GeoFacet.Proofs.Validation
import GeoFacet.Proofs.Facet.WellFormed
import GeoFacet.Proofs.Facet.Entries
import GeoFacet.Proofs.Facet.Outputs
import GeoFacet.Proofs.Sorting.RoundTrip
import GeoFacet.Proofs.Filter.Dates
import GeoFacet.Proofs.Facet.Patterns
import GeoFacet.Proofs.Sql.CleanText
import GeoFacet.Proofs.Sql.Placeholders
import GeoFacet.Proofs.Sql.Binding
import GeoFacet.Proofs.Sql.Forms
import GeoFacet.Proofs.Sql.Parameters
import GeoFacet.Proofs.Filter.Equality
import GeoFacet.Proofs.Sql.WellFormed
import GeoFacet.Proofs.Sql.Steps
import GeoFacet.Proofs.Json.Decoding
import GeoFacet.Proofs.SharedRecords
import GeoFacet.Proofs.Documents
import GeoFacet.Proofs.ResultFaults
import GeoFacet.Proofs.Session
import GeoFacet.Proofs.Facet.Nodes
import GeoFacet.Proofs.Facet.Nesting
import GeoFacet.Proofs.Json.Equality
import GeoFacet.Proofs.Facet.Metrics
import GeoFacet.Proofs.Sorting.Reversal
import GeoFacet.Proofs.Filter.Typing
import GeoFacet.Proofs.Decimal
import GeoFacet.Proofs.Filter.IntegerRanges
import GeoFacet.Proofs.Filter.RangeClauses
import GeoFacet.Proofs.Filter.Repetition
import GeoFacet.Proofs.Sql.BucketBounds
import GeoFacet.Proofs.Sql.DateWidths
import GeoFacet.Proofs.Facet.Shape
import GeoFacet.Proofs.Geo.BoxFilter
import GeoFacet.Proofs.Geo.Bounds
import GeoFacet.Proofs.Filter.Containing
import GeoFacet.Proofs.Geo.GeohashDoubles
import GeoFacet.Proofs.Geo.Tile
import GeoFacet.Proofs.Facet.Flattening
import GeoFacet.Proofs.Facet.RawGeometries
import GeoFacet.Proofs.Facet.Defaults
import GeoFacet.Proofs.Date.Directives
import GeoFacet.Proofs.Sql.Names
