import GeoFacet.Facet.Vocabulary
import GeoFacet.Json.Decode

/-!
# Facet specifications

A request lists one specification for each level of its facets; every level divides the buckets of
the level before it.
-/

namespace GeoFacet

/-- A metric to collect; a complete one has both parts. -/
structure MetricSpec where
  field : Option String
  function : Option CollectFunction
  deriving DecidableEq, Repr, Inhabited

/-- A geometry to take from a document that represents the bucket. -/
structure RawGeometrySpec where
  path : String
  /-- the sort that picks the document -/
  sort : Option String
  deriving DecidableEq, Repr, Inhabited

/-- Documents to fetch for each bucket. -/
structure FetchSpec where
  size : Nat
  /-- the paths to show; a sign in front of a path sorts on it too -/
  paths : List String
  deriving DecidableEq, Repr, Inhabited

/-- One level of facets. -/
structure FacetSpec where
  type : FacetType
  field : Option String
  interval : Option String
  format : Option String
  metrics : List MetricSpec
  order : Option Order
  on : Option OrderOn
  size : Option Nat
  /-- the pattern that the keys of a term level must match -/
  pattern : Option String
  aggregatedGeometries : List AggregatedGeometry
  rawGeometries : List RawGeometrySpec
  fetch : Option FetchSpec
  deriving DecidableEq, Repr, Inhabited

/-! ## Documents -/

namespace MetricSpec

def ofJson? (emptyIsNull : Bool) (v : Json) : Option MetricSpec := do
  let fs ← v.fields? ["collect_field", "collect_fct"]
  some {
    field := ← fs.optional "collect_field" Json.asText?
    function := ← fs.optional "collect_fct" (Json.word? emptyIsNull) }

def toJson (m : MetricSpec) : Json :=
  .ofMembers [
    ("collect_field", .ofOption Json.text m.field),
    ("collect_fct", .ofOption Json.ofWord m.function)]

end MetricSpec

namespace RawGeometrySpec

def ofJson? (v : Json) : Option RawGeometrySpec := do
  let fs ← v.fields? ["geometry", "sort"]
  some {
    path := ← fs.required "geometry" Json.asText?
    sort := ← fs.optional "sort" Json.asText? }

def toJson (g : RawGeometrySpec) : Json :=
  .ofMembers [("geometry", .text g.path), ("sort", .ofOption Json.text g.sort)]

end RawGeometrySpec

namespace FetchSpec

def ofJson? (v : Json) : Option FetchSpec := do
  let fs ← v.fields? ["size", "include"]
  some {
    size := ← fs.required "size" Json.asNat?
    paths := ← fs.defaulted "include" [] (Json.listOf? Json.asText?) }

def toJson (f : FetchSpec) : Json :=
  .ofMembers [("size", .ofNat f.size), ("include", .list (f.paths.map Json.text))]

end FetchSpec

namespace FacetSpec

def keys : List String :=
  ["type", "field", "interval", "format", "metrics", "order", "on", "size", "include",
    "aggregated_geometries", "raw_geometries", "fetch_hits"]

def ofJson? (emptyIsNull : Bool) (v : Json) : Option FacetSpec := do
  let fs ← v.fields? keys
  some {
    type := ← fs.required "type" (Json.word? emptyIsNull)
    field := ← fs.optional "field" Json.asText?
    interval := ← fs.optional "interval" Json.asText?
    format := ← fs.optional "format" Json.asText?
    metrics := ← fs.defaulted "metrics" [] (Json.listOf? (MetricSpec.ofJson? emptyIsNull))
    order := ← fs.optional "order" (Json.word? emptyIsNull)
    on := ← fs.optional "on" (Json.word? emptyIsNull)
    size := ← fs.optional "size" Json.asNat?
    pattern := ← fs.optional "include" Json.asText?
    aggregatedGeometries :=
      ← fs.defaulted "aggregated_geometries" [] (Json.listOf? (Json.word? emptyIsNull))
    rawGeometries := ← fs.defaulted "raw_geometries" [] (Json.listOf? RawGeometrySpec.ofJson?)
    fetch := ← fs.optional "fetch_hits" FetchSpec.ofJson? }

def toJson (s : FacetSpec) : Json :=
  .ofMembers [
    ("type", .ofWord s.type),
    ("field", .ofOption Json.text s.field),
    ("interval", .ofOption Json.text s.interval),
    ("format", .ofOption Json.text s.format),
    ("metrics", .list (s.metrics.map MetricSpec.toJson)),
    ("order", .ofOption Json.ofWord s.order),
    ("on", .ofOption Json.ofWord s.on),
    ("size", .ofOption Json.ofNat s.size),
    ("include", .ofOption Json.text s.pattern),
    ("aggregated_geometries", .list (s.aggregatedGeometries.map Json.ofWord)),
    ("raw_geometries", .list (s.rawGeometries.map RawGeometrySpec.toJson)),
    ("fetch_hits", .ofOption FetchSpec.toJson s.fetch)]

end FacetSpec

end GeoFacet
