import GeoFacet.Facet.Assembly
import GeoFacet.Response.Computation
import GeoFacet.Response.Hits
import GeoFacet.Search.Facets

/-!
# Assembling search results

A search result nests the buckets of a level inside the bucket that they divide. The tree is built
level by level along the plan.
-/

namespace GeoFacet.Search

/-- The value at a path: the member of that very name, or the one that the parts between points lead
to unless it is null. -/
def lookup? (document : Json) (path : String) : Option Json :=
  match document.get? path with
  | some v => some v
  | none =>
    ((Text.split '.' path).foldlM (fun (v : Json) part => v.get? part) document).filter fun v => !v.isNull

/-- The total of a result, sent as a number or inside an object. -/
def totalHits (result : Json) : Nat :=
  let total := (result.member "hits").member "total"
  (asCount? total <|> asCount? (total.member "value")).getD 0

/-- The polygon of the bounds in a sub-result. -/
def boundsPolygon? (result : Json) : Option Json := do
  let bounds ← result.get? "bounds"
  let topLeft := bounds.member "top_left"
  let bottomRight := bounds.member "bottom_right"
  let west ← (topLeft.member "lon").asFloat?
  let south ← (bottomRight.member "lat").asFloat?
  let east ← (bottomRight.member "lon").asFloat?
  let north ← (topLeft.member "lat").asFloat?
  some (BoundingBox.polygonJson ⟨west, south, east, north⟩)

/-- The point of the centroid in a sub-result. -/
def centroidPoint? (result : Json) : Option Json := do
  let location ← result.get? "location"
  let lat ← (location.member "lat").asFloat?
  let lon ← (location.member "lon").asFloat?
  some (pointJson lat lon)

/-- The documents of a sub-result, none if it has no list of them. -/
def documents (result : Json) : List Json :=
  ((result.member "hits").member "hits").asList?.getD []

/-- The geometry at a path of a document, or else its centroid. -/
def rawShape? (c : Collection) (source : Json) (path : String) : Option Json :=
  (lookup? source path).bind Shape.normalize? <|>
    (lookup? source c.centroidPath).bind Shape.normalize?

/-- The raw geometries that a group takes from a bucket. -/
def rawGeometries (c : Collection) (bucket : Json) (g : RawGeometryGroup) : List BucketGeometry :=
  (documents (bucket.member g.name)).flatMap fun hit =>
    g.paths.filterMap fun path =>
      (rawShape? c (hit.member "_source") path).map fun json => ⟨path, json, true, g.sort⟩

/-- The value of a metric in a bucket; null where the bucket has none. -/
def metricOf (bucket : Json) (m : PlannedMetric) : MetricValue :=
  let result := bucket.member m.sourceName
  let value := match m.function with
    | .geoBBox => boundsPolygon? result
    | .geoCentroid => centroidPoint? result
    | _ => some (result.member "value")
  FacetLevel.metricValue m (value.getD .null)

/-- The geometry that a sub-result computes. -/
def computedShape? (bucket : Json) (g : AggregatedGeometry) : Option Json :=
  let result := bucket.member (aggregatedGeometryName g)
  match g with
  | .bbox => boundsPolygon? result
  | _ => centroidPoint? result

/-- A bucket without what is inside it. -/
def bucketAlone (c : Collection) (l : FacetLevel) (bucket : Json) : Outcome Bucket := do
  let key := bucket.member "key"
  let keyText ← l.keyText key
  let geometries ← l.geometriesOf key (computedShape? bucket)
  .ok {
    name := some l.name
    key := some key
    keyText := keyText <|> (bucket.member "key_as_string").asText?
    count := some ((asCount? (bucket.member "doc_count")).getD 0)
    metrics := l.metrics.map (metricOf bucket)
    geometries := geometries ++ l.rawGeometries.flatMap (rawGeometries c bucket)
    hits := if l.fetch.isSome then
        (documents (bucket.member fetchedHitsName)).map (·.member "_source")
      else [] }

/-- The buckets of the first of some levels in a container, with those of the others inside. -/
def buckets (c : Collection) : List FacetLevel → Json → Outcome (List Bucket)
  | [], _ => .ok []
  | l :: below, container => do
    let items ← orRefuse (.noBuckets l.name) (container.member "buckets").asList?
    items.mapM fun item => do
      let bucket ← bucketAlone c l item
      match below.head? with
      | none => .ok bucket
      | some child =>
        let inside ← orRefuse (.noChild l.name child.name) (item.get? child.name)
        let children ← buckets c below inside
        .ok { bucket with
          otherCount := child.otherCount (asCount? (inside.member "sum_other_doc_count"))
          children := children }

/-- The tree of a result. -/
def assembleFacets (c : Collection) (plan : FacetPlan) (result : Json) : Outcome Bucket := do
  let first ← orRefuse .noFacet plan.levels.head?
  let container ←
    orRefuse (.noFacetResult first.name) ((result.member "aggregations").get? first.name)
  let children ← buckets c plan.levels container
  .ok {
    name := some first.name
    total := some (totalHits result)
    otherCount := first.otherCount (asCount? (container.member "sum_other_doc_count"))
    children := children }

/-- The hit of a document. -/
def hit (c : Collection) (raw : Json) : Hit :=
  let source := raw.member "_source"
  {
    id := (lookup? source c.idPath).getD (raw.member "_id")
    geometry := (lookup? source c.geometryPath).bind Shape.normalize?
    centroid := (lookup? source c.centroidPath).bind Shape.normalize?
    timestamp := lookup? source c.timestampPath
    custom := c.customPaths.filterMap fun (name, path) => (lookup? source path).map (name, ·)
    data := source
    sort := (raw.member "sort").asList?.getD [] }

/-- The hits of a result, put back into the requested order after a scan the other way. -/
def assembleHits (c : Collection) (reverse : Bool) (result : Json) : Outcome Hits := do
  let items ← orRefuse .noHits ((result.member "hits").member "hits").asList?
  let hits := items.map (hit c)
  .ok ⟨totalHits result, if reverse then hits.reverse else hits⟩

/-- The value of a computation; none where no document matched. -/
def assembleComputation (field : String) (metric : ComputationMetric) (result : Json) :
    Computation :=
  let total := totalHits result
  let empty : Computation := ⟨field, metric, none, none, total, 0⟩
  let value (name : String) : Option Float :=
    (((result.member "aggregations").member name).member "value").asFloat?
  let whole := (result.member "aggregations").member Aggregation.computationName
  if total = 0 then empty
  else match metric with
    | .spanning =>
      match value Aggregation.computationMinName, value Aggregation.computationMaxName with
      | some min, some max => { empty with value := some (max - min) }
      | _, _ => empty
    | .geoBBox => { empty with geometry := boundsPolygon? whole }
    | .geoCentroid => { empty with geometry := centroidPoint? whole }
    | _ => { empty with value := value Aggregation.computationName }

end GeoFacet.Search
