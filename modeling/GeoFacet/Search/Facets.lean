import GeoFacet.Facet.Plan
import GeoFacet.Search.Query

/-!
# Search facets

Each level of a plan becomes one bucket aggregation under the name of the level. The metrics,
geometries and documents of its buckets are sub-aggregations, and so is the next level.
-/

namespace GeoFacet.Search

/-- An aggregation. -/
inductive Aggregation where
  /-- a function over one field -/
  | metric (function : CollectFunction) (field : String)
  /-- documents of the bucket, showing the given paths or all -/
  | topHits (size : Nat) (paths : Option (List String)) (sort : List SortKey)
  /-- the buckets of a level with their sub-aggregations by name -/
  | buckets (level : FacetLevel) (subs : List (String × Aggregation))
  deriving Inhabited

namespace Aggregation

/-- The name of a function in the query language. -/
def functionName : CollectFunction → String
  | .geoBBox => "geo_bounds"
  | .geoCentroid => "geo_centroid"
  | f => f.name

def orderJson : BucketOrder → Json
  | .key o => single "_key" (.text o.name)
  | .count o => single "_count" (.text o.name)
  | .metric name o => single name (.text o.name)

/-- The length of a date interval: a calendar unit counts once. -/
def intervalText (unit : DateUnit) (multiplier : Nat) : String :=
  (if unit.isCalendar then "1" else toString multiplier) ++ unit.suffix

/-- The name of the aggregation that forms the buckets of a kind. -/
def kindName : FacetKind → String
  | .dateHistogram .. => "date_histogram"
  | .histogram _ => "histogram"
  | .term => "terms"
  | .geohash _ => "geohash_grid"
  | .geotile _ => "geotile_grid"

/-- What forms the buckets of a kind, beside the field. -/
def kindMembers (pattern : Option String) : FacetKind → List (String × Option Json)
  | .dateHistogram unit multiplier =>
    [(if unit.isCalendar then "calendar_interval" else "fixed_interval",
      some (.text (intervalText unit multiplier)))]
  | .histogram interval => [("interval", some (.ofFloat interval))]
  | .term => [("include", pattern.map Json.text)]
  | .geohash p | .geotile p => [("precision", some (.ofNat p))]

/-- The body that forms the buckets of a level. -/
def bodyJson (l : FacetLevel) : Json :=
  .ofPresent ([("field", some (.text l.field))] ++ kindMembers l.pattern l.kind ++
    [("size", l.size.map Json.ofNat), ("order", l.order.map orderJson)])

mutual

/-- The document form of an aggregation. -/
def toJson (centroidPath : String) : Aggregation → Json
  | .metric function field => single (functionName function) (single "field" (.text field))
  | .topHits size paths sort =>
    single "top_hits" (.ofPresent [
      ("size", some (.ofNat size)),
      ("_source", paths.map fun ps => single "includes" (.list (ps.map Json.text))),
      ("sort",
        if sort.isEmpty then none else some (.list (sort.map (sortJson centroidPath))))])
  | .buckets level subs =>
    .ofPresent [
      (kindName level.kind, some (bodyJson level)),
      ("aggs",
        if subs.isEmpty then none else some (.ofMembers (toJsonMembers centroidPath subs)))]

def toJsonMembers (centroidPath : String) : List (String × Aggregation) → List (String × Json)
  | [] => []
  | (name, a) :: rest => (name, toJson centroidPath a) :: toJsonMembers centroidPath rest

end

/-- The function that computes an aggregated geometry. -/
def geometryFunction : AggregatedGeometry → CollectFunction
  | .bbox => .geoBBox
  | _ => .geoCentroid

/-- The documents that a group of raw geometries is taken from. The centroid stands in for documents
that lack the geometry. -/
def ofRawGroup (c : Collection) (g : RawGeometryGroup) : Aggregation :=
  .topHits 1
    (some (if g.paths.contains c.centroidPath then g.paths else g.paths ++ [c.centroidPath]))
    g.sortKeys

/-- The fetched documents; all paths are shown where none is named. -/
def ofFetch (f : FetchPlan) : Aggregation :=
  .topHits f.size (if f.paths.isEmpty then none else some f.paths) f.sortKeys

/-- The sub-aggregations of a level, without the next level. -/
def levelSubs (c : Collection) (l : FacetLevel) : List (String × Aggregation) :=
  (l.ownMetrics.map fun m => (m.name, metric m.function m.field)) ++
    (l.computedGeometries.map fun g =>
      (aggregatedGeometryName g, metric (geometryFunction g) c.centroidPath)) ++
    (l.rawGeometries.map fun g => (g.name, ofRawGroup c g)) ++
    (l.fetch.map fun f => (fetchedHitsName, ofFetch f)).toList

/-- The named aggregation of the first of some levels, the others inside. -/
def ofLevels (c : Collection) : List FacetLevel → List (String × Aggregation)
  | [] => []
  | l :: below => [(l.name, .buckets l (levelSubs c l ++ ofLevels c below))]

/-- The name of a computed value. -/
def computationName : String := "computation"

/-- The names of the smallest and the greatest value of a span. -/
def computationMinName : String := "computation_min"

def computationMaxName : String := "computation_max"

/-- The aggregations of a computation. -/
def ofComputation (field : String) (metric : ComputationMetric) : List (String × Aggregation) :=
  match metric.function? with
  | some function => [(computationName, .metric function field)]
  | none => [(computationMinName, .metric .min field), (computationMaxName, .metric .max field)]

end Aggregation

end GeoFacet.Search
