import GeoFacet.Collection.Basic
import GeoFacet.Date.Format
import GeoFacet.Facet.Interval
import GeoFacet.Facet.Spec
import GeoFacet.Geo.Geohash
import GeoFacet.Geo.Tile
import GeoFacet.Sorting.Key
import GeoFacet.Text.Pattern

/-!
# Facet plans

A plan is the checked form of a list of facet specifications: every level has a closed kind, a field
of a suitable type, an order, and metrics and geometries whose sub-results have names of their own.
Backends see the plan and never the specifications, so both follow the same rules. The level of type
`t` at depth `d` is named `t_d`.
-/

namespace GeoFacet

/-- How the buckets of a level are formed, with the width of its buckets. -/
inductive FacetKind where
  | dateHistogram (unit : DateUnit) (multiplier : Nat)
  | histogram (interval : Float)
  | term
  | geohash (precision : Nat)
  | geotile (precision : Nat)
  deriving BEq, Inhabited

namespace FacetKind

def type : FacetKind → FacetType
  | dateHistogram .. => .dateHistogram
  | histogram _ => .histogram
  | term => .term
  | geohash _ => .geohash
  | geotile _ => .geotile

def isGeo (k : FacetKind) : Bool := k.type.isGeo

end FacetKind

/-- The order of the buckets of a level. -/
inductive BucketOrder where
  | key (order : Order)
  | count (order : Order)
  /-- on the metric of that name -/
  | metric (name : String) (order : Order)
  deriving DecidableEq, Repr, Inhabited

/-- Where the value of a metric is found. -/
inductive MetricSource where
  /-- in a sub-result of its own -/
  | own
  /-- in the sub-result of an aggregated geometry, which is computed once -/
  | geometry (g : AggregatedGeometry)
  deriving DecidableEq, Repr, Inhabited

/-- The name of a metric: its function and its field, points replaced. -/
def metricName (function : CollectFunction) (field : String) : String :=
  function.name ++ "_" ++ Text.substitute '.' '_' field

/-- The name of the sub-result that computes an aggregated geometry. -/
def aggregatedGeometryName (g : AggregatedGeometry) : String := g.name ++ "_aggregated_geometry"

/-- A metric of a level. -/
structure PlannedMetric where
  function : CollectFunction
  field : String
  name : String
  source : MetricSource
  deriving DecidableEq, Repr, Inhabited

namespace PlannedMetric

/-- The name of the sub-result that holds the value. -/
def sourceName (m : PlannedMetric) : String :=
  match m.source with
  | .own => m.name
  | .geometry g => aggregatedGeometryName g

end PlannedMetric

/-- Geometries taken from the documents that one sort picks. -/
structure RawGeometryGroup where
  name : String
  sort : Option String
  sortKeys : List SortKey
  paths : List String
  deriving BEq, Inhabited

/-- Documents fetched for each bucket. -/
structure FetchPlan where
  size : Nat
  paths : List String
  sortKeys : List SortKey
  deriving BEq, Inhabited

/-- One checked level. -/
structure FacetLevel where
  depth : Nat
  name : String
  kind : FacetKind
  field : String
  fieldType : FieldType
  /-- none on levels of cells -/
  order : Option BucketOrder
  size : Option Nat
  pattern : Option String
  /-- how the keys of a date histogram are shown -/
  format : String
  metrics : List PlannedMetric
  aggregatedGeometries : List AggregatedGeometry
  rawGeometries : List RawGeometryGroup
  fetch : Option FetchPlan
  deriving BEq, Inhabited

namespace FacetLevel

def type (l : FacetLevel) : FacetType := l.kind.type

/-- The metrics that have a sub-result of their own. -/
def ownMetrics (l : FacetLevel) : List PlannedMetric := l.metrics.filter (·.source = .own)

/-- The aggregated geometries that need a sub-result. -/
def computedGeometries (l : FacetLevel) : List AggregatedGeometry :=
  l.aggregatedGeometries.filter (!·.isCell)

end FacetLevel

/-- The checked levels, the outermost first. -/
structure FacetPlan where
  levels : List FacetLevel
  geo : Bool
  deriving BEq, Inhabited

/-- The name of the sub-result with the fetched documents. -/
def fetchedHitsName : String := "fetched_hits"

namespace FacetSpec

/-! ## The field of a level -/

/-- The field a level uses: the one it names, or else the timestamp or the centroid. -/
def resolveField (c : Collection) (s : FacetSpec) : Outcome String :=
  match s.field.filter fun f => !Text.isBlank f with
  | some field => .ok (Text.trim field)
  | none =>
    match s.type with
    | .dateHistogram => .ok c.timestampPath
    | .geohash | .geotile => .ok c.centroidPath
    | .histogram | .term => refuse (.missingFacetField s.type)

/-- Whether buckets of a type can be formed on a field of a type. -/
def suits (type : FacetType) (fieldType : FieldType) : Bool :=
  match type with
  | .dateHistogram => fieldType.isDate
  | .histogram => fieldType.isMeasure
  | .term => !fieldType.isGeometry && fieldType ≠ .object
  | .geohash | .geotile => fieldType.isPoint

def checkFieldType (type : FacetType) (field : String) (fieldType : FieldType) : Outcome Unit :=
  if suits type fieldType then .ok () else refuseField field (.fieldOnFacet field fieldType type)

/-! ## The kind of a level -/

/-- A precision between two bounds. -/
def precision (interval : String) (min max : Nat) : Outcome Nat :=
  match (readNat? (UInt8.size - 1) interval).filter fun p => min ≤ p ∧ p ≤ max with
  | some p => .ok p
  | none => refuse (.precision interval min max)

/-- A whole number of units; a calendar unit counts once. -/
def dateKind (interval : String) : Outcome FacetKind := do
  let parsed ← Interval.parse interval
  let unit ← orRefuse (.dateIntervalUnit interval) parsed.unit
  let multiplier ← orRefuse (.dateIntervalWhole interval) parsed.asNat?
  if unit.isCalendar && multiplier ≠ 1 then refuse (.calendarMultiple unit interval)
  else .ok (.dateHistogram unit multiplier)

/-- A number without a unit. -/
def histogramKind (interval : String) : Outcome FacetKind := do
  let parsed ← Interval.parse interval
  if parsed.unit.isSome then refuse (.histogramIntervalUnit interval)
  else .ok (.histogram parsed.value)

/-- The kind of a level. All types but terms need an interval. -/
def resolveKind (s : FacetSpec) : Outcome FacetKind :=
  match s.type, s.interval with
  | .term, some _ => refuse .intervalOnTerm
  | .term, none => .ok .term
  | type, interval =>
    match interval.filter fun i => !Text.isBlank i with
    | none => refuse (.missingInterval type)
    | some interval =>
      let interval := Text.trim interval
      match type with
      | .dateHistogram => dateKind interval
      | .histogram => histogramKind interval
      | .geohash => (precision interval 1 Geohash.maxPrecision).map .geohash
      | .geotile => (precision interval 0 Tile.maxZoom).map .geotile
      | .term => .ok .term

/-! ## Metrics and order -/

/-- Requires a field type that the function can be collected on. -/
def checkMetric (function : CollectFunction) (field : String) (type : FieldType) : Outcome Unit :=
  match function with
  | .geoBBox | .geoCentroid =>
    if type.isPoint then .ok () else refuseField field (.collectPoint function field type)
  | .avg | .max | .min | .sum =>
    if type.isMeasure then .ok () else refuseField field (.collectMeasure function field type)
  | .cardinality =>
    if type.isGeometry then refuseField field (.cardinalityOnGeometry field) else .ok ()

/-- The function and the trimmed field of a metric; none if both are missing. -/
def metricParts (m : MetricSpec) : Outcome (Option (CollectFunction × String)) :=
  match m.function, m.field with
  | some function, field =>
    match field.filter fun f => !Text.isBlank f with
    | some field => .ok (some (function, Text.trim field))
    | none => refuse .missingCollectField
  | none, some _ => refuse .missingCollectFunction
  | none, none => .ok none

/-- The metrics after those already planned. Of two with one name the first is kept. -/
def planMetrics (c : Collection) (planned : List PlannedMetric) :
    List MetricSpec → Outcome (List PlannedMetric)
  | [] => .ok planned
  | m :: rest => do
    match ← metricParts m with
    | none => planMetrics c planned rest
    | some (function, field) =>
      checkMetric function field (← c.fieldType field)
      let name := metricName function field
      if planned.any (·.name = name) then planMetrics c planned rest
      else planMetrics c (planned ++ [⟨function, field, name, .own⟩]) rest

/-- The geometry that a metric computes. -/
def geometryOf? : CollectFunction → Option AggregatedGeometry
  | .geoBBox => some .bbox
  | .geoCentroid => some .centroid
  | _ => none

/-- Takes the value of a geometry of the centroids from the aggregated geometry of that kind, if the
level computes it anyway. -/
def shareGeometry (c : Collection) (geometries : List AggregatedGeometry) (m : PlannedMetric) :
    PlannedMetric :=
  match geometryOf? m.function with
  | some g =>
    if m.field = c.centroidPath ∧ g ∈ geometries then { m with source := .geometry g } else m
  | none => m

/-- The order of the buckets. Terms go by falling count and histograms by rising key where nothing
is said. -/
def resolveOrder (s : FacetSpec) (metrics : List PlannedMetric) : Outcome (Option BucketOrder) :=
  if s.type.isGeo then
    if s.order.isSome || s.on.isSome then refuse (.orderOnCells s.type) else .ok none
  else
    match s.order, s.on with
    | none, none => .ok (some (if s.type = .term then .count .desc else .key .asc))
    | some order, some .field => .ok (some (.key order))
    | some order, some .count => .ok (some (.count order))
    | some order, some .result =>
      match metrics.find? fun m => !m.function.isGeo with
      | some m => .ok (some (.metric m.name order))
      | none => refuse .orderWithoutMetric
    | some _, none => refuse .orderWithoutOn
    | none, some _ => refuse .onWithoutOrder

/-! ## The other parts of a level -/

def checkSize (s : FacetSpec) : Outcome Unit :=
  if s.size.isSome && (s.type = .dateHistogram || s.type = .histogram) then
    refuse (.sizeOnFacet s.type)
  else if s.size = some 0 then refuse .sizeNotPositive
  else .ok ()

def checkPattern (s : FacetSpec) : Outcome Unit :=
  match s.pattern with
  | none => .ok ()
  | some pattern =>
    if s.type ≠ .term then refuse (.includeOnFacet s.type)
    else if Text.Pattern.isValid pattern then .ok ()
    else refuse .malformedInclude

/-- How keys are shown: the given format, which must be sound, or the default one. -/
def resolveFormat (s : FacetSpec) : Outcome String :=
  match s.format with
  | some format => (DateFormat.ofText format).map fun _ => format
  | none => .ok DateFormat.defaultKeyFormat

/-- The aggregated geometries, each once. Cells only go with levels of cells. -/
def resolveGeometries (type : FacetType) (chosen : List AggregatedGeometry) :
    List AggregatedGeometry → Outcome (List AggregatedGeometry)
  | [] => .ok chosen
  | g :: rest =>
    if g.isCell && !type.isGeo then refuse (.cellOnFacet g)
    else resolveGeometries type (if chosen.contains g then chosen else chosen ++ [g]) rest

/-- Adds a path to the first group with the given sort. -/
def addPath (sort : Option String) (path : String) : List RawGeometryGroup → List RawGeometryGroup
  | [] => []
  | g :: rest =>
    if g.sort = sort then
      (if g.paths.contains path then g else { g with paths := g.paths ++ [path] }) :: rest
    else g :: addPath sort path rest

/-- The trimmed sort of a raw geometry; a blank one counts as none. -/
def rawSort (r : RawGeometrySpec) : Option String :=
  (r.sort.map Text.trim).filter (· ≠ "")

/-- The raw geometries after those already grouped, one group for each sort. -/
def groupRaw (c : Collection) (groups : List RawGeometryGroup) :
    List RawGeometrySpec → Outcome (List RawGeometryGroup)
  | [] => .ok groups
  | r :: rest => do
    let path := Text.trim r.path
    let type ← c.fieldType path
    if !type.isGeometry then refuseField path (.rawGeometryType path)
    else
      let sort := rawSort r
      if groups.any (·.sort = sort) then groupRaw c (addPath sort path groups) rest
      else
        let keys ← match sort with
          | some s => Sorting.parse s
          | none => .ok []
        groupRaw c (groups ++ [⟨s!"raw_geometries_{groups.length}", sort, keys, [path]⟩]) rest

/-- A path to show, and the key that its sign adds to the sort. -/
def fetchPath (raw : String) : Outcome (String × Option SortKey) :=
  let raw := Text.trim raw
  let (path, order) : List Char × Option Order :=
    match raw.toList with
    | '+' :: rest => (rest, some .asc)
    | '-' :: rest => (rest, some .desc)
    | cs => (cs, none)
  if path.isEmpty then refuse (.malformedFetch raw)
  else
    let path := String.ofList path
    .ok (path, order.map (.field path))

def planFetch (s : FacetSpec) : Outcome (Option FetchPlan) :=
  match s.fetch with
  | none => .ok none
  | some fetch =>
    if fetch.size = 0 then refuse .fetchSize
    else do
      let paths ← fetch.paths.mapM fetchPath
      .ok (some ⟨fetch.size, paths.map (·.1), paths.filterMap (·.2)⟩)

/-- A format only goes with date histograms. -/
def checkFormat (s : FacetSpec) : Outcome Unit :=
  if s.format.isSome && s.type ≠ .dateHistogram then refuse (.formatOnFacet s.type) else .ok ()

/-- The checked level at a depth. -/
def toLevel (c : Collection) (depth : Nat) (s : FacetSpec) : Outcome FacetLevel := do
  checkFormat s
  let field ← resolveField c s
  let fieldType ← c.fieldType field
  checkFieldType s.type field fieldType
  let kind ← resolveKind s
  let metrics ← planMetrics c [] s.metrics
  let order ← resolveOrder s metrics
  checkSize s
  checkPattern s
  let format ← resolveFormat s
  let geometries ← resolveGeometries s.type [] s.aggregatedGeometries
  let rawGeometries ← groupRaw c [] s.rawGeometries
  let fetch ← planFetch s
  .ok {
    depth := depth
    name := s!"{s.type.name}_{depth}"
    kind := kind
    field := field
    fieldType := fieldType
    order := order
    size := s.size
    pattern := s.pattern
    format := format
    metrics := metrics.map (shareGeometry c geometries)
    aggregatedGeometries := geometries
    rawGeometries := rawGeometries
    fetch := fetch }

/-- The checked levels from a depth on. A fault names the depth of its level. -/
def toLevels (c : Collection) (depth : Nat) : List FacetSpec → Outcome (List FacetLevel)
  | [] => .ok []
  | s :: rest => do
    let level ← (toLevel c depth s).mapError (Fault.withContext s!"aggregation {depth}")
    let levels ← toLevels c (depth + 1) rest
    .ok (level :: levels)

end FacetSpec

namespace FacetPlan

/-- Whether the buckets of a level have a place on the globe. -/
def isPlaced (l : FacetLevel) : Bool :=
  l.kind.isGeo || !l.rawGeometries.isEmpty || !l.aggregatedGeometries.isEmpty

/-- The plan of a list of specifications, which must not be empty. Where results must be placed on
the globe, the buckets of the first level must have a place. -/
def compile (c : Collection) (geo : Bool) (specs : List FacetSpec) : Outcome FacetPlan := do
  if specs.isEmpty then refuse .noFacet
  else
    let levels ← FacetSpec.toLevels c 0 specs
    match levels with
    | first :: _ =>
      if geo && !isPlaced first then refuse (.geoWithoutGeometry first.name)
      else .ok ⟨levels, geo⟩
    | [] => refuse .noFacet

end FacetPlan

/-- Requires a field that a single value can be computed on, and gives its type. -/
def checkComputation (c : Collection) (field : String) (metric : ComputationMetric) :
    Outcome FieldType := do
  let field := Text.trim field
  if field = "" then refuse .missingComputationField
  else
    let type ← c.fieldType field
    let suitable := match metric with
      | .geoBBox | .geoCentroid => type.isPoint
      | .cardinality => !type.isGeometry
      | _ => type.isMeasure
    if suitable then .ok type else refuseField field (.computationOnType metric field type)

end GeoFacet
