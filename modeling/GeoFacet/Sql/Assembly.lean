import GeoFacet.Facet.Assembly
import GeoFacet.Json.Reader
import GeoFacet.Response.Computation
import GeoFacet.Response.Hits
import GeoFacet.Sql.Plan

/-!
# Assembling rows

The rows of each statement come back under its purpose. The buckets of a level stand in one list for
all parents; each bucket goes below the bucket whose keys begin its own.
-/

namespace GeoFacet.Sql

/-- One row, by column. -/
abbrev Row := List (String × Json)

/-- The rows of the statements, by purpose. -/
abbrev Rows := List (String × List Row)

namespace Rows

def ofJson? (v : Json) : Option Rows :=
  let row (v : Json) : Option Row :=
    match v with
    | .object _ => some v.settled.members
    | _ => none
  Json.mapOf? (Json.listOf? row) v

/-- The rows of a purpose, which must have been sent. -/
def ofPurpose (rows : Rows) (purpose : Purpose) : Outcome (List Row) :=
  orRefuse (.noRows purpose.name) (rows.lookup purpose.name)

/-- The number of matching rows that the first row of a purpose tells. -/
def total (rows : Rows) (purpose : Purpose) : Outcome Nat := do
  let first := (← rows.ofPurpose purpose).head?
  .ok ((first.bind fun row => (row.lookup totalName).bind asCount?).getD 0)

end Rows

/-! ## Values -/

/-- A number, also one sent as text. -/
def number? : Json → Option Float
  | .text s => readFloat? (Text.trim s)
  | v => v.asFloat?

/-- The number that a text holds; any other value as it is. -/
def normalizeNumber : Json → Json
  | .text s =>
    match readInt64? (Text.trim s) with
    | some n => .int n
    | none =>
      match (readFloat? (Text.trim s)).filter Float.isFinite with
      | some x => .float x
      | none => .text s
  | v => v

namespace Row

/-- The number in a column. -/
def number? (row : Row) (column : String) : Option Float :=
  (row.lookup column).bind Sql.number?

/-- The polygon of the box in the columns of a metric. -/
def boxPolygon? (row : Row) (name : String) : Option Json := do
  let west ← row.number? (Column.westName name)
  let south ← row.number? (Column.southName name)
  let east ← row.number? (Column.eastName name)
  let north ← row.number? (Column.northName name)
  some (BoundingBox.polygonJson ⟨west, south, east, north⟩)

/-- The point of the centroid in the columns of a metric. -/
def centroidPoint? (row : Row) (name : String) : Option Json := do
  let lat ← row.number? (Column.latName name)
  let lon ← row.number? (Column.lonName name)
  some (pointJson lat lon)

/-- The geometry in a column, sent as text or as an object. -/
def shape? (row : Row) (column : String) : Option Json := do
  match ← row.lookup column with
  | .text s => Shape.normalize? (← Json.read? s).settled
  | v => Shape.normalize? v

/-- The key of a level. Histograms have numbers for keys. -/
def key (row : Row) (l : FacetLevel) : Json :=
  let key := (row.lookup (keyName l.depth)).getD .null
  match l.kind with
  | .dateHistogram .. | .histogram _ => normalizeNumber key
  | _ => key

/-- The value of a metric; null where the row has none. -/
def metricOf (row : Row) (m : PlannedMetric) : MetricValue :=
  let value := match m.function with
    | .geoBBox => row.boxPolygon? m.sourceName
    | .geoCentroid => row.centroidPoint? m.sourceName
    | _ => (row.lookup m.sourceName).map normalizeNumber
  FacetLevel.metricValue m (value.getD .null)

/-- An aggregated geometry that the row holds. -/
def computedShape? (row : Row) (g : AggregatedGeometry) : Option Json :=
  match g with
  | .bbox => row.boxPolygon? (aggregatedGeometryName g)
  | _ => row.centroidPoint? (aggregatedGeometryName g)

/-- The values of the sort columns from `i` on, up to the first that is missing. -/
def sortValues (row : Row) (i : Nat) : Nat → List Json
  | 0 => []
  | fuel + 1 =>
    match row.lookup (sortName i) with
    | some v => v :: row.sortValues (i + 1) fuel
    | none => []

/-- The columns of the record itself, its geometry and centroid in GeoJSON. -/
def record (c : Collection) (row : Row) (geometry centroid : Option Json) : Row :=
  let put (path : String) (value : Option Json) (r : Row) : Row :=
    match value with
    | some v => Json.insertMember path v r
    | none => r.filter (·.1 ≠ path)
  put c.centroidPath centroid (put c.geometryPath geometry (row.filter fun (column, _) =>
    column ≠ geometryName && column ≠ centroidName &&
      (Text.dropStart? sortNameStart.toList column.toList).isNone))

end Row

/-! ## Responses -/

/-- A bucket without what is inside it. -/
def bucketAlone (l : FacetLevel) (row : Row) : Outcome Bucket := do
  let key := row.key l
  let keyText ← l.keyText key
  let count := ((row.lookup countName).bind asCount?).getD 0
  let geometries ← l.geometriesOf key row.computedShape?
  .ok {
    name := some l.name
    key := some key
    keyText := keyText
    count := some count
    metrics := l.metrics.map row.metricOf
    geometries := geometries }

/-- The buckets of the first of some levels below the bucket with the given keys. -/
def buckets (rows : Rows) (above : List FacetLevel) (keys : List Json) :
    List FacetLevel → Outcome (List Bucket)
  | [] => .ok []
  | l :: below => do
    let sent ← rows.ofPurpose (.level l.depth)
    (sent.filter fun row => above.map row.key == keys).mapM fun row => do
      let bucket ← bucketAlone l row
      match below.head? with
      | none => .ok bucket
      | some child =>
        let children ← buckets rows (above ++ [l]) (keys ++ [row.key l]) below
        .ok { bucket with otherCount := child.otherCount none, children := children }

/-- The tree of a result. -/
def assembleFacets (plan : FacetPlan) (rows : Rows) : Outcome Bucket := do
  let first ← orRefuse .noFacet plan.levels.head?
  let total ← rows.total .count
  let children ← buckets rows [] [] plan.levels
  .ok {
    name := some first.name
    total := some total
    otherCount := first.otherCount none
    children := children }

/-- The hit of a row. -/
def hit (c : Collection) (row : Row) : Hit :=
  let geometry := row.shape? geometryName
  let centroid := row.shape? centroidName
  {
    id := (row.lookup c.idPath).getD .null
    geometry := geometry
    centroid := centroid
    timestamp := (row.lookup c.timestampPath).filter fun v => !v.isNull
    custom := c.customPaths.filterMap fun (name, path) => (row.lookup path).map (name, ·)
    data := .object (row.record c geometry centroid)
    sort := row.sortValues 0 row.length }

/-- The hits of a result, put back into the requested order after a scan the other way. -/
def assembleHits (c : Collection) (reverse : Bool) (rows : Rows) : Outcome Hits := do
  let hits := (← rows.ofPurpose .hits).map (hit c)
  .ok ⟨← rows.total .count, if reverse then hits.reverse else hits⟩

/-- The value of a computation; none where no row matched. -/
def assembleComputation (field : String) (metric : ComputationMetric) (rows : Rows) :
    Outcome Computation := do
  let total ← rows.total .computation
  let empty : Computation := ⟨field, metric, none, none, total, 0⟩
  match (← rows.ofPurpose .computation).head? with
  | none => .ok empty
  | some row =>
    if total = 0 then .ok empty
    else match metric with
      | .geoBBox => .ok { empty with geometry := row.boxPolygon? valueName }
      | .geoCentroid => .ok { empty with geometry := row.centroidPoint? valueName }
      | _ => .ok { empty with value := row.number? valueName }

end GeoFacet.Sql
