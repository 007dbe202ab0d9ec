import GeoFacet.Facet.Plan
import GeoFacet.Json.Printer
import GeoFacet.Response.Bucket

/-!
# Building buckets

Both backends hand over a key, a count and the values of metrics; the bucket that they make is built
here, so that both build the same.
-/

namespace GeoFacet

/-- A count sent as a number or as digits. A fraction is cut off, and a negative number counts as
zero. -/
def asCount? : Json → Option Nat
  | .int n => some n.toNat
  | .float x => some x.toUInt64.toNat
  | .text s => readNat? (UInt64.size - 1) s
  | _ => none

namespace FacetKind

/-- The text of a cell key. -/
def cellKey (key : Json) : Outcome String := orRefuse (.cellKey key.print) key.asText?

/-- The cell that a key names on levels of cells. -/
def cellBox (kind : FacetKind) (key : Json) : Outcome (Option (BoundingBox Float)) :=
  match kind with
  | .geohash _ => do
    let box ← Geohash.cell (← cellKey key)
    .ok (some box)
  | .geotile _ => do
    let tile ← Tile.ofKey (← cellKey key)
    .ok (some (tile.box .mercator))
  | _ => .ok none

end FacetKind

namespace FacetLevel

/-- The number of milliseconds that a key is. -/
def keyMillis? (key : Json) : Option Int :=
  key.asInt64? <|> key.asFloat?.map fun x => x.toInt64.toInt

/-- The text of a key on levels of dates. -/
def keyText (l : FacetLevel) (key : Json) : Outcome (Option String) :=
  match l.kind with
  | .dateHistogram .. => do
    let millis ← orRefuse (.dateKey l.name key.print) (keyMillis? key)
    (writeDate millis l.format).map some
  | _ => .ok none

/-- The value of a metric; a geometry is put into a feature collection. -/
def metricValue (m : PlannedMetric) (value : Json) : MetricValue :=
  ⟨m.function, m.field,
    if m.function.isGeo && !value.isNull then singleFeatureJson value else value⟩

/-- One aggregated geometry, if the cell or the sub-result gives one. -/
def aggregatedGeometry (cell : Option (BoundingBox Float))
    (computed : AggregatedGeometry → Option Json) (g : AggregatedGeometry) :
    Option BucketGeometry :=
  let geometry := match g with
    | .cell => cell.map BoundingBox.polygonJson
    | .cellCenter => cell.map BoundingBox.centerJson
    | g => computed g
  geometry.map fun json => ⟨g.name, json, false, none⟩

/-- The aggregated geometries of a bucket in requested order. -/
def geometriesOf (l : FacetLevel) (key : Json) (computed : AggregatedGeometry → Option Json) :
    Outcome (List BucketGeometry) :=
  if l.aggregatedGeometries.isEmpty then .ok []
  else do
    let cell ← l.kind.cellBox key
    .ok (l.aggregatedGeometries.filterMap (aggregatedGeometry cell computed))

/-- The count of left-out documents that a container of this level reports: only term levels leave
any out. -/
def otherCount (l : FacetLevel) (tracked : Option Nat) : Option Nat :=
  if l.type = .term then some (tracked.getD 0) else none

end FacetLevel

end GeoFacet
