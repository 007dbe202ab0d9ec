import GeoFacet.Facet.Vocabulary
import GeoFacet.Geo.Geometry
import GeoFacet.Json.Decode
import GeoFacet.Text.Blank

/-!
# Facet responses

The answer to a facet request is a tree of buckets. It can be flattened into one row for each leaf,
or shown as GeoJSON features.
-/

namespace GeoFacet

/-- The value of a metric in a bucket; a geometry stands in a feature collection. -/
structure MetricValue where
  function : CollectFunction
  field : String
  value : Json
  deriving BEq, Inhabited

/-- A geometry of a bucket. -/
structure BucketGeometry where
  /-- the kind of an aggregated geometry, or the path of a raw one -/
  reference : String
  geometry : Json
  isRaw : Bool
  sort : Option String
  deriving BEq, Inhabited

/-- A node of the tree. The root has a total and no key; every other node is a bucket. -/
structure Bucket where
  name : Option String := none
  key : Option Json := none
  /-- the key as it is shown -/
  keyText : Option String := none
  count : Option Nat := none
  /-- the number of documents in buckets that were left out below this node -/
  otherCount : Option Nat := none
  total : Option Nat := none
  queryTime : Option Nat := none
  metrics : List MetricValue := []
  geometries : List BucketGeometry := []
  hits : List Json := []
  children : List Bucket := []
  deriving Inhabited

/-! ## Documents -/

namespace MetricValue

def ofJson? (v : Json) : Option MetricValue := do
  let fs ← v.fields? ["type", "field", "value"]
  some {
    function := ← fs.required "type" (Json.word? false)
    field := ← fs.required "field" Json.asText?
    value := ← fs.required "value" (some ·.settled) }

def toJson (m : MetricValue) : Json :=
  .ofMembers [("type", .ofWord m.function), ("field", .text m.field), ("value", m.value)]

/-- The column of the metric: its function and its field, points replaced. -/
def column (m : MetricValue) : String :=
  m.function.name ++ "_" ++ Text.substitute '.' '_' m.field

/-- The geometry in the feature collection of a metric that computes one. -/
def shape? (m : MetricValue) : Option Json :=
  if !m.function.isGeo then none
  else
    let first : Json := match m.value.member "features" with
      | .list (v :: _) => v
      | _ => .null
    (first.get? "geometry").filter fun g => !g.isNull

end MetricValue

namespace BucketGeometry

def ofJson? (v : Json) : Option BucketGeometry := do
  let fs ← v.fields? ["reference", "geometry", "is_raw", "sort"]
  some {
    reference := ← fs.required "reference" Json.asText?
    geometry := ← fs.required "geometry" (some ·.settled)
    isRaw := ← fs.required "is_raw" Json.asBool?
    sort := ← fs.optional "sort" Json.asText? }

def toJson (g : BucketGeometry) : Json :=
  .ofPresent [
    ("reference", some (.text g.reference)),
    ("geometry", some g.geometry),
    ("is_raw", some (.bool g.isRaw)),
    ("sort", g.sort.map Json.text)]

end BucketGeometry

namespace Bucket

/-- A list, unless it is empty. -/
def listed {α : Type} (encode : α → Json) (as : List α) : Option Json :=
  if as.isEmpty then none else some (.list (as.map encode))

def keys : List String :=
  ["name", "key", "key_as_string", "count", "sum_other_doc_count", "totalnb", "query_time",
    "metrics", "geometries", "hits", "elements"]

mutual

/-- The tree of a document, nested at most as deep as `fuel`. -/
def ofJsonFrom? : Nat → Json → Option Bucket
  | 0, _ => none
  | fuel + 1, v => do
    let fs ← v.fields? keys
    let name ← fs.optional "name" Json.asText?
    let key ← fs.optional "key" (some ·.settled)
    let keyText ← fs.optional "key_as_string" Json.asText?
    let count ← fs.optional "count" Json.asNat?
    let otherCount ← fs.optional "sum_other_doc_count" Json.asNat?
    let total ← fs.optional "totalnb" Json.asNat?
    let queryTime ← fs.optional "query_time" Json.asNat?
    let metrics ← fs.defaulted "metrics" [] (Json.listOf? MetricValue.ofJson?)
    let geometries ← fs.defaulted "geometries" [] (Json.listOf? BucketGeometry.ofJson?)
    let hits ← fs.defaulted "hits" [] (Json.listOf? (some ·.settled))
    let children ← match fs.lookup "elements" with
      | none => some []
      | some (.list items) => ofJsonItems? fuel items
      | some _ => none
    some { name, key, keyText, count, otherCount, total, queryTime, metrics, geometries, hits,
           children }

def ofJsonItems? : Nat → List Json → Option (List Bucket)
  | _, [] => some []
  | 0, _ => none
  | fuel + 1, v :: rest => do
    let b ← ofJsonFrom? fuel v
    let bs ← ofJsonItems? fuel rest
    some (b :: bs)

end

mutual

/-- The number of values in a document, which bounds the steps of reading it. -/
def weight : Json → Nat
  | .list items => itemsWeight items + 1
  | .object ms => membersWeight ms + 1
  | _ => 1

def itemsWeight : List Json → Nat
  | [] => 0
  | v :: rest => weight v + itemsWeight rest + 1

def membersWeight : List (String × Json) → Nat
  | [] => 0
  | (_, v) :: rest => weight v + membersWeight rest + 1

end

/-- The tree of a document. -/
def ofJson? (v : Json) : Option Bucket := ofJsonFrom? (weight v + 1) v

mutual

def toJson : Bucket → Json
  | ⟨name, key, keyText, count, otherCount, total, queryTime, metrics, geometries, hits, children⟩ =>
    .ofPresent [
      ("name", name.map Json.text),
      ("key", key),
      ("key_as_string", keyText.map Json.text),
      ("count", count.map Json.ofNat),
      ("sum_other_doc_count", otherCount.map Json.ofNat),
      ("totalnb", total.map Json.ofNat),
      ("query_time", queryTime.map Json.ofNat),
      ("metrics", listed MetricValue.toJson metrics),
      ("geometries", listed BucketGeometry.toJson geometries),
      ("hits", listed (·) hits),
      ("elements", if children.isEmpty then none else some (.list (toJsonList children)))]

def toJsonList : List Bucket → List Json
  | [] => []
  | b :: rest => toJson b :: toJsonList rest

end

/-! ## Rows -/

/-- The number of documents in the children of a node. -/
def childrenCount (b : Bucket) : Nat := (b.children.filterMap count).foldr (· + ·) 0

/-- The columns of a node itself. -/
def columns (b : Bucket) : List (String × Json) :=
  let name := b.name.getD "bucket"
  ((b.key.map fun k => (name ++ "_key", k)).toList ++
    (b.count.map fun c => (name ++ "_count", Json.ofNat c)).toList) ++
    b.metrics.map fun m => (name ++ "_" ++ m.column, m.value)

/-- Adds columns to a row; a column that is there already is replaced. -/
def extend (row columns : List (String × Json)) : List (String × Json) :=
  columns.foldl (fun acc c => Json.insertMember c.1 c.2 acc) row

mutual

/-- The rows of the leaves below a node, each with the columns of all nodes on its path. -/
def rowsFrom (row : List (String × Json)) : Bucket → List (List (String × Json))
  | ⟨name, key, _, count, _, _, _, metrics, _, _, children⟩ =>
    let row := extend row (columns { name, key, count, metrics })
    if children.isEmpty then [row] else rowsFromList row children

def rowsFromList (row : List (String × Json)) : List Bucket → List (List (String × Json))
  | [] => []
  | b :: rest => rowsFrom row b ++ rowsFromList row rest

end

/-- One row for each leaf bucket. -/
def flatten (root : Bucket) : List (List (String × Json)) := rowsFromList [] root.children

/-! ## Features -/

/-- The properties that every feature of a bucket has. -/
def properties (b : Bucket) : List (String × Option Json) :=
  [("key", b.key), ("key_as_string", b.keyText.map Json.text), ("count", b.count.map Json.ofNat)] ++
    (b.metrics.filter fun m => !m.function.isGeo).map (fun m => (m.column, some m.value)) ++
    [("hits", listed (·) b.hits), ("elements", listed toJson b.children)]

/-- A feature of a bucket: where its geometry comes from stands among its properties. -/
def feature (b : Bucket) (geometry : Json) (reference kind : String) (sort : Option String) :
    Json :=
  featureJson geometry (.ofPresent (b.properties ++
    [("geometry_ref", some (.text reference)), ("geometry_type", some (.text kind)),
      ("geometry_sort", sort.map Json.text)]))

/-- The features of a bucket: one for each of its geometries, or one at its first metric that is a
geometry. -/
def features (b : Bucket) : List Json :=
  if b.geometries.isEmpty then
    match b.metrics.findSome? fun m => m.shape?.map (m, ·) with
    | some (m, g) => [b.feature g (m.function.name ++ "_" ++ m.field) "metric" none]
    | none => []
  else
    b.geometries.map fun g =>
      b.feature g.geometry g.reference (if g.isRaw then "raw" else "aggregated") g.sort

/-- The first-level buckets as GeoJSON features. -/
def featureCollection (root : Bucket) : Json :=
  featureCollectionJson (root.children.flatMap features)

end Bucket

end GeoFacet
