import GeoFacet.Geo.Geometry
import GeoFacet.Json.Decode
import GeoFacet.Sorting.Cursor

/-!
# Hits

A hit shows one record, with the sort values that make its cursor. A page of hits gives the cursors
of its last and its first hit.
-/

namespace GeoFacet

/-- One record. -/
structure Hit where
  id : Json
  geometry : Option Json
  centroid : Option Json
  timestamp : Option Json
  /-- the values at the custom paths of the collection that are present -/
  custom : List (String × Json)
  data : Json
  sort : List Json
  deriving BEq, Inhabited

/-- A page of hits. -/
structure Hits where
  total : Nat
  hits : List Hit
  deriving BEq, Inhabited

namespace Hit

/-- The cursor of the hit, if it has sort values. -/
def cursor (h : Hit) : Option String := Cursor.ofValues? h.sort

def keys : List String := ["id", "geometry", "centroid", "timestamp", "custom", "data", "sort"]

def ofJson? (v : Json) : Option Hit := do
  let fs ← v.fields? keys
  let value (v : Json) : Option Json := some v.settled
  some {
    id := ← fs.required "id" value
    geometry := ← fs.optional "geometry" value
    centroid := ← fs.optional "centroid" value
    timestamp := ← fs.optional "timestamp" value
    custom := ← fs.defaulted "custom" [] (Json.mapOf? value)
    data := ← fs.required "data" value
    sort := ← fs.defaulted "sort" [] (Json.listOf? value) }

def toJson (h : Hit) : Json :=
  .ofPresent [
    ("id", some h.id),
    ("geometry", h.geometry),
    ("centroid", h.centroid),
    ("timestamp", h.timestamp),
    ("custom", if h.custom.isEmpty then none else some (.ofMap (·) h.custom)),
    ("data", some h.data),
    ("sort", if h.sort.isEmpty then none else some (.list h.sort))]

/-- The hit as a GeoJSON feature with its data and identifier as properties. -/
def feature (h : Hit) : Json :=
  featureJson ((h.geometry <|> h.centroid).getD .null)
    (.object (Json.insertMember "id" h.id h.data.members))

end Hit

namespace Hits

/-- The cursor of the next page. -/
def after (p : Hits) : Option String := p.hits.getLast?.bind Hit.cursor

/-- The cursor of the previous page. -/
def before (p : Hits) : Option String := p.hits.head?.bind Hit.cursor

def toJson (p : Hits) : Json :=
  .ofPresent [
    ("totalnb", some (.ofNat p.total)),
    ("nbhits", some (.ofNat p.hits.length)),
    ("hits", some (.list (p.hits.map Hit.toJson))),
    ("after", p.after.map Json.text),
    ("before", p.before.map Json.text)]

/-- The hits as GeoJSON features. -/
def featureCollection (p : Hits) : Json := featureCollectionJson (p.hits.map Hit.feature)

end Hits

end GeoFacet
