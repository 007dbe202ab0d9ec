import GeoFacet.Geo.BoundingBox
import GeoFacet.Geo.Wkt
import GeoFacet.Text.Blank
import GeoFacet.Fault

/-!
# Shapes in requests and records

A spatial filter gives a shape as `top,left,bottom,right` or as well-known text. A box whose left
border lies east of its right one crosses the antimeridian and becomes two boxes. Records hold
geometries in several forms, which all are brought to GeoJSON.
-/

namespace GeoFacet.Shape

/-- The geometry of a well-known text. -/
def ofWkt (value : String) : Outcome Geometry :=
  orRefuse (.malformedWkt value) (Wkt.read? (Text.trim value))

/-- Four numbers between commas. -/
def numbers? (value : String) : Option (Float × Float × Float × Float) :=
  match (Text.split ',' value).map fun part => readFloat? (Text.trim part) with
  | [some a, some b, some c, some d] => some (a, b, c, d)
  | _ => none

/-- Whether a number lies between two bounds, both included. -/
def between (low high x : Float) : Bool := low ≤ x && x ≤ high

/-- What is wrong with the borders of a box. -/
def boxFlaw? (top left bottom right : Float) : Option BoxFlaw :=
  if !between (-90) 90 top || !between (-90) 90 bottom then some .latitude
  else if !between (-180) 180 left || !between (-180) 180 right then some .longitude
  else if top ≤ bottom then some .order
  else if left == right then some .width
  else none

/-- The geometry of a box, in two parts where it crosses the antimeridian. -/
def ofBox (top left bottom right : Float) : Geometry :=
  if left < right then
    .polygon (BoundingBox.toPolygon ⟨left, bottom, right, top⟩)
  else
    .multiPolygon [BoundingBox.toPolygon ⟨left, bottom, 180, top⟩,
      BoundingBox.toPolygon ⟨-180, bottom, right, top⟩]

/-- The geometry of a filter value. A value that does not have the form of a box is well-known
text. -/
def parse (value : String) : Outcome Geometry :=
  match numbers? value with
  | some (top, left, bottom, right) =>
    match boxFlaw? top left bottom right with
    | some flaw => refuse (.badBox value flaw)
    | none => .ok (ofBox top left bottom right)
  | none => ofWkt value

/-- A latitude and a longitude between a comma. -/
def latLon? (s : String) : Option (Float × Float) :=
  match (Text.split ',' s).map fun part => readFloat? (Text.trim part) with
  | [some lat, some lon] => some (lat, lon)
  | _ => none

/-- The GeoJSON geometry of a stored value: a GeoJSON object, an object or text with a latitude and
a longitude, a longitude and a latitude in a list, or well-known text. -/
def normalize? (value : Json) : Option Json :=
  match value with
  | .object _ =>
    match value.get? "type" with
    | some (.text _) => some value
    | _ => do
      let lat ← (← value.get? "lat").asFloat?
      let lon ← (← value.get? "lon").asFloat?
      some (pointJson lat lon)
  | .list [lon, lat] => do
    let lon ← lon.asFloat?
    let lat ← lat.asFloat?
    some (pointJson lat lon)
  | .text s =>
    match latLon? s with
    | some (lat, lon) => some (pointJson lat lon)
    | none => (Wkt.read? (Text.trim s)).map Geometry.toGeoJson
  | _ => none

end GeoFacet.Shape
