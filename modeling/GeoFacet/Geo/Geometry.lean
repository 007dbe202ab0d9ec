import GeoFacet.Json.Basic

/-!
# Geometries

Planar geometries in degrees, `x` the longitude and `y` the latitude, and their GeoJSON form. The
rings of a polygon are closed when it is built.
-/

namespace GeoFacet

/-- A position, longitude first. -/
structure Position where
  x : Float
  y : Float
  deriving BEq, Inhabited

/-- Positions in order. -/
abbrev Path := List Position

/-- An outer ring and the rings of its holes. An empty outer ring makes an empty polygon. -/
structure Polygon where
  exterior : Path
  interiors : List Path
  deriving BEq, Inhabited

/-- A geometry. -/
inductive Geometry where
  | point (p : Position)
  | lineString (path : Path)
  | polygon (p : Polygon)
  | multiPoint (points : List Position)
  | multiLineString (paths : List Path)
  | multiPolygon (polygons : List Polygon)
  | collection (members : List Geometry)
  deriving Inhabited

namespace Path

/-- The path with its first position repeated at the end, unless it ends there already. -/
def closed (path : Path) : Path :=
  match path.head?, path.getLast? with
  | some first, some last => if first == last then path else path ++ [first]
  | _, _ => path

end Path

namespace Polygon

/-- The polygon of the given rings, each one closed; the first is the outer one. -/
def ofRings : List Path → Polygon
  | [] => ⟨[], []⟩
  | exterior :: interiors => ⟨exterior.closed, interiors.map Path.closed⟩

/-- The rectangle between two opposite corners, counter-clockwise from its lower right corner. -/
def rectangle (a b : Position) : Polygon :=
  let (minX, maxX) := if a.x < b.x then (a.x, b.x) else (b.x, a.x)
  let (minY, maxY) := if a.y < b.y then (a.y, b.y) else (b.y, a.y)
  ofRings [[⟨maxX, minY⟩, ⟨maxX, maxY⟩, ⟨minX, maxY⟩, ⟨minX, minY⟩, ⟨maxX, minY⟩]]

/-- The triangle with the given corners, its ring counter-clockwise. -/
def triangle (a b c : Position) : Polygon :=
  if 0.0 < (b.x - a.x) * (c.y - a.y) - (b.y - a.y) * (c.x - a.x) then ofRings [[a, b, c, a]]
  else ofRings [[c, b, a, c]]

end Polygon

namespace Geometry

mutual

/-- Equality of geometries, position by position. -/
def beq : Geometry → Geometry → Bool
  | .point a, .point b => a == b
  | .lineString a, .lineString b => a == b
  | .polygon a, .polygon b => a == b
  | .multiPoint a, .multiPoint b => a == b
  | .multiLineString a, .multiLineString b => a == b
  | .multiPolygon a, .multiPolygon b => a == b
  | .collection a, .collection b => beqMembers a b
  | _, _ => false

def beqMembers : List Geometry → List Geometry → Bool
  | [], [] => true
  | a :: as, b :: bs => beq a b && beqMembers as bs
  | _, _ => false

end

instance : BEq Geometry := ⟨beq⟩

/-! ## GeoJSON -/

def positionJson (p : Position) : Json := .list [.ofFloat p.x, .ofFloat p.y]

def pathJson (path : Path) : Json := .list (path.map positionJson)

def polygonJson (p : Polygon) : Json := .list ((p.exterior :: p.interiors).map pathJson)

/-- A GeoJSON geometry with coordinates. -/
def withCoordinates (type : String) (coordinates : Json) : Json :=
  .object [("coordinates", coordinates), ("type", .text type)]

mutual

/-- The GeoJSON geometry object. -/
def toGeoJson : Geometry → Json
  | .point p => withCoordinates "Point" (positionJson p)
  | .lineString path => withCoordinates "LineString" (pathJson path)
  | .polygon p => withCoordinates "Polygon" (polygonJson p)
  | .multiPoint ps => withCoordinates "MultiPoint" (.list (ps.map positionJson))
  | .multiLineString paths => withCoordinates "MultiLineString" (.list (paths.map pathJson))
  | .multiPolygon ps => withCoordinates "MultiPolygon" (.list (ps.map polygonJson))
  | .collection members =>
    .object [("geometries", .list (membersGeoJson members)), ("type", .text "GeometryCollection")]

def membersGeoJson : List Geometry → List Json
  | [] => []
  | g :: rest => toGeoJson g :: membersGeoJson rest

end

end Geometry

/-- The GeoJSON point at a latitude and longitude. -/
def pointJson (lat lon : Float) : Json := (Geometry.point ⟨lon, lat⟩).toGeoJson

/-- A GeoJSON feature. -/
def featureJson (geometry properties : Json) : Json :=
  .object [("geometry", geometry), ("properties", properties), ("type", .text "Feature")]

/-- A GeoJSON feature collection. -/
def featureCollectionJson (features : List Json) : Json :=
  .object [("features", .list features), ("type", .text "FeatureCollection")]

/-- A feature collection whose only feature carries a geometry and no properties. -/
def singleFeatureJson (geometry : Json) : Json :=
  featureCollectionJson [featureJson geometry (.object [])]

end GeoFacet
