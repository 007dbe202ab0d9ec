import GeoFacet.Geo.Geometry

/-!
# Boxes in degrees

A box is given by its four borders over any numbers that can be ordered, added and halved. The
library computes with doubles; what holds in exact arithmetic is stated over exact numbers.
-/

namespace GeoFacet

/-- A rectangle in degrees. -/
structure BoundingBox (K : Type) where
  west : K
  south : K
  east : K
  north : K
  deriving BEq, DecidableEq, Inhabited

namespace BoundingBox

variable {K : Type}

/-- Whether a position lies in the box, borders included. -/
def contains [LE K] [DecidableLE K] (b : BoundingBox K) (lat lon : K) : Bool :=
  b.south ≤ lat && lat ≤ b.north && b.west ≤ lon && lon ≤ b.east

/-- Whether a position lies in the box, borders left out. -/
def strictlyContains [LT K] [DecidableLT K] (b : BoundingBox K) (lat lon : K) : Bool :=
  b.south < lat && lat < b.north && b.west < lon && lon < b.east

/-- The longitude halfway between the west and the east border. -/
def centerLon [Add K] [Div K] [OfNat K 2] (b : BoundingBox K) : K := (b.west + b.east) / 2

/-- The latitude halfway between the south and the north border. -/
def centerLat [Add K] [Div K] [OfNat K 2] (b : BoundingBox K) : K := (b.south + b.north) / 2

/-- The polygon of the box. -/
def toPolygon (b : BoundingBox Float) : Polygon :=
  .rectangle ⟨b.west, b.south⟩ ⟨b.east, b.north⟩

/-- The GeoJSON polygon of the box. -/
def polygonJson (b : BoundingBox Float) : Json := (Geometry.polygon b.toPolygon).toGeoJson

/-- The GeoJSON point at the center of the box. -/
def centerJson (b : BoundingBox Float) : Json := pointJson b.centerLat b.centerLon

end BoundingBox

end GeoFacet
