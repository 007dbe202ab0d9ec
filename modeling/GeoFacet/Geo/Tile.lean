import GeoFacet.Geo.BoundingBox
import GeoFacet.Text.Blank
import GeoFacet.Fault

/-!
# Web-mercator tiles

At zoom `z` the globe is a square of `2^z` by `2^z` tiles, counted from the north-west. The columns
are equal steps of longitude; the rows are equal steps of the mercator projection, which a
`Projection` describes for the numbers at hand.
-/

namespace GeoFacet

/-- The tile in column `x` and row `y` at zoom `z`. -/
structure Tile where
  x : Nat
  y : Nat
  z : Nat
  deriving DecidableEq, Repr

/-- The projection that places latitudes in rows. -/
structure Projection (K : Type) where
  /-- the greatest latitude on the map -/
  limit : K
  /-- how far south of the northern edge a latitude lies, as a part of the height -/
  depth : K → K
  /-- the latitude at such a part of the height -/
  latitude : K → K
  ofNat : Nat → K
  floor : K → K
  /-- the natural number that a floor is -/
  index : K → Nat

namespace Projection

private def pi : Float := 3.141592653589793

/-- The mercator projection on doubles. -/
def mercator : Projection Float where
  limit := 85.05112877980659
  depth lat :=
    let radians := lat * (pi / 180)
    (1 - (radians.tan + 1 / radians.cos).log / pi) / 2
  latitude part := (pi * (1 - 2 * part)).sinh.atan * (180 / pi)
  ofNat := Float.ofNat
  floor := Float.floor
  index x := x.toUInt32.toNat

end Projection

namespace Tile

/-- The highest zoom of a tile key. -/
def maxZoom : Nat := 29

/-- The number of tiles along a side of the globe. -/
def perSide (z : Nat) : Nat := Nat.pow 2 z

/-- The text form, zoom first. -/
def key (t : Tile) : String := s!"{t.z}/{t.x}/{t.y}"

/-- The tile a key names: three numbers within the bounds of their zoom. -/
def ofKey? (key : String) : Option Tile :=
  match Text.split '/' (Text.trim key) with
  | [z, x, y] => do
    let z ← readNat? (UInt8.size - 1) z
    let x ← readNat? (UInt32.size - 1) x
    let y ← readNat? (UInt32.size - 1) y
    if z ≤ maxZoom ∧ x < perSide z ∧ y < perSide z then some ⟨x, y, z⟩ else none
  | _ => none

def ofKey (key : String) : Outcome Tile := orRefuse (.malformedTile key) (ofKey? key)

variable {K : Type}

/-- Brings a value between two bounds. -/
def clamp [LT K] [DecidableLT K] (low high x : K) : K :=
  if x < low then low else if high < x then high else x

/-- The number of tiles along a side, as a number of the projection. -/
def side (p : Projection K) (z : Nat) : K := p.ofNat (perSide z)

/-- The box of a tile. -/
def box [Add K] [Sub K] [Mul K] [Div K] [OfNat K 1] [OfNat K 180] [OfNat K 360] (p : Projection K)
    (t : Tile) : BoundingBox K :=
  let n := side p t.z
  let x := p.ofNat t.x
  let y := p.ofNat t.y
  ⟨x / n * 360 - 180, p.latitude ((y + 1) / n), (x + 1) / n * 360 - 180, p.latitude (y / n)⟩

/-- The tile in which a position lies. A position on the last border belongs to the last tile. -/
def containing [Add K] [Sub K] [Mul K] [Div K] [Neg K] [OfNat K 0] [OfNat K 1] [OfNat K 180]
    [OfNat K 360] [LT K] [DecidableLT K] (p : Projection K) (lat lon : K) (z : Nat) : Tile :=
  let n := side p z
  let last := n - 1
  let lat := clamp (-p.limit) p.limit lat
  let x := p.floor ((lon + 180) / 360 * n)
  let y := p.floor (p.depth lat * n)
  ⟨p.index (clamp 0 last x), p.index (clamp 0 last y), z⟩

end Tile

end GeoFacet
