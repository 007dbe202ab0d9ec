import GeoFacet.Facet.Plan
import GeoFacet.Sql.Expr

/-!
# Bucket keys

The key of the bucket that a row falls into is an expression over the column of the level, so that
one grouping by keys forms the buckets.
-/

namespace GeoFacet.Sql.Expr

/-- An expression brought between two bounds. -/
def clamped (low high e : Expr) : Expr :=
  .call "LEAST" [.call "GREATEST" [e, low], high]

/-- The lower bound of the bucket of a given width that a value falls into. -/
def floorTo (value divisor width : Expr) : Expr :=
  .binary .mul (.call "FLOOR" [.binary .div value divisor]) width

/-- The number of a column or row of tiles, from the part of the side in front of it. -/
def tileIndex (side : Nat) (part : Expr) : Expr :=
  .cast (clamped (.whole 0) (.whole (side - 1))
    (.call "FLOOR" [.binary .mul part (.whole side)])) "BIGINT"

/-- How far east of the antimeridian a point lies, as a part of the globe. -/
def tileEasting (point : Expr) : Expr :=
  .binary .div (.parens (.binary .add (.call "ST_X" [point]) (.tenths 180))) (.tenths 360)

/-- The latitude of a point in radians, brought within the mercator limits. -/
def mercatorLatitude (point : Expr) : Expr :=
  let limit := Projection.mercator.limit
  .call "RADIANS" [clamped (.double (-limit)) (.double limit) (.call "ST_Y" [point])]

/-- How far south of the northern edge a point lies, as a part of the height of the map. -/
def tileDepth (point : Expr) : Expr :=
  let lat := mercatorLatitude point
  .binary .div
    (.parens (.binary .sub (.tenths 1)
      (.binary .div
        (.call "LN" [.binary .add (.call "TAN" [lat])
          (.binary .div (.tenths 1) (.call "COS" [lat]))])
        (.call "PI" []))))
    (.tenths 2)

/-- The key of the tile of a point. -/
def tileKey (zoom : Nat) (point : Expr) : Expr :=
  let side := Tile.perSide zoom
  .call "CONCAT" [.whole zoom, .literal "/", tileIndex side (tileEasting point), .literal "/",
    tileIndex side (tileDepth point)]

/-- The key of the bucket that a row falls into, from the column of the level. -/
def bucketKey (column : Expr) : FacetKind → Expr
  | .term => column
  | .histogram interval => floorTo column (.double interval) (.double interval)
  | .dateHistogram unit multiplier =>
    match unit.fixedMillis? with
    | some millis =>
      let width := millis * multiplier
      .cast (floorTo column (.tenths width) (.whole width)) "BIGINT"
    | none =>
      .cast (.binary .mul
        (.epoch (.call "DATE_TRUNC" [.literal unit.name,
          .atUtc (.call "TO_TIMESTAMP" [.binary .div column (.tenths 1000)])]))
        (.whole 1000)) "BIGINT"
  | .geohash precision => .call "ST_GeoHash" [column, .whole precision]
  | .geotile zoom => tileKey zoom column

end GeoFacet.Sql.Expr
