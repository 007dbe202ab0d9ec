import GeoFacet.Vocabulary

/-!
# Filter operators
-/

namespace GeoFacet

/-- What a filter expression asks of its field. -/
inductive Operator where
  /-- one of the comma-separated values -/
  | eq
  /-- none of the comma-separated values -/
  | ne
  | gte | gt | lte | lt
  /-- contains the value as a part -/
  | like
  /-- in one of the comma-separated ranges -/
  | range
  | within | notWithin | intersects | notIntersects
  deriving DecidableEq, Repr, Inhabited

namespace Operator

def name : Operator → String
  | eq => "eq"
  | ne => "ne"
  | gte => "gte"
  | gt => "gt"
  | lte => "lte"
  | lt => "lt"
  | like => "like"
  | range => "range"
  | within => "within"
  | notWithin => "notwithin"
  | intersects => "intersects"
  | notIntersects => "notintersects"

instance : Vocabulary Operator where
  all := [eq, ne, gte, gt, lte, lt, like, range, within, notWithin, intersects, notIntersects]
  name := name

def isSpatial : Operator → Bool
  | within | notWithin | intersects | notIntersects => true
  | _ => false

end Operator

end GeoFacet
