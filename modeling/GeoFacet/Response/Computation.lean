import GeoFacet.Facet.Vocabulary
import GeoFacet.Json.Decode

/-!
# Computed values
-/

namespace GeoFacet

/-- The value of a computation: a number or a geometry, or nothing where no record matched. -/
structure Computation where
  field : String
  metric : ComputationMetric
  value : Option Float
  geometry : Option Json
  total : Nat
  queryTime : Nat
  deriving BEq, Inhabited

namespace Computation

def toJson (c : Computation) : Json :=
  .ofPresent [
    ("field", some (.text c.field)),
    ("metric", some (.ofWord c.metric)),
    ("value", some (Json.ofOption Json.ofFloat c.value)),
    ("geometry", c.geometry),
    ("totalnb", some (.ofNat c.total)),
    ("query_time", some (.ofNat c.queryTime))]

end Computation

end GeoFacet
