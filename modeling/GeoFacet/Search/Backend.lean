import GeoFacet.Backend
import GeoFacet.Search.Assembly
import GeoFacet.Search.Plan

/-!
# The search backend
-/

namespace GeoFacet.Search

/-- Document search with nested aggregations. Any document can be its native result. -/
def backend : Backend where
  kind := .search
  capabilities := {
    rawGeometries := true
    fetchedHits := true
    unscopedText := true
    otherCounts := true }
  Draft := Draft
  Plan := Plan
  Native := Json
  start := Draft.start
  addGroup := Draft.addGroup
  setPage := Draft.setPage
  setSort := Draft.setSort
  setCursor := Draft.setCursor
  setFacets := Draft.setFacets
  setComputation := Draft.setComputation
  build d := .ok d.build
  planJson := Plan.toJson
  readNative? v := some v.settled
  assembleHits := assembleHits
  assembleFacets := assembleFacets
  assembleComputation field metric result := .ok (assembleComputation field metric result)

end GeoFacet.Search
