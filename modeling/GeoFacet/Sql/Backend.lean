import GeoFacet.Backend
import GeoFacet.Sql.Assembly

/-!
# The relational backend
-/

namespace GeoFacet.Sql

/-- Statements over a table with geometries. Raw geometries and fetched documents are left out of
its plans. -/
def backend : Backend where
  kind := .sql
  capabilities := {
    rawGeometries := false
    fetchedHits := false
    unscopedText := false
    otherCounts := false }
  Draft := Draft
  Plan := Plan
  Native := Rows
  start := Draft.start
  addGroup := Draft.addGroup
  setPage := Draft.setPage
  setSort := Draft.setSort
  setCursor := Draft.setCursor
  setFacets := Draft.setFacets
  setComputation := Draft.setComputation
  build := Draft.build
  planJson := Plan.toJson
  readNative? v := Rows.ofJson? v.settled
  assembleHits := assembleHits
  assembleFacets _ := assembleFacets
  assembleComputation := assembleComputation

end GeoFacet.Sql
