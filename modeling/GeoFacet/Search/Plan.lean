import GeoFacet.Search.Facets
import GeoFacet.Sorting.Cursor

/-!
# Search plans

A plan is one request against one index. A draft of it gathers the filter, the page and the facets
step by step.
-/

namespace GeoFacet.Search

/-- A request against one index. -/
structure Plan where
  index : String
  centroidPath : String
  query : Query
  size : Option Nat
  offset : Option Nat
  sort : List SortKey
  searchAfter : Option (List Scalar)
  aggregations : Option (List (String × Aggregation))
  deriving Inhabited

/-- The document form of a plan. An offset of zero is left out. -/
def Plan.toJson (p : Plan) : Json :=
  .ofMembers [
    ("index", .text p.index),
    ("body", .ofPresent [
      ("query", some p.query.toJson),
      ("track_total_hits", some (.bool true)),
      ("size", p.size.map Json.ofNat),
      ("from", (p.offset.filter (0 < ·)).map Json.ofNat),
      ("sort",
        if p.sort.isEmpty then none else some (.list (p.sort.map (sortJson p.centroidPath)))),
      ("search_after", p.searchAfter.map fun vs => .list (vs.map Scalar.toJson)),
      ("aggs", p.aggregations.map fun as =>
        .ofMembers (Aggregation.toJsonMembers p.centroidPath as))])]

/-- What was gathered for a plan. -/
structure Draft where
  collection : Collection
  filter : Filter
  size : Option Nat
  offset : Option Nat
  sort : List SortKey
  searchAfter : Option (List Scalar)
  aggregations : Option (List (String × Aggregation))

namespace Draft

def start (c : Collection) : Draft := ⟨c, [], none, none, [], none, none⟩

def addGroup (group : List Condition) (d : Draft) : Draft :=
  { d with filter := d.filter.add group }

def setPage (size offset : Nat) (d : Draft) : Draft :=
  { d with size := some size, offset := some offset }

def setSort (spec : String) (d : Draft) : Outcome Draft := do
  .ok { d with sort := ← Sorting.parse spec }

/-- Keeps the hits after a cursor in a sort order. -/
def setCursor (spec cursor : String) (d : Draft) : Outcome Draft := do
  let keys ← Sorting.parse spec
  .ok { d with searchAfter := some (← Cursor.parse keys cursor d.collection.idPath) }

/-- Asks for aggregations in place of hits. -/
def setAggregations (as : List (String × Aggregation)) (d : Draft) : Draft :=
  { d with aggregations := some as, size := some 0, offset := none }

def setFacets (p : FacetPlan) (d : Draft) : Draft :=
  d.setAggregations (Aggregation.ofLevels d.collection p.levels)

def setComputation (field : String) (metric : ComputationMetric) (d : Draft) : Outcome Draft := do
  let _ ← checkComputation d.collection field metric
  .ok (d.setAggregations (Aggregation.ofComputation (Text.trim field) metric))

def build (d : Draft) : Plan where
  index := d.collection.index
  centroidPath := d.collection.centroidPath
  query := .ofFilter d.filter
  size := d.size
  offset := d.offset
  sort := d.sort
  searchAfter := d.searchAfter
  aggregations := d.aggregations

end Draft

end GeoFacet.Search
