import GeoFacet.Collection.Config
import GeoFacet.Facet.Plan
import GeoFacet.Filter.Condition
import GeoFacet.Request
import GeoFacet.Response.Bucket
import GeoFacet.Response.Computation
import GeoFacet.Response.Hits

/-!
# Backends

A backend gathers a request in a draft, builds a plan from it, and reads the native result of the
plan. Filters, facets and sorts are checked before they reach the draft, so that all backends accept
the same requests; a backend without unscoped text is the only difference.
-/

namespace GeoFacet

/-- What a backend can execute. -/
structure Capabilities where
  /-- geometries taken from documents of a bucket -/
  rawGeometries : Bool
  /-- documents fetched for each bucket -/
  fetchedHits : Bool
  /-- full-text search in all fields at once -/
  unscopedText : Bool
  /-- the number of documents in buckets that were left out -/
  otherCounts : Bool
  deriving DecidableEq, Repr

/-- A compiler of requests to plans and of native results to responses. -/
structure Backend where
  kind : BackendKind
  capabilities : Capabilities
  Draft : Type
  Plan : Type
  Native : Type
  /-- the draft of a request for all records -/
  start : Collection → Draft
  /-- adds a group of alternatives to the filter -/
  addGroup : List Condition → Draft → Draft
  /-- sets the size and the offset of the page -/
  setPage : Nat → Nat → Draft → Draft
  setSort : String → Draft → Outcome Draft
  /-- keeps the hits after a cursor in a sort order -/
  setCursor : String → String → Draft → Outcome Draft
  setFacets : FacetPlan → Draft → Draft
  setComputation : String → ComputationMetric → Draft → Outcome Draft
  build : Draft → Outcome Plan
  planJson : Plan → Json
  readNative? : Json → Option Native
  /-- the page of hits, reversed after a scan the other way -/
  assembleHits : Collection → Bool → Native → Outcome Hits
  assembleFacets : Collection → FacetPlan → Native → Outcome Bucket
  assembleComputation : String → ComputationMetric → Native → Outcome Computation

namespace Backend

def name (b : Backend) : String := b.kind.name

/-- Adds a group of expressions. -/
def addExpressions (b : Backend) (c : Collection) (dateFormat : Option String)
    (group : List Expression) (d : b.Draft) : Outcome b.Draft := do
  .ok (b.addGroup (← Condition.ofExpressions c dateFormat group) d)

/-- Adds a group of full-text searches. -/
def addSearches (b : Backend) (c : Collection) (group : List String) (d : b.Draft) :
    Outcome b.Draft := do
  .ok (b.addGroup (← Condition.ofSearches c b.capabilities.unscopedText group) d)

/-- Adds all groups of a request, the expressions first. -/
def addFilter (b : Backend) (c : Collection) (r : FilterRequest) (d : b.Draft) :
    Outcome b.Draft := do
  let d ← r.expressions.foldlM (fun d group => b.addExpressions c r.dateFormat group d) d
  r.searches.foldlM (fun d group => b.addSearches c group d) d

/-- Sorts the draft, and keeps the hits after the cursor. The hits before a cursor are those after it
in the inverted order. -/
def addSort (b : Backend) (page : Page) (cursor : Option (CursorDirection × String))
    (d : b.Draft) : Outcome b.Draft :=
  match page.sortSpec? with
  | none => .ok d
  | some sort =>
    match cursor with
    | none => b.setSort sort d
    | some (.after, values) => do b.setCursor sort values (← b.setSort sort d)
    | some (.before, values) => do
      let inverted ← Sorting.invert sort
      b.setCursor inverted values (← b.setSort inverted d)

end Backend

end GeoFacet
