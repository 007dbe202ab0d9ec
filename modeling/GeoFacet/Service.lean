import GeoFacet.Backend

/-!
# Services

A service answers the requests for one collection through one backend. A request is compiled in full
before the backend is asked, so a faulty one never reaches it; the backend is asked at most once, and
its faults carry the name of the collection. The same steps are available apart: `explain` gives the
plan, and `assemble` makes the response of a native result.
-/

namespace GeoFacet

/-- One collection behind a backend. -/
structure Service (b : Backend) where
  collection : Collection
  /-- the greatest offset plus size of a page -/
  maxPageSize : Nat

namespace Service

variable {b : Backend}

/-! ## Plans -/

/-- Whether hits come back in reverse order. -/
def isReversed (cursor : Option (CursorDirection × String)) : Bool :=
  match cursor with
  | some (.before, _) => true
  | _ => false

/-- The plan of a search, and whether its hits come back in reverse order. -/
def compileSearch (s : Service b) (r : SearchRequest) : Outcome (b.Plan × Bool) := do
  r.page.check s.maxPageSize
  let cursor ← r.page.cursor
  let d ← b.addFilter s.collection r.filter (b.start s.collection)
  let d ← b.addSort r.page cursor (b.setPage r.page.size r.page.offset d)
  .ok (← b.build d, isReversed cursor)

/-- The checked levels of a facet request. -/
def facetPlan (s : Service b) (r : FacetRequest) : Outcome FacetPlan :=
  FacetPlan.compile s.collection r.geo r.facets

/-- The checked levels of a facet request, and its plan. -/
def compileFacets (s : Service b) (r : FacetRequest) : Outcome (FacetPlan × b.Plan) := do
  let levels ← s.facetPlan r
  let d ← b.addFilter s.collection r.filter (b.start s.collection)
  .ok (levels, ← b.build (b.setFacets levels d))

def explainSearch (s : Service b) (r : SearchRequest) : Outcome b.Plan := do
  .ok (← s.compileSearch r).1

def explainFacets (s : Service b) (r : FacetRequest) : Outcome b.Plan := do
  .ok (← s.compileFacets r).2

def explainComputation (s : Service b) (r : ComputationRequest) : Outcome b.Plan := do
  let d ← b.addFilter s.collection r.filter (b.start s.collection)
  b.build (← b.setComputation r.field r.metric d)

/-- The plan of a request. -/
def explain (s : Service b) : Request → Outcome b.Plan
  | .search r => s.explainSearch r
  | .facets r => s.explainFacets r
  | .compute r => s.explainComputation r

/-! ## Responses -/

def assembleSearch (s : Service b) (r : SearchRequest) (native : b.Native) :
    Outcome Hits := do
  let cursor ← r.page.cursor
  b.assembleHits s.collection (isReversed cursor) native

def assembleFacets (s : Service b) (r : FacetRequest) (native : b.Native) :
    Outcome Bucket := do
  b.assembleFacets s.collection (← s.facetPlan r) native

def assembleComputation (_ : Service b) (r : ComputationRequest) (native : b.Native) :
    Outcome Computation :=
  b.assembleComputation (Text.trim r.field) r.metric native

/-- The document of a response. Facets placed on the globe become features. -/
def assemble (s : Service b) (r : Request) (native : b.Native) : Outcome Json :=
  match r with
  | .search r => (s.assembleSearch r native).map Hits.toJson
  | .facets r =>
    (s.assembleFacets r native).map fun tree =>
      if r.geo then tree.featureCollection else tree.toJson
  | .compute r => (s.assembleComputation r native).map Computation.toJson

/-! ## Live requests

The client may run in any monad: it performs a plan and gives the native result or a fault. Times are
not measured and count as zero. -/

variable {m : Type → Type} [Monad m]

/-- What performs the plans of a backend. -/
abbrev Client (m : Type → Type) (b : Backend) := b.Plan → ExceptT Fault m b.Native

/-- An outcome that needs no client. -/
def settle {α : Type} (o : Outcome α) : ExceptT Fault m α := ExceptT.mk (pure o)

/-- Performs a plan; a fault is about the collection. -/
def perform (s : Service b) (client : Client m b) (plan : b.Plan) :
    ExceptT Fault m b.Native :=
  ExceptT.adapt (Fault.withContext s.collection.name) (client plan)

def search (s : Service b) (client : Client m b) (r : SearchRequest) :
    ExceptT Fault m Hits := do
  let (plan, reverse) ← settle (s.compileSearch r)
  let native ← s.perform client plan
  settle (b.assembleHits s.collection reverse native)

def facets (s : Service b) (client : Client m b) (r : FacetRequest) :
    ExceptT Fault m Bucket := do
  let (levels, plan) ← settle (s.compileFacets r)
  let native ← s.perform client plan
  let tree ← settle (b.assembleFacets s.collection levels native)
  pure { tree with queryTime := some 0 }

/-- Performs a facet request whose first level is placed on the globe, and shows its buckets as
features. -/
def geoFacets (s : Service b) (client : Client m b) (r : FacetRequest) :
    ExceptT Fault m Json := do
  let tree ← s.facets client { r with geo := true }
  pure tree.featureCollection

def compute (s : Service b) (client : Client m b) (r : ComputationRequest) :
    ExceptT Fault m Computation := do
  let plan ← settle (s.explainComputation r)
  let native ← s.perform client plan
  settle (s.assembleComputation r native)

end Service

end GeoFacet
