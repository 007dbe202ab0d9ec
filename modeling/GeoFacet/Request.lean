import GeoFacet.Facet.Spec
import GeoFacet.Filter.Expression
import GeoFacet.Json.Reader
import GeoFacet.Page

/-!
# Requests

A request filters a collection and asks for a page of hits, for facets, or for one computed value.
Its document is one object in which the parts of the filter stand beside the others and `kind` says
which of the three it is.
-/

namespace GeoFacet

/-- What every request filters by: groups that must all hold, each a list of alternatives. -/
structure FilterRequest where
  expressions : List (List Expression)
  /-- full-text searches `field:text` -/
  searches : List (List String)
  /-- how the date values of the expressions are written -/
  dateFormat : Option String
  deriving DecidableEq, Repr, Inhabited

structure SearchRequest where
  filter : FilterRequest
  page : Page
  deriving DecidableEq, Repr, Inhabited

structure FacetRequest where
  filter : FilterRequest
  facets : List FacetSpec
  /-- the first level must be placed on the globe -/
  geo : Bool
  deriving DecidableEq, Repr, Inhabited

structure ComputationRequest where
  filter : FilterRequest
  field : String
  metric : ComputationMetric
  deriving DecidableEq, Repr, Inhabited

/-- A request of any kind. -/
inductive Request where
  | search (r : SearchRequest)
  | facets (r : FacetRequest)
  | compute (r : ComputationRequest)
  deriving DecidableEq, Repr, Inhabited

/-! ## Documents -/

namespace Expression

def ofJson? (emptyIsNull : Bool) (v : Json) : Option Expression := do
  let fs ← v.fields? ["field", "op", "value"]
  some {
    field := ← fs.required "field" Json.asText?
    op := ← fs.required "op" (Json.word? emptyIsNull)
    value := ← fs.required "value" Json.asText? }

def toJson (e : Expression) : Json :=
  .ofMembers [("field", .text e.field), ("op", .ofWord e.op), ("value", .text e.value)]

end Expression

namespace FilterRequest

def keys : List String := ["f", "q", "date_format"]

/-- The filter among the fields of a request. -/
def ofFields? (fs : Fields) : Option FilterRequest := do
  some {
    expressions := ← fs.defaulted "f" [] (Json.listOf? (Json.listOf? (Expression.ofJson? true)))
    searches := ← fs.defaulted "q" [] (Json.listOf? (Json.listOf? Json.asText?))
    dateFormat := ← fs.optional "date_format" Json.asText? }

/-- The fields that a filter adds to a request. -/
def toFields (r : FilterRequest) : Fields := [
  ("f", .list (r.expressions.map fun group => .list (group.map Expression.toJson))),
  ("q", .list (r.searches.map fun group => .list (group.map Json.text))),
  ("date_format", .ofOption Json.text r.dateFormat)]

end FilterRequest

namespace SearchRequest

def keys : List String := FilterRequest.keys ++ ["page"]

def ofJson? (v : Json) : Option SearchRequest := do
  let fs ← v.objectFields? keys
  some {
    filter := ← FilterRequest.ofFields? fs
    page := ← fs.defaulted "page" Page.first Page.ofJson? }

def toFields (r : SearchRequest) : Fields := r.filter.toFields ++ [("page", r.page.toJson)]

end SearchRequest

namespace FacetRequest

def keys : List String := FilterRequest.keys ++ ["aggregations", "geo"]

def ofJson? (emptyIsNull : Bool) (v : Json) : Option FacetRequest := do
  let fs ← v.objectFields? keys
  some {
    filter := ← FilterRequest.ofFields? fs
    facets := ← fs.required "aggregations" (Json.listOf? (FacetSpec.ofJson? emptyIsNull))
    geo := ← fs.defaulted "geo" false Json.asBool? }

def toFields (r : FacetRequest) : Fields :=
  r.filter.toFields ++
    [("aggregations", .list (r.facets.map FacetSpec.toJson)), ("geo", .bool r.geo)]

end FacetRequest

namespace ComputationRequest

def keys : List String := FilterRequest.keys ++ ["field", "metric"]

def ofJson? (emptyIsNull : Bool) (v : Json) : Option ComputationRequest := do
  let fs ← v.objectFields? keys
  some {
    filter := ← FilterRequest.ofFields? fs
    field := ← fs.required "field" Json.asText?
    metric := ← fs.required "metric" (Json.word? emptyIsNull) }

def toFields (r : ComputationRequest) : Fields :=
  r.filter.toFields ++ [("field", .text r.field), ("metric", .ofWord r.metric)]

end ComputationRequest

namespace Request

/-- The request of a document. The kind is a text, given once. -/
def ofJson? (v : Json) : Option Request := do
  let kind ← v.objectFields? ["kind"]
  match kind with
  | [(_, .text "search")] => (SearchRequest.ofJson? v).map search
  | [(_, .text "aggregate")] => (FacetRequest.ofJson? true v).map facets
  | [(_, .text "compute")] => (ComputationRequest.ofJson? true v).map compute
  | _ => none

/-- The request that a text holds. -/
def ofText? (text : String) : Option Request := (Json.read? text).bind ofJson?

def toJson : Request → Json
  | search r => .ofMembers (("kind", .text "search") :: r.toFields)
  | facets r => .ofMembers (("kind", .text "aggregate") :: r.toFields)
  | compute r => .ofMembers (("kind", .text "compute") :: r.toFields)

end Request

end GeoFacet
