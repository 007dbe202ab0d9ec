import GeoFacet.Filter.Condition
import GeoFacet.Sorting.Key

/-!
# Search queries

The clauses of the query language of the document search, and the query that a filter becomes.
-/

namespace GeoFacet.Search

/-- A query clause. -/
inductive Query where
  | matchAll
  | terms (field : String) (values : List Scalar)
  | range (field : String) (bounds : List (Comparison × Scalar)) (isDate : Bool)
  | wildcard (field pattern : String)
  | geoShape (field : String) (relation : SpatialRelation) (shape : Geometry)
  /-- all words in one field -/
  | words (field text : String)
  /-- all words in any fields -/
  | anyField (text : String)
  | mustNot (clause : Query)
  /-- at least one of the clauses -/
  | should (clauses : List Query)
  /-- every one of the clauses -/
  | filter (clauses : List Query)
  deriving Inhabited

/-- An object with one member. -/
def single (key : String) (value : Json) : Json := .object [(key, value)]

namespace Query

/-- The bounds of a range, which for dates says how they are written. -/
def boundsJson (bounds : List (Comparison × Scalar)) (isDate : Bool) : Json :=
  .ofMembers ((bounds.map fun (op, value) => (op.name, value.toJson)) ++
    if isDate then [("format", .text DateFormat.epochMillisName)] else [])

mutual

/-- The document form of a clause. -/
def toJson : Query → Json
  | .matchAll => single "match_all" (.object [])
  | .terms field values => single "terms" (single field (.list (values.map Scalar.toJson)))
  | .range field bounds isDate => single "range" (single field (boundsJson bounds isDate))
  | .wildcard field pattern => single "wildcard" (single field (single "value" (.text pattern)))
  | .geoShape field relation shape =>
    single "geo_shape" (single field (.ofMembers
      [("shape", shape.toGeoJson), ("relation", .text relation.name)]))
  | .words field text =>
    single "match" (single field (.ofMembers
      [("query", .text text), ("operator", .text "and")]))
  | .anyField text =>
    single "query_string" (.ofMembers
      [("query", .text text), ("default_operator", .text "and")])
  | .mustNot clause => single "bool" (single "must_not" (.list [toJson clause]))
  | .should clauses =>
    single "bool" (.ofMembers
      [("should", .list (toJsonList clauses)), ("minimum_should_match", .int 1)])
  | .filter clauses => single "bool" (single "filter" (.list (toJsonList clauses)))

def toJsonList : List Query → List Json
  | [] => []
  | q :: rest => toJson q :: toJsonList rest

end

/-- A clause alone, or several as alternatives. -/
def anyOf : List Query → Query
  | [q] => q
  | qs => .should qs

/-- Escapes the characters that a wildcard pattern reads specially. -/
def escapeWildcard (s : String) : String :=
  String.ofList (s.toList.flatMap fun c => if c = '\\' ∨ c = '*' ∨ c = '?' then ['\\', c] else [c])

/-- The pattern of the texts that contain a text. -/
def containing (s : String) : String := "*" ++ escapeWildcard s ++ "*"

/-- The clause of one range. -/
def ofRange (field : String) (isDate : Bool) (r : ValueRange) : Query :=
  .range field [(.lower r.minInclusive, r.min), (.upper r.maxInclusive, r.max)] isDate

/-- The clause of a condition. -/
def ofCondition : Condition → Query
  | .oneOf field values => .terms field values
  | .noneOf field values => .mustNot (.terms field values)
  | .compare field op value isDate => .range field [(op, value)] isDate
  | .like field text => .wildcard field (containing text)
  | .ranges field ranges isDate => anyOf (ranges.map (ofRange field isDate))
  | .spatial field relation negated shape =>
    if negated then .mustNot (.geoShape field relation shape) else .geoShape field relation shape
  | .text (some field) text => .words field text
  | .text none text => .anyField text

/-- The query of a filter. -/
def ofFilter (f : Filter) : Query :=
  if f.isEmpty then .matchAll else .filter (f.map fun group => anyOf (group.map ofCondition))

end Query

/-- The document form of a sort key. Distances are measured from the centroid. -/
def sortJson (centroidPath : String) : SortKey → Json
  | .field name order => single name (single "order" (.text order.name))
  | .distance lat lon order =>
    single "_geo_distance" (.ofMembers [
      (centroidPath, .ofMembers [("lat", .ofFloat lat), ("lon", .ofFloat lon)]),
      ("order", .text order.name),
      ("unit", .text "m")])

end GeoFacet.Search
