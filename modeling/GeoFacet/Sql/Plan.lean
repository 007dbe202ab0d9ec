import GeoFacet.Page
import GeoFacet.Sorting.Cursor
import GeoFacet.Sql.Facets

/-!
# Plans of statements

A plan is a list of statements against one table. A draft of it gathers the filter, the page and the
facets step by step.
-/

namespace GeoFacet.Sql

/-- Statements against one table. -/
structure Plan where
  table : String
  statements : List Statement
  deriving Inhabited

/-- The document form of a plan. -/
def Plan.toJson (p : Plan) : Json :=
  .ofMembers [
    ("table", .text p.table),
    ("statements", .list (p.statements.map Statement.toJson))]

/-- What the rows are wanted for. -/
inductive Aim where
  | hits
  | facets (plan : FacetPlan)
  | computation (field : String) (metric : ComputationMetric)

/-- What was gathered for a plan. -/
structure Draft where
  collection : Collection
  filter : Filter
  size : Nat
  offset : Nat
  sort : List SortKey
  /-- the keys and values of the row that the page comes after -/
  after : Option (List (SortKey × Scalar))
  aim : Aim

/-- The name of the column with the geometry of a record. -/
def geometryName : String := "_geometry"

/-- The name of the column with the centroid of a record. -/
def centroidName : String := "_centroid"

/-- The beginning of the names of the columns with sort values. -/
def sortNameStart : String := "_sort_"

/-- The name of the column with the value of a sort key. -/
def sortName (index : Nat) : String := sortNameStart ++ toString index

namespace Draft

def start (c : Collection) : Draft := ⟨c, [], Page.defaultSize, 0, [], none, .hits⟩

def addGroup (group : List Condition) (d : Draft) : Draft :=
  { d with filter := d.filter.add group }

def setPage (size offset : Nat) (d : Draft) : Draft :=
  { d with size := size, offset := offset }

def setSort (spec : String) (d : Draft) : Outcome Draft := do
  .ok { d with sort := ← Sorting.parse spec }

/-- Keeps the hits after a cursor in a sort order. -/
def setCursor (spec cursor : String) (d : Draft) : Outcome Draft := do
  let keys ← Sorting.parse spec
  let values ← Cursor.parse keys cursor d.collection.idPath
  .ok { d with after := some (keys.zip values) }

/-- Asks for facets in place of hits. Raw geometries and fetched documents are left out. -/
def setFacets (p : FacetPlan) (d : Draft) : Draft := { d with aim := .facets p }

def setComputation (field : String) (metric : ComputationMetric) (d : Draft) : Outcome Draft := do
  let _ ← checkComputation d.collection field metric
  .ok { d with aim := .computation (Text.trim field) metric }

/-! ## Statements -/

/-- The statement of one row of values over all matching rows. -/
def totals (c : Collection) (filter : List (Predicate Scalar)) (columns : List Column) : Query :=
  .rows {
    allColumns := false
    columns := countColumn totalName :: columns
    table := c.index
    selection := ⟨filter, []⟩
    order := []
    limit := none
    offset := 0 }

def countStatement (c : Collection) (filter : List (Predicate Scalar)) : Statement :=
  ⟨.count, totals c filter []⟩

/-- The columns with the values of sort keys, numbered from `i` on. -/
def sortColumns (centroidPath : String) (i : Nat) : List SortKey → List Column
  | [] => []
  | key :: rest => ⟨.ofSortKey centroidPath key, sortName i⟩ :: sortColumns centroidPath (i + 1) rest

/-- The order of a page: by the sort keys, or by the identifier if there are none. -/
def pageOrder (c : Collection) (sort : List SortKey) : List (Expr × Order) :=
  if sort.isEmpty then [(.column c.idPath, .asc)]
  else sort.map fun key => (Expr.ofSortKey c.centroidPath key, key.order)

/-- The statement of a page of rows. -/
def hitsStatement (d : Draft) (filter : List (Predicate Scalar)) : Statement :=
  let c := d.collection
  ⟨.hits, .rows {
    allColumns := true
    columns :=
      [⟨.call "ST_AsGeoJSON" [.column c.geometryPath], geometryName⟩,
        ⟨.call "ST_AsGeoJSON" [.column c.centroidPath], centroidName⟩] ++
        sortColumns c.centroidPath 0 d.sort
    table := c.index
    selection := ⟨filter, (d.after.map (Predicate.keyset c.centroidPath)).toList⟩
    order := pageOrder c d.sort
    limit := some d.size
    offset := d.offset }⟩

def build (d : Draft) : Outcome Plan := do
  let c := d.collection
  let filter ← Predicate.ofFilter d.filter
  .ok ⟨c.index, match d.aim with
    | .hits => [countStatement c filter, d.hitsStatement filter]
    | .facets plan => countStatement c filter :: levelStatements c filter [] plan.levels
    | .computation field metric =>
      [⟨.computation, totals c filter (computationColumns field metric)⟩]⟩

end Draft

end GeoFacet.Sql
