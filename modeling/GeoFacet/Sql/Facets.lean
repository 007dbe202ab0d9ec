import GeoFacet.Sql.BucketKey
import GeoFacet.Sql.Statement

/-!
# Facet statements

The buckets of a level come from one statement that groups by the keys of that level and all levels
above it. Rows without a value for one of these levels belong to no bucket.
-/

namespace GeoFacet.Sql

/-- The name of the column with the keys of a depth. -/
def keyName (depth : Nat) : String := "key_" ++ toString depth

/-- The name of the column with the number of rows of a bucket. -/
def countName : String := "count"

/-- The name of the column with the number of matching rows. -/
def totalName : String := "totalnb"

/-- The name of the column with a computed value. -/
def valueName : String := "value"

/-- The number of rows under a name. -/
def countColumn (name : String) : Column := ⟨.call "COUNT" [.star], name⟩

/-- The key of a level. -/
def keyColumn (l : FacetLevel) : Column := ⟨.bucketKey (.column l.field) l.kind, keyName l.depth⟩

/-- The columns that compute an aggregated geometry. -/
def geometryColumns (centroidPath : String) (g : AggregatedGeometry) : List Column :=
  let column := Expr.column centroidPath
  match g with
  | .bbox => Column.box column (aggregatedGeometryName g)
  | _ => Column.centroid column (aggregatedGeometryName g)

/-- The columns of the metrics and geometries of a level. -/
def levelColumns (centroidPath : String) (l : FacetLevel) : List Column :=
  l.ownMetrics.flatMap (fun m => Column.metric m.function m.field m.name) ++
    l.computedGeometries.flatMap (geometryColumns centroidPath)

/-- The ranking of sibling buckets. Ties go by rising key, and cells by falling count. -/
def ranking (l : FacetLevel) : List (String × Order) :=
  let key := keyName l.depth
  match l.order with
  | some (.key o) => [(key, o)]
  | some (.count o) => [(countName, o), (key, .asc)]
  | some (.metric name o) => [(name, o), (key, .asc)]
  | none => [(countName, .desc), (key, .asc)]

/-- The statement of a level below the given levels. -/
def levelQuery (c : Collection) (filter : List (Predicate Scalar)) (above : List FacetLevel)
    (l : FacetLevel) : LevelQuery where
  parents := above.map keyColumn
  key := keyColumn l
  columns := countColumn countName :: levelColumns c.centroidPath l
  table := c.index
  selection := ⟨filter, (above ++ [l]).map fun level => .notNull level.field⟩
  rank := ranking l
  size := l.size

/-- The statements of levels below the given levels. -/
def levelStatements (c : Collection) (filter : List (Predicate Scalar)) (above : List FacetLevel) :
    List FacetLevel → List Statement
  | [] => []
  | l :: below =>
    ⟨.level l.depth, .level (levelQuery c filter above l)⟩ ::
      levelStatements c filter (above ++ [l]) below

/-- The columns of a computation. -/
def computationColumns (field : String) (metric : ComputationMetric) : List Column :=
  match metric.function? with
  | some function => Column.metric function field valueName
  | none =>
    let column := Expr.column field
    [⟨.binary .sub (.call "MAX" [column]) (.call "MIN" [column]), valueName⟩]

end GeoFacet.Sql
