import GeoFacet.Facet.Plan
import GeoFacet.Sql.Expr

/-!
# Result columns

A statement selects expressions under names. A box and a centroid take one column for each number;
the names of these columns begin with the name of the metric.
-/

namespace GeoFacet.Sql

/-- An expression under a name. -/
structure Column where
  value : Expr
  name : String
  deriving Inhabited

namespace Column

def tokens (c : Column) : List Token := c.value.tokens ++ [.word " AS ", .name c.name]

/-! ## The columns of metrics -/

/-- The names of the borders of a box. -/
def westName (name : String) : String := name ++ "_west"

def southName (name : String) : String := name ++ "_south"

def eastName (name : String) : String := name ++ "_east"

def northName (name : String) : String := name ++ "_north"

/-- The names of the coordinates of a centroid. -/
def lonName (name : String) : String := name ++ "_lon"

def latName (name : String) : String := name ++ "_lat"

/-- The box around the points of a column. -/
def box (column : Expr) (name : String) : List Column :=
  let extent := Expr.call "ST_Extent" [column]
  [⟨.call "ST_XMin" [extent], westName name⟩,
    ⟨.call "ST_YMin" [extent], southName name⟩,
    ⟨.call "ST_XMax" [extent], eastName name⟩,
    ⟨.call "ST_YMax" [extent], northName name⟩]

/-- The centroid of the points of a column. -/
def centroid (column : Expr) (name : String) : List Column :=
  [⟨.call "AVG" [.call "ST_X" [column]], lonName name⟩,
    ⟨.call "AVG" [.call "ST_Y" [column]], latName name⟩]

/-- A function over the rows of a bucket. -/
def metric (function : CollectFunction) (field name : String) : List Column :=
  let column := Expr.column field
  match function with
  | .avg => [⟨.call "AVG" [column], name⟩]
  | .cardinality => [⟨.call "COUNT" [.distinct column], name⟩]
  | .max => [⟨.call "MAX" [column], name⟩]
  | .min => [⟨.call "MIN" [column], name⟩]
  | .sum => [⟨.call "SUM" [column], name⟩]
  | .geoBBox => box column name
  | .geoCentroid => centroid column name

end Column

end GeoFacet.Sql
