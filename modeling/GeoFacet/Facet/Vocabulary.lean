import GeoFacet.Vocabulary

/-!
# The words of facet requests

How buckets are formed, what is collected in each of them, how they are ordered, and which
geometries come with them.
-/

namespace GeoFacet

/-- How the buckets of one level are formed. -/
inductive FacetType where
  | dateHistogram | histogram | term | geohash | geotile
  deriving DecidableEq, Repr, Inhabited

namespace FacetType

def name : FacetType → String
  | dateHistogram => "datehistogram"
  | histogram => "histogram"
  | term => "term"
  | geohash => "geohash"
  | geotile => "geotile"

instance : Vocabulary FacetType where
  all := [dateHistogram, histogram, term, geohash, geotile]
  name := name

/-- Types whose buckets are cells of the globe. -/
def isGeo : FacetType → Bool
  | geohash | geotile => true
  | _ => false

end FacetType

/-- A function collected over the documents of a bucket. -/
inductive CollectFunction where
  | avg | cardinality | max | min | sum | geoBBox | geoCentroid
  deriving DecidableEq, Repr, Inhabited

namespace CollectFunction

def name : CollectFunction → String
  | avg => "avg"
  | cardinality => "cardinality"
  | max => "max"
  | min => "min"
  | sum => "sum"
  | geoBBox => "geobbox"
  | geoCentroid => "geocentroid"

instance : Vocabulary CollectFunction where
  all := [avg, cardinality, max, min, sum, geoBBox, geoCentroid]
  name := name

/-- Functions whose value is a geometry. -/
def isGeo : CollectFunction → Bool
  | geoBBox | geoCentroid => true
  | _ => false

end CollectFunction

/-- A single value computed over a whole filtered set. -/
inductive ComputationMetric where
  | avg | cardinality | max | min | sum
  /-- the greatest value less the smallest -/
  | spanning
  | geoBBox | geoCentroid
  deriving DecidableEq, Repr, Inhabited

namespace ComputationMetric

def name : ComputationMetric → String
  | avg => "avg"
  | cardinality => "cardinality"
  | max => "max"
  | min => "min"
  | sum => "sum"
  | spanning => "spanning"
  | geoBBox => "geobbox"
  | geoCentroid => "geocentroid"

instance : Vocabulary ComputationMetric where
  all := [avg, cardinality, max, min, sum, spanning, geoBBox, geoCentroid]
  name := name

def isGeo : ComputationMetric → Bool
  | geoBBox | geoCentroid => true
  | _ => false

/-- The function that computes the value; a span takes two. -/
def function? : ComputationMetric → Option CollectFunction
  | avg => some .avg
  | cardinality => some .cardinality
  | max => some .max
  | min => some .min
  | sum => some .sum
  | spanning => none
  | geoBBox => some .geoBBox
  | geoCentroid => some .geoCentroid

end ComputationMetric

/-- A sort direction. -/
inductive Order where
  | asc | desc
  deriving DecidableEq, Repr, Inhabited

namespace Order

def name : Order → String
  | asc => "asc"
  | desc => "desc"

/-- The direction in a statement. -/
def keyword : Order → String
  | asc => "ASC"
  | desc => "DESC"

instance : Vocabulary Order where
  all := [asc, desc]
  name := name

def flip : Order → Order
  | asc => desc
  | desc => asc

@[simp] theorem flip_flip (o : Order) : o.flip.flip = o := by cases o <;> rfl

end Order

/-- What the buckets of a level are ordered on. -/
inductive OrderOn where
  /-- the bucket key -/
  | field
  /-- the number of documents -/
  | count
  /-- the first metric that is no geometry -/
  | result
  deriving DecidableEq, Repr, Inhabited

namespace OrderOn

def name : OrderOn → String
  | field => "field"
  | count => "count"
  | result => "result"

instance : Vocabulary OrderOn where
  all := [field, count, result]
  name := name

end OrderOn

/-- A geometry computed for a bucket. -/
inductive AggregatedGeometry where
  /-- the box around the centroids of the documents -/
  | bbox
  /-- the centroid of their centroids -/
  | centroid
  /-- the cell that the bucket key names -/
  | cell
  /-- the center of that cell -/
  | cellCenter
  deriving DecidableEq, Repr, Inhabited

namespace AggregatedGeometry

def name : AggregatedGeometry → String
  | bbox => "bbox"
  | centroid => "centroid"
  | cell => "cell"
  | cellCenter => "cell_center"

instance : Vocabulary AggregatedGeometry where
  all := [bbox, centroid, cell, cellCenter]
  name := name

/-- Geometries that follow from the bucket key alone. -/
def isCell : AggregatedGeometry → Bool
  | cell | cellCenter => true
  | _ => false

end AggregatedGeometry

/-- A unit of a date histogram. -/
inductive DateUnit where
  | year | quarter | month | week | day | hour | minute | second
  deriving DecidableEq, Repr, Inhabited

namespace DateUnit

def name : DateUnit → String
  | year => "year"
  | quarter => "quarter"
  | month => "month"
  | week => "week"
  | day => "day"
  | hour => "hour"
  | minute => "minute"
  | second => "second"

/-- The one-letter form. -/
def suffix : DateUnit → String
  | year => "y"
  | quarter => "q"
  | month => "M"
  | week => "w"
  | day => "d"
  | hour => "h"
  | minute => "m"
  | second => "s"

/-- The unit a word names. `M` is the month and `m` the minute; all other words are read in any
case. -/
def ofWord? (word : String) : Option DateUnit :=
  if word = "M" then some month
  else if word = "m" then some minute
  else
    match String.ofList (word.toList.map Char.toLower) with
    | "y" | "year" | "years" => some year
    | "q" | "quarter" | "quarters" => some quarter
    | "month" | "months" => some month
    | "w" | "week" | "weeks" => some week
    | "d" | "day" | "days" => some day
    | "h" | "hour" | "hours" => some hour
    | "minute" | "minutes" => some minute
    | "s" | "second" | "seconds" => some second
    | _ => none

/-- The length in milliseconds of a unit that does not depend on the calendar. -/
def fixedMillis? : DateUnit → Option Nat
  | day => some 86400000
  | hour => some 3600000
  | minute => some 60000
  | second => some 1000
  | _ => none

/-- Units whose length depends on the calendar. -/
def isCalendar (u : DateUnit) : Bool := u.fixedMillis?.isNone

end DateUnit

end GeoFacet
