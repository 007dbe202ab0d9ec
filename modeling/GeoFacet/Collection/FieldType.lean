import GeoFacet.Vocabulary

/-!
# Field types

What a field of a collection holds decides which filters, facets and metrics may use it.
-/

namespace GeoFacet

/-- The declared type of a field. -/
inductive FieldType where
  | text | keyword
  | long | integer | short | byte | double | float
  | date | boolean
  | geoPoint | geoShape
  | point | lineString | polygon | multiPoint | multiLineString | multiPolygon
  | object
  deriving DecidableEq, Repr, Inhabited

namespace FieldType

def name : FieldType → String
  | text => "text"
  | keyword => "keyword"
  | long => "long"
  | integer => "integer"
  | short => "short"
  | byte => "byte"
  | double => "double"
  | float => "float"
  | date => "date"
  | boolean => "boolean"
  | geoPoint => "geo_point"
  | geoShape => "geo_shape"
  | point => "point"
  | lineString => "linestring"
  | polygon => "polygon"
  | multiPoint => "multipoint"
  | multiLineString => "multilinestring"
  | multiPolygon => "multipolygon"
  | object => "object"

instance : Vocabulary FieldType where
  all := [text, keyword, long, integer, short, byte, double, float, date, boolean, geoPoint,
    geoShape, point, lineString, polygon, multiPoint, multiLineString, multiPolygon, object]
  name := name

def isDate (t : FieldType) : Bool := t = date

def isNumeric : FieldType → Bool
  | long | integer | short | byte | double | float => true
  | _ => false

/-- Types that spatial predicates apply to. -/
def isGeometry : FieldType → Bool
  | geoPoint | geoShape | point | lineString | polygon | multiPoint | multiLineString
  | multiPolygon => true
  | _ => false

def isPoint : FieldType → Bool
  | geoPoint | point => true
  | _ => false

/-- Types that are matched as text. -/
def isTextual : FieldType → Bool
  | text | keyword => true
  | _ => false

/-- Numbers, and dates as the milliseconds they are stored in. -/
def isMeasure (t : FieldType) : Bool := t.isNumeric || t.isDate

end FieldType

end GeoFacet
