import GeoFacet.Date.Reading
import GeoFacet.Date.Writing

/-!
# Date formats

A date format is one of two names for numbers since the first of January 1970, or a pattern.
-/

namespace GeoFacet

/-- How the dates of a request are written. -/
inductive DateFormat where
  | epochMillis
  | epochSecond
  | pattern (items : List DateItem)

namespace DateFormat

/-- How the keys of a date histogram are shown when the request does not say. -/
def defaultKeyFormat : String := "yyyy-MM-dd-hh:mm:ss"

/-- The name of the format in which backends store dates. -/
def epochMillisName : String := "epoch_millis"

/-- The format a text names or describes. -/
def ofText (format : String) : Outcome DateFormat :=
  if format = epochMillisName then .ok epochMillis
  else if format = "epoch_second" then .ok epochSecond
  else (DatePattern.items format).map pattern

/-- Brings a number into the signed 64-bit range. -/
def saturate (n : Int) : Int := max Int64.minValue.toInt (min n Int64.maxValue.toInt)

/-- The milliseconds that a trimmed text denotes in a format. -/
def read? : DateFormat → String → Option Int
  | epochMillis, text => readInt64? text
  | epochSecond, text => (readInt64? text).map fun n => saturate (1000 * n)
  | pattern items, text => DatePattern.read? items text

end DateFormat

/-- The milliseconds that a date value denotes in the format of a request. -/
def readDate (value format : String) : Outcome Int := do
  let f ← DateFormat.ofText format
  orRefuse (.dateMismatch value format) (f.read? (Text.trim value))

/-- An instant in the format of a request. -/
def writeDate (millis : Int) (format : String) : Outcome String := do
  match ← DateFormat.ofText format with
  | .epochMillis => .ok (toString millis)
  | .epochSecond => .ok (toString (Int.tdiv millis 1000))
  | .pattern items => orRefuse (.timestampOutOfRange millis) (DatePattern.write? items millis)

end GeoFacet
