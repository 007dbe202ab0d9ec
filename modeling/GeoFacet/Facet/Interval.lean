import GeoFacet.Decimal.Read
import GeoFacet.Fault
import GeoFacet.Text.Blank

/-!
# Intervals

An interval is a number, a unit, or both: `3`, `2.5`, `1month`, `day`. White space may stand around
them. A unit alone counts once; the number must be positive.
-/

namespace GeoFacet

/-- A number, in a unit if one is given. -/
structure Interval where
  value : Float
  unit : Option DateUnit
  deriving BEq, Inhabited

namespace Interval

/-- Digits, or digits, a point and digits at the front of the text, and the rest. -/
def splitNumber (cs : List Char) : List Char × List Char :=
  let whole := cs.takeWhile Char.isDigit
  let rest := cs.dropWhile Char.isDigit
  match whole, rest with
  | _ :: _, '.' :: more =>
    let fraction := more.takeWhile Char.isDigit
    if fraction.isEmpty then (whole, rest)
    else (whole ++ '.' :: fraction, more.dropWhile Char.isDigit)
  | _, _ => (whole, rest)

/-- The interval of a text. -/
def parse? (raw : String) : Option Interval := do
  let (number, rest) := splitNumber (Text.trimList raw.toList)
  let word := rest.dropWhile Text.isSpace
  if !word.all Char.isAlpha then failure
  let unit ← if word.isEmpty then some none
    else (DateUnit.ofWord? (String.ofList word)).map some
  let value ← if number.isEmpty then (if unit.isSome then some 1.0 else none)
    else readFloat? (String.ofList number)
  if 0.0 < value then some ⟨value, unit⟩ else none

def parse (raw : String) : Outcome Interval := orRefuse (.malformedInterval raw) (parse? raw)

/-- The number, if it is whole and below `2^32`: cutting it off changes nothing. -/
def asNat? (i : Interval) : Option Nat :=
  let whole := i.value.toUInt32
  if whole.toFloat == i.value then some whole.toNat else none

end Interval

end GeoFacet
