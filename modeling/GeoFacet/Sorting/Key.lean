import GeoFacet.Fault
import GeoFacet.Decimal.Read
import GeoFacet.Text.Blank

/-!
# Sort specifications

A sort specification lists keys between commas:

- `field` and `-field` sort on a field, ascending and descending;
- `geodistance:LAT LON` and `-geodistance:LAT LON` sort on the distance from a point;
- `LAT LON` sorts on that distance, ascending; a minus in front belongs to the latitude.

At most one key may be a distance.
-/

namespace GeoFacet

/-- One key of a sort. -/
inductive SortKey where
  | field (name : String) (order : Order)
  | distance (lat lon : Float) (order : Order)
  deriving BEq, Inhabited

namespace SortKey

def order : SortKey → Order
  | field _ o => o
  | distance _ _ o => o

def isDescending (k : SortKey) : Bool := k.order = .desc

def isDistance : SortKey → Bool
  | distance .. => true
  | field .. => false

/-- The same key the other way round. -/
def inverted : SortKey → SortKey
  | field name o => field name o.flip
  | distance lat lon o => distance lat lon o.flip

/-- The word in front of a point. -/
def distanceTag : String := "geodistance:"

/-- The token of a key. -/
def display (k : SortKey) : String :=
  let sign := if k.isDescending then "-" else ""
  match k with
  | field name _ => sign ++ name
  | distance lat lon _ => sign ++ distanceTag ++ plainText lat ++ " " ++ plainText lon

/-- A latitude and a longitude on the globe. -/
def readPoint? (text : String) : Option (Float × Float) :=
  match (Text.words text).map readFloat? with
  | [some lat, some lon] =>
    if -90 ≤ lat ∧ lat ≤ 90 ∧ -180 ≤ lon ∧ lon ≤ 180 then some (lat, lon) else none
  | _ => none

/-- The key of a token. -/
def parse (raw : String) : Outcome SortKey :=
  let token := Text.trim raw
  if token = "" ∨ token = "-" then refuse (.malformedSortToken raw)
  else
    let (order, unsigned) : Order × List Char :=
      match token.toList with
      | '-' :: rest => (.desc, rest)
      | '+' :: rest => (.asc, rest)
      | cs => (.asc, cs)
    match Text.dropStart? distanceTag.toList unsigned with
    | some point => do
      let (lat, lon) ← orRefuse (.malformedDistance raw) (readPoint? (String.ofList point))
      .ok (distance lat lon order)
    | none =>
      if token.toList.any Text.isSpace then do
        let (lat, lon) ← orRefuse (.malformedDistance raw) (readPoint? token)
        .ok (distance lat lon .asc)
      else .ok (field (String.ofList unsigned) order)

end SortKey

namespace Sorting

/-- The keys of a specification. -/
def parse (spec : String) : Outcome (List SortKey) := do
  let keys ← (Text.split ',' spec).mapM SortKey.parse
  if 1 < (keys.filter SortKey.isDistance).length then refuse (.severalDistances spec)
  else .ok keys

/-- The specification with every key the other way round. -/
def invert (spec : String) : Outcome String := do
  let keys ← parse spec
  .ok (",".intercalate (keys.map fun k => k.inverted.display))

end Sorting

end GeoFacet
