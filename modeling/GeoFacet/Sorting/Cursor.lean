import GeoFacet.Filter.Scalar
import GeoFacet.Sorting.Key

/-!
# Cursors

A cursor gives the sort values of one row, one for each sort key and in their order, between commas.
It only makes sense where the keys leave no tie: one of them is the identifier or a distance.
-/

namespace GeoFacet.Cursor

/-- The value of one key. -/
def parseValue (key : SortKey) (raw : String) : Outcome Scalar :=
  let value := Scalar.parse raw
  if key.isDistance && !value.isNumber then refuse (.cursorDistance raw) else .ok value

def parseValues : List SortKey → List String → Outcome (List Scalar)
  | key :: keys, raw :: raws => do
    let value ← parseValue key raw
    let values ← parseValues keys raws
    .ok (value :: values)
  | _, _ => .ok []

/-- Whether one of the keys is the field at that path. -/
def holdsField (path : String) (keys : List SortKey) : Bool :=
  keys.any fun
    | .field name _ => name = path
    | .distance .. => false

/-- The values of a cursor for the keys that it was made from. -/
def parse (keys : List SortKey) (cursor idPath : String) : Outcome (List Scalar) :=
  if !keys.any SortKey.isDistance && !holdsField idPath keys then refuse (.sortWithoutId idPath)
  else
    let values := (Text.split ',' cursor).map Text.trim
    if values.length ≠ keys.length ∨ values.any (· = "") then
      refuse (.cursorSize cursor keys.length)
    else parseValues keys values

/-- The cursor of a row with the given sort values; none without values. -/
def ofValues? (values : List Json) : Option String :=
  if values.isEmpty then none
  else some (",".intercalate (values.map fun
    | .text s => s
    | v => v.print))

end GeoFacet.Cursor
