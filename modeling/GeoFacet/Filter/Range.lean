import GeoFacet.Date.Format
import GeoFacet.Filter.Scalar

/-!
# Range filters

A range value is a list of items `[min<max]` between commas. The left bracket is `[` where the lower
bound belongs to the range and `]` where it does not; the right bracket is `]` where the upper bound
belongs to the range and `[` where it does not.
-/

namespace GeoFacet

/-- One interval of a range filter. -/
structure ValueRange where
  min : Scalar
  max : Scalar
  minInclusive : Bool
  maxInclusive : Bool
  deriving BEq, Inhabited

/-- The parts of a range item before its bounds are typed. -/
structure RangeText where
  min : String
  max : String
  minInclusive : Bool
  maxInclusive : Bool
  deriving DecidableEq, Repr

namespace ValueRange

/-- Splits an item into its brackets and bounds. Neither bound may be empty or hold a `<`. -/
def split? (item : String) : Option RangeText :=
  match item.toList with
  | left :: rest =>
    match rest.getLast? with
    | some right =>
      if (left = '[' ∨ left = ']') ∧ (right = '[' ∨ right = ']') then
        match Text.splitList '<' rest.dropLast with
        | [min, max] =>
          if min.isEmpty || max.isEmpty then none
          else some ⟨String.ofList min, String.ofList max, left = '[', right = ']'⟩
        | _ => none
      else none
    | none => none
  | [] => none

/-- Requires comparable bounds, the lower one below the upper one. -/
def check (r : ValueRange) : Outcome Unit :=
  match r.min.compare r.max with
  | some .lt => .ok ()
  | some _ => refuse (.emptyRange r.min.display r.max.display)
  | none => refuse (.mixedRange r.min.display r.max.display)

/-- The scalar of a bound: milliseconds where the request gives a date format. -/
def bound (dateFormat : Option String) (raw : String) : Outcome Scalar :=
  match dateFormat with
  | some format => (readDate raw format).map .integer
  | none => .ok (Scalar.parse raw)

/-- The range of one item. -/
def parseItem (dateFormat : Option String) (item : String) : Outcome ValueRange := do
  let parts ← orRefuse (.malformedRange item) (split? item)
  let min ← bound dateFormat parts.min
  let max ← bound dateFormat parts.max
  let range := ⟨min, max, parts.minInclusive, parts.maxInclusive⟩
  check range
  .ok range

/-- The ranges of a value, at least one. -/
def parse (dateFormat : Option String) (value : String) : Outcome (List ValueRange) := do
  let ranges ← (Text.items value).mapM (parseItem dateFormat)
  if ranges.isEmpty then refuse (.noRange value) else .ok ranges

end ValueRange

end GeoFacet
