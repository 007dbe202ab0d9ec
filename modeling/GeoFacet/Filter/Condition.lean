import GeoFacet.Collection.Basic
import GeoFacet.Filter.Expression
import GeoFacet.Filter.Range
import GeoFacet.Geo.Shape

/-!
# Conditions

An expression is checked against the type of its field and becomes a condition, which says the same
for every backend. The conditions of a group are alternatives; the groups of a filter must all hold,
and of two equal groups only the first is kept.
-/

namespace GeoFacet

/-- An order comparison. -/
inductive Comparison where
  | gte | gt | lte | lt
  deriving DecidableEq, Repr, Inhabited

namespace Comparison

def name : Comparison → String
  | gte => "gte"
  | gt => "gt"
  | lte => "lte"
  | lt => "lt"

def symbol : Comparison → String
  | gte => ">="
  | gt => ">"
  | lte => "<="
  | lt => "<"

/-- The comparison with a lower bound. -/
def lower (inclusive : Bool) : Comparison := if inclusive then gte else gt

/-- The comparison with an upper bound. -/
def upper (inclusive : Bool) : Comparison := if inclusive then lte else lt

end Comparison

/-- How a geometry lies to a shape. -/
inductive SpatialRelation where
  | within | intersects
  deriving DecidableEq, Repr, Inhabited

namespace SpatialRelation

def name : SpatialRelation → String
  | within => "within"
  | intersects => "intersects"

end SpatialRelation

/-- A checked predicate. -/
inductive Condition where
  /-- the field has one of the values -/
  | oneOf (field : String) (values : List Scalar)
  /-- the field has none of the values or is missing -/
  | noneOf (field : String) (values : List Scalar)
  | compare (field : String) (op : Comparison) (value : Scalar) (isDate : Bool)
  /-- the field contains the text -/
  | like (field text : String)
  /-- the field lies in one of the ranges -/
  | ranges (field : String) (ranges : List ValueRange) (isDate : Bool)
  | spatial (field : String) (relation : SpatialRelation) (negated : Bool) (shape : Geometry)
  /-- the words of the text occur, in any field if none is given -/
  | text (field : Option String) (text : String)
  deriving BEq

namespace Condition

def field? : Condition → Option String
  | oneOf f _ | noneOf f _ | compare f _ _ _ | like f _ | ranges f _ _ | spatial f _ _ _ => some f
  | text f _ => f

/-- The scalar of a raw value on a field. -/
def typedValue (type : FieldType) (field raw : String) : Outcome Scalar :=
  let raw := Text.trim raw
  if type.isMeasure then
    let value := Scalar.parse raw
    if value.isNumber then .ok value else refuseField field (.valueNotNumber raw field)
  else if type = .boolean then
    if raw = "true" then .ok (.boolean true)
    else if raw = "false" then .ok (.boolean false)
    else refuseField field (.valueNotBoolean raw field)
  else .ok (.text raw)

/-- The scalars of a list of values, at least one. -/
def typedValues (type : FieldType) (field value : String) : Outcome (List Scalar) := do
  let values ← (Text.items value).mapM (typedValue type field)
  if values.isEmpty then refuseField field (.noValue value field) else .ok values

/-- Requires numeric bounds on fields that hold numbers or dates. -/
def checkBounds (type : FieldType) (field value : String) (ranges : List ValueRange) :
    Outcome Unit :=
  if type.isMeasure && ranges.any (fun r => !r.min.isNumber || !r.max.isNumber) then
    refuseField field (.textualBounds value type field)
  else .ok ()

/-- An outcome whose fault concerns the given field. -/
def aboutField {α : Type} (field : String) (o : Outcome α) : Outcome α :=
  o.mapError (Fault.withField field)

/-- The condition of a trimmed field name, an operator and a raw value on a field of known type. A
date format is used for dates only. -/
def ofParts (dateFormat : Option String) (type : FieldType) (field : String) (op : Operator)
    (value : String) : Outcome Condition :=
  let unsupported : Outcome Condition := refuseField field (.operatorOnType op field type)
  let ordered := type.isMeasure || type.isTextual
  let dateFormat := if type.isDate then dateFormat else none
  let comparison (op : Comparison) : Outcome Condition :=
    if !ordered then unsupported
    else do
      let scalar ← match dateFormat with
        | some format => (readDate value format).map .integer
        | none => typedValue type field value
      .ok (.compare field op scalar type.isDate)
  let spatial (relation : SpatialRelation) (negated : Bool) : Outcome Condition := do
    let shape ← aboutField field (Shape.parse value)
    .ok (.spatial field relation negated shape)
  if op.isSpatial ≠ type.isGeometry then unsupported
  else match op with
    | .eq => (typedValues type field value).map (.oneOf field)
    | .ne => (typedValues type field value).map (.noneOf field)
    | .gte => comparison .gte
    | .gt => comparison .gt
    | .lte => comparison .lte
    | .lt => comparison .lt
    | .like => if type.isTextual then .ok (.like field value) else unsupported
    | .range =>
      if !ordered then unsupported
      else do
        let ranges ← aboutField field (ValueRange.parse dateFormat value)
        checkBounds type field value ranges
        .ok (.ranges field ranges type.isDate)
    | .within => spatial .within false
    | .notWithin => spatial .within true
    | .intersects => spatial .intersects false
    | .notIntersects => spatial .intersects true

/-- The condition of an expression on a collection. -/
def ofExpression (c : Collection) (dateFormat : Option String) (e : Expression) :
    Outcome Condition := do
  e.check
  let field := Text.trim e.field
  let type ← c.fieldType field
  ofParts dateFormat type field e.op e.value

/-- The condition of a full-text search: `field:text`, or a text alone where the backend can search
all fields at once. -/
def ofSearch (c : Collection) (allowUnscoped : Bool) (query : String) : Outcome Condition :=
  match (Text.cut? ':' query).filter fun (field, _) => !Text.isBlank field with
  | some (field, words) => do
    let field := Text.trim field
    if Text.isBlank words then refuse (.missingScopedText query)
    else
      let type ← c.fieldType field
      if type.isGeometry then refuseField field (.textOnGeometry field)
      else .ok (.text (some field) (Text.trim words))
  | none =>
    let words := Text.trim (String.ofList (query.toList.dropWhile (· = ':')))
    if words = "" then refuse .missingText
    else if !allowUnscoped then refuse (.unscopedText query)
    else .ok (.text none words)

/-- The alternatives of a group of expressions. -/
def ofExpressions (c : Collection) (dateFormat : Option String) (group : List Expression) :
    Outcome (List Condition) :=
  group.mapM (ofExpression c dateFormat)

/-- The alternatives of a group of searches. -/
def ofSearches (c : Collection) (allowUnscoped : Bool) (group : List String) :
    Outcome (List Condition) :=
  group.mapM (ofSearch c allowUnscoped)

end Condition

/-- Groups of alternatives that must all hold, none of them empty and none given twice. -/
abbrev Filter := List (List Condition)

namespace Filter

/-- Adds a group at the end, unless it is empty or there already. -/
def add (filter : Filter) (group : List Condition) : Filter :=
  if group.isEmpty || filter.contains group then filter else filter ++ [group]

end Filter

end GeoFacet
