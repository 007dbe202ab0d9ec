import GeoFacet.Collection.FieldType
import GeoFacet.Filter.Operator
import GeoFacet.Facet.Vocabulary

/-!
# Why a request fails

A fault names its cause, the contexts it passed through and the field it concerns. The code and the
wording of a fault follow from its cause alone, in one place each.
-/

namespace GeoFacet

/-- The class of a fault. -/
inductive FaultCode where
  /-- malformed syntax, or a field type that does not suit an operator -/
  | invalidParameter
  /-- legal syntax in a forbidden combination -/
  | notAllowed
  /-- a required companion parameter is missing -/
  | badRequest
  /-- an unknown field or collection -/
  | notFound
  /-- reported by the backend or found in its result -/
  | backend
  deriving DecidableEq, Repr, Inhabited

namespace FaultCode

def name : FaultCode → String
  | invalidParameter => "INVALID_PARAMETER"
  | notAllowed => "NOT_ALLOWED"
  | badRequest => "BAD_REQUEST"
  | notFound => "NOT_FOUND"
  | backend => "BACKEND_FAILURE"

/-- The status a web service answers with. -/
def status : FaultCode → Nat
  | invalidParameter => 400
  | badRequest => 400
  | notAllowed => 403
  | notFound => 404
  | backend => 500

end FaultCode

/-- Why a box is refused. -/
inductive BoxFlaw where
  | latitude | longitude | order | width
  deriving DecidableEq, Repr

/-- What went wrong. -/
inductive Cause where
  /-- a fault described by the caller or the backend client -/
  | reported (code : FaultCode) (message : String)
  -- names that do not resolve
  | unknownField (field collection : String)
  | unknownCollection (name : String)
  -- filters
  | unknownOperator (name : String)
  | malformedExpression (text : String)
  | missingFilterField
  | missingFilterValue (field : String)
  | operatorOnType (op : Operator) (field : String) (type : FieldType)
  | textOnGeometry (field : String)
  | missingScopedText (query : String)
  | missingText
  | unscopedText (query : String)
  | unscopedCondition (text : String)
  | valueNotNumber (value field : String)
  | valueNotBoolean (value field : String)
  | noValue (value field : String)
  -- ranges
  | noRange (value : String)
  | malformedRange (item : String)
  | emptyRange (min max : String)
  | mixedRange (min max : String)
  | textualBounds (value : String) (type : FieldType) (field : String)
  -- dates
  | unterminatedLiteral (pattern : String)
  | unsupportedLetter (letter : Char) (pattern : String)
  | dateMismatch (value format : String)
  | timestampOutOfRange (millis : Int)
  -- shapes and cells
  | badBox (value : String) (flaw : BoxFlaw)
  | malformedWkt (value : String)
  | malformedGeohash (hash : String)
  | malformedTile (key : String)
  -- sorting and paging
  | malformedDistance (token : String)
  | malformedSortToken (token : String)
  | severalDistances (sort : String)
  | sortWithoutId (path : String)
  | cursorSize (cursor : String) (expected : Nat)
  | cursorDistance (value : String)
  | twoCursors
  | cursorWithoutSort
  | cursorWithOffset
  | sizeNotPositive
  | sizeTooLarge (limit : Nat)
  | pageTooFar (limit : Nat)
  -- facets
  | noFacet
  | formatOnFacet (type : FacetType)
  | missingFacetField (type : FacetType)
  | fieldOnFacet (field : String) (fieldType : FieldType) (type : FacetType)
  | missingInterval (type : FacetType)
  | intervalOnTerm
  | malformedInterval (text : String)
  | dateIntervalUnit (text : String)
  | dateIntervalWhole (text : String)
  | calendarMultiple (unit : DateUnit) (text : String)
  | histogramIntervalUnit (text : String)
  | precision (text : String) (min max : Nat)
  | sizeOnFacet (type : FacetType)
  | includeOnFacet (type : FacetType)
  | malformedInclude
  | cellOnFacet (geometry : AggregatedGeometry)
  | missingCollectField
  | missingCollectFunction
  | collectPoint (function : CollectFunction) (field : String) (type : FieldType)
  | collectMeasure (function : CollectFunction) (field : String) (type : FieldType)
  | cardinalityOnGeometry (field : String)
  | orderOnCells (type : FacetType)
  | orderWithoutMetric
  | orderWithoutOn
  | onWithoutOrder
  | rawGeometryType (path : String)
  | fetchSize
  | malformedFetch (path : String)
  | geoWithoutGeometry (level : String)
  -- computations
  | missingComputationField
  | computationOnType (metric : ComputationMetric) (field : String) (type : FieldType)
  -- backend results
  | cellKey (key : String)
  | dateKey (level key : String)
  | noBuckets (level : String)
  | noChild (level child : String)
  | noFacetResult (level : String)
  | noHits
  | noRows (purpose : String)

namespace BoxFlaw

def message : BoxFlaw → String
  | latitude => "latitudes must be within [-90, 90]"
  | longitude => "longitudes must be within [-180, 180]"
  | order => "top must be greater than bottom"
  | width => "left and right must differ"

end BoxFlaw

namespace Cause

/-- The class of a cause. -/
def code : Cause → FaultCode
  | reported code _ => code
  | unknownField .. | unknownCollection .. => .notFound
  | unscopedText .. | unscopedCondition .. | orderOnCells .. | orderWithoutMetric
  | geoWithoutGeometry .. => .notAllowed
  | twoCursors | cursorWithoutSort | cursorWithOffset | noFacet | missingFacetField ..
  | missingInterval .. | missingCollectField | missingCollectFunction | orderWithoutOn
  | onWithoutOrder | missingComputationField => .badRequest
  | cellKey .. | dateKey .. | noBuckets .. | noChild .. | noFacetResult .. | noHits
  | noRows .. => .backend
  | _ => .invalidParameter

/-- The wording of a cause. -/
def message : Cause → String
  | reported _ m => m
  | unknownField f c => s!"Field '{f}' not found in collection '{c}'"
  | unknownCollection n => s!"Collection '{n}' not found"
  | unknownOperator n => s!"Operator '{n}' is not supported"
  | malformedExpression t => s!"Invalid filter expression '{t}': expected field:op:value"
  | missingFilterField => "Filter field is missing"
  | missingFilterValue f => s!"Filter value is missing for field '{f}'"
  | operatorOnType op f t =>
    s!"Operator '{op.name}' is not supported on field '{f}' of type '{t.name}'"
  | textOnGeometry f => s!"Full-text search is not supported on geometry field '{f}'"
  | missingScopedText q => s!"Search text is missing in '{q}'"
  | missingText => "Search text is missing"
  | unscopedText q => s!"Full-text search without a field is not supported by this backend: '{q}'"
  | unscopedCondition t =>
    s!"Full-text search without a field is not supported by the relational backend: '{t}'"
  | valueNotNumber v f => s!"Value '{v}' of field '{f}' must be a number"
  | valueNotBoolean v f => s!"Value '{v}' of field '{f}' must be true or false"
  | noValue v f => s!"Value '{v}' of field '{f}' has no item"
  | noRange v => s!"Invalid range '{v}': no interval given"
  | malformedRange i =>
    s!"Invalid range '{i}': expected [min<max], ]min<max[, [min<max[ or ]min<max]"
  | emptyRange a b => s!"Invalid range: min '{a}' must be lower than max '{b}'"
  | mixedRange a b => s!"Invalid range: bounds '{a}' and '{b}' are not of the same kind"
  | textualBounds v t f => s!"Range '{v}' on {t.name} field '{f}' must have numeric bounds"
  | unterminatedLiteral p => s!"Unterminated literal in date format '{p}'"
  | unsupportedLetter c p => s!"Unsupported letter '{c}' in date format '{p}'"
  | dateMismatch v f => s!"Date '{v}' does not match format '{f}'"
  | timestampOutOfRange m => s!"Timestamp {m} is out of range"
  | badBox v flaw => s!"Invalid bbox '{v}': {flaw.message}"
  | malformedWkt v => s!"Invalid WKT '{v}'"
  | malformedGeohash h => s!"Invalid geohash '{h}'"
  | malformedTile k => s!"Invalid tile key '{k}'"
  | malformedDistance t => s!"Invalid geo-distance sort '{t}': expected 'LAT LON'"
  | malformedSortToken t => s!"Invalid sort token '{t}'"
  | severalDistances s => s!"Invalid sort '{s}': only one geo-distance key is allowed"
  | sortWithoutId p => s!"Sort must include the id field '{p}' to use a cursor"
  | cursorSize c n => s!"Cursor '{c}' must hold one value per sort field ({n} expected)"
  | cursorDistance v => s!"Cursor value '{v}' of a geo-distance sort must be a number"
  | twoCursors => "'after' and 'before' cannot be used together"
  | cursorWithoutSort => "'sort' must be specified when 'after' or 'before' is used"
  | cursorWithOffset => "'from' must be 0 when 'after' or 'before' is used"
  | sizeNotPositive => "'size' must be positive"
  | sizeTooLarge n => s!"'size' must be at most {n}"
  | pageTooFar n => s!"'from' + 'size' must be at most {n}"
  | noFacet => "At least one aggregation is required"
  | formatOnFacet t => s!"'format' is only supported by datehistogram aggregations, not {t.name}"
  | missingFacetField t => s!"'field' is required for {t.name} aggregations"
  | fieldOnFacet f ft t =>
    s!"Field '{f}' of type {ft.name} cannot be used by a {t.name} aggregation"
  | missingInterval t => s!"'interval' is required for {t.name} aggregations"
  | intervalOnTerm => "'interval' is not supported by term aggregations"
  | malformedInterval t => s!"Invalid interval '{t}'"
  | dateIntervalUnit t => s!"Date interval '{t}' must have a unit"
  | dateIntervalWhole t => s!"Date interval '{t}' must be a whole number of units"
  | calendarMultiple u t => s!"The {u.name} unit only supports an interval of 1, got '{t}'"
  | histogramIntervalUnit t => s!"Histogram interval '{t}' must be a number"
  | precision t min max => s!"Precision '{t}' must be an integer between {min} and {max}"
  | sizeOnFacet t => s!"'size' is not supported by {t.name} aggregations"
  | includeOnFacet t => s!"'include' is only supported by term aggregations, not {t.name}"
  | malformedInclude => "Invalid 'include' pattern"
  | cellOnFacet g =>
    s!"Aggregated geometry '{g.name}' is only supported by geohash and geotile aggregations"
  | missingCollectField => "collect field not specified"
  | missingCollectFunction => "collect function not specified"
  | collectPoint fn f t => s!"{fn.name} requires a point field, '{f}' is {t.name}"
  | collectMeasure fn f t => s!"{fn.name} requires a numeric or date field, '{f}' is {t.name}"
  | cardinalityOnGeometry f => s!"cardinality is not supported on geometry field '{f}'"
  | orderOnCells t => s!"Ordering is not allowed on {t.name} aggregations"
  | orderWithoutMetric =>
    "Ordering on 'result' requires a metric other than geobbox or geocentroid"
  | orderWithoutOn => "'order' requires 'on' to be specified"
  | onWithoutOrder => "'on' requires 'order' to be specified"
  | rawGeometryType p => s!"Raw geometry '{p}' is not a geometry field"
  | fetchSize => "'fetch_hits' size must be positive"
  | malformedFetch p => s!"Invalid 'fetch_hits' include '{p}'"
  | geoWithoutGeometry l =>
    "A geo aggregation must start with a geohash or geotile aggregation, or request raw or " ++
      s!"aggregated geometries on '{l}'"
  | missingComputationField => "'field' is required for a computation"
  | computationOnType m f t => s!"{m.name} cannot be computed on field '{f}' of type {t.name}"
  | cellKey k => s!"Expected a string cell key, got {k}"
  | dateKey l k => s!"Expected an epoch millisecond key in '{l}', got {k}"
  | noBuckets l => s!"Aggregation '{l}' has no buckets"
  | noChild l c => s!"Bucket of '{l}' has no '{c}' aggregation"
  | noFacetResult l => s!"Result has no '{l}' aggregation"
  | noHits => "Result has no hits"
  | noRows p => s!"No rows for statement '{p}'"

end Cause

/-- A failed request. -/
structure Fault where
  cause : Cause
  /-- the contexts the fault passed through, the outermost first -/
  contexts : List String
  field : Option String

namespace Fault

/-- A fault without context. -/
def of (cause : Cause) : Fault := ⟨cause, [], none⟩

/-- A fault that concerns a field. -/
def onField (field : String) (cause : Cause) : Fault := ⟨cause, [], some field⟩

/-- The field that has no declaration. -/
def unknownField (field collection : String) : Fault :=
  onField field (.unknownField field collection)

def withField (field : String) (f : Fault) : Fault := { f with field := some field }

def withContext (context : String) (f : Fault) : Fault :=
  { f with contexts := context :: f.contexts }

def code (f : Fault) : FaultCode := f.cause.code

/-- The contexts in front of the wording of the cause. -/
def message (f : Fault) : String :=
  f.contexts.foldr (fun context message => context ++ ": " ++ message) f.cause.message

/-- The message behind its code. -/
def display (f : Fault) : String := "[" ++ f.code.name ++ "] " ++ f.message

end Fault

/-- The result of a step that may fail. -/
abbrev Outcome (α : Type) := Except Fault α

/-- Fails with a cause. -/
def refuse {α : Type} (cause : Cause) : Outcome α := .error (.of cause)

/-- Fails with a cause that concerns a field. -/
def refuseField {α : Type} (field : String) (cause : Cause) : Outcome α :=
  .error (.onField field cause)

/-- The value, or a failure with the given cause. -/
def orRefuse {α : Type} (cause : Cause) : Option α → Outcome α
  | some a => .ok a
  | none => refuse cause

end GeoFacet
