import GeoFacet.Json.Printer
import GeoFacet.Text.Blank

/-!
# Scalars

A scalar is the typed value of a filter, a bound or a cursor. Raw text is a whole number if it can
be read as one, else a finite double, else text.
-/

namespace GeoFacet

/-- A typed value. -/
inductive Scalar where
  /-- a whole number of the signed 64-bit range -/
  | integer (n : Int)
  | float (x : Float)
  | boolean (b : Bool)
  | text (s : String)
  deriving BEq, Inhabited

namespace Scalar

/-- The scalar a raw text is taken for. -/
def parse (raw : String) : Scalar :=
  let raw := Text.trim raw
  match readInt64? raw with
  | some n => .integer n
  | none =>
    match readFloat? raw with
    | some x => if x.isFinite then .float x else .text raw
    | none => .text raw

/-- The number as a double. -/
def asFloat? : Scalar → Option Float
  | .integer n => some (Float.ofInt n)
  | .float x => some x
  | _ => none

def isNumber : Scalar → Bool
  | .integer _ | .float _ => true
  | _ => false

def kind : Scalar → String
  | .integer _ => "integer"
  | .float _ => "float"
  | .boolean _ => "boolean"
  | .text _ => "text"

def toJson : Scalar → Json
  | .integer n => .int n
  | .float x => .ofFloat x
  | .boolean b => .bool b
  | .text s => .text s

/-- The scalar of a document value. A whole number beyond the signed range becomes a double. -/
def ofJson? : Json → Option Scalar
  | .int n => some (if n ≤ Int64.maxValue.toInt then .integer n else .float (Float.ofInt n))
  | .float x => some (.float x)
  | .bool b => some (.boolean b)
  | .text s => some (.text s)
  | _ => none

/-- The text form. -/
def display : Scalar → String
  | .integer n => toString n
  | .float x => plainText x
  | .boolean b => if b then "true" else "false"
  | .text s => s

/-- The order of two doubles, unless one of them is no number. -/
def compareFloats (a b : Float) : Option Ordering :=
  if a < b then some .lt else if b < a then some .gt else if a == b then some .eq else none

/-- Numbers compare as doubles, texts by code point, and false before true. Scalars of different
kinds do not compare. -/
def compare (a b : Scalar) : Option Ordering :=
  match a, b with
  | .text s, .text t => some (Ord.compare s t)
  | .boolean p, .boolean q => some (Ord.compare p q)
  | a, b =>
    match a.asFloat?, b.asFloat? with
    | some x, some y => compareFloats x y
    | _, _ => none

end Scalar

end GeoFacet
