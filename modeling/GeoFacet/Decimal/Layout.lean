import GeoFacet.Decimal.Shortest

/-!
# How a double is written

Two layouts share the shortest digits. `plainText` writes every number without an exponent and whole
numbers without a point, for text that people and databases read. `documentText` keeps a mark of the
fraction (`50.0`) and writes very large and very small numbers with an exponent, for JSON documents.
-/

namespace GeoFacet

/-- The decimal digits of a natural number. -/
def digitsOf (n : Nat) : List Char := Nat.toDigits 10 n

namespace Decimal

/-- Positional form without an exponent; a whole number has no point. -/
def positional (d : Decimal) : List Char :=
  let digits := digitsOf d.significand
  if 0 ≤ d.exponent then digits ++ List.replicate d.exponent.toNat '0'
  else
    let places := (-d.exponent).toNat
    let padded := List.replicate (places + 1 - digits.length) '0' ++ digits
    padded.take (padded.length - places) ++ '.' :: padded.drop (padded.length - places)

/-- One digit, then the rest as a fraction, then the power of ten of the first digit. -/
def scientific (d : Decimal) : List Char :=
  let digits := digitsOf d.significand
  let power := d.exponent + digits.length - 1
  let tail := digits.drop 1
  digits.take 1 ++ (if tail.isEmpty then [] else '.' :: tail) ++ 'e' :: (toString power).toList

/-- Positional form with a point always present, while the first digit stands within sixteen places
before and five places after the point; scientific form outside. -/
def document (d : Decimal) : List Char :=
  let point := d.exponent + (digitsOf d.significand).length
  if d.significand = 0 then "0.0".toList
  else if -5 < point ∧ point ≤ 16 then
    d.positional ++ (if 0 ≤ d.exponent then ['.', '0'] else [])
  else d.scientific

end Decimal

/-- A sign for the negative, then the magnitude. -/
private def signed (x : Float) (magnitude : List Char) : String :=
  String.ofList (if signBit x then '-' :: magnitude else magnitude)

/-- Plain decimal text of a double: `50`, `-0`, `0.0000001`, `NaN`, `inf`, `-inf`. -/
def plainText (x : Float) : String :=
  if x.isNaN then "NaN"
  else if x.isInf then signed x "inf".toList
  else signed x (shortestDecimal .up x).positional

/-- Document text of a finite double: `50.0`, `-0.0`, `1e-7`, `1e21`. -/
def documentText (x : Float) : String :=
  signed x (shortestDecimal .even x).document

end GeoFacet
