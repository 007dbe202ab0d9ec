import GeoFacet.Geo.BoundingBox
import GeoFacet.Fault

/-!
# Geohash cells

A geohash is a run of five-bit digits. Its bits halve the globe by turns, longitude first: a one
keeps the eastern or northern half. Every border of a cell is a dyadic fraction of the globe, which
a double holds exactly up to twelve digits, so the same definitions serve doubles and exact numbers.
-/

namespace GeoFacet.Geohash

/-- The digits in order of value. -/
def alphabet : List Char := "0123456789bcdefghjkmnpqrstuvwxyz".toList

/-- The longest geohash. -/
def maxPrecision : Nat := 12

/-- The five bits of a number below 32, the highest first. -/
def bitsOf (n : Nat) : List Bool := [4, 3, 2, 1, 0].map n.testBit

/-- The number with the given bits, the highest first. -/
def valueOf (bits : List Bool) : Nat := bits.foldl (fun n b => 2 * n + b.toNat) 0

/-- The value of a digit, in either case. -/
def digit? (c : Char) : Option Nat :=
  let i := alphabet.idxOf c.toLower
  if i < alphabet.length then some i else none

/-- The bits of a text of digits. -/
def bits? : List Char → Option (List Bool)
  | [] => some []
  | c :: rest =>
    match digit? c, bits? rest with
    | some n, some bits => some (bitsOf n ++ bits)
    | _, _ => none

variable {K : Type}

/-- The whole globe. -/
def globe [Neg K] [OfNat K 90] [OfNat K 180] : BoundingBox K := ⟨-180, -90, 180, 90⟩

/-- One half of a box: the eastern or western one if `byLongitude`, else the northern or southern
one. -/
def half [Add K] [Div K] [OfNat K 2] (byLongitude upper : Bool) (b : BoundingBox K) :
    BoundingBox K :=
  match byLongitude, upper with
  | true, true => { b with west := b.centerLon }
  | true, false => { b with east := b.centerLon }
  | false, true => { b with south := b.centerLat }
  | false, false => { b with north := b.centerLat }

/-- The part of a box that the bits lead to, the axes taking turns. -/
def narrow [Add K] [Div K] [OfNat K 2] (byLongitude : Bool) (b : BoundingBox K) :
    List Bool → BoundingBox K
  | [] => b
  | bit :: bits => narrow (!byLongitude) (half byLongitude bit b) bits

/-- The cell of a text of at most twelve digits. -/
def cell? [Add K] [Div K] [Neg K] [OfNat K 2] [OfNat K 90] [OfNat K 180] (hash : String) :
    Option (BoundingBox K) :=
  let digits := hash.toList
  if digits.isEmpty || maxPrecision < digits.length then none
  else (bits? digits).map (narrow true globe)

/-- The next `n` bits of a position: one where it does not lie below the middle of the box. -/
def locate [Add K] [Div K] [OfNat K 2] [LE K] [DecidableLE K] (lat lon : K) :
    Nat → Bool → BoundingBox K → List Bool
  | 0, _, _ => []
  | n + 1, byLongitude, b =>
    let bit : Bool := if byLongitude then b.centerLon ≤ lon else b.centerLat ≤ lat
    bit :: locate lat lon n (!byLongitude) (half byLongitude bit b)

/-- The digits of a run of bits, five bits each. -/
def digitsOfBits : Nat → List Bool → List Char
  | 0, _ => []
  | n + 1, bits => alphabet.getD (valueOf (bits.take 5)) '0' :: digitsOfBits n (bits.drop 5)

/-- The geohash of a position, of one to twelve digits. -/
def encode [Add K] [Div K] [Neg K] [OfNat K 2] [OfNat K 90] [OfNat K 180] [LE K] [DecidableLE K]
    (lat lon : K) (precision : Nat) : String :=
  let precision := min (max precision 1) maxPrecision
  String.ofList (digitsOfBits precision (locate lat lon (5 * precision) true globe))

/-- The cell of a geohash in degrees. -/
def cell (hash : String) : Outcome (BoundingBox Float) :=
  orRefuse (.malformedGeohash hash) (cell? hash)

end GeoFacet.Geohash
