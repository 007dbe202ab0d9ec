import GeoFacet.Decimal.Layout

/-!
# Reading numbers from text

Whole numbers are an optional sign and digits, with a range that depends on the reader. Doubles are
decimals with an optional fraction and exponent, or the words `inf`, `infinity` and `nan`; the
decimal is rounded once, to nearest. No surrounding space is accepted.
-/

namespace GeoFacet

/-- The value of a digit run, or nothing if it is empty or holds another character. -/
def digitsValue? (cs : List Char) : Option Nat :=
  if cs.isEmpty || !cs.all Char.isDigit then none
  else some (cs.foldl (fun n c => 10 * n + (c.toNat - '0'.toNat)) 0)

/-- The value of a hexadecimal digit. -/
def hexDigit? (c : Char) : Option Nat :=
  if c.isDigit then some (c.toNat - '0'.toNat)
  else if 'a' ≤ c ∧ c ≤ 'f' then some (c.toNat - 'a'.toNat + 10)
  else if 'A' ≤ c ∧ c ≤ 'F' then some (c.toNat - 'A'.toNat + 10)
  else none

/-- The sign in front, if there is one, and the rest. -/
def splitSign : List Char → Bool × List Char
  | '-' :: rest => (true, rest)
  | '+' :: rest => (false, rest)
  | cs => (false, cs)

/-- A whole number of the signed 64-bit range. -/
def readInt64? (s : String) : Option Int := do
  let (negative, rest) := splitSign s.toList
  let n ← digitsValue? rest
  let i : Int := if negative then -n else n
  if Int64.minValue.toInt ≤ i ∧ i ≤ Int64.maxValue.toInt then some i else none

/-- A whole number up to `max`, without a minus sign. -/
def readNat? (max : Nat) (s : String) : Option Nat := do
  let cs := s.toList
  let n ← digitsValue? (if cs.head? = some '+' then cs.drop 1 else cs)
  if n ≤ max then some n else none

/-- The double nearest to `significand × 10^exponent`. Beyond the range of doubles the power of ten
is not computed. -/
def Decimal.toFloat (d : Decimal) : Float :=
  let size := d.exponent + (digitsOf d.significand).length
  if d.significand = 0 ∨ size < -330 then 0.0
  else if 330 < size then 1.0 / 0.0
  else Float.ofScientific d.significand (d.exponent < 0) d.exponent.natAbs

/-- The exponent part after the digits: nothing, or `e` and a signed digit run. -/
def readExponent? : List Char → Option Int
  | [] => some 0
  | c :: rest =>
    if c = 'e' ∨ c = 'E' then
      let (negative, digits) := splitSign rest
      (digitsValue? digits).map fun n => if negative then -(n : Int) else n
    else none

/-- Digits, an optional point with more digits, and an exponent; one of the digit runs may be
empty. -/
def readDecimal? (cs : List Char) : Option Decimal :=
  let whole := cs.takeWhile Char.isDigit
  let rest := cs.dropWhile Char.isDigit
  let (fraction, rest) := match rest with
    | '.' :: more => (more.takeWhile Char.isDigit, more.dropWhile Char.isDigit)
    | _ => ([], rest)
  match digitsValue? (whole ++ fraction), readExponent? rest with
  | some significand, some exponent => some ⟨significand, exponent - fraction.length⟩
  | _, _ => none

/-- A double, in decimal or as one of the words, in any case and with an optional sign. -/
def readFloat? (s : String) : Option Float :=
  let (negative, rest) := splitSign s.toList
  let magnitude : Option Float :=
    match String.ofList (rest.map Char.toLower) with
    | "inf" | "infinity" => some (1.0 / 0.0)
    | "nan" => some (0.0 / 0.0)
    | _ => (readDecimal? rest).map Decimal.toFloat
  magnitude.map fun x => if negative then -x else x

end GeoFacet
