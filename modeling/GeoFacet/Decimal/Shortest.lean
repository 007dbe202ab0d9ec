/-!
# The shortest decimal of a double

A finite double stands for every real that rounds to it. Of the decimals in that interval the one
on the coarsest power-of-ten grid is chosen, and of two on one grid the nearer. All arithmetic is on
natural numbers, so nothing is lost on the way.
-/

namespace GeoFacet

/-- The decimal `significand × 10^exponent`. -/
structure Decimal where
  significand : Nat
  exponent : Int
  deriving DecidableEq, Repr

/-- Where an exact tie between two decimals of one grid goes. -/
inductive Tie where
  | up
  | even
  deriving DecidableEq, Repr

/-- The reals that round to `value × 2^exponent`: from `low` to `high`, in the same unit, the ends
included when `closed`. -/
structure RoundingInterval where
  low : Nat
  value : Nat
  high : Nat
  exponent : Int
  closed : Bool
  deriving DecidableEq, Repr

namespace RoundingInterval

/-- The number of fractions that the 52 bits below the exponent of a double can hold. -/
def fractionCount : Nat := Nat.pow 2 52

/-- The interval of a finite double without its sign. The mantissa is scaled by four, so that the
half and quarter gaps to its neighbours are whole numbers. -/
def ofFloat (x : Float) : RoundingInterval :=
  let bits := x.toBits.toNat
  let biased := bits / fractionCount % 2048
  let fraction := bits % fractionCount
  let mantissa := if biased = 0 then fraction else fractionCount + fraction
  let exponent : Int := (if biased = 0 then 1 else biased : Nat) - 1077
  let below := if fraction = 0 ∧ 1 < biased then 1 else 2
  ⟨4 * mantissa - below, 4 * mantissa, 4 * mantissa + 2, exponent, mantissa % 2 = 0⟩

/-- `a × 10^g` and `b × 2^e` over a common denominator. -/
def scaled (a : Nat) (g : Int) (b : Nat) (e : Int) : Nat × Nat :=
  (a * Nat.pow 10 g.toNat * Nat.pow 2 (-e).toNat, b * Nat.pow 2 e.toNat * Nat.pow 10 (-g).toNat)

/-- Whether a decimal rounds to the value. -/
def holds (r : RoundingInterval) (d : Decimal) : Bool :=
  let low := scaled d.significand d.exponent r.low r.exponent
  let high := scaled d.significand d.exponent r.high r.exponent
  if r.closed then low.2 ≤ low.1 && high.1 ≤ high.2 else low.2 < low.1 && high.1 < high.2

/-- The decimal of the grid `10^g` nearest to the value, if it rounds to the value. -/
def onGrid (r : RoundingInterval) (tie : Tie) (g : Int) : Option Decimal :=
  let unit := scaled 1 g r.value r.exponent
  let floor := unit.2 / unit.1
  let below : Decimal := ⟨floor, g⟩
  let above : Decimal := ⟨floor + 1, g⟩
  let belowHolds := floor ≠ 0 && r.holds below
  if belowHolds && r.holds above then
    match compare (2 * unit.2) ((2 * floor + 1) * unit.1) with
    | .lt => some below
    | .gt => some above
    | .eq => some (if tie = .even ∧ floor % 2 = 0 then below else above)
  else if belowHolds then some below
  else if r.holds above then some above
  else none

/-- The value itself: a power of two below one is a power of five over a power of ten. -/
def exact (r : RoundingInterval) : Decimal :=
  if 0 ≤ r.exponent then ⟨r.value * Nat.pow 2 r.exponent.toNat, 0⟩
  else ⟨r.value * Nat.pow 5 (-r.exponent).toNat, r.exponent⟩

/-- The first grid from `10^g` downwards with a decimal of the interval. -/
def search (r : RoundingInterval) (tie : Tie) : Nat → Int → Decimal
  | 0, _ => r.exact
  | steps + 1, g => (r.onGrid tie g).getD (r.search tie steps (g - 1))

/-- The shortest decimal of the interval. The search starts above the value and ends by the grid of
its seventeenth digit. -/
def shortest (r : RoundingInterval) (tie : Tie) : Decimal :=
  if r.value = 0 then ⟨0, 0⟩
  else r.search tie 32 (((r.high.log2 : Int) + r.exponent) * 30103 / 100000 + 3)

end RoundingInterval

/-- The shortest decimal that reads back to the magnitude of a finite double. -/
def shortestDecimal (tie : Tie) (x : Float) : Decimal :=
  (RoundingInterval.ofFloat x).shortest tie

/-- The sign bit, set on negative zero too. -/
def signBit (x : Float) : Bool := x.toBits.toNat.testBit 63

end GeoFacet
