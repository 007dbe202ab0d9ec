import GeoFacet.Proofs.Double.Dyadic
import GeoFacet.Proofs.Geo.Geohash

/-!
# Geohashes in doubles

A border of a cell is a fraction of degrees with one binary digit behind the point for each time
its axis was halved, at most thirty of them in twelve digits of a geohash. Doubles hold such
fractions, and compute the middle of two of them without rounding. So reading and writing geohashes
comes to the same over doubles as in exact arithmetic, and what holds there holds here.

Main statement: `cells_round_trip`.
-/

namespace GeoFacet

namespace Geohash

open BoundingBox Double

/-! ## Borders -/

/-- The double is a fraction of degrees with `j` binary digits behind the point, and lies on the
globe. -/
def Border (j : Nat) (x : Float) (q : ℚ) : Prop :=
  ∃ a : Int, a.natAbs ≤ 180 * 2 ^ j ∧ IsDyadic j x a ∧ q = a / 2 ^ j

variable {i j : Nat} {x y : Float} {p q : ℚ}

namespace Border

theorem isFinite (h : Border j x q) : x.isFinite = true := by
  obtain ⟨a, -, ha, -⟩ := h
  exact ha.isFinite

theorem value_eq (h : Border j x q) : value x = q := by
  obtain ⟨a, -, ha, rfl⟩ := h
  exact ha.value_eq

theorem bound_lt (hj : j ≤ 40) : 360 * 2 ^ j < 2 ^ 53 :=
  (Nat.mul_le_mul_left 360 (Nat.pow_le_pow_right (by decide) hj)).trans_lt (by decide)

theorem raise (h : Border j x q) (hj : j ≤ 40) : Border (j + 1) x q := by
  obtain ⟨a, hbound, ha, rfl⟩ := h
  have hlt := bound_lt hj
  refine ⟨2 * a, ?_, ha.raise (by omega), ?_⟩
  · rw [Nat.pow_succ]
    omega
  · push_cast
    rw [pow_succ']
    field_simp

/-- The middle between two borders is computed exactly. -/
theorem middle (hx : Border j x p) (hy : Border j y q) (hj : j ≤ 40) :
    Border (j + 1) ((x + y) / 2) ((p + q) / 2) := by
  obtain ⟨a, haBound, ha, rfl⟩ := hx
  obtain ⟨b, hbBound, hb, rfl⟩ := hy
  have hlt := bound_lt hj
  refine ⟨a + b, ?_, (ha.add hb (by omega) (by omega)).half (by omega), ?_⟩
  · rw [Nat.pow_succ]
    omega
  · push_cast
    rw [pow_succ]
    field_simp

end Border

/-! ## Boxes -/

/-- The borders of a box of doubles are those of an exact box, with `i` binary digits behind the
point on the axis of longitudes and `j` on the other. -/
structure OnGrid (i j : Nat) (b : BoundingBox Float) (c : BoundingBox ℚ) : Prop where
  west : Border i b.west c.west
  east : Border i b.east c.east
  south : Border j b.south c.south
  north : Border j b.north c.north

variable {b : BoundingBox Float} {c : BoundingBox ℚ}

namespace OnGrid

theorem centerLon (h : OnGrid i j b c) (hi : i ≤ 40) :
    Border (i + 1) b.centerLon c.centerLon :=
  h.west.middle h.east hi

theorem centerLat (h : OnGrid i j b c) (hj : j ≤ 40) :
    Border (j + 1) b.centerLat c.centerLat :=
  h.south.middle h.north hj

theorem half_longitude (h : OnGrid i j b c) (hi : i ≤ 40) (upper : Bool) :
    OnGrid (i + 1) j (half true upper b) (half true upper c) := by
  cases upper
  · exact ⟨h.west.raise hi, h.centerLon hi, h.south, h.north⟩
  · exact ⟨h.centerLon hi, h.east.raise hi, h.south, h.north⟩

theorem half_latitude (h : OnGrid i j b c) (hj : j ≤ 40) (upper : Bool) :
    OnGrid i (j + 1) (half false upper b) (half false upper c) := by
  cases upper
  · exact ⟨h.west, h.east, h.south.raise hj, h.centerLat hj⟩
  · exact ⟨h.west, h.east, h.centerLat hj, h.north.raise hj⟩

/-- The borders of the globe are whole numbers. -/
theorem globe : OnGrid 0 0 (globe : BoundingBox Float) (Geohash.globe : BoundingBox ℚ) := by
  have hborder {n : Nat} (h : n ≤ 180) : Border 0 (Float.ofNat n) n :=
    ⟨n, by simpa using h, isDyadic_ofNat (by omega), by simp⟩
  have hneg {n : Nat} (h : n ≤ 180) : Border 0 (-Float.ofNat n) (-n) :=
    ⟨-n, by simpa using h, (isDyadic_ofNat (by omega)).neg (by decide), by simp⟩
  exact ⟨hneg (n := 180) (by decide), hborder (n := 180) (by decide), hneg (n := 90) (by decide),
    hborder (n := 90) (by decide)⟩

end OnGrid

/-- The borders and the center of a box of doubles are those of an exact box. -/
def Represents (b : BoundingBox Float) (c : BoundingBox ℚ) : Prop :=
  ∃ i j, (i ≤ 40 ∧ j ≤ 40) ∧ OnGrid i j b c

/-- The boxes agree, and go on agreeing for `n` more bits. Both axes have been halved equally often,
but where the next bit halves latitudes the other axis is one ahead. -/
def Leads (byLongitude : Bool) (n : Nat) (b : BoundingBox Float) (c : BoundingBox ℚ) : Prop :=
  ∃ t, OnGrid (t + (!byLongitude).toNat) t b c ∧ 2 * t + (!byLongitude).toNat + n ≤ 80

namespace Leads

variable {byLongitude : Bool} {n : Nat}

theorem half (h : Leads byLongitude (n + 1) b c) (upper : Bool) :
    Leads (!byLongitude) n (half byLongitude upper b) (Geohash.half byLongitude upper c) := by
  obtain ⟨t, hgrid, hroom⟩ := h
  cases byLongitude
  · simp only [Bool.not_false, Bool.toNat_true] at hgrid hroom
    exact ⟨t + 1, hgrid.half_latitude (by omega) upper, by simp; omega⟩
  · simp only [Bool.not_true, Bool.toNat_false, Nat.add_zero] at hgrid hroom
    exact ⟨t, hgrid.half_longitude (by omega) upper, by simp; omega⟩

theorem narrow (bits : List Bool) (h : Leads byLongitude (n + bits.length) b c) :
    ∃ axis, Leads axis n (narrow byLongitude b bits) (Geohash.narrow byLongitude c bits) := by
  induction bits generalizing byLongitude b c with
  | nil => exact ⟨byLongitude, h⟩
  | cons bit bits ih => exact ih (h.half bit)

theorem represents (h : Leads byLongitude n b c) : Represents b c := by
  obtain ⟨t, hgrid, hroom⟩ := h
  have hone := Bool.toNat_le (!byLongitude)
  exact ⟨_, t, ⟨by omega, by omega⟩, hgrid⟩

variable {lat lon : Float}

theorem nextBit_eq (h : Leads byLongitude n b c) (hlat : lat.isFinite = true)
    (hlon : lon.isFinite = true) :
    nextBit lat lon byLongitude b = nextBit (value lat) (value lon) byLongitude c := by
  obtain ⟨i, j, ⟨hi, hj⟩, hgrid⟩ := h.represents
  cases byLongitude
  · have hcenter := hgrid.centerLat hj
    refine decide_eq_decide.mpr ?_
    rw [le_iff hcenter.isFinite hlat, hcenter.value_eq]
  · have hcenter := hgrid.centerLon hi
    refine decide_eq_decide.mpr ?_
    rw [le_iff hcenter.isFinite hlon, hcenter.value_eq]

/-- The bits of a position are those of its value. -/
theorem locate_eq (h : Leads byLongitude n b c) (hlat : lat.isFinite = true)
    (hlon : lon.isFinite = true) :
    locate lat lon n byLongitude b = locate (value lat) (value lon) n byLongitude c := by
  induction n generalizing byLongitude b c with
  | zero => rfl
  | succ n ih =>
    rw [locate_succ, locate_succ, h.nextBit_eq hlat hlon, ih (h.half _)]

end Leads

theorem leads_globe {n : Nat} (hn : n ≤ 80) : Leads true n globe globe :=
  ⟨0, OnGrid.globe, by simpa using hn⟩

/-! ## Cells -/

namespace Represents

variable {b' : BoundingBox Float} {c' : BoundingBox ℚ} {lat lon : Float}

theorem contains_eq (h : Represents b c) (hlat : lat.isFinite = true) (hlon : lon.isFinite = true) :
    b.contains lat lon = c.contains (value lat) (value lon) := by
  obtain ⟨i, j, -, hgrid⟩ := h
  simp only [contains, le_iff hgrid.south.isFinite hlat, le_iff hlat hgrid.north.isFinite,
    le_iff hgrid.west.isFinite hlon, le_iff hlon hgrid.east.isFinite, hgrid.south.value_eq,
    hgrid.north.value_eq, hgrid.west.value_eq, hgrid.east.value_eq]

theorem strictlyContains_eq (h : Represents b c) (hlat : lat.isFinite = true)
    (hlon : lon.isFinite = true) :
    b.strictlyContains lat lon = c.strictlyContains (value lat) (value lon) := by
  obtain ⟨i, j, -, hgrid⟩ := h
  simp only [strictlyContains, lt_iff hgrid.south.isFinite hlat, lt_iff hlat hgrid.north.isFinite,
    lt_iff hgrid.west.isFinite hlon, lt_iff hlon hgrid.east.isFinite, hgrid.south.value_eq,
    hgrid.north.value_eq, hgrid.west.value_eq, hgrid.east.value_eq]

theorem within (h : Represents b c) (h' : Represents b' c') (hwithin : c.Within c') :
    b.Within b' := by
  obtain ⟨i, j, -, hgrid⟩ := h
  obtain ⟨i', j', -, hgrid'⟩ := h'
  have hle {i j : Nat} {x y : Float} {p q : ℚ} (hx : Border i x p) (hy : Border j y q)
      (hpq : p ≤ q) : x ≤ y := by
    rwa [le_iff hx.isFinite hy.isFinite, hx.value_eq, hy.value_eq]
  exact ⟨hle hgrid'.west hgrid.west hwithin.west, hle hgrid'.south hgrid.south hwithin.south,
    hle hgrid.east hgrid'.east hwithin.east, hle hgrid.north hgrid'.north hwithin.north⟩

theorem center (h : Represents b c) :
    (b.centerLat.isFinite = true ∧ value b.centerLat = c.centerLat) ∧
      b.centerLon.isFinite = true ∧ value b.centerLon = c.centerLon := by
  obtain ⟨i, j, ⟨hi, hj⟩, hgrid⟩ := h
  have hlat := hgrid.centerLat hj
  have hlon := hgrid.centerLon hi
  exact ⟨⟨hlat.isFinite, hlat.value_eq⟩, hlon.isFinite, hlon.value_eq⟩

end Represents

theorem represents_narrow {cs : List Char} {bits : List Bool} (h : bits? cs = some bits)
    (hcs : cs.length ≤ maxPrecision) :
    Represents (narrow true globe bits) (narrow true globe bits) := by
  have hlength := (digitsOfBits_of_bits? h).1
  have hbits : bits.length ≤ 60 := by
    rw [hlength]
    exact Nat.mul_le_mul_left 5 hcs
  obtain ⟨axis, hleads⟩ := Leads.narrow (n := 0) bits (leads_globe (by omega))
  exact hleads.represents

/-- A geohash with a cell of doubles has the same cell in exact arithmetic. -/
theorem exists_exact {hash : String} (h : cell? hash = some b) :
    ∃ c : BoundingBox ℚ, cell? hash = some c ∧ Represents b c := by
  obtain ⟨hlength, bits, hbits, rfl⟩ := cell?_eq_some.mp h
  exact ⟨_, cell?_eq_some.mpr ⟨hlength, bits, hbits, rfl⟩,
    represents_narrow hbits (String.length_toList ▸ hlength.2)⟩

/-- A geohash with a cell in exact arithmetic has the same cell of doubles. -/
theorem exists_double {hash : String} (h : cell? hash = some c) :
    ∃ b : BoundingBox Float, cell? hash = some b ∧ Represents b c := by
  obtain ⟨hlength, bits, hbits, rfl⟩ := cell?_eq_some.mp h
  exact ⟨_, cell?_eq_some.mpr ⟨hlength, bits, hbits, rfl⟩,
    represents_narrow hbits (String.length_toList ▸ hlength.2)⟩

variable {lat lon : Float}

/-- The geohash of a position of doubles is that of its value. -/
theorem encode_value (hlat : lat.isFinite = true) (hlon : lon.isFinite = true) {precision : Nat}
    (h : 1 ≤ precision ∧ precision ≤ maxPrecision) :
    encode lat lon precision = encode (value lat) (value lon) precision := by
  have hbits : 5 * precision ≤ 80 :=
    (Nat.mul_le_mul_left 5 h.2).trans (by decide)
  rw [encode_eq _ _ h, encode_eq _ _ h, (leads_globe hbits).locate_eq hlat hlon]

theorem between_value {low high x : Float} {p q : ℚ} (hlow : Border 0 low p)
    (hhigh : Border 0 high q) (h : low ≤ x ∧ x ≤ high) :
    x.isFinite = true ∧ p ≤ value x ∧ value x ≤ q := by
  have hfinite := isFinite_of_between hlow.isFinite hhigh.isFinite h.1 h.2
  rw [le_iff hlow.isFinite hfinite, le_iff hfinite hhigh.isFinite, hlow.value_eq,
    hhigh.value_eq] at h
  exact ⟨hfinite, h⟩

/-- **Geohashes and cells correspond** over the doubles that are computed with. -/
theorem roundTrip_double : RoundTrip Float where
  position lat lon precision hlat hlon hprecision := by
    obtain ⟨hlatFinite, hlat⟩ := between_value OnGrid.globe.south OnGrid.globe.north hlat
    obtain ⟨hlonFinite, hlon⟩ := between_value OnGrid.globe.west OnGrid.globe.east hlon
    -- Bisecting is exact on doubles, so what holds of the cell over the rationals carries over.
    obtain ⟨hlength, c, hc, hcontains⟩ :=
      (roundTrip_exact ℚ).position (value lat) (value lon) precision hlat hlon hprecision
    obtain ⟨b, hb, hrepresents⟩ := exists_double hc
    rw [encode_value hlatFinite hlonFinite hprecision]
    exact ⟨hlength, b, hb, (hrepresents.contains_eq hlatFinite hlonFinite).trans hcontains⟩
  center hash b h := by
    obtain ⟨c, hc, hrepresents⟩ := exists_exact h
    obtain ⟨hinside, hencode⟩ := (roundTrip_exact ℚ).center hash c hc
    obtain ⟨⟨hlat, hlatValue⟩, hlon, hlonValue⟩ := hrepresents.center
    obtain ⟨⟨hne, hle⟩, -⟩ := cell?_eq_some.mp h
    have hpos : 1 ≤ hash.length := Nat.one_le_iff_ne_zero.mpr (by simpa using hne)
    rw [hrepresents.strictlyContains_eq hlat hlon, encode_value hlat hlon ⟨hpos, hle⟩, hlatValue,
      hlonValue]
    exact ⟨hinside, hencode⟩
  front front back b hfront h := by
    obtain ⟨c, hc, hrepresents⟩ := exists_exact h
    obtain ⟨outer, houter, hwithin⟩ := (roundTrip_exact ℚ).front front back c hfront hc
    obtain ⟨outer', houter', hrepresents'⟩ := exists_double houter
    exact ⟨outer', houter', hrepresents.within hrepresents' hwithin⟩

end Geohash

/-- **Geohashes and cells correspond**, in exact arithmetic over any ordered field, and over the
doubles that the cells of geohashes are computed with. A position on the globe is written in as many
digits as asked for, from one to twelve, and these name a cell that contains the position. The
center of any cell lies strictly inside it and is written as the geohash of the cell, in lower case.
The cell of a beginning of a geohash contains the cell of the whole. -/
theorem Geohash.cells_round_trip :
    (∀ (K : Type) [Field K] [LinearOrder K] [IsStrictOrderedRing K], RoundTrip K) ∧
      RoundTrip Float :=
  ⟨roundTrip_exact, roundTrip_double⟩

/-- A position in Paris is written as `u09t`, whose cell has that geohash again, also when it is
given in capitals, and lies in the cell of `u0`. -/
theorem Geohash.cells_round_trip_paris : ∃ b : BoundingBox ℚ,
    encode (488566 / 10000 : ℚ) (23522 / 10000) 4 = "u09t" ∧ cell? "U09T" = some b ∧
      b.contains (488566 / 10000) (23522 / 10000) = true ∧
      encode b.centerLat b.centerLon 4 = "u09t" ∧
      ∃ outer : BoundingBox ℚ, cell? "U0" = some outer ∧ b.Within outer := by
  have hround : RoundTrip ℚ := cells_round_trip.1 ℚ
  have hparis : encode (488566 / 10000 : ℚ) (23522 / 10000) 4 = "u09t" := by decide +kernel
  have hcase : (cell? "u09t" : Option (BoundingBox ℚ)) = cell? "U09T" := by decide +kernel
  obtain ⟨-, b, hb, hcontains⟩ := hround.position (488566 / 10000) (23522 / 10000) 4 (by norm_num)
    (by norm_num) (by norm_num)
  rw [hparis, hcase] at hb
  obtain ⟨-, hcenter⟩ := hround.center "U09T" b hb
  exact ⟨b, hparis, hb, hcontains, hcenter.trans (by decide +kernel),
    hround.front "U0" "9T" b (by decide) hb⟩

end GeoFacet
