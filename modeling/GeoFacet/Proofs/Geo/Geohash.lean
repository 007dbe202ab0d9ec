import GeoFacet.Geo.Geohash
import GeoFacet.Proofs.Geo.BoundingBox
import Mathlib.Data.List.GetD

/-!
# Geohash cells and positions

In exact arithmetic reading a geohash undoes writing it. Halving a box keeps it a box, and a
position in a box lies in the half that its next bit names; so a position lies in its cell, however
many bits are taken (`contains_narrow_locate`). The other way round, the bits that lead to a cell
are found again from any position strictly inside it, its center for one
(`locate_of_strictlyContains`). Digits are five bits each, and the axes go on taking turns across
them, so nothing here depends on where a digit ends.

Main statement: `roundTrip_exact`.
-/

namespace GeoFacet

namespace Geohash

/-! ## Digits -/

/-- Five bits are the bits of a digit. -/
theorem bitsOf_valueOf : ∀ {bits : List Bool}, bits.length = 5 →
    valueOf bits < 32 ∧ bitsOf (valueOf bits) = bits
  | [a, b, c, d, e], _ => by
    revert a b c d e
    decide

theorem valueOf_bitsOf : ∀ {n : Nat}, n < 32 → valueOf (bitsOf n) = n := by decide

theorem digit?_alphabet : ∀ {n : Nat}, n < 32 → digit? (alphabet.getD n '0') = some n := by decide

/-- The digit of a value is the lower case of the digit it was read from. -/
theorem alphabet_of_digit? {c : Char} {n : Nat} (h : digit? c = some n) :
    n < 32 ∧ alphabet.getD n '0' = c.toLower := by
  rw [digit?] at h
  split at h
  · rename_i hlt
    cases h
    refine ⟨hlt, ?_⟩
    rw [List.getD_eq_getElem _ _ hlt, List.getElem_idxOf]
  · cases h

/-- Digits written from bits are read back. -/
theorem bits?_digitsOfBits {n : Nat} {bits : List Bool} (h : bits.length = 5 * n) :
    bits? (digitsOfBits n bits) = some bits := by
  induction n generalizing bits with
  | zero =>
    cases List.length_eq_zero_iff.mp h
    rfl
  | succ n ih =>
    have hfirst : (bits.take 5).length = 5 := by
      rw [List.length_take]
      omega
    have hrest : (bits.drop 5).length = 5 * n := by
      rw [List.length_drop]
      omega
    obtain ⟨hlt, hbits⟩ := bitsOf_valueOf hfirst
    rw [digitsOfBits, bits?, digit?_alphabet hlt, ih hrest]
    simp only [hbits, List.take_append_drop]

theorem length_digitsOfBits (n : Nat) (bits : List Bool) : (digitsOfBits n bits).length = n := by
  induction n generalizing bits with
  | zero => rfl
  | succ n ih => rw [digitsOfBits, List.length_cons, ih]

theorem bits?_cons_eq_some {c : Char} {cs : List Char} {bits : List Bool} :
    bits? (c :: cs) = some bits ↔
      ∃ n rest, digit? c = some n ∧ bits? cs = some rest ∧ bits = bitsOf n ++ rest := by
  rw [bits?]
  cases digit? c <;> cases bits? cs <;> simp [eq_comm]

/-- Bits that were read from digits are written as the same digits in lower case. -/
theorem digitsOfBits_of_bits? {cs : List Char} {bits : List Bool} (h : bits? cs = some bits) :
    bits.length = 5 * cs.length ∧ digitsOfBits cs.length bits = cs.map Char.toLower := by
  induction cs generalizing bits with
  | nil =>
    cases h
    exact ⟨rfl, rfl⟩
  | cons c cs ih =>
    obtain ⟨n, rest, hdigit, hrest, rfl⟩ := bits?_cons_eq_some.mp h
    obtain ⟨hlt, hlower⟩ := alphabet_of_digit? hdigit
    obtain ⟨hlength, hdigits⟩ := ih hrest
    have hfive : (bitsOf n).length = 5 := rfl
    refine ⟨by rw [List.length_append, hlength, hfive, List.length_cons]; omega, ?_⟩
    rw [List.length_cons, digitsOfBits, List.take_left' hfive, List.drop_left' hfive, hdigits,
      valueOf_bitsOf hlt, hlower, List.map_cons]

theorem bits?_append {cs ds : List Char} {bits : List Bool} (h : bits? (cs ++ ds) = some bits) :
    ∃ front back, bits? cs = some front ∧ bits = front ++ back := by
  induction cs generalizing bits with
  | nil => exact ⟨[], bits, rfl, rfl⟩
  | cons c cs ih =>
    obtain ⟨n, rest, hdigit, hrest, rfl⟩ := bits?_cons_eq_some.mp h
    obtain ⟨front, back, hfront, rfl⟩ := ih hrest
    exact ⟨bitsOf n ++ front, back, bits?_cons_eq_some.mpr ⟨n, front, hdigit, hfront, rfl⟩,
      (List.append_assoc _ _ _).symm⟩

/-! ## Bits of positions and cells -/

section Numbers

variable {K : Type} [Add K] [Div K] [Neg K] [OfNat K 2] [OfNat K 90] [OfNat K 180]

omit [Neg K] [OfNat K 90] [OfNat K 180] in
theorem narrow_append (byLongitude : Bool) (b : BoundingBox K) (front back : List Bool) :
    ∃ axis,
      narrow byLongitude b (front ++ back) = narrow axis (narrow byLongitude b front) back := by
  induction front generalizing byLongitude b with
  | nil => exact ⟨byLongitude, rfl⟩
  | cons bit front ih => exact ih (!byLongitude) (half byLongitude bit b)

/-- A cell is where the bits of one to twelve digits lead to. -/
theorem cell?_eq_some {hash : String} {b : BoundingBox K} : cell? hash = some b ↔
    (hash ≠ "" ∧ hash.length ≤ maxPrecision) ∧
      ∃ bits, bits? hash.toList = some bits ∧ narrow true globe bits = b := by
  rw [cell?]
  simp only [Bool.or_eq_true, List.isEmpty_iff, String.toList_eq_nil_iff, decide_eq_true_eq,
    String.length_toList]
  split
  · rename_i h
    refine ⟨fun hnone => (by cases hnone), fun ⟨⟨hne, hle⟩, _⟩ => ?_⟩
    rcases h with hempty | hlong
    · exact absurd hempty hne
    · exact absurd hlong (Nat.not_lt.mpr hle)
  · rename_i h
    rw [not_or, Nat.not_lt] at h
    simp only [Option.map_eq_some_iff, Ne, h, not_false_eq_true, true_and]

variable [LE K] [DecidableLE K]

/-- The next bit of a position. -/
def nextBit (lat lon : K) (byLongitude : Bool) (b : BoundingBox K) : Bool :=
  if byLongitude then b.centerLon ≤ lon else b.centerLat ≤ lat

omit [Neg K] [OfNat K 90] [OfNat K 180] in
theorem locate_succ (lat lon : K) (n : Nat) (byLongitude : Bool) (b : BoundingBox K) :
    locate lat lon (n + 1) byLongitude b = nextBit lat lon byLongitude b ::
      locate lat lon n (!byLongitude) (half byLongitude (nextBit lat lon byLongitude b) b) := rfl

omit [Neg K] [OfNat K 90] [OfNat K 180] in
theorem length_locate (lat lon : K) (n : Nat) (byLongitude : Bool) (b : BoundingBox K) :
    (locate lat lon n byLongitude b).length = n := by
  induction n generalizing byLongitude b with
  | zero => rfl
  | succ n ih => rw [locate_succ, List.length_cons, ih]

theorem encode_eq (lat lon : K) {precision : Nat} (h : 1 ≤ precision ∧ precision ≤ maxPrecision) :
    encode lat lon precision =
      String.ofList (digitsOfBits precision (locate lat lon (5 * precision) true globe)) := by
  rw [encode, max_eq_left h.1, min_eq_left h.2]

end Numbers

open BoundingBox

variable {K : Type} [Field K] [LinearOrder K] {b : BoundingBox K} {lat lon : K}

/-! ## Halving -/

/-- A position lies in the half that its next bit names. -/
theorem contains_half (h : b.contains lat lon = true) (byLongitude : Bool) :
    (half byLongitude (nextBit lat lon byLongitude b) b).contains lat lon = true := by
  rw [contains_iff] at h ⊢
  obtain ⟨⟨hs, hn⟩, hw, he⟩ := h
  cases byLongitude
  · by_cases hbit : b.centerLat ≤ lat
    · simpa [nextBit, hbit, half] using ⟨hn, hw, he⟩
    · simpa [nextBit, hbit, half] using ⟨⟨hs, (not_le.mp hbit).le⟩, hw, he⟩
  · by_cases hbit : b.centerLon ≤ lon
    · simpa [nextBit, hbit, half] using ⟨⟨hs, hn⟩, he⟩
    · simpa [nextBit, hbit, half] using ⟨⟨hs, hn⟩, hw, (not_le.mp hbit).le⟩

/-- **A position lies in the part of a box that its bits lead to.** -/
theorem contains_narrow_locate (h : b.contains lat lon = true) (n : Nat) (byLongitude : Bool) :
    (narrow byLongitude b (locate lat lon n byLongitude b)).contains lat lon = true := by
  induction n generalizing byLongitude b with
  | zero => exact h
  | succ n ih => exact ih (contains_half h byLongitude) (!byLongitude)

/-- A position strictly inside a half has the bit that names it. -/
theorem nextBit_of_strictlyContains {byLongitude upper : Bool}
    (h : (half byLongitude upper b).strictlyContains lat lon = true) :
    nextBit lat lon byLongitude b = upper := by
  obtain ⟨⟨hs, hn⟩, hw, he⟩ := strictlyContains_iff.mp h
  cases byLongitude <;> cases upper
  · exact decide_eq_false hn.not_ge
  · exact decide_eq_true hs.le
  · exact decide_eq_false he.not_ge
  · exact decide_eq_true hw.le

variable [IsStrictOrderedRing K]

/-- Half a box is a box. -/
theorem proper_half (h : b.Proper) (byLongitude upper : Bool) :
    (half byLongitude upper b).Proper := by
  cases byLongitude <;> cases upper
  · exact ⟨h.width, h.centerLat.1⟩
  · exact ⟨h.width, h.centerLat.2⟩
  · exact ⟨h.centerLon.1, h.height⟩
  · exact ⟨h.centerLon.2, h.height⟩

theorem within_half (h : b.Proper) (byLongitude upper : Bool) :
    (half byLongitude upper b).Within b := by
  cases byLongitude <;> cases upper
  · exact ⟨le_rfl, le_rfl, le_rfl, h.centerLat.2.le⟩
  · exact ⟨le_rfl, h.centerLat.1.le, le_rfl, le_rfl⟩
  · exact ⟨le_rfl, le_rfl, h.centerLon.2.le, le_rfl⟩
  · exact ⟨h.centerLon.1.le, le_rfl, le_rfl, le_rfl⟩

theorem proper_narrow (h : b.Proper) (byLongitude : Bool) (bits : List Bool) :
    (narrow byLongitude b bits).Proper := by
  induction bits generalizing byLongitude b with
  | nil => exact h
  | cons bit bits ih => exact ih (proper_half h byLongitude bit) (!byLongitude)

/-- More bits lead further into a box. -/
theorem within_narrow (h : b.Proper) (byLongitude : Bool) (bits : List Bool) :
    (narrow byLongitude b bits).Within b := by
  induction bits generalizing byLongitude b with
  | nil => exact b.within_refl
  | cons bit bits ih =>
    exact (ih (proper_half h byLongitude bit) (!byLongitude)).trans (within_half h byLongitude bit)

/-- **The bits that lead to a part of a box are those of any position strictly inside it.** -/
theorem locate_of_strictlyContains (hproper : b.Proper) {byLongitude : Bool} {bits : List Bool}
    (h : (narrow byLongitude b bits).strictlyContains lat lon = true) :
    locate lat lon bits.length byLongitude b = bits := by
  induction bits generalizing byLongitude b with
  | nil => rfl
  | cons bit bits ih =>
    have hhalf := proper_half hproper byLongitude bit
    have hbit : nextBit lat lon byLongitude b = bit :=
      nextBit_of_strictlyContains ((within_narrow hhalf _ bits).strictlyContains h)
    rw [List.length_cons, locate_succ, hbit, ih hhalf h]

/-! ## Cells -/

theorem proper_globe : (globe : BoundingBox K).Proper :=
  ⟨neg_lt_self (by norm_num), neg_lt_self (by norm_num)⟩

omit [IsStrictOrderedRing K] in
theorem contains_globe : (globe : BoundingBox K).contains lat lon = true ↔
    (-90 ≤ lat ∧ lat ≤ 90) ∧ -180 ≤ lon ∧ lon ≤ 180 := contains_iff

omit [IsStrictOrderedRing K] in
/-- The geohash of a position on the globe has as many digits as asked for, and its cell contains
the position. -/
theorem exists_cell?_encode (h : (globe : BoundingBox K).contains lat lon = true) {precision : Nat}
    (hprecision : 1 ≤ precision ∧ precision ≤ maxPrecision) :
    (encode lat lon precision).length = precision ∧
      ∃ b : BoundingBox K, cell? (encode lat lon precision) = some b ∧
        b.contains lat lon = true := by
  have hlength : (encode lat lon precision).length = precision := by
    rw [encode_eq lat lon hprecision, String.length_ofList, length_digitsOfBits]
  refine ⟨hlength, _, cell?_eq_some.mpr ⟨⟨?_, hlength.le.trans hprecision.2⟩, _, ?_, rfl⟩,
    contains_narrow_locate h (5 * precision) true⟩
  · intro hempty
    rw [hempty] at hlength
    exact absurd hlength (Nat.ne_of_lt hprecision.1)
  · rw [encode_eq lat lon hprecision, String.toList_ofList,
      bits?_digitsOfBits (length_locate _ _ _ _ _)]

/-- The center of a cell has the geohash of the cell, in lower case. -/
theorem encode_center {hash : String} (h : cell? hash = some b) :
    b.strictlyContains b.centerLat b.centerLon = true ∧
      encode b.centerLat b.centerLon hash.length = hash.map Char.toLower := by
  obtain ⟨⟨hne, hle⟩, bits, hbits, rfl⟩ := cell?_eq_some.mp h
  have hcenter := (proper_narrow (K := K) proper_globe true bits).strictlyContains_center
  obtain ⟨hlength, hdigits⟩ := digitsOfBits_of_bits? hbits
  have hpos : 1 ≤ hash.length := Nat.one_le_iff_ne_zero.mpr (by simpa using hne)
  refine ⟨hcenter, String.toList_inj.mp ?_⟩
  rw [encode_eq _ _ ⟨hpos, hle⟩, ← String.length_toList, ← hlength,
    locate_of_strictlyContains proper_globe hcenter, String.toList_ofList, hdigits,
    String.toList_map]

/-- The cell of a beginning of a geohash contains the cell of the geohash. -/
theorem exists_cell?_front {front back : String} (hfront : front ≠ "")
    (h : cell? (front ++ back) = some b) :
    ∃ outer : BoundingBox K, cell? front = some outer ∧ b.Within outer := by
  obtain ⟨⟨-, hle⟩, bits, hbits, rfl⟩ := cell?_eq_some.mp h
  rw [String.toList_append] at hbits
  obtain ⟨first, more, hfirst, rfl⟩ := bits?_append hbits
  obtain ⟨axis, hnarrow⟩ := narrow_append true (globe : BoundingBox K) first more
  rw [String.length_append] at hle
  refine ⟨_, cell?_eq_some.mpr ⟨⟨hfront, by omega⟩, first, hfirst, rfl⟩, ?_⟩
  rw [hnarrow]
  exact within_narrow (proper_narrow proper_globe true first) axis more

/-- What holds of geohashes and cells over some numbers. -/
structure RoundTrip (K : Type) [Add K] [Div K] [Neg K] [OfNat K 2] [OfNat K 90] [OfNat K 180] [LE K]
    [DecidableLE K] [LT K] [DecidableLT K] : Prop where
  /-- a position on the globe is written in as many digits as asked for, and lies in their cell -/
  position : ∀ (lat lon : K) (precision : Nat), (-90 ≤ lat ∧ lat ≤ 90) → (-180 ≤ lon ∧ lon ≤ 180) →
    (1 ≤ precision ∧ precision ≤ 12) →
    (encode lat lon precision).length = precision ∧
      ∃ b : BoundingBox K, cell? (encode lat lon precision) = some b ∧ b.contains lat lon = true
  /-- the center of a cell lies strictly inside it, and is written as its geohash in lower case -/
  center : ∀ (hash : String) (b : BoundingBox K), cell? hash = some b →
    b.strictlyContains b.centerLat b.centerLon = true ∧
      encode b.centerLat b.centerLon hash.length = hash.map Char.toLower
  /-- the cell of a beginning contains the cell of the whole -/
  front : ∀ (front back : String) (b : BoundingBox K), front ≠ "" → cell? (front ++ back) = some b →
    ∃ outer : BoundingBox K, cell? front = some outer ∧ b.Within outer

/-- **Geohashes and cells correspond** in exact arithmetic. -/
theorem roundTrip_exact (K : Type) [Field K] [LinearOrder K] [IsStrictOrderedRing K] :
    RoundTrip K where
  position _ _ _ hlat hlon := exists_cell?_encode (contains_globe.mpr ⟨hlat, hlon⟩)
  center _ _ := encode_center
  front _ _ _ := exists_cell?_front

end Geohash

end GeoFacet
