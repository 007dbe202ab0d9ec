import GeoFacet.Geo.BoundingBox
import Mathlib.Algebra.Order.Field.Basic
import Mathlib.Tactic.Linarith

/-!
# Positions in boxes

A position lies in a box by its two coordinates, each between two borders, and strictly inside it
between them; so does the center of a box that has a width and a height, in exact arithmetic. What
lies strictly inside a box lies strictly inside any box around it.
-/

namespace GeoFacet

namespace BoundingBox

/-- A box that lies in another one. -/
structure Within {K : Type} [LE K] (inner outer : BoundingBox K) : Prop where
  west : outer.west ≤ inner.west
  south : outer.south ≤ inner.south
  east : inner.east ≤ outer.east
  north : inner.north ≤ outer.north

variable {K : Type} [LinearOrder K] {b inner middle outer : BoundingBox K} {lat lon : K}

theorem contains_iff : b.contains lat lon = true ↔
    (b.south ≤ lat ∧ lat ≤ b.north) ∧ b.west ≤ lon ∧ lon ≤ b.east := by
  simp [contains, and_assoc]

theorem strictlyContains_iff : b.strictlyContains lat lon = true ↔
    (b.south < lat ∧ lat < b.north) ∧ b.west < lon ∧ lon < b.east := by
  simp [strictlyContains, and_assoc]

theorem within_refl (b : BoundingBox K) : b.Within b := ⟨le_rfl, le_rfl, le_rfl, le_rfl⟩

theorem Within.trans (h : inner.Within middle) (h' : middle.Within outer) :
    inner.Within outer where
  west := h'.west.trans h.west
  south := h'.south.trans h.south
  east := h.east.trans h'.east
  north := h.north.trans h'.north

theorem Within.strictlyContains (h : inner.Within outer)
    (hinner : inner.strictlyContains lat lon = true) : outer.strictlyContains lat lon = true := by
  obtain ⟨⟨hs, hn⟩, hw, he⟩ := strictlyContains_iff.mp hinner
  exact strictlyContains_iff.mpr
    ⟨⟨h.south.trans_lt hs, hn.trans_le h.north⟩, h.west.trans_lt hw, he.trans_le h.east⟩

/-- A box with a width and a height. -/
structure Proper (b : BoundingBox K) : Prop where
  width : b.west < b.east
  height : b.south < b.north

variable [Field K] [IsStrictOrderedRing K]

theorem Proper.centerLon (h : b.Proper) : b.west < b.centerLon ∧ b.centerLon < b.east :=
  ⟨left_lt_add_div_two.mpr h.width, add_div_two_lt_right.mpr h.width⟩

theorem Proper.centerLat (h : b.Proper) : b.south < b.centerLat ∧ b.centerLat < b.north :=
  ⟨left_lt_add_div_two.mpr h.height, add_div_two_lt_right.mpr h.height⟩

/-- The center of a box lies strictly inside it. -/
theorem Proper.strictlyContains_center (h : b.Proper) :
    b.strictlyContains b.centerLat b.centerLon = true :=
  strictlyContains_iff.mpr ⟨h.centerLat, h.centerLon⟩

end BoundingBox

end GeoFacet
