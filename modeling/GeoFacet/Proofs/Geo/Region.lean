import GeoFacet.Geo.BoundingBox
import GeoFacet.Proofs.Double.Order
import Mathlib

/-!
# What geometries cover

A geometry covers points of the plane, longitude first. A ring covers its sides and what lies inside
it, by the parity of the sides that a ray to the east crosses. A polygon covers what its outer ring
covers, without what lies inside a hole.

Main statements: `Polygon.Frames.covers_iff` and `BoundingBox.frames_toPolygon`, on the polygon of a
box.
-/

namespace GeoFacet

/-! ## Points -/

/-- The point that a position stands for. -/
noncomputable def Position.point (p : Position) : ℝ × ℝ := (Double.value p.x, Double.value p.y)

namespace Path

/-- The ends of the sides between positions that follow each other. -/
noncomputable def sides (path : Path) : List ((ℝ × ℝ) × (ℝ × ℝ)) :=
  let points := path.map Position.point
  points.zip points.tail

/-- Whether a point is a position of the path or lies on a side of it. -/
def Touches (path : Path) (q : ℝ × ℝ) : Prop :=
  q ∈ path.map Position.point ∨ ∃ side ∈ path.sides, q ∈ segment ℝ side.1 side.2

/-- Whether the ray from a point to the east crosses a side. The upper end is no part of the side,
so a ray through a position where two sides meet crosses one of them if they lie on both sides of
the ray. -/
def Crosses (side : (ℝ × ℝ) × (ℝ × ℝ)) (q : ℝ × ℝ) : Prop :=
  let (a, b) := side
  (a.2 ≤ q.2 ∧ q.2 < b.2 ∨ b.2 ≤ q.2 ∧ q.2 < a.2) ∧
    q.1 < a.1 + (q.2 - a.2) / (b.2 - a.2) * (b.1 - a.1)

/-- Whether a point lies inside a ring: the ray from it crosses an odd number of sides. -/
def Inside (ring : Path) (q : ℝ × ℝ) : Prop :=
  ring.sides.foldr (fun side odd => Xor (Crosses side q) odd) False

end Path

/-! ## Geometries -/

/-- The points of a polygon. The sides of a hole belong to it. -/
def Polygon.Covers (p : Polygon) (q : ℝ × ℝ) : Prop :=
  (p.exterior.Touches q ∨ p.exterior.Inside q) ∧
    ∀ hole ∈ p.interiors, hole.Inside q → hole.Touches q

namespace Geometry

mutual

/-- The points of a geometry. -/
def Covers (q : ℝ × ℝ) : Geometry → Prop
  | .point p => q = p.point
  | .lineString path => path.Touches q
  | .polygon p => p.Covers q
  | .multiPoint ps => ∃ p ∈ ps, q = p.point
  | .multiLineString paths => ∃ path ∈ paths, path.Touches q
  | .multiPolygon ps => ∃ p ∈ ps, p.Covers q
  | .collection members => MembersCover q members

def MembersCover (q : ℝ × ℝ) : List Geometry → Prop
  | [] => False
  | g :: rest => Covers q g ∨ MembersCover q rest

end

end Geometry

/-! ## Rectangles -/

theorem mem_segment_vertical {x y y' : ℝ} {q : ℝ × ℝ} :
    q ∈ segment ℝ (x, y) (x, y') ↔ q.1 = x ∧ q.2 ∈ Set.uIcc y y' := by
  rw [← Prod.image_mk_segment_right, segment_eq_uIcc]
  constructor
  · rintro ⟨z, hz, rfl⟩
    exact ⟨rfl, hz⟩
  · rintro ⟨rfl, hz⟩
    exact ⟨q.2, hz, rfl⟩

theorem mem_segment_horizontal {x x' y : ℝ} {q : ℝ × ℝ} :
    q ∈ segment ℝ (x, y) (x', y) ↔ q.1 ∈ Set.uIcc x x' ∧ q.2 = y := by
  rw [← Prod.image_mk_segment_left, segment_eq_uIcc]
  constructor
  · rintro ⟨z, hz, rfl⟩
    exact ⟨hz, rfl⟩
  · rintro ⟨hz, rfl⟩
    exact ⟨q.1, hz, rfl⟩

namespace Path

variable {x x' y y' : ℝ} {q : ℝ × ℝ}

theorem crosses_vertical :
    Crosses ((x, y), (x, y')) q ↔ (y ≤ q.2 ∧ q.2 < y' ∨ y' ≤ q.2 ∧ q.2 < y) ∧ q.1 < x := by
  simp [Crosses]

/-- No ray to the east crosses a side that runs to the east or west. -/
theorem not_crosses_horizontal : ¬Crosses ((x, y), (x', y)) q := by
  rintro ⟨h | h, -⟩ <;> linarith [h.1, h.2]

section Ring

variable {w s e n : ℝ} {ring : Path}
  (hring : ring.map Position.point = [(e, s), (e, n), (w, n), (w, s), (e, s)])

include hring

theorem sides_rectangle : ring.sides =
    [((e, s), (e, n)), ((e, n), (w, n)), ((w, n), (w, s)), ((w, s), (e, s))] := by
  rw [sides, hring]
  rfl

/-- A rectangle has two sides to the north and two to the east. -/
theorem touches_rectangle (hwe : w ≤ e) (hsn : s ≤ n) : ring.Touches q ↔
    (q.1 = e ∨ q.1 = w) ∧ (s ≤ q.2 ∧ q.2 ≤ n) ∨ (w ≤ q.1 ∧ q.1 ≤ e) ∧ (q.2 = s ∨ q.2 = n) := by
  rw [Touches, sides_rectangle hring, hring]
  simp only [List.mem_cons, List.not_mem_nil, or_false, exists_eq_or_imp, exists_eq_left,
    mem_segment_vertical, mem_segment_horizontal, Set.uIcc_of_le hsn, Set.uIcc_of_ge hsn,
    Set.uIcc_of_le hwe, Set.uIcc_of_ge hwe, Set.mem_Icc]
  constructor
  · rintro ((rfl | rfl | rfl | rfl | rfl) | h | h | h | h) <;> simp_all
  · rintro (⟨he | hw, h⟩ | ⟨h, hs | hn⟩)
    · exact .inr (.inl ⟨he, h⟩)
    · exact .inr (.inr (.inr (.inl ⟨hw, h⟩)))
    · exact .inr (.inr (.inr (.inr ⟨h, hs⟩)))
    · exact .inr (.inr (.inl ⟨h, hn⟩))

/-- Of the sides that run to the north the ray crosses the one to the east, or both. -/
theorem inside_rectangle (hwe : w ≤ e) (hsn : s ≤ n) :
    ring.Inside q ↔ (w ≤ q.1 ∧ q.1 < e) ∧ s ≤ q.2 ∧ q.2 < n := by
  have hnorth : (s ≤ q.2 ∧ q.2 < n ∨ n ≤ q.2 ∧ q.2 < s) ↔ s ≤ q.2 ∧ q.2 < n :=
    or_iff_left fun h => by linarith [h.1, h.2]
  have hsouth : (n ≤ q.2 ∧ q.2 < s ∨ s ≤ q.2 ∧ q.2 < n) ↔ s ≤ q.2 ∧ q.2 < n :=
    or_comm.trans hnorth
  have hwest : q.1 < w → q.1 < e := fun h => h.trans_le hwe
  rw [Inside, sides_rectangle hring]
  simp only [List.foldr_cons, List.foldr_nil, crosses_vertical, not_crosses_horizontal, hnorth,
    hsouth, Xor, false_and, or_false, false_or, not_false_eq_true, and_true, ← not_lt (a := q.1)]
  by_cases hw : q.1 < w
  · simp only [hw, hwest hw, and_true, and_not_self, or_false, not_true_eq_false, false_and]
  · simp only [hw, not_false_eq_true, false_and, or_false, true_and, and_comm]

theorem touches_or_inside_rectangle (hwe : w ≤ e) (hsn : s ≤ n) :
    ring.Touches q ∨ ring.Inside q ↔ (w ≤ q.1 ∧ q.1 ≤ e) ∧ s ≤ q.2 ∧ q.2 ≤ n := by
  rw [touches_rectangle hring hwe hsn, inside_rectangle hring hwe hsn]
  constructor
  · rintro ((⟨rfl | rfl, h⟩ | ⟨h, rfl | rfl⟩) | ⟨h, h'⟩)
    · exact ⟨⟨hwe, le_rfl⟩, h⟩
    · exact ⟨⟨le_rfl, hwe⟩, h⟩
    · exact ⟨h, le_rfl, hsn⟩
    · exact ⟨h, hsn, le_rfl⟩
    · exact ⟨⟨h.1, h.2.le⟩, h'.1, h'.2.le⟩
  · rintro ⟨⟨hw, he⟩, hs, hn⟩
    rcases he.lt_or_eq with he | he
    · rcases hn.lt_or_eq with hn | hn
      · exact .inr ⟨⟨hw, he⟩, hs, hn⟩
      · exact .inl (.inr ⟨⟨hw, he.le⟩, .inr hn⟩)
    · exact .inl (.inl ⟨.inl he, hs, hn⟩)

end Ring

end Path

/-! ## Boxes -/

/-- The corners of a box, counter-clockwise from the lower right one back to it. -/
noncomputable def BoundingBox.corners (b : BoundingBox ℚ) : List (ℝ × ℝ) :=
  [(b.east, b.south), (b.east, b.north), (b.west, b.north), (b.west, b.south), (b.east, b.south)]

/-- A polygon whose only ring goes around a box. -/
structure Polygon.Frames (p : Polygon) (b : BoundingBox ℚ) : Prop where
  exterior : p.exterior.map Position.point = b.corners
  interiors : p.interiors = []

/-- **The polygon around a box covers the points between its borders.** -/
theorem Polygon.Frames.covers_iff {p : Polygon} {b : BoundingBox ℚ} (h : p.Frames b)
    (hwe : b.west ≤ b.east) (hsn : b.south ≤ b.north) (q : ℝ × ℝ) :
    p.Covers q ↔ (b.west ≤ q.1 ∧ q.1 ≤ b.east) ∧ b.south ≤ q.2 ∧ q.2 ≤ b.north := by
  rw [Covers, h.interiors, Path.touches_or_inside_rectangle h.exterior (by exact_mod_cast hwe)
    (by exact_mod_cast hsn)]
  exact and_iff_left fun hole hmem => by cases hmem

theorem Position.beq_self {p : Position} (hx : p.x.isFinite = true) (hy : p.y.isFinite = true) :
    (p == p) = true :=
  Bool.and_eq_true_iff.mpr ⟨(Double.beq_iff hx hx).mpr rfl, (Double.beq_iff hy hy).mpr rfl⟩

namespace BoundingBox

/-- The box of the numbers that the borders are. -/
def value (b : BoundingBox Float) : BoundingBox ℚ where
  west := Double.value b.west
  south := Double.value b.south
  east := Double.value b.east
  north := Double.value b.north

/-- Whether all borders are finite. -/
structure Finite (b : BoundingBox Float) : Prop where
  west : b.west.isFinite = true
  south : b.south.isFinite = true
  east : b.east.isFinite = true
  north : b.north.isFinite = true

/-- A box with whole numbers for borders. -/
theorem value_ofInt {w s e n : Int} (hw : w.natAbs < 2 ^ 53) (hs : s.natAbs < 2 ^ 53)
    (he : e.natAbs < 2 ^ 53) (hn : n.natAbs < 2 ^ 53) :
    let b : BoundingBox Float := ⟨.ofInt w, .ofInt s, .ofInt e, .ofInt n⟩
    b.Finite ∧ b.value = ⟨w, s, e, n⟩ := by
  refine ⟨⟨Double.isFinite_ofInt hw, Double.isFinite_ofInt hs, Double.isFinite_ofInt he,
    Double.isFinite_ofInt hn⟩, ?_⟩
  rw [value, Double.value_ofInt hw, Double.value_ofInt hs, Double.value_ofInt he,
    Double.value_ofInt hn]

/-- The box between the same borders with the smaller ones first. -/
def ordered (b : BoundingBox ℚ) : BoundingBox ℚ where
  west := min b.west b.east
  south := min b.south b.north
  east := max b.west b.east
  north := max b.south b.north

theorem ordered_eq {b : BoundingBox ℚ} (hwe : b.west ≤ b.east) (hsn : b.south ≤ b.north) :
    b.ordered = b := by
  rw [ordered, min_eq_left hwe, min_eq_left hsn, max_eq_right hwe, max_eq_right hsn]

/-- **The polygon of a box goes around its borders, put in order.** -/
theorem frames_toPolygon {b : BoundingBox Float} (h : b.Finite) :
    b.toPolygon.Frames b.value.ordered where
  exterior := by
    obtain ⟨minX, maxX, hx, hxfinite, hminX, hmaxX⟩ := Double.exists_ordered h.west h.east
    obtain ⟨minY, maxY, hy, hyfinite, hminY, hmaxY⟩ := Double.exists_ordered h.south h.north
    have hself : ((⟨maxX, minY⟩ : Position) == ⟨maxX, minY⟩) = true :=
      Position.beq_self hxfinite.2 hyfinite.1
    simp only [toPolygon, Polygon.rectangle, hx, hy, Polygon.ofRings, Path.closed, List.head?_cons,
      List.getLast?_cons_cons, List.getLast?_singleton, hself, if_true, List.map_cons, List.map_nil,
      Position.point, hminX, hmaxX, hminY, hmaxY, corners, ordered, value]
  interiors := rfl

/-- Whether a point lies in a box. One whose west border lies east of the east border crosses the
antimeridian: it goes from the west border to the end of the map, and on from the other end. -/
def Holds (b : BoundingBox ℚ) (q : ℝ × ℝ) : Prop :=
  (b.south ≤ q.2 ∧ q.2 ≤ b.north) ∧
    (b.west < b.east ∧ b.west ≤ q.1 ∧ q.1 ≤ b.east ∨
      b.east < b.west ∧ (b.west ≤ q.1 ∨ q.1 ≤ b.east))

end BoundingBox

end GeoFacet
