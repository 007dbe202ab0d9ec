import GeoFacet.Geo.Shape
import GeoFacet.Proofs.Geo.Region
import GeoFacet.Proofs.Outcome
import Mathlib

/-!
# Boxes in filters

A box that crosses the antimeridian is cut in two there. What is covered is exactly the box, and all
parts have a height. A part has a width unless the box only reaches the antimeridian and does not
cross it: the part on the other side is a line then.

Main statement: `Shape.parse_box`.
-/

namespace GeoFacet

/-! ## Parts -/

/-- The parts of a box within the map, on both sides of the antimeridian if it crosses it. -/
def BoundingBox.parts (b : BoundingBox ℚ) : List (BoundingBox ℚ) :=
  if b.west < b.east then [b] else [{ b with east := 180 }, { b with west := -180 }]

/-- The polygons of a geometry that is made of polygons. -/
def Geometry.polygons? : Geometry → Option (List Polygon)
  | .polygon p => some [p]
  | .multiPolygon ps => some ps
  | _ => none

theorem Geometry.covers_iff_of_polygons? {g : Geometry} {ps : List Polygon}
    (h : g.polygons? = some ps) (q : ℝ × ℝ) : g.Covers q ↔ ∃ p ∈ ps, p.Covers q := by
  cases g with
  | polygon p =>
    cases h
    simp [Covers]
  | multiPolygon ps' =>
    cases h
    rw [Covers]
  | point | lineString | multiPoint | multiLineString | collection => cases h

/-- Polygons around boxes cover the points between the borders of one of them. -/
theorem Polygon.exists_covers_iff {ps : List Polygon} {bs : List (BoundingBox ℚ)}
    (h : List.Forall₂ Frames ps bs) (hordered : ∀ b ∈ bs, b.west ≤ b.east ∧ b.south ≤ b.north)
    (q : ℝ × ℝ) : (∃ p ∈ ps, p.Covers q) ↔
      ∃ b ∈ bs, (b.west ≤ q.1 ∧ q.1 ≤ b.east) ∧ b.south ≤ q.2 ∧ q.2 ≤ b.north := by
  induction h with
  | nil => simp
  | @cons p b ps bs hp _ ih =>
    obtain ⟨hwe, hsn⟩ := hordered b List.mem_cons_self
    have hrest := ih fun b hb => hordered b (List.mem_cons_of_mem _ hb)
    simp only [List.exists_mem_cons_iff, hp.covers_iff hwe hsn, hrest]

namespace Shape

/-! ## Borders -/

theorem between_iff (x : Float) {low high : Int} (hlow : low.natAbs < 2 ^ 53)
    (hhigh : high.natAbs < 2 ^ 53) : between (.ofInt low) (.ofInt high) x = true ↔
      x.isFinite = true ∧ (low : ℚ) ≤ Double.value x ∧ Double.value x ≤ high := by
  have hl := Double.isFinite_ofInt hlow
  have hh := Double.isFinite_ofInt hhigh
  rw [between, Bool.and_eq_true_iff, decide_eq_true_iff, decide_eq_true_iff]
  constructor
  · rintro ⟨h, h'⟩
    have hx := Double.isFinite_of_between hl hh h h'
    rw [Double.le_iff hl hx, Double.value_ofInt hlow] at h
    rw [Double.le_iff hx hh, Double.value_ofInt hhigh] at h'
    exact ⟨hx, h, h'⟩
  · rintro ⟨hx, h, h'⟩
    rw [Double.le_iff hl hx, Double.le_iff hx hh, Double.value_ofInt hlow, Double.value_ofInt hhigh]
    exact ⟨h, h'⟩

/-- The boxes that a filter may have. -/
structure Admitted (b : BoundingBox Float) : Prop where
  finite : b.Finite
  south : -90 ≤ b.value.south
  height : b.value.south < b.value.north
  north : b.value.north ≤ 90
  west : -180 ≤ b.value.west ∧ b.value.west ≤ 180
  east : -180 ≤ b.value.east ∧ b.value.east ≤ 180
  width : b.value.west ≠ b.value.east

theorem between_latitude {x : Float} : between (-90) 90 x = true ↔
    x.isFinite = true ∧ -90 ≤ Double.value x ∧ Double.value x ≤ 90 := by
  have hlow : Int.natAbs (-90) < 2 ^ 53 := by decide
  have hhigh : Int.natAbs 90 < 2 ^ 53 := by decide
  exact_mod_cast between_iff x hlow hhigh

theorem between_longitude {x : Float} : between (-180) 180 x = true ↔
    x.isFinite = true ∧ -180 ≤ Double.value x ∧ Double.value x ≤ 180 := by
  have hlow : Int.natAbs (-180) < 2 ^ 53 := by decide
  have hhigh : Int.natAbs 180 < 2 ^ 53 := by decide
  exact_mod_cast between_iff x hlow hhigh

/-- A box without a flaw is one of those. -/
theorem boxFlaw?_eq_none {b : BoundingBox Float} :
    boxFlaw? b.north b.west b.south b.east = none ↔ Admitted b := by
  rw [boxFlaw?]
  constructor
  · intro h
    split_ifs at h with hlat hlon horder hwidth
    have hlat : between (-90) 90 b.north = true ∧ between (-90) 90 b.south = true := by
      simpa using hlat
    have hlon : between (-180) 180 b.west = true ∧ between (-180) 180 b.east = true := by
      simpa using hlon
    obtain ⟨⟨hn, -, hnorth⟩, hs, hsouth, -⟩ := hlat.imp between_latitude.mp between_latitude.mp
    obtain ⟨⟨hw, hwest⟩, he, heast⟩ := hlon.imp between_longitude.mp between_longitude.mp
    rw [Double.le_iff hn hs, not_le] at horder
    rw [Double.beq_iff hw he] at hwidth
    exact ⟨⟨hw, hs, he, hn⟩, hsouth, horder, hnorth, hwest, heast, hwidth⟩
  · rintro ⟨⟨hw, hs, he, hn⟩, hsouth, hheight, hnorth, hwest, heast, hwidth⟩
    have hnorth' : between (-90) 90 b.north = true :=
      between_latitude.mpr ⟨hn, hsouth.trans hheight.le, hnorth⟩
    have hsouth' : between (-90) 90 b.south = true :=
      between_latitude.mpr ⟨hs, hsouth, hheight.le.trans hnorth⟩
    have hwest' : between (-180) 180 b.west = true := between_longitude.mpr ⟨hw, hwest⟩
    have heast' : between (-180) 180 b.east = true := between_longitude.mpr ⟨he, heast⟩
    rw [hnorth', hsouth', hwest', heast', if_neg (by decide), if_neg (by decide), if_neg, if_neg]
    · rwa [Double.beq_iff hw he]
    · rw [Double.le_iff hn hs, not_le]
      exact hheight

/-! ## Geometries -/

theorem antimeridian_east : (180 : Float).isFinite = true ∧ Double.value 180 = 180 := by
  have h : (180 : Float) = .ofInt 180 := rfl
  rw [h]
  exact ⟨Double.isFinite_ofInt (by decide), Double.value_ofInt (by decide)⟩

theorem antimeridian_west : (-180 : Float).isFinite = true ∧ Double.value (-180) = -180 := by
  have h : (-180 : Float) = .ofInt (-180) := rfl
  rw [h]
  exact ⟨Double.isFinite_ofInt (by decide), by exact_mod_cast Double.value_ofInt (by decide)⟩

/-- The polygons of a box go around its parts. -/
theorem frames_ofBox {b : BoundingBox Float} (h : Admitted b) : ∃ ps,
    (ofBox b.north b.west b.south b.east).polygons? = some ps ∧
      List.Forall₂ Polygon.Frames ps b.value.parts := by
  have hf := h.finite
  have hframes {p : BoundingBox Float} {part : BoundingBox ℚ} (hp : p.Finite)
      (hpart : p.value = part) (hwe : part.west ≤ part.east) (hsn : part.south ≤ part.north) :
      p.toPolygon.Frames part := by
    rw [← BoundingBox.ordered_eq hwe hsn, ← hpart]
    exact BoundingBox.frames_toPolygon hp
  by_cases hlt : b.west < b.east
  · have hlt' : b.value.west < b.value.east := (Double.lt_iff hf.west hf.east).mp hlt
    rw [ofBox, if_pos hlt, BoundingBox.parts, if_pos hlt']
    exact ⟨_, rfl, .cons (hframes hf rfl hlt'.le h.height.le) .nil⟩
  · have hlt' : ¬b.value.west < b.value.east := mt (Double.lt_iff hf.west hf.east).mpr hlt
    rw [ofBox, if_neg hlt, BoundingBox.parts, if_neg hlt']
    -- A box across the antimeridian is cut there into two.
    obtain ⟨hfinite, hvalue⟩ := antimeridian_east
    obtain ⟨hfinite', hvalue'⟩ := antimeridian_west
    have heast : BoundingBox.value ⟨b.west, b.south, 180, b.north⟩ =
        { b.value with east := 180 } := by rw [BoundingBox.value, hvalue]; rfl
    have hwest : BoundingBox.value ⟨-180, b.south, b.east, b.north⟩ =
        { b.value with west := -180 } := by rw [BoundingBox.value, hvalue']; rfl
    exact ⟨_, rfl, .cons (hframes ⟨hf.west, hf.south, hfinite, hf.north⟩ heast h.west.2 h.height.le)
      (.cons (hframes ⟨hfinite', hf.south, hf.east, hf.north⟩ hwest h.east.1 h.height.le) .nil)⟩

/-- All parts have a height. They have a width unless one only touches the antimeridian. -/
theorem parts_ordered {b : BoundingBox Float} (h : Admitted b) :
    (∀ part ∈ b.value.parts, part.west ≤ part.east ∧ part.south < part.north) ∧
      ((∀ part ∈ b.value.parts, part.west < part.east) ↔
        b.value.west < b.value.east ∨ b.value.west < 180 ∧ -180 < b.value.east) := by
  rw [BoundingBox.parts]
  split_ifs with hlt
  · simp [hlt, hlt.le, h.height]
  · simp [hlt, h.west.2, h.east.1, h.height]

/-- The parts hold the points of the map that the box holds. -/
theorem exists_parts_iff {b : BoundingBox Float} (h : Admitted b) {q : ℝ × ℝ}
    (hq : -180 ≤ q.1 ∧ q.1 ≤ 180) :
    (∃ part ∈ b.value.parts,
      (part.west ≤ q.1 ∧ q.1 ≤ part.east) ∧ part.south ≤ q.2 ∧ q.2 ≤ part.north) ↔
        b.value.Holds q := by
  rw [BoundingBox.parts, BoundingBox.Holds]
  split_ifs with hlt
  · simp [hlt, hlt.not_gt, and_comm]
  · have hgt : b.value.east < b.value.west := lt_of_le_of_ne (not_lt.mp hlt) h.width.symm
    have hmap : ((180 : ℚ) : ℝ) = 180 ∧ ((-180 : ℚ) : ℝ) = -180 := by norm_num
    simp only [List.mem_cons, List.not_mem_nil, or_false, exists_eq_or_imp, exists_eq_left, hlt,
      hgt, hmap, hq, true_and, and_true, false_and, false_or]
    rw [← or_and_right, and_comm]

/-- **A box in a filter covers exactly its points.** A value in the form of a box is accepted if its
borders lie on the map, the upper one above the lower one, and the others differ. Its geometry
consists of the polygons around the parts of the box, one or two, which have a height. They have a
width too, unless the box reaches the antimeridian from one side without crossing it: then the part
on the other side is a line. A point of the map lies in one of the polygons exactly if it lies in
the box. -/
theorem parse_box {value : String} {b : BoundingBox Float}
    (hnumbers : numbers? value = some (b.north, b.west, b.south, b.east)) :
    ((∃ g, parse value = .ok g) ↔ Admitted b) ∧ ∀ g, parse value = .ok g →
      ∃ ps, g.polygons? = some ps ∧ List.Forall₂ Polygon.Frames ps b.value.parts ∧
        (∀ part ∈ b.value.parts, part.west ≤ part.east ∧ part.south < part.north) ∧
        ((∀ part ∈ b.value.parts, part.west < part.east) ↔
          b.value.west < b.value.east ∨ b.value.west < 180 ∧ -180 < b.value.east) ∧
        ∀ q : ℝ × ℝ, -180 ≤ q.1 ∧ q.1 ≤ 180 → (g.Covers q ↔ b.value.Holds q) := by
  rw [parse, hnumbers]
  dsimp only
  cases hflaw : boxFlaw? b.north b.west b.south b.east with
  | some flaw =>
    refine ⟨⟨fun ⟨g, hg⟩ => (by cases hg), fun h => ?_⟩, fun g hg => (by cases hg)⟩
    rw [boxFlaw?_eq_none.mpr h] at hflaw
    cases hflaw
  | none =>
    have h := boxFlaw?_eq_none.mp hflaw
    refine ⟨iff_of_true ⟨_, rfl⟩ h, ?_⟩
    rintro g ⟨⟩
    obtain ⟨ps, hps, hframes⟩ := frames_ofBox h
    obtain ⟨hordered, hwidths⟩ := parts_ordered h
    refine ⟨ps, hps, hframes, hordered, hwidths, fun q hq => ?_⟩
    rw [Geometry.covers_iff_of_polygons? hps,
      Polygon.exists_covers_iff hframes fun part hpart => (hordered part hpart).imp_right le_of_lt,
      exists_parts_iff h hq]

/-- A box from the antimeridian to the antimeridian is accepted. Its parts are lines. -/
theorem parse_box_line : ∃ (g : Geometry) (ps : List Polygon),
    parse "10,180,0,-180" = .ok g ∧ g.polygons? = some ps ∧
      List.Forall₂ Polygon.Frames ps [⟨180, 0, 180, 10⟩, ⟨-180, 0, -180, 10⟩] := by
  let b : BoundingBox Float := ⟨.ofInt 180, .ofInt 0, .ofInt (-180), .ofInt 10⟩
  have hnumbers : numbers? "10,180,0,-180" = some (b.north, b.west, b.south, b.east) := rfl
  obtain ⟨hfinite, hvalue⟩ := BoundingBox.value_ofInt (w := 180) (s := 0) (e := -180) (n := 10)
    (by decide) (by decide) (by decide) (by decide)
  replace hvalue : b.value = ⟨180, 0, -180, 10⟩ := by exact_mod_cast hvalue
  have hadmitted : Admitted b := by
    constructor <;> first | exact hfinite | (rw [hvalue]; norm_num)
  obtain ⟨haccepted, hgeometry⟩ := parse_box hnumbers
  obtain ⟨g, hg⟩ := haccepted.mpr hadmitted
  obtain ⟨ps, hps, hframes, -⟩ := hgeometry g hg
  refine ⟨g, ps, hg, hps, ?_⟩
  rw [hvalue, BoundingBox.parts, if_neg (by norm_num)] at hframes
  exact hframes

end Shape

end GeoFacet
