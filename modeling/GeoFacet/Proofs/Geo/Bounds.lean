import GeoFacet.Proofs.Facet.Shape
import GeoFacet.Proofs.Geo.Region
import Mathlib

/-!
# Reported bounds

A search reports the bounds of geometries by two corners. Bounds across the antimeridian have a left
corner that lies east of the right one, as a box in a filter does. The polygon that is attached puts
the borders in order, so it covers the bounds if they do not cross the antimeridian; if they do, it
covers the rest of the globe between the same latitudes.

Main statement: `Search.bounds_reordered`.
-/

namespace GeoFacet

namespace BoundingBox

/-- What the polygon of a box covers, and how this compares with the box. -/
structure Reorders (b : BoundingBox ℚ) (g : Geometry) : Prop where
  covers_iff : ∀ q : ℝ × ℝ, g.Covers q ↔ (b.south ≤ q.2 ∧ q.2 ≤ b.north) ∧
    min b.west b.east ≤ q.1 ∧ q.1 ≤ max b.west b.east
  /-- a box that does not cross the antimeridian -/
  holds : b.west < b.east → ∀ q : ℝ × ℝ, g.Covers q ↔ b.Holds q
  /-- a box across the antimeridian: all points are in the box or covered, those on the borders
  both -/
  complement : b.east < b.west → ∀ q : ℝ × ℝ, b.south ≤ q.2 ∧ q.2 ≤ b.north →
    (g.Covers q ∨ b.Holds q) ∧ (g.Covers q ∧ b.Holds q ↔ q.1 = b.west ∨ q.1 = b.east)

theorem reorders_toPolygon {b : BoundingBox Float} (hfinite : b.Finite)
    (hheight : b.value.south < b.value.north) :
    b.value.Reorders (.polygon b.toPolygon) := by
  have hcovers (q : ℝ × ℝ) : (Geometry.polygon b.toPolygon).Covers q ↔
      (b.value.south ≤ q.2 ∧ q.2 ≤ b.value.north) ∧
        min b.value.west b.value.east ≤ q.1 ∧ q.1 ≤ max b.value.west b.value.east := by
    rw [Geometry.Covers, (frames_toPolygon hfinite).covers_iff min_le_max min_le_max, and_comm]
    simp [ordered, hheight.le]
  refine ⟨by exact_mod_cast hcovers, fun hlt q => ?_, fun hgt q hq => ?_⟩
  · rw [hcovers, Holds, min_eq_left hlt.le, max_eq_right hlt.le]
    simp [hlt, hlt.not_gt]
  · have hgt' : (b.value.east : ℝ) < b.value.west := by exact_mod_cast hgt
    rw [hcovers, Holds, min_eq_right hgt.le, max_eq_left hgt.le]
    simp only [hq, hgt, hgt.not_gt, true_and, false_and, false_or, and_self]
    -- With crossing bounds the covered strip is the complement of the one that is meant.
    refine ⟨?_, ⟨?_, ?_⟩⟩
    · rcases le_total q.1 b.value.east with h | h
      · exact .inr (.inr h)
      · rcases le_total q.1 b.value.west with h' | h'
        · exact .inl ⟨h, h'⟩
        · exact .inr (.inl h')
    · rintro ⟨⟨heast, hwest⟩, h | h⟩
      · exact .inl (le_antisymm hwest h)
      · exact .inr (le_antisymm h heast)
    · rintro (h | h)
      · exact ⟨⟨h ▸ hgt'.le, h.le⟩, .inl h.ge⟩
      · exact ⟨⟨h.ge, h ▸ hgt'.le⟩, .inr h.le⟩

end BoundingBox

namespace Search

/-- The bounds that a sub-result reports, by the upper left and the lower right corner. -/
structure Reports (result : Json) (b : BoundingBox Float) : Prop where
  corners : ∃ bounds, result.get? "bounds" = some bounds ∧
    ((bounds.member "top_left").member "lon").asFloat? = some b.west ∧
    ((bounds.member "top_left").member "lat").asFloat? = some b.north ∧
    ((bounds.member "bottom_right").member "lon").asFloat? = some b.east ∧
    ((bounds.member "bottom_right").member "lat").asFloat? = some b.south

theorem boundsPolygon?_of_reports {result : Json} {b : BoundingBox Float} (h : Reports result b) :
    boundsPolygon? result = some (Geometry.polygon b.toPolygon).toGeoJson := by
  obtain ⟨bounds, hbounds, hwest, hnorth, heast, hsouth⟩ := h.corners
  simp only [boundsPolygon?, hbounds, hwest, hnorth, heast, hsouth, Option.bind_eq_bind,
    Option.bind_some, BoundingBox.polygonJson]

/-- A geometry is attached to the node that is built from an item wherever the item reports its
bounds: as the value of a metric, and among the aggregated geometries. -/
structure Attaches (l : FacetLevel) (item : Json) (b : BoundingBox Float) (g : Geometry)
    (node : Bucket) : Prop where
  metric : ∀ m ∈ l.metrics, m.function = .geoBBox → Reports (item.member m.sourceName) b →
    ⟨.geoBBox, m.field, singleFeatureJson g.toGeoJson⟩ ∈ node.metrics
  aggregated : AggregatedGeometry.bbox ∈ l.aggregatedGeometries →
    Reports (item.member (aggregatedGeometryName .bbox)) b →
      ⟨"bbox", g.toGeoJson, false, none⟩ ∈ node.geometries

theorem mem_geometriesOf {l : FacetLevel} {key json : Json}
    {computed : AggregatedGeometry → Option Json} {gs : List BucketGeometry}
    (h : l.geometriesOf key computed = .ok gs) (hmem : .bbox ∈ l.aggregatedGeometries)
    (hjson : computed .bbox = some json) : ⟨"bbox", json, false, none⟩ ∈ gs := by
  have hne : l.aggregatedGeometries.isEmpty = false :=
    List.isEmpty_eq_false_iff.mpr (List.ne_nil_of_mem hmem)
  rw [FacetLevel.geometriesOf, hne, if_neg Bool.false_ne_true] at h
  obtain ⟨cell, -, h⟩ := Outcome.bind_eq_ok.mp h
  cases h
  refine List.mem_filterMap.mpr ⟨.bbox, hmem, ?_⟩
  exact congrArg (Option.map fun json => (⟨"bbox", json, false, none⟩ : BucketGeometry)) hjson

theorem attaches_bucketAlone {c : Collection} {l : FacetLevel} {item : Json} {bucket : Bucket}
    (h : bucketAlone c l item = .ok bucket) (b : BoundingBox Float) :
    Attaches l item b (.polygon b.toPolygon) bucket := by
  obtain ⟨keyText, -, h⟩ := Outcome.bind_eq_ok.mp h
  obtain ⟨geometries, hgeometries, h⟩ := Outcome.bind_eq_ok.mp h
  cases h
  constructor
  · intro m hm hfunction hreports
    refine List.mem_map.mpr ⟨m, hm, ?_⟩
    rw [metricOf_eq, value?, hfunction, boundsPolygon?_of_reports hreports]
    rfl
  · intro hmem hreports
    exact List.mem_append_left _
      (mem_geometriesOf hgeometries hmem (boundsPolygon?_of_reports hreports))

/-- **Reported bounds are attached with their borders in order.** Bounds that a search reports are
attached as the value of a metric, as an aggregated geometry and as a computed geometry, always as
one polygon. It covers the points between the borders. That is the bounds if the left border lies
west of the right one. If the bounds cross the antimeridian, the polygon covers the rest of the
globe between their latitudes, and shares only the borders with them. -/
theorem bounds_reordered {b : BoundingBox Float} (hfinite : b.Finite)
    (hheight : b.value.south < b.value.north) : ∃ g : Geometry, b.value.Reorders g ∧
      (∀ (c : Collection) (plan : FacetPlan) (result : Json) (tree : Bucket),
        assembleFacets c plan result = .ok tree →
        ∀ i address node, tree.at? (i :: address) = some node →
          ∃ l item, plan.levels[address.length]? = some l ∧
            partAt? plan result i address = some item ∧ Attaches l item b g node) ∧
      ∀ (field : String) (result : Json), 0 < totalHits result →
        Reports ((result.member "aggregations").member "computation") b →
        (assembleComputation field .geoBBox result).geometry = some g.toGeoJson := by
  refine ⟨_, BoundingBox.reorders_toPolygon hfinite hheight, ?_, ?_⟩
  · intro c plan result tree htree i address node hnode
    obtain ⟨⟨l, item, bucket, hl, hitem, hbuild, haround⟩, -⟩ :=
      (grown_assembleFacets htree).1.at? hnode
    refine ⟨l, item, hl, hitem, ?_⟩
    have hattaches := attaches_bucketAlone hbuild b
    rw [haround]
    exact ⟨hattaches.metric, hattaches.aggregated⟩
  · intro field result htotal hreports
    have hpolygon := boundsPolygon?_of_reports hreports
    rw [assembleComputation]
    dsimp only
    rw [if_neg htotal.ne']
    exact hpolygon

/-- The bounds of places on both sides of the antimeridian. -/
def pacific : Json :=
  .object [
    ("aggregations", .object [("computation", .object [("bounds", .object [
      ("bottom_right", .object [("lat", .int 0), ("lon", .int (-170))]),
      ("top_left", .object [("lat", .int 10), ("lon", .int 170)])])])]),
    ("hits", .object [("total", .int 2)])]

/-- The geometry that is computed for them contains the prime meridian and not the antimeridian. -/
theorem bounds_reordered_pacific : ∃ (b : BoundingBox Float) (g : Geometry),
    b.value = ⟨170, 0, -170, 10⟩ ∧
      (assembleComputation "place" .geoBBox pacific).geometry = some g.toGeoJson ∧
      g.Covers (0, 5) ∧ ¬b.value.Holds (0, 5) ∧ ¬g.Covers (180, 5) ∧ b.value.Holds (180, 5) := by
  let b : BoundingBox Float := ⟨.ofInt 170, .ofInt 0, .ofInt (-170), .ofInt 10⟩
  obtain ⟨hfinite, hvalue⟩ := BoundingBox.value_ofInt (w := 170) (s := 0) (e := -170) (n := 10)
    (by decide) (by decide) (by decide) (by decide)
  replace hvalue : b.value = ⟨170, 0, -170, 10⟩ := by exact_mod_cast hvalue
  have hreports : Reports ((pacific.member "aggregations").member "computation") b :=
    ⟨_, rfl, rfl, rfl, rfl, rfl⟩
  obtain ⟨g, hreorders, -, hcomputed⟩ := bounds_reordered hfinite (by rw [hvalue]; norm_num)
  refine ⟨b, g, hvalue, hcomputed "place" pacific (by decide) hreports, ?_, ?_, ?_, ?_⟩
  all_goals
    first | rw [hreorders.covers_iff, hvalue] | rw [hvalue, BoundingBox.Holds]
    norm_num

end Search

end GeoFacet
