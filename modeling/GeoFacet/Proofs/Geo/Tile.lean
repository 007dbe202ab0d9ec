import GeoFacet.Geo.Tile
import GeoFacet.Proofs.Geo.BoundingBox
import GeoFacet.Proofs.Text.Split
import GeoFacet.Proofs.Text.WholeNumber
import Mathlib

/-!
# The tile of a position

In exact arithmetic a position lies in the tile that is computed for it, whatever the projection: it
is enough that latitudes within the limit have a depth between 0 and 1, and that rising depths lead
back to falling latitudes. Along either axis the map is cut into equal steps, and a part of the
whole lies in the step that its floor names, the last one being closed at both ends
(`Projection.Exact.step_bounds`). The rows run to the south, so there the two bounds change sides.

Main statements: `Tile.containing_contains` and `Projection.exact_mercatorReal`, that the mercator
projection of real numbers is such a projection.
-/

namespace GeoFacet

/-! ## Exact projections -/

/-- A projection in exact arithmetic. -/
structure Projection.Exact {K : Type} [Field K] [LinearOrder K] [IsStrictOrderedRing K]
    [FloorRing K] (p : Projection K) : Prop where
  ofNat_eq : ∀ n, p.ofNat n = n
  floor_eq : ∀ x, p.floor x = ⌊x⌋
  index_natCast : ∀ n : Nat, p.index n = n
  depth_mem : Set.MapsTo p.depth (Set.Icc (-p.limit) p.limit) (Set.Icc 0 1)
  latitude_depth : Set.LeftInvOn p.latitude p.depth (Set.Icc (-p.limit) p.limit)
  latitude_anti : StrictAntiOn p.latitude (Set.Icc 0 1)

namespace Tile

theorem perSide_pos (z : Nat) : 0 < perSide z := Nat.pow_pos (by decide)

section Exact

variable {K : Type} [Field K] [LinearOrder K] [IsStrictOrderedRing K] [FloorRing K]
  {p : Projection K}

/-- The step, among the equal steps of a zoom, in which a part of the whole lies. -/
def step (p : Projection K) (z : Nat) (part : K) : Nat :=
  p.index (clamp 0 (side p z - 1) (p.floor (part * side p z)))

theorem side_eq (h : p.Exact) (z : Nat) : side p z = perSide z := h.ofNat_eq _

/-- The floor names the step; beyond the last one it is the last. -/
theorem step_eq (h : p.Exact) (z : Nat) {part : K} (hpart : 0 ≤ part) :
    step p z part = min ⌊part * perSide z⌋₊ (perSide z - 1) := by
  have hlast : ((perSide z : K) - 1) = ((perSide z - 1 : Nat) : K) := by
    rw [Nat.cast_sub (perSide_pos z), Nat.cast_one]
  have hnonneg : 0 ≤ part * perSide z := mul_nonneg hpart (Nat.cast_nonneg _)
  have hfloor : p.floor (part * perSide z) = (⌊part * perSide z⌋₊ : K) := by
    rw [h.floor_eq, ← natCast_floor_eq_intCast_floor hnonneg]
  rw [step, side_eq h, hlast, hfloor, clamp, if_neg (Nat.cast_nonneg _).not_gt]
  split
  · rename_i hlt
    rw [h.index_natCast, min_eq_right (Nat.cast_lt.mp hlt).le]
  · rename_i hle
    rw [h.index_natCast, min_eq_left (Nat.cast_le.mp (not_lt.mp hle))]

theorem step_lt (h : p.Exact) (z : Nat) {part : K} (hpart : 0 ≤ part) :
    step p z part < perSide z := by
  rw [step_eq h z hpart]
  have hpos := perSide_pos z
  omega

/-- **A part of the whole lies in its step**, both ends included. -/
theorem step_bounds (h : p.Exact) (z : Nat) {part : K} (hpart : 0 ≤ part ∧ part ≤ 1) :
    (step p z part : K) / perSide z ≤ part ∧ part ≤ ((step p z part : K) + 1) / perSide z := by
  have hpos : (0 : K) < perSide z := Nat.cast_pos.mpr (perSide_pos z)
  have hnonneg : 0 ≤ part * perSide z := mul_nonneg hpart.1 hpos.le
  rw [step_eq h z hpart.1, div_le_iff₀ hpos, le_div_iff₀ hpos]
  constructor
  · exact (Nat.cast_le.mpr (min_le_left _ _)).trans (Nat.floor_le hnonneg)
  · rcases le_total ⌊part * perSide z⌋₊ (perSide z - 1) with hle | hle
    · rw [min_eq_left hle]
      exact (Nat.lt_floor_add_one _).le
    · rw [min_eq_right hle, Nat.cast_sub (perSide_pos z), Nat.cast_one, sub_add_cancel]
      exact mul_le_of_le_one_left hpos.le hpart.2

omit [IsStrictOrderedRing K] [FloorRing K] in
theorem containing_eq {lat : K} (hlat : lat ∈ Set.Icc (-p.limit) p.limit) (lon : K)
    (z : Nat) :
    containing p lat lon z = ⟨step p z ((lon + 180) / 360), step p z (p.depth lat), z⟩ := by
  have hclamp : clamp (-p.limit) p.limit lat = lat := by
    rw [clamp, if_neg hlat.1.not_gt, if_neg hlat.2.not_gt]
  rw [containing, hclamp]
  rfl

/-- **A position lies in its tile**, also on a border or in a corner of the map. -/
theorem box_containing (h : p.Exact) {lat lon : K} (hlat : lat ∈ Set.Icc (-p.limit) p.limit)
    (hlon : -180 ≤ lon ∧ lon ≤ 180) (z : Nat) :
    (box p (containing p lat lon z)).contains lat lon = true := by
  have hpart : 0 ≤ (lon + 180) / 360 ∧ (lon + 180) / 360 ≤ 1 := by
    constructor
    · exact div_nonneg (by linarith) (by norm_num)
    · rw [div_le_one (by norm_num)]
      linarith
  have hdepth : 0 ≤ p.depth lat ∧ p.depth lat ≤ 1 := h.depth_mem hlat
  obtain ⟨hwest, heast⟩ := step_bounds h z hpart
  obtain ⟨hnorth, hsouth⟩ := step_bounds h z hdepth
  have hpos : (0 : K) < perSide z := Nat.cast_pos.mpr (perSide_pos z)
  have hrow : (step p z (p.depth lat) : K) + 1 ≤ perSide z := by
    exact_mod_cast step_lt h z hdepth.1
  -- Latitudes fall as depths grow, so the bounds of the row change sides.
  have hantitone := h.latitude_anti.antitoneOn
  have hback : p.latitude (p.depth lat) = lat := h.latitude_depth hlat
  rw [containing_eq hlat, box, BoundingBox.contains_iff]
  dsimp only
  rw [side_eq h, h.ofNat_eq, h.ofNat_eq]
  refine ⟨⟨?_, ?_⟩, ?_, ?_⟩
  · conv_rhs => rw [← hback]
    exact hantitone hdepth ⟨by positivity, (div_le_one hpos).mpr hrow⟩ hsouth
  · conv_lhs => rw [← hback]
    exact hantitone ⟨by positivity, hnorth.trans hdepth.2⟩ hdepth hnorth
  · rw [le_div_iff₀ (by norm_num)] at hwest
    linarith
  · rw [div_le_iff₀ (by norm_num)] at heast
    linarith

end Exact

/-! ## Keys -/

theorem split_slashes {a b c : List Char} (ha : '/' ∉ a) (hb : '/' ∉ b) (hc : '/' ∉ c) :
    Text.splitList '/' (a ++ '/' :: (b ++ '/' :: c)) = [a, b, c] := by
  rw [Text.splitList_append ha, Text.splitList_append hb, Text.splitList_of_notMem hc]

theorem notMem_toString_nat {c : Char} (hc : c.isDigit = false) (n : Nat) :
    c ∉ (toString n).toList := by
  intro h
  rw [isDigit_of_mem_toString_nat h] at hc
  cases hc

/-- **A key within its bounds is read back.** -/
theorem ofKey?_key {t : Tile} (hz : t.z ≤ maxZoom) (hx : t.x < perSide t.z)
    (hy : t.y < perSide t.z) : ofKey? t.key = some t := by
  have hlist : t.key.toList =
      (toString t.z).toList ++ '/' :: ((toString t.x).toList ++ '/' :: (toString t.y).toList) := by
    simp only [key, String.toList_append, List.append_assoc]
    rfl
  have hspace : t.key.toList.any Text.isSpace = false := by
    have hdigits (n : Nat) : (toString n).toList.any Text.isSpace = false :=
      Text.noSpace_toString_int n
    rw [hlist]
    simp only [List.any_append, List.any_cons, hdigits]
    decide
  have hword : perSide t.z ≤ UInt32.size :=
    (Nat.pow_le_pow_right (by decide) hz : perSide t.z ≤ perSide maxZoom).trans (by decide)
  -- The numbers have no slash, so the two slashes of the key part it into the three.
  have hsplit : Text.split '/' (Text.trim t.key) = [toString t.z, toString t.x, toString t.y] := by
    have hslash (n : Nat) : '/' ∉ (toString n).toList := notMem_toString_nat (by decide) n
    rw [Text.trim_of_noSpace hspace, Text.split, hlist,
      split_slashes (hslash _) (hslash _) (hslash _)]
    simp only [List.map_cons, List.map_nil, String.ofList_toList]
  simp only [ofKey?, hsplit, readNat?_toString (hz.trans (by decide : maxZoom ≤ UInt8.size - 1)),
    readNat?_toString (Nat.le_sub_one_of_lt (hx.trans_le hword)),
    readNat?_toString (Nat.le_sub_one_of_lt (hy.trans_le hword)), Option.bind_eq_bind,
    Option.bind_some, hz, hx, hy, and_self, if_true]

/-- Every key that is read names a tile within its bounds. -/
theorem bounds_of_ofKey? {key : String} {t : Tile} (h : ofKey? key = some t) :
    t.z ≤ maxZoom ∧ t.x < perSide t.z ∧ t.y < perSide t.z := by
  rw [ofKey?] at h
  split at h
  · obtain ⟨z, -, h⟩ := Option.bind_eq_some_iff.mp h
    obtain ⟨x, -, h⟩ := Option.bind_eq_some_iff.mp h
    obtain ⟨y, -, h⟩ := Option.bind_eq_some_iff.mp h
    split at h
    · rename_i hbounds
      cases h
      exact hbounds
    · cases h
  · cases h

end Tile

/-- **A position lies in the tile that is computed for it**, in exact arithmetic, at every zoom up
to 29 and everywhere on the map, its borders and corners included. The tile is one of the `2^z` by
`2^z` tiles of its zoom, and its key is read back as the tile. Every key that is read names such a
tile. -/
theorem Tile.containing_contains {K : Type} [Field K] [LinearOrder K] [IsStrictOrderedRing K]
    [FloorRing K] {p : Projection K} (hp : p.Exact) :
    (∀ (z : Nat) (lat lon : K), z ≤ 29 → (-180 ≤ lon ∧ lon ≤ 180) →
      (-p.limit ≤ lat ∧ lat ≤ p.limit) →
      ∃ t : Tile, containing p lat lon z = t ∧ t.z = z ∧ t.x < 2 ^ z ∧ t.y < 2 ^ z ∧
        (box p t).contains lat lon = true ∧ ofKey? t.key = some t) ∧
    ∀ (key : String) (t : Tile), ofKey? key = some t →
      t.z ≤ 29 ∧ t.x < 2 ^ t.z ∧ t.y < 2 ^ t.z := by
  refine ⟨fun z lat lon hz hlon hlat => ?_, fun key t h => bounds_of_ofKey? h⟩
  have hpart : 0 ≤ (lon + 180) / 360 := div_nonneg (by linarith) (by norm_num)
  have hx := step_lt hp z hpart
  have hy := step_lt hp z (hp.depth_mem hlat).1
  refine ⟨_, containing_eq hlat lon z, rfl, hx, hy, ?_, ofKey?_key hz hx hy⟩
  rw [← containing_eq hlat lon z]
  exact box_containing hp hlat hlon z

/-! ## The mercator projection -/

namespace Projection

open Real

/-- The mercator projection of real numbers, up to the latitude at the edge of the map. -/
noncomputable def mercatorReal : Projection ℝ where
  limit := arctan (sinh π) * (180 / π)
  depth lat :=
    let radians := lat * (π / 180)
    (1 - log (tan radians + 1 / cos radians) / π) / 2
  latitude part := arctan (sinh (π * (1 - 2 * part))) * (180 / π)
  ofNat n := n
  floor x := ⌊x⌋
  index x := ⌊x⌋₊

/-- Rising depths lead to falling latitudes. -/
theorem strictAnti_latitude : StrictAnti mercatorReal.latitude := by
  intro a b hab
  have hpi := pi_pos
  refine mul_lt_mul_of_pos_right (arctan_strictMono (sinh_lt_sinh.mpr ?_)) (by positivity)
  exact mul_lt_mul_of_pos_left (by linarith) hpi

/-- The logarithm in a depth is an inverse hyperbolic sine. -/
theorem log_tan_add {x : ℝ} (hx : 0 < cos x) : log (tan x + 1 / cos x) = arsinh (tan x) := by
  rw [arsinh, ← inv_sqrt_one_add_tan_sq hx, one_div, inv_inv]

section Latitude

variable {lat : ℝ} (hlat : lat ∈ Set.Icc (-mercatorReal.limit) mercatorReal.limit)

include hlat

theorem radians_mem : lat * (π / 180) ∈ Set.Icc (-arctan (sinh π)) (arctan (sinh π)) := by
  have hpi := pi_pos
  have hunit : 180 / π * (π / 180) = 1 := by field_simp
  obtain ⟨hsouth, hnorth⟩ := hlat
  constructor
  · calc -arctan (sinh π) = -mercatorReal.limit * (π / 180) := by
          rw [mercatorReal, neg_mul, mul_assoc, hunit, mul_one]
      _ ≤ lat * (π / 180) := by gcongr
  · calc lat * (π / 180) ≤ mercatorReal.limit * (π / 180) := by gcongr
      _ = arctan (sinh π) := by rw [mercatorReal, mul_assoc, hunit, mul_one]

theorem arctan_tan_radians : arctan (tan (lat * (π / 180))) = lat * (π / 180) := by
  obtain ⟨hsouth, hnorth⟩ := radians_mem hlat
  have hlimit := arctan_lt_pi_div_two (sinh π)
  exact arctan_tan (by linarith) (by linarith)

/-- The inverse hyperbolic sine goes from `-π` to `π` as the latitude goes from edge to edge. -/
theorem arsinh_tan_mem : arsinh (tan (lat * (π / 180))) ∈ Set.Icc (-π) π := by
  obtain ⟨hsouth, hnorth⟩ := radians_mem hlat
  rw [← arctan_tan_radians hlat] at hsouth hnorth
  rw [← arctan_neg, arctan_strictMono.le_iff_le, ← sinh_neg, ← arsinh_le_arsinh, arsinh_sinh]
    at hsouth
  rw [arctan_strictMono.le_iff_le, ← arsinh_le_arsinh, arsinh_sinh] at hnorth
  exact ⟨hsouth, hnorth⟩

theorem depth_eq : mercatorReal.depth lat = (1 - arsinh (tan (lat * (π / 180))) / π) / 2 := by
  obtain ⟨hsouth, hnorth⟩ := radians_mem hlat
  have hlimit := arctan_lt_pi_div_two (sinh π)
  have hcos : 0 < cos (lat * (π / 180)) := cos_pos_of_mem_Ioo ⟨by linarith, by linarith⟩
  rw [mercatorReal]
  dsimp only
  rw [log_tan_add hcos]

end Latitude

/-- **The mercator projection of real numbers is exact.** -/
theorem exact_mercatorReal : mercatorReal.Exact where
  ofNat_eq _ := rfl
  floor_eq _ := rfl
  index_natCast n := Nat.floor_natCast n
  depth_mem := by
    intro lat hlat
    have hpi := pi_pos
    obtain ⟨hlow, hhigh⟩ := arsinh_tan_mem hlat
    have hlow' : -1 ≤ arsinh (tan (lat * (π / 180))) / π := by
      rw [le_div_iff₀ hpi]
      linarith
    have hhigh' : arsinh (tan (lat * (π / 180))) / π ≤ 1 := (div_le_one hpi).mpr hhigh
    rw [depth_eq hlat]
    constructor <;> linarith
  latitude_depth := by
    intro lat hlat
    have hpi := pi_pos.ne'
    have hback : π * (1 - 2 * mercatorReal.depth lat) = arsinh (tan (lat * (π / 180))) := by
      rw [depth_eq hlat]
      field_simp
      ring
    show arctan (sinh (π * (1 - 2 * mercatorReal.depth lat))) * (180 / π) = lat
    rw [hback, sinh_arsinh, arctan_tan_radians hlat]
    field_simp
  latitude_anti := strictAnti_latitude.strictAntiOn _

theorem limit_mercatorReal_pos : 0 < mercatorReal.limit :=
  mul_pos (arctan_pos.mpr (sinh_pos_iff.mpr pi_pos)) (by positivity)

end Projection

/-- The north-east corner of the map lies in its tile at the highest zoom, and a key of zoom 10
names a tile of that zoom. -/
theorem Tile.containing_contains_corner :
    (∃ t : Tile, containing Projection.mercatorReal Projection.mercatorReal.limit 180 29 = t ∧
      t.x < 2 ^ 29 ∧ t.y < 2 ^ 29 ∧
      (box Projection.mercatorReal t).contains Projection.mercatorReal.limit 180 = true ∧
      ofKey? t.key = some t) ∧
    ∃ t : Tile, ofKey? "10/516/373" = some t ∧ t.z = 10 ∧ t.x < 2 ^ t.z ∧ t.y < 2 ^ t.z := by
  obtain ⟨hpositions, hkeys⟩ := containing_contains Projection.exact_mercatorReal
  have hlimit := Projection.limit_mercatorReal_pos
  obtain ⟨t, ht, -, hx, hy, hcontains, hkey⟩ :=
    hpositions 29 Projection.mercatorReal.limit 180 le_rfl (by norm_num) ⟨by linarith, le_rfl⟩
  have hread : ofKey? "10/516/373" = some ⟨516, 373, 10⟩ := by decide +kernel
  obtain ⟨-, hbounds⟩ := hkeys _ _ hread
  exact ⟨⟨t, ht, hx, hy, hcontains, hkey⟩, _, hread, rfl, hbounds⟩

end GeoFacet
