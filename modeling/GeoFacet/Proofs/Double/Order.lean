import GeoFacet.Proofs.Double.WholeNumber
import Mathlib

/-!
# Doubles as numbers

A double that is finite is a rational number, its `value`. The form in which doubles are kept has
one exponent for each size, so they are compared by exponents first and by digits then; that is the
order of the values (`compare_eq`). Between two finite doubles only finite ones lie
(`isFinite_of_between`).
-/

namespace GeoFacet.Double

open Float.Model Float.Model.UnpackedFloat

/-! ## Values -/

/-- The number that a double in its parts is. Infinities and what is no number count as zero. -/
def partsValue : UnpackedFloat → ℚ
  | .finite .positive m e _ => m * 2 ^ e
  | .finite .negative m e _ => -(m * 2 ^ e)
  | _ => 0

/-- The number that a double is. -/
def value (x : Float) : ℚ := partsValue x.toModel.unpack

theorem Denotes.partsValue_eq {u : UnpackedFloat} {a : Int} (h : Denotes u a) :
    partsValue u = a := by
  cases h with
  | zero s => rfl
  | @finite s m n k hm hdigits hn hrange =>
    have hvalue : (m : ℚ) * 2 ^ ((k : Int) - 52) = n := by
      rw [zpow_sub₀ (by norm_num), zpow_natCast, ← mul_div_assoc, div_eq_iff (by norm_num)]
      exact_mod_cast hn.symm
    cases s
    · simp [partsValue, signed, hvalue]
    · simp [partsValue, signed, hvalue]

theorem Denotes.isFinite {u : UnpackedFloat} {a : Int} (h : Denotes u a) : u.isFinite = true := by
  cases h <;> rfl

/-- A whole number that needs no more than 53 binary digits is the value of its double. -/
theorem value_ofInt {a : Int} (h : a.natAbs < 2 ^ 53) : value (Float.ofInt a) = a := by
  obtain ⟨u, hu, hdenotes⟩ := exists_ofInt (a := a) (by omega)
  rw [value, hu]
  show partsValue (Float.Model.pack u).unpack = _
  rw [hdenotes.unpack_pack, hdenotes.partsValue_eq, nearestInt_of_natAbs_le h.le]

theorem isFinite_ofInt {a : Int} (h : a.natAbs < 2 ^ 53) : (Float.ofInt a).isFinite = true := by
  obtain ⟨u, hu, hdenotes⟩ := exists_ofInt (a := a) (by omega)
  rw [hu]
  show (Float.Model.pack u).unpack.isFinite = true
  rw [hdenotes.unpack_pack]
  exact hdenotes.isFinite

/-! ## Order -/

/-- The digits and exponents of doubles: 53 binary digits, or fewer at the least exponent. -/
structure Canonical (m : Nat) (e : Int) : Prop where
  lt : m < 2 ^ 53
  le : -1074 ≤ e
  digits : 2 ^ 52 ≤ m ∨ e = -1074

theorem canonical_unpack {b : BitVec Format.binary64.numBits} {s : Sign} {m : Nat} {e : Int}
    {hm : 0 < m} (h : UnpackedFloat.unpack .binary64 b = .finite s m e hm) : Canonical m e := by
  rw [UnpackedFloat.unpack] at h
  dsimp only at h
  split at h
  · split at h <;> cases h
  · split at h
    · split at h
      · cases h
      · -- A subnormal number lacks the leading digit and has the least exponent.
        rename_i hzero hne
        cases h
        have hlt : (unpackMantissa b).toNat < 2 ^ 52 := (unpackMantissa b).isLt
        refine ⟨by omega, ?_, .inr ?_⟩ <;> simp [hzero, Format.exponentBias]
    · rename_i hinf hzero
      cases h
      refine ⟨(1#1 ++ unpackMantissa b).isLt, ?_, .inl ?_⟩
      · have hpos : 0 < (unpackExponent b).toNat := BitVec.toNat_pos_of_ne_zero hzero
        simp only [Format.exponentBias]
        norm_num
        omega
      · rw [BitVec.toNat_append]
        exact Nat.left_le_or

variable {m m' : Nat} {e e' : Int}

/-- Of two sizes of numbers the one with the greater exponent is greater. -/
theorem Canonical.magnitude_lt (h : Canonical m e) (h' : Canonical m' e') (hlt : e < e') :
    (m * 2 ^ e : ℚ) < m' * 2 ^ e' := by
  have hdigits : 2 ^ 52 ≤ m' := h'.digits.resolve_right (by have := h.le; omega)
  calc (m * 2 ^ e : ℚ) < 2 ^ 53 * 2 ^ e := by
        exact mul_lt_mul_of_pos_right (by exact_mod_cast h.lt) (by positivity)
    _ = 2 ^ 52 * 2 ^ (e + 1) := by rw [zpow_add₀ (by norm_num)]; ring
    _ ≤ 2 ^ 52 * 2 ^ e' :=
        mul_le_mul_of_nonneg_left (zpow_le_zpow_right₀ (by norm_num) hlt) (by positivity)
    _ ≤ m' * 2 ^ e' := mul_le_mul_of_nonneg_right (by exact_mod_cast hdigits) (by positivity)

theorem Canonical.compare_magnitude (h : Canonical m e) (h' : Canonical m' e') :
    (compare e e').then (compare m m') = compare (m * 2 ^ e : ℚ) (m' * 2 ^ e') := by
  rcases lt_trichotomy e e' with hlt | rfl | hlt
  · rw [compare_lt_iff_lt.mpr hlt, compare_lt_iff_lt.mpr (h.magnitude_lt h' hlt)]
    rfl
  · rw [compare_eq_iff_eq.mpr rfl, Ordering.eq_then]
    have hpos : (0 : ℚ) < 2 ^ e := by positivity
    exact compare_congr (by simp [hpos]) (by simp [hpos])
  · rw [compare_gt_iff_gt.mpr hlt, compare_gt_iff_gt.mpr (h'.magnitude_lt h hlt)]
    rfl

/-- **Finite doubles compare as their values.** -/
theorem compare_eq {x y : Float} (hx : x.isFinite = true) (hy : y.isFinite = true) :
    x.toModel.unpack.compare y.toModel.unpack = some (compare (value x) (value y)) := by
  change x.toModel.unpack.isFinite = true at hx
  change y.toModel.unpack.isFinite = true at hy
  rw [value, value]
  have hpos {m : Nat} (hm : 0 < m) (e : Int) : (0 : ℚ) < m * 2 ^ e := by positivity
  cases hu : x.toModel.unpack with
  | notANumber | infinity s => rw [hu] at hx; cases hx
  | zero s =>
    cases hv : y.toModel.unpack with
    | notANumber | infinity t => rw [hv] at hy; cases hy
    | zero t => rfl
    | finite t n f hn =>
      have := hpos hn f
      cases t
      · exact congrArg some (compare_gt_iff_gt.mpr (by simpa [partsValue] using this)).symm
      · exact congrArg some (compare_lt_iff_lt.mpr (by simpa [partsValue] using this)).symm
  | finite s m e hm =>
    have hxpos := hpos hm e
    cases hv : y.toModel.unpack with
    | notANumber | infinity t => rw [hv] at hy; cases hy
    | zero t =>
      cases s
      · exact congrArg some (compare_lt_iff_lt.mpr (by simpa [partsValue] using hxpos)).symm
      · exact congrArg some (compare_gt_iff_gt.mpr (by simpa [partsValue] using hxpos)).symm
    | finite t n f hn =>
      have hypos := hpos hn f
      -- Canonical forms are compared digit by digit as their values are.
      have hmagnitude := (canonical_unpack hu).compare_magnitude (canonical_unpack hv)
      cases s <;> cases t
      · show some ((Ord.compare _ _).then (Ord.compare _ _)).swap = _
        rw [hmagnitude, ← Std.OrientedCmp.eq_swap]
        exact congrArg some (compare_congr (by simp [partsValue]) (by simp [partsValue]))
      · exact congrArg some (compare_lt_iff_lt.mpr (by simp only [partsValue]; linarith)).symm
      · exact congrArg some (compare_gt_iff_gt.mpr (by simp only [partsValue]; linarith)).symm
      · show some ((Ord.compare _ _).then (Ord.compare _ _)) = _
        rw [hmagnitude]
        rfl

section

variable {x y low high : Float}

theorem lt_iff_compare : x < y ↔ (x.toModel.unpack.compare y.toModel.unpack == some .lt) = true :=
  decide_eq_true_iff

theorem le_iff_compare :
    x ≤ y ↔ (x.toModel.unpack.compare y.toModel.unpack).any Ordering.isLE = true :=
  decide_eq_true_iff

theorem lt_iff (hx : x.isFinite = true) (hy : y.isFinite = true) : x < y ↔ value x < value y := by
  rw [lt_iff_compare, compare_eq hx hy]
  simp [compare_lt_iff_lt]

theorem le_iff (hx : x.isFinite = true) (hy : y.isFinite = true) : x ≤ y ↔ value x ≤ value y := by
  rw [le_iff_compare, compare_eq hx hy, Option.any_some, ← Ordering.ne_gt_iff_isLE]
  exact compare_le_iff_le

theorem beq_iff (hx : x.isFinite = true) (hy : y.isFinite = true) :
    (x == y) = true ↔ value x = value y := by
  show (x.toModel.unpack.compare y.toModel.unpack == some .eq) = true ↔ _
  rw [compare_eq hx hy]
  simp

/-- Put in order, two finite doubles are the smaller and the greater one. -/
theorem exists_ordered (hx : x.isFinite = true) (hy : y.isFinite = true) :
    ∃ low high, (if x < y then (x, y) else (y, x)) = (low, high) ∧
      (low.isFinite = true ∧ high.isFinite = true) ∧
      value low = min (value x) (value y) ∧ value high = max (value x) (value y) := by
  by_cases h : x < y
  · have hle : value x ≤ value y := ((lt_iff hx hy).mp h).le
    exact ⟨x, y, if_pos h, ⟨hx, hy⟩, (min_eq_left hle).symm, (max_eq_right hle).symm⟩
  · have hle : value y ≤ value x := not_lt.mp (mt (lt_iff hx hy).mpr h)
    exact ⟨y, x, if_neg h, ⟨hy, hx⟩, (min_eq_right hle).symm, (max_eq_left hle).symm⟩

/-- Between finite doubles there are finite ones only. -/
theorem isFinite_of_between (hlow : low.isFinite = true) (hhigh : high.isFinite = true)
    (h : low ≤ x) (h' : x ≤ high) : x.isFinite = true := by
  rw [le_iff_compare] at h h'
  change low.toModel.unpack.isFinite = true at hlow
  change high.toModel.unpack.isFinite = true at hhigh
  show x.toModel.unpack.isFinite = true
  cases hx : x.toModel.unpack with
  | zero | finite => rfl
  | notANumber =>
    rw [hx] at h'
    cases h'
  | infinity s =>
    rw [hx] at h h'
    cases s
    · cases hu : low.toModel.unpack <;> simp_all [UnpackedFloat.compare, UnpackedFloat.isFinite]
    · cases hu : high.toModel.unpack <;> simp_all [UnpackedFloat.compare, UnpackedFloat.isFinite]

end

end GeoFacet.Double
