import GeoFacet.Proofs.Double.Nearest
import Mathlib

/-!
# The double of a whole number

The conversion rounds to the nearest double, whichever way it is computed: below `2^53` through a
machine word and a multiplication by one, above it through a product that is rounded to 53 binary
digits. `Denotes` says which whole number a double in its parts is. Doubles that are whole numbers
compare as these (`Denotes.compare`), so two converted numbers compare as the numbers next to them
(`compare_ofInt`).
-/

namespace GeoFacet.Double

open Float.Model Float.Model.UnpackedFloat

/-! ## Rounding -/

theorem mod_two_pow_succ (m k : Nat) :
    m % 2 ^ (k + 1) = m % 2 ^ k + 2 ^ k * (m / 2 ^ k % 2) := by
  rw [Nat.pow_succ, Nat.mod_mul]

/-- Dropping binary digits keeps the next digit, and whether anything stands behind it. -/
theorem shiftRight_mk (m k : Nat) :
    ExtendedMantissa.mk m false false >>> k =
      ⟨m / 2 ^ k, k != 0 && m / 2 ^ (k - 1) % 2 != 0, m % 2 ^ (k - 1) != 0⟩ := by
  induction k with
  | zero => simp [HShiftRight.hShiftRight, Nat.repeat, Nat.mod_one]
  | succ k ih =>
    have hrest : (k != 0 && m / 2 ^ (k - 1) % 2 != 0 || m % 2 ^ (k - 1) != 0) =
        (m % 2 ^ k != 0) := by
      cases k with
      | zero => simp [Nat.mod_one]
      | succ k =>
        have hpos := Nat.two_pow_pos k
        rcases Nat.mod_two_eq_zero_or_one (m / 2 ^ k) with hbit | hbit <;>
          simp [mod_two_pow_succ, hbit]
    change (ExtendedMantissa.mk m false false >>> k).shiftRightOne = _
    rw [ih, ExtendedMantissa.shiftRightOne, Nat.div_div_eq_div_mul, ← Nat.pow_succ]
    simp only [hrest, Nat.add_sub_cancel]
    simp

theorem roundedMantissa_mk (m : Nat) (half rest : Bool) :
    (ExtendedMantissa.mk m half rest).roundedMantissa =
      if half then (if rest then m + 1 else m + m % 2) else m := by
  cases half <;> cases rest <;> rfl

/-- The digits that are kept are rounded to the nearest, halfway to the even. -/
theorem roundedMantissa_shiftRight (m k : Nat) :
    (ExtendedMantissa.mk m false false >>> k).roundedMantissa = units m (2 ^ k) := by
  rw [shiftRight_mk, roundedMantissa_mk, units]
  cases k with
  | zero => simp [Nat.mod_one]
  | succ k =>
    have hlt := Nat.mod_lt m (Nat.two_pow_pos k)
    rw [mod_two_pow_succ, Nat.pow_succ]
    by_cases hrest : m % 2 ^ k = 0 <;>
      rcases Nat.mod_two_eq_zero_or_one (m / 2 ^ k) with hbit | hbit <;>
      simp only [hrest, hbit, Nat.add_sub_cancel, Nat.mul_zero, Nat.mul_one, bne_self_eq_false,
        Bool.and_false, Bool.false_eq_true, if_false, if_true, bne_iff_ne, ne_eq,
        not_false_eq_true] <;>
      grind

/-- A number with at least 53 binary digits is brought to 53. -/
theorem shiftToTargetExponent_exact {m k : Nat} {e : Int} (hlog : m.log2 = 52 + k)
    (he : -1074 ≤ e + k) : shiftToTargetExponent .binary64 m e .exact =
      (ExtendedMantissa.mk m false false >>> k, e + k) := by
  have htarget : (Format.binary64.targetExponent (totalExponent m e) - e).toNat = k := by
    simp only [Format.targetExponent, totalExponent, Format.mantissaBits, Format.minExponent]
    norm_num
    omega
  rw [shiftToTargetExponent, shiftToExponent, htarget]
  rfl

/-- **A number with at least 53 binary digits is rounded to 53.** Where the rounding reaches the
next power of two, that is the significand one exponent up. -/
theorem exists_roundWithAccuracy (s : Sign) {m k : Nat} {e : Int} (hm : m ≠ 0)
    (hlog : m.log2 = 52 + k) (he : -1074 ≤ e + k) :
    ∃ (q j : Nat) (hq : 0 < q),
      roundWithAccuracy .binary64 s m e .exact = .finite s q (e + k + j) hq ∧
        (2 ^ 52 ≤ q ∧ q < 2 ^ 53) ∧ q * 2 ^ j = units m (2 ^ k) := by
  have hbounds := units_bounds hm hlog
  obtain ⟨q, j, hlog', hqj, hq⟩ : ∃ q j : Nat, (units m (2 ^ k)).log2 = 52 + j ∧
      units m (2 ^ k) / 2 ^ j = q ∧ (2 ^ 52 ≤ q ∧ q < 2 ^ 53) ∧ q * 2 ^ j = units m (2 ^ k) := by
    rcases Nat.lt_or_eq_of_le hbounds.2 with hlt | heq
    · exact ⟨_, 0, (Nat.log2_eq_iff (by omega)).mpr ⟨hbounds.1, hlt⟩, by simp, ⟨hbounds.1, hlt⟩,
        by simp⟩
    · exact ⟨2 ^ 52, 1, by rw [heq, Nat.log2_two_pow], by norm_num [heq], by decide,
        by norm_num [heq]⟩
  refine ⟨q, j, by omega, ?_, hq⟩
  rw [roundWithAccuracy, shiftToTargetExponent_exact hlog he]
  simp only [roundedMantissa_shiftRight]
  simp only [shiftToTargetExponent_exact hlog' (by omega : -1074 ≤ e + k + j), shiftRight_mk, hqj]
  rw [dif_neg (by omega)]

/-- A number with 53 binary digits is packed in fields: its biased exponent, and its digits without
the first. -/
theorem pack_normal (s : Sign) {m : Nat} {e : Int} (hm : 0 < m) (hlog : m.log2 = 52)
    (he : -1074 ≤ e ∧ e ≤ 971) :
    UnpackedFloat.pack .binary64 (.finite s m e hm) =
      packComponents .binary64 s (BitVec.ofNat 11 (e + 1075).toNat) (BitVec.ofNat 52 m) := by
  have hbias : (e + Format.binary64.exponentBias +
      Format.binary64.mantissaBitsWithoutImplicit).toNat = (e + 1075).toNat := by
    simp only [Format.exponentBias]
    norm_num
    omega
  rw [UnpackedFloat.pack]
  simp only [hlog, hbias]
  rw [if_neg (by norm_num; omega), if_pos (by rfl)]

/-- A number with 53 binary digits is packed and unpacked without loss. -/
theorem unpack_pack (s : Sign) {m : Nat} {e : Int} (hm : 0 < m) (hlow : 2 ^ 52 ≤ m)
    (hhigh : m < 2 ^ 53) (he : -1074 ≤ e ∧ e ≤ 971) :
    (Float.Model.pack (.finite s m e hm)).unpack = .finite s m e hm := by
  have hlog : m.log2 = 52 := (Nat.log2_eq_iff (by omega)).mpr ⟨hlow, hhigh⟩
  have hexponent : (BitVec.ofNat 11 (e + 1075).toNat).toNat = (e + 1075).toNat := by
    rw [BitVec.toNat_ofNat, Nat.mod_eq_of_lt (by omega)]
  have hmantissa : (1#1 ++ BitVec.ofNat 52 m).toNat = m := by
    rw [BitVec.toNat_append, ← Nat.shiftLeft_add_eq_or_of_lt (BitVec.ofNat 52 m).isLt,
      BitVec.toNat_ofNat, Nat.shiftLeft_eq]
    norm_num
    omega
  -- The biased exponent is neither of those that are kept for zeros and infinities.
  have hne (v : BitVec 11) (h : v.toNat = 0 ∨ v.toNat = 2047) :
      BitVec.ofNat 11 (e + 1075).toNat ≠ v := by
    rintro rfl
    omega
  show UnpackedFloat.unpack .binary64 (UnpackedFloat.pack .binary64 (.finite s m e hm)) = _
  rw [pack_normal s hm hlog he, UnpackedFloat.unpack]
  simp only [unpackMantissa_packComponents, unpackExponent_packComponents,
    unpackSign_packComponents, Sign.ofBitVec_toBitVec]
  rw [if_neg (hne _ (.inr (by decide))), if_neg (hne _ (.inl (by decide)))]
  simp only [hmantissa, hexponent, Format.exponentBias]
  norm_num
  omega

/-- The packed number has its biased exponent before its digits without the first. -/
theorem toNat_toBits_pack {m : Nat} {e : Int} (hm : 0 < m) (hlow : 2 ^ 52 ≤ m)
    (hhigh : m < 2 ^ 53) (he : -1074 ≤ e ∧ e ≤ 971) :
    (Float.Model.pack (.finite .positive m e hm)).toBits.toNat =
      (e + 1075).toNat * 2 ^ 52 + (m - 2 ^ 52) := by
  have hlog : m.log2 = 52 := (Nat.log2_eq_iff (by omega)).mpr ⟨hlow, hhigh⟩
  show (UnpackedFloat.pack .binary64 (.finite .positive m e hm)).toNat = _
  rw [pack_normal .positive hm hlog he, packComponents]
  simp only [BitVec.toNat_append, BitVec.toNat_ofNat, Sign.toBitVec]
  rw [← Nat.shiftLeft_add_eq_or_of_lt (Nat.mod_lt _ (by decide)),
    ← Nat.shiftLeft_add_eq_or_of_lt (Nat.mod_lt _ (by decide)), Nat.shiftLeft_eq]
  norm_num
  omega

/-! ## Whole numbers -/

def signed : Sign → Nat → Int
  | .positive, n => n
  | .negative, n => -n

/-- The whole numbers among the doubles in their parts: zero, and the numbers whose 53 binary digits
reach to the point or beyond it. -/
inductive Denotes : UnpackedFloat → Int → Prop
  | zero (s : Sign) : Denotes (.zero s) 0
  | finite (s : Sign) {m n k : Nat} (hm : 0 < m) (hdigits : 2 ^ 52 ≤ m ∧ m < 2 ^ 53)
      (hn : n * 2 ^ 52 = m * 2 ^ k) (hrange : n < 2 ^ 128) :
      Denotes (.finite s m (k - 52) hm) (signed s n)

theorem places_lt {m n k : Nat} (hm : 2 ^ 52 ≤ m) (hn : n * 2 ^ 52 = m * 2 ^ k)
    (hrange : n < 2 ^ 128) : k < 128 := by
  have hle : 2 ^ k * 2 ^ 52 ≤ n * 2 ^ 52 := by
    rw [hn, Nat.mul_comm m]
    exact Nat.mul_le_mul_left _ hm
  exact (Nat.pow_lt_pow_iff_right (by decide : 1 < 2)).mp
    ((Nat.le_of_mul_le_mul_right hle (by decide)).trans_lt hrange)

theorem Denotes.unpack_pack {u : UnpackedFloat} {a : Int} (h : Denotes u a) :
    (Float.Model.pack u).unpack = u := by
  cases h with
  | zero s => cases s <;> rfl
  | @finite s m n k hm hdigits hn hrange =>
    have hk := places_lt hdigits.1 hn hrange
    exact Double.unpack_pack s hm hdigits.1 hdigits.2 (by omega)

theorem Denotes.neg {u : UnpackedFloat} {a : Int} (h : Denotes u a) : Denotes u.neg (-a) := by
  cases h with
  | zero s => exact .zero _
  | @finite s m n k hm hdigits hn hrange =>
    have hsigned : -signed s n = signed (-s) n := by cases s <;> simp [signed]
    rw [hsigned]
    exact .finite (-s) hm hdigits hn hrange


theorem compare_congr {α β : Type*} [LinearOrder α] [LinearOrder β] {a b : α} {c d : β}
    (hlt : a < b ↔ c < d) (hgt : b < a ↔ d < c) : compare a b = compare c d := by
  rcases lt_trichotomy a b with h | rfl | h
  · rw [compare_lt_iff_lt.mpr h, compare_lt_iff_lt.mpr (hlt.mp h)]
  · have heq : c = d := le_antisymm (not_lt.mp (hgt.not.mp (lt_irrefl a)))
      (not_lt.mp (hlt.not.mp (lt_irrefl a)))
    rw [compare_eq_iff_eq.mpr rfl, compare_eq_iff_eq.mpr heq]
  · rw [compare_gt_iff_gt.mpr h, compare_gt_iff_gt.mpr (hgt.mp h)]

theorem compare_mul_right {a b c : Nat} (hc : 0 < c) : compare (a * c) (b * c) = compare a b :=
  compare_congr (Nat.mul_lt_mul_right hc) (Nat.mul_lt_mul_right hc)

/-- Of two numbers with 53 binary digits the one with more places is the greater, and of two with
the same places the one with the greater digits. -/
theorem compare_digits {m m' k k' : Nat} (hm : 2 ^ 52 ≤ m ∧ m < 2 ^ 53)
    (hm' : 2 ^ 52 ≤ m' ∧ m' < 2 ^ 53) :
    (compare ((k : Int) - 52) (k' - 52)).then (compare m m') =
      compare (m * 2 ^ k) (m' * 2 ^ k') := by
  have hplaces {m m' k k' : Nat} (hm : m < 2 ^ 53) (hm' : 2 ^ 52 ≤ m') (h : k < k') :
      m * 2 ^ k < m' * 2 ^ k' := by
    calc m * 2 ^ k < 2 ^ 53 * 2 ^ k := Nat.mul_lt_mul_of_pos_right hm (Nat.two_pow_pos k)
      _ = 2 ^ 52 * 2 ^ (k + 1) := by rw [← Nat.pow_add, ← Nat.pow_add]; congr 1; omega
      _ ≤ m' * 2 ^ k' := Nat.mul_le_mul hm' (Nat.pow_le_pow_right (by decide) h)
  rcases lt_trichotomy k k' with h | rfl | h
  · rw [compare_lt_iff_lt.mpr (by omega), compare_lt_iff_lt.mpr (hplaces hm.2 hm'.1 h)]
    rfl
  · rw [compare_mul_right (Nat.two_pow_pos k), compare_eq_iff_eq.mpr rfl, Ordering.eq_then]
  · rw [compare_gt_iff_gt.mpr (by omega), compare_gt_iff_gt.mpr (hplaces hm'.2 hm.1 h)]
    rfl

/-- Doubles that are whole numbers compare as these. -/
theorem Denotes.compare {u v : UnpackedFloat} {a b : Int} (hu : Denotes u a) (hv : Denotes v b) :
    u.compare v = some (compare a b) := by
  have hpositive {m n k : Nat} (hm : 0 < m) (hn : n * 2 ^ 52 = m * 2 ^ k) : 0 < n := by
    have := Nat.mul_pos hm (Nat.two_pow_pos k)
    omega
  cases hu with
  | zero s =>
    cases hv with
    | zero s' => rfl
    | @finite s' m' n' k' hm' hdigits' hn' hrange' =>
      have := hpositive hm' hn'
      cases s'
      · exact congrArg some (compare_gt_iff_gt.mpr (by simp only [signed]; omega)).symm
      · exact congrArg some (compare_lt_iff_lt.mpr (by simp only [signed]; omega)).symm
  | @finite s m n k hm hdigits hn hrange =>
    have := hpositive hm hn
    cases hv with
    | zero s' =>
      cases s
      · exact congrArg some (compare_lt_iff_lt.mpr (by simp only [signed]; omega)).symm
      · exact congrArg some (compare_gt_iff_gt.mpr (by simp only [signed]; omega)).symm
    | @finite s' m' n' k' hm' hdigits' hn' hrange' =>
      have := hpositive hm' hn'
      -- Both have 53 digits, so the exponents decide before the digits do.
      have hmagnitude : (Ord.compare ((k : Int) - 52) (k' - 52)).then (Ord.compare m m') =
          Ord.compare n n' := by
        rw [compare_digits hdigits hdigits', ← hn, ← hn', compare_mul_right (by decide)]
      cases s <;> cases s'
      · show some ((Ord.compare _ _).then (Ord.compare _ _)).swap = _
        rw [hmagnitude, ← Std.OrientedCmp.eq_swap]
        exact congrArg some (compare_congr (by simp [signed]) (by simp [signed]))
      · exact congrArg some (compare_lt_iff_lt.mpr (by simp only [signed]; omega)).symm
      · exact congrArg some (compare_gt_iff_gt.mpr (by simp only [signed]; omega)).symm
      · show some ((Ord.compare _ _).then (Ord.compare _ _)) = _
        rw [hmagnitude]
        exact congrArg some (compare_congr (by simp [signed]) (by simp [signed]))

/-! ## The double of a whole number -/

/-- A number with at least 53 binary digits rounds to a whole number where the last digit that is
kept stands before the point. -/
theorem denotes_roundWithAccuracy (s : Sign) {m n k p : Nat} {e : Int} (hm : m ≠ 0)
    (hlog : m.log2 = 52 + k) (he : e + k = (p : Int) - 52)
    (hn : n * 2 ^ 52 = units m (2 ^ k) * 2 ^ p) (hrange : n < 2 ^ 128) :
    Denotes (roundWithAccuracy .binary64 s m e .exact) (signed s n) := by
  obtain ⟨q, j, hq, hround, hdigits, hunits⟩ :=
    exists_roundWithAccuracy s hm hlog (by omega : -1074 ≤ e + k)
  have hexponent : e + k + j = ((p + j : Nat) : Int) - 52 := by omega
  rw [hround, hexponent]
  exact .finite s hq hdigits (by rw [hn, ← hunits]; ring) hrange

/-- A whole number below `2^53` is scaled to 53 binary digits. -/
theorem denotes_round {n : Nat} (hn : n ≠ 0) (h : n < 2 ^ 53) :
    Denotes (UnpackedFloat.round .binary64 .positive n 0) n := by
  have hlog : n.log2 < 53 := (Nat.log2_lt hn).mpr h
  -- The number is shifted up to 53 digits, which changes nothing but the exponent.
  have hscale : decreaseExponent n 0 (Format.binary64.targetExponent (totalExponent n 0)) =
      (n * 2 ^ (52 - n.log2), (n.log2 : Int) - 52) := by
    have htarget :
        (0 - Format.binary64.targetExponent (totalExponent n 0)).toNat = 52 - n.log2 := by
      simp only [Format.targetExponent, totalExponent, Format.mantissaBits, Format.minExponent]
      norm_num
      omega
    rw [decreaseExponent, htarget, Nat.shiftLeft_eq]
    congr 1
    omega
  rw [UnpackedFloat.round, hscale]
  refine denotes_roundWithAccuracy .positive (k := 0) (p := n.log2)
    (Nat.mul_ne_zero hn (Nat.two_pow_pos _).ne') ?_ (by simp) ?_ ?_
  · rw [log2_mul_two_pow hn]
    omega
  · rw [Nat.pow_zero, units_one, Nat.mul_assoc, ← Nat.pow_add, Nat.sub_add_cancel (by omega)]
  · exact h.trans (Nat.pow_lt_pow_right (by decide) (by decide))

theorem Denotes.mul_one {u : UnpackedFloat} {a : Int} (h : Denotes u a) :
    Denotes (UnpackedFloat.mul .binary64 u (.finite .positive (2 ^ 52) (-52) (by decide))) a := by
  have hsign (s : Sign) : s * .positive = s := by cases s <;> rfl
  cases h with
  | zero s => exact .zero _
  | @finite s m n k hm hdigits hn hrange =>
    have hlog : m.log2 = 52 := (Nat.log2_eq_iff hm.ne').mpr hdigits
    rw [UnpackedFloat.mul, hsign]
    refine denotes_roundWithAccuracy s (k := 52) (p := k) (by omega) ?_ (by omega) ?_ hrange
    · rw [log2_mul_two_pow hm.ne', hlog]
    · rw [units_mul (by decide), hn]

theorem one_eq : Float.ofBits 0x3FF0000000000000 = .ofModel (Float.Model.pack
    (.finite .positive (2 ^ 52) (-52) (by decide))) := by
  have hunpack : UnpackedFloat.unpack .binary64 0x3FF0000000000000#64 =
      .finite .positive (2 ^ 52) (-52) (by decide) := by
    rfl
  exact congrArg (fun u => Float.ofModel (Float.Model.pack u)) hunpack

theorem toUInt64_toFloat {n : Nat} (h : n < 2 ^ 53) :
    ∃ u, n.toUInt64.toFloat = .ofModel (Float.Model.pack u) ∧ Denotes u n := by
  have hword : n.toUInt64.toNat = n := by
    simp only [Nat.toUInt64, UInt64.toNat_ofNat']
    omega
  have hmodel : n.toUInt64.toFloat =
      .ofModel (Float.Model.pack (normalize .binary64 (n : Int) 0 .positive)) := by
    show Float.ofModel
      (Float.Model.pack (normalize .binary64 (n.toUInt64.toNat : Int) 0 .positive)) = _
    rw [hword]
  refine ⟨_, hmodel, ?_⟩
  rcases Nat.eq_zero_or_pos n with rfl | hn
  · exact .zero _
  · rw [UnpackedFloat.normalize, compare_gt_iff_gt.mpr (by omega)]
    exact denotes_round hn.ne' h

/-- The double of a whole number. -/
theorem exists_ofNat {n : Nat} (h : n < 2 ^ 64) :
    ∃ u, Float.ofNat n = .ofModel (Float.Model.pack u) ∧ Denotes u (nearest n) := by
  -- Small numbers take the fast path of an exact product with one; others are rounded.
  by_cases hsmall : n < 2 ^ 53
  · obtain ⟨u, hu, hdenotes⟩ := toUInt64_toFloat hsmall
    have hfast : Float.ofNat n = n.toUInt64.toFloat * Float.ofBits 0x3FF0000000000000 := by
      show Float.ofScientific n false 0 = _
      rw [Float.ofScientific, dif_pos ⟨hsmall, by decide⟩]
      rfl
    have hmul : Float.ofNat n = .ofModel (Float.Model.pack (UnpackedFloat.mul .binary64 u
        (.finite .positive (2 ^ 52) (-52) (by decide)))) := by
      rw [hfast, hu, one_eq]
      show Float.ofModel (Float.Model.pack (UnpackedFloat.mul .binary64 (Float.Model.pack u).unpack
        (Float.Model.pack (.finite .positive (2 ^ 52) (-52) _)).unpack)) = _
      rw [hdenotes.unpack_pack, Double.unpack_pack .positive _ le_rfl (by decide) (by decide)]
    rw [nearest_of_lt hsmall]
    exact ⟨_, hmul, hdenotes.mul_one⟩
  · have hn : n ≠ 0 := by omega
    have hslow : Float.ofNat n = .ofModel (Float.Model.pack
        (roundWithAccuracy .binary64 .positive (n <<< 53 * 1) (-53) .exact)) := by
      show Float.ofScientific n false 0 = _
      rw [Float.ofScientific, dif_neg (fun h => hsmall h.1)]
      show Float.ofModel (Float.Model.pack (UnpackedFloat.ofScientific .binary64 n 0)) = _
      rw [UnpackedFloat.ofScientific, dif_neg hn, if_neg (by decide), if_neg (by norm_num),
        if_pos le_rfl]
      rfl
    obtain ⟨k, hk⟩ := Nat.exists_eq_add_of_le ((Nat.le_log2 hn).mpr (by omega : 2 ^ 52 ≤ n))
    have hspacing : spacing n = 2 ^ k := by rw [spacing, hk, Nat.add_sub_cancel_left]
    refine ⟨_, hslow, ?_⟩
    rw [Nat.mul_one, Nat.shiftLeft_eq]
    refine denotes_roundWithAccuracy .positive (k := k + 53) (p := n.log2)
      (Nat.mul_ne_zero hn (by decide)) ?_ (by omega) ?_ ?_
    · rw [log2_mul_two_pow hn, hk, Nat.add_assoc]
    · rw [Nat.pow_add 2 k 53, units_scale (by decide), nearest, hspacing, hk]
      ring
    · calc nearest n ≤ 2 ^ (n.log2 + 1) := (nearest_bounds hn).2
        _ ≤ 2 ^ 64 := Nat.pow_le_pow_right (by decide) ((Nat.log2_lt hn).mpr h)
        _ < 2 ^ 128 := by decide


theorem exists_ofInt {a : Int} (h : a.natAbs < 2 ^ 64) :
    ∃ u, Float.ofInt a = .ofModel (Float.Model.pack u) ∧ Denotes u (nearestInt a) := by
  cases a with
  | ofNat n =>
    obtain ⟨u, hu, hdenotes⟩ := exists_ofNat (n := n) h
    exact ⟨u, hu, (nearestInt_natCast n).symm ▸ hdenotes⟩
  | negSucc n =>
    obtain ⟨u, hu, hdenotes⟩ := exists_ofNat (n := n + 1) h
    refine ⟨u.neg, ?_, ?_⟩
    · show (Float.ofNat (n + 1)).neg = _
      rw [hu]
      show Float.ofModel (Float.Model.pack (Float.Model.pack u).unpack.neg) = _
      rw [hdenotes.unpack_pack]
    · rw [Int.negSucc_eq, nearestInt_neg]
      exact_mod_cast (nearestInt_natCast (n + 1)).symm ▸ hdenotes.neg

/-- **Whole numbers compare as the doubles next to them.** -/
theorem compare_ofInt {a b : Int} (ha : a.natAbs < 2 ^ 64) (hb : b.natAbs < 2 ^ 64) :
    (Float.ofInt a).toModel.compare (Float.ofInt b).toModel =
      some (compare (nearestInt a) (nearestInt b)) := by
  obtain ⟨u, hu, hua⟩ := exists_ofInt ha
  obtain ⟨v, hv, hvb⟩ := exists_ofInt hb
  rw [hu, hv]
  show (Float.Model.pack u).unpack.compare (Float.Model.pack v).unpack = _
  rw [hua.unpack_pack, hvb.unpack_pack, hua.compare hvb]

end GeoFacet.Double
