import GeoFacet.Proofs.Double.Order

/-!
# Doubles that are dyadic fractions

A fraction `a / 2^j` with at most 53 binary digits in `a` is a double, and as long as they stay so
short such fractions are added and halved without rounding: the digits that rounding drops are
zeros (`Dyadic.round`). `Dyadic` says it of doubles in their parts, `IsDyadic` of doubles. With `j`
up to 1000 all of this happens far from the least exponent.

Main statements: `IsDyadic.add` and `IsDyadic.half`.
-/

namespace GeoFacet.Double

open Float.Model Float.Model.UnpackedFloat

/-! ## Digits -/

section

variable {m n p : Nat}

/-- How many digits a short fraction has. -/
theorem log2_of_mul_eq (hm : m ≠ 0) (h : n * 2 ^ 52 = m * 2 ^ p) (hn : n < 2 ^ 53) :
    n.log2 + 52 = m.log2 + p ∧ n.log2 ≤ 52 := by
  have hne : n ≠ 0 := by
    rintro rfl
    have := Nat.mul_pos (Nat.pos_of_ne_zero hm) (Nat.two_pow_pos p)
    omega
  have hlt := (Nat.log2_lt hne).mpr hn
  exact ⟨by rw [← log2_mul_two_pow hne, h, log2_mul_two_pow hm], by omega⟩

/-- Bringing a short fraction to 53 digits appends zeros, or drops them. -/
theorem units_of_mul_eq (hm : m ≠ 0) (h : n * 2 ^ 52 = m * 2 ^ p) (hn : n < 2 ^ 53) :
    units (m * 2 ^ (52 - m.log2)) (2 ^ (m.log2 - 52)) * 2 ^ n.log2 = n * 2 ^ 52 := by
  obtain ⟨hlog, hle⟩ := log2_of_mul_eq hm h hn
  -- Nothing is rounded: what is shifted out of `m` are zeros.
  obtain ⟨c, hc⟩ : 2 ^ (m.log2 - 52) ∣ m * 2 ^ (52 - m.log2) := by
    rcases Nat.le_total m.log2 52 with hle | hge
    · rw [Nat.sub_eq_zero_of_le hle]
      exact one_dvd _
    · rw [Nat.sub_eq_zero_of_le hge, Nat.pow_zero, Nat.mul_one]
      refine Nat.dvd_of_mul_dvd_mul_right (Nat.two_pow_pos p) ?_
      rw [← h, ← Nat.pow_add]
      exact (Nat.pow_dvd_pow 2 (by omega)).mul_left n
  have hunits : units (m * 2 ^ (52 - m.log2)) (2 ^ (m.log2 - 52)) = c := by
    rw [hc, Nat.mul_comm, units_mul (Nat.two_pow_pos _)]
  have hplaces : 52 - m.log2 + n.log2 = p + (m.log2 - 52) := by omega
  rw [hunits]
  refine Nat.eq_of_mul_eq_mul_left (Nat.two_pow_pos (m.log2 - 52)) ?_
  calc 2 ^ (m.log2 - 52) * (c * 2 ^ n.log2) = m * 2 ^ (52 - m.log2) * 2 ^ n.log2 := by
        rw [hc, Nat.mul_assoc]
    _ = m * 2 ^ (p + (m.log2 - 52)) := by rw [Nat.mul_assoc, ← Nat.pow_add, hplaces]
    _ = 2 ^ (m.log2 - 52) * (n * 2 ^ 52) := by
        rw [h, Nat.pow_add]
        ring

end

/-! ## Doubles in their parts -/

/-- The doubles in their parts that are `a / 2^j` for a whole number `a` of at most 53 binary
digits. -/
inductive Dyadic (j : Nat) : UnpackedFloat → Int → Prop
  | zero (s : Sign) : Dyadic j (.zero s) 0
  | finite (s : Sign) {m n k : Nat} {e : Int} (hm : 0 < m) (hdigits : 2 ^ 52 ≤ m ∧ m < 2 ^ 53)
      (he : e = k - 52 - j) (hn : n * 2 ^ 52 = m * 2 ^ k) (hrange : n < 2 ^ 53) :
      Dyadic j (.finite s m e hm) (signed s n)

theorem natAbs_signed (s : Sign) (n : Nat) : (signed s n).natAbs = n := by
  cases s <;> simp [signed]

theorem Denotes.dyadic {u : UnpackedFloat} {a : Int} (h : Denotes u a) (ha : a.natAbs < 2 ^ 53) :
    Dyadic 0 u a := by
  cases h with
  | zero s => exact .zero s
  | @finite s m n k hm hdigits hn hrange =>
    rw [natAbs_signed] at ha
    exact .finite s hm hdigits (by simp) hn ha

namespace Dyadic

variable {j : Nat} {u v : UnpackedFloat} {a b : Int}

theorem unpack_pack (h : Dyadic j u a) (hj : j ≤ 1000) : (Float.Model.pack u).unpack = u := by
  cases h with
  | zero s => cases s <;> rfl
  | @finite s m n k e hm hdigits he hn hrange =>
    have hk := places_lt hdigits.1 hn (hrange.trans (by decide))
    exact Double.unpack_pack s hm hdigits.1 hdigits.2 (by omega)

theorem isFinite (h : Dyadic j u a) : u.isFinite = true := by
  cases h <;> rfl

theorem partsValue_eq (h : Dyadic j u a) : partsValue u = a / 2 ^ j := by
  cases h with
  | zero s => simp [partsValue]
  | @finite s m n k e hm hdigits he hn hrange =>
    have hvalue : (m : ℚ) * 2 ^ e = n / 2 ^ j := by
      rw [he, zpow_sub₀ (by norm_num), zpow_sub₀ (by norm_num), zpow_natCast, zpow_natCast,
        ← mul_div_assoc, ← mul_div_assoc]
      congr 1
      rw [div_eq_iff (by norm_num)]
      exact_mod_cast hn.symm
    cases s
    · simp [partsValue, signed, hvalue, neg_div]
    · simp [partsValue, signed, hvalue]

/-- The same fraction with one more binary digit behind the point. -/
theorem raise (h : Dyadic j u a) (ha : (2 * a).natAbs < 2 ^ 53) : Dyadic (j + 1) u (2 * a) := by
  cases h with
  | zero s => exact .zero s
  | @finite s m n k e hm hdigits he hn hrange =>
    have hsigned : 2 * signed s n = signed s (2 * n) := by cases s <;> simp [signed]
    rw [hsigned] at ha ⊢
    rw [natAbs_signed] at ha
    refine .finite (k := k + 1) s hm hdigits (by push_cast; omega) ?_ ha
    rw [Nat.mul_assoc, hn, Nat.pow_succ]
    ring

theorem neg (h : Dyadic j u a) : Dyadic j u.neg (-a) := by
  cases h with
  | zero s => exact .zero _
  | @finite s m n k e hm hdigits he hn hrange =>
    have hsigned : -signed s n = signed (-s) n := by cases s <;> simp [signed]
    rw [hsigned]
    exact .finite (-s) hm hdigits he hn hrange

/-- Rounding drops zeros only. -/
theorem round (s : Sign) {m n p : Nat} {e : Int} (hm : m ≠ 0) (hj : j ≤ 1000)
    (he : e = p - 52 - j) (hn : n * 2 ^ 52 = m * 2 ^ p) (hrange : n < 2 ^ 53) :
    Dyadic j (UnpackedFloat.round .binary64 s m e) (signed s n) := by
  obtain ⟨hlog, hle⟩ := log2_of_mul_eq hm hn hrange
  -- The significand is brought to 53 digits first.
  have hscale : decreaseExponent m e (Format.binary64.targetExponent (totalExponent m e)) =
      (m * 2 ^ (52 - m.log2), e - (52 - m.log2 : Nat)) := by
    have htarget :
        (e - Format.binary64.targetExponent (totalExponent m e)).toNat = 52 - m.log2 := by
      simp only [Format.targetExponent, totalExponent, Format.mantissaBits, Format.minExponent]
      norm_num
      omega
    rw [decreaseExponent, htarget, Nat.shiftLeft_eq]
  obtain ⟨q, i, hq, hround, hdigits, hqi⟩ :=
    exists_roundWithAccuracy (m := m * 2 ^ (52 - m.log2)) (k := m.log2 - 52) s
      (Nat.mul_ne_zero hm (Nat.two_pow_pos _).ne') (by rw [log2_mul_two_pow hm]; omega)
      (by omega : -1074 ≤ e - (52 - m.log2 : Nat) + (m.log2 - 52 : Nat))
  rw [UnpackedFloat.round, hscale]
  dsimp only
  rw [hround]
  refine .finite (k := n.log2 + i) s hq hdigits (by omega) ?_ hrange
  rw [← units_of_mul_eq hm hn hrange, ← hqi, Nat.pow_add]
  ring

theorem normalize {M : Int} {p : Nat} {e : Int} (hj : j ≤ 1000) (he : e = p - 52 - j)
    (ha : a * 2 ^ 52 = M * 2 ^ p) (hrange : a.natAbs < 2 ^ 53) :
    Dyadic j (UnpackedFloat.normalize .binary64 M e .positive) a := by
  have habs : a.natAbs * 2 ^ 52 = M.natAbs * 2 ^ p := by
    simpa [Int.natAbs_mul, Int.natAbs_pow] using congrArg Int.natAbs ha
  have hpos : (0 : Int) < 2 ^ p := by positivity
  rw [UnpackedFloat.normalize]
  rcases lt_trichotomy M 0 with hM | rfl | hM
  · have hneg : a = signed .negative a.natAbs := by
      have := mul_neg_of_neg_of_pos hM hpos
      simp only [signed]
      omega
    rw [compare_lt_iff_lt.mpr hM, hneg]
    exact round .negative (by omega) hj he (by rw [habs]; congr 1; omega) hrange
  · have hzero : a = 0 := by omega
    rw [compare_eq_iff_eq.mpr rfl, hzero]
    exact .zero _
  · have hpositive : a = signed .positive a.natAbs := by
      have := mul_pos hM hpos
      simp only [signed]
      omega
    rw [compare_gt_iff_gt.mpr hM, hpositive]
    exact round .positive (by omega) hj he (by rw [habs]; congr 1; omega) hrange

theorem signed_mul {s : Sign} {m n k p : Nat} (hn : n * 2 ^ 52 = m * 2 ^ k) (hp : p ≤ k) :
    signed s n * 2 ^ 52 = s.apply (m * 2 ^ (k - p) : Nat) * 2 ^ p := by
  have hscaled : (n : Int) * 2 ^ 52 = (m * 2 ^ (k - p) : Nat) * 2 ^ p := by
    have hnat : n * 2 ^ 52 = m * 2 ^ (k - p) * 2 ^ p := by
      rw [Nat.mul_assoc, ← Nat.pow_add, Nat.sub_add_cancel hp, hn]
    exact_mod_cast hnat
  cases s
  · rw [signed, Sign.apply, Int.neg_mul, Int.neg_mul, hscaled]
  · exact hscaled

theorem decreaseExponent_eq {m k p : Nat} {e e' : Int} (he : e = k - 52 - j)
    (he' : e' = p - 52 - j) (hp : p ≤ k) : decreaseExponent m e e' = (m * 2 ^ (k - p), e') := by
  have hshift : (e - e').toNat = k - p := by omega
  rw [decreaseExponent, hshift, Nat.shiftLeft_eq]
  congr 1
  omega

/-- Short fractions are added exactly. -/
theorem add (hu : Dyadic j u a) (hv : Dyadic j v b) (hj : j ≤ 1000)
    (hrange : (a + b).natAbs < 2 ^ 53) : Dyadic j (UnpackedFloat.add .binary64 u v) (a + b) := by
  cases hu with
  | zero s =>
    rw [Int.zero_add]
    cases hv with
    | zero s' => cases s <;> cases s' <;> exact .zero _
    | finite s' hm' hdigits' he' hn' hrange' => exact .finite s' hm' hdigits' he' hn' hrange'
  | @finite s m n k e hm hdigits he hn hlt =>
    cases hv with
    | zero s' =>
      rw [Int.add_zero]
      exact .finite s hm hdigits he hn hlt
    | @finite s' m' n' k' e' hm' hdigits' he' hn' hlt' =>
      -- Both summands are written over the smaller exponent, where they are whole numbers.
      have hleast : min e e' = (min k k' : Nat) - 52 - j := by omega
      rw [UnpackedFloat.add, decreaseExponent_eq he hleast (Nat.min_le_left k k'),
        decreaseExponent_eq he' hleast (Nat.min_le_right k k')]
      refine normalize hj hleast ?_ hrange
      rw [Int.add_mul, Int.add_mul, signed_mul hn (Nat.min_le_left k k'),
        signed_mul hn' (Nat.min_le_right k k')]

/-- Half of a short fraction is computed exactly. -/
theorem half (h : Dyadic j u a) (hj : j < 1000) : Dyadic (j + 1)
    (UnpackedFloat.div .binary64 u (.finite .positive (2 ^ 52) (-51) (by decide))) a := by
  have hsign (s : Sign) : s / .positive = s := by cases s <;> rfl
  cases h with
  | zero s => exact .zero _
  | @finite s m n k e hm hdigits he hn hrange =>
    have hlog : m.log2 = 52 := (Nat.log2_eq_iff hm.ne').mpr hdigits
    have hk := places_lt hdigits.1 hn (hrange.trans (by decide))
    have htarget : min (e - -51) (Format.binary64.targetExponent
        (totalExponent m e - totalExponent (2 ^ 52) (-51))) = e - 2 := by
      simp only [Format.targetExponent, totalExponent, Format.mantissaBits, Format.minExponent,
        Nat.log2_two_pow]
      norm_num
      omega
    have hshift : (e - -51 - (e - 2)).toNat = 53 := by omega
    -- the quotient is taken with one digit more than is kept, and that digit is zero
    have hdiv : divCore .binary64 m e (2 ^ 52) (-51) = (m * 2, e - 2, .exact) := by
      have hquotient : m * 2 ^ 53 = m * 2 * 2 ^ 52 := by ring
      rw [divCore, htarget, hshift, Nat.shiftLeft_eq, hquotient,
        Nat.mul_div_cancel _ (by decide), Nat.mul_mod_left, accuracyOfFraction, if_pos rfl]
    obtain ⟨q, i, hq, hround, hdigits', hqi⟩ :=
      exists_roundWithAccuracy (m := m * 2) (k := 1) (e := e - 2) s (by omega)
        ((log2_mul_two_pow hm.ne' 1).trans (by omega)) (by push_cast; omega)
    have hunits : units (m * 2) (2 ^ 1) = m := units_mul (by decide) m
    rw [UnpackedFloat.div, hdiv, hsign]
    dsimp only
    rw [hround]
    refine .finite (k := k + i) s hq hdigits' (by push_cast; omega) ?_ hrange
    rw [hn, ← hunits, ← hqi, Nat.pow_add]
    ring

end Dyadic

/-! ## Doubles -/

/-- The double is `a / 2^j`. -/
def IsDyadic (j : Nat) (x : Float) (a : Int) : Prop := Dyadic j x.toModel.unpack a

variable {j : Nat} {x y : Float} {a b : Int}

theorem isDyadic_ofModel {u : UnpackedFloat} (h : Dyadic j u a) (hj : j ≤ 1000) :
    IsDyadic j (.ofModel (Float.Model.pack u)) a := by
  show Dyadic j (Float.Model.pack u).unpack a
  rwa [h.unpack_pack hj]

theorem isDyadic_ofNat {n : Nat} (h : n < 2 ^ 53) : IsDyadic 0 (Float.ofNat n) n := by
  obtain ⟨u, hu, hdenotes⟩ := exists_ofNat (n := n) (h.trans (by decide))
  rw [nearest_of_lt h] at hdenotes
  rw [hu]
  exact isDyadic_ofModel (hdenotes.dyadic (by omega)) (by decide)

namespace IsDyadic

theorem isFinite (h : IsDyadic j x a) : x.isFinite = true := Dyadic.isFinite h

theorem value_eq (h : IsDyadic j x a) : value x = a / 2 ^ j := Dyadic.partsValue_eq h

theorem neg (h : IsDyadic j x a) (hj : j ≤ 1000) : IsDyadic j (-x) (-a) :=
  isDyadic_ofModel (Dyadic.neg h) hj

theorem raise (h : IsDyadic j x a) (ha : (2 * a).natAbs < 2 ^ 53) :
    IsDyadic (j + 1) x (2 * a) :=
  Dyadic.raise h ha

/-- **Short fractions are added exactly.** -/
theorem add (h : IsDyadic j x a) (h' : IsDyadic j y b) (hj : j ≤ 1000)
    (hrange : (a + b).natAbs < 2 ^ 53) : IsDyadic j (x + y) (a + b) :=
  isDyadic_ofModel (Dyadic.add h h' hj hrange) hj

/-- **Half of a short fraction is computed exactly.** -/
theorem half (h : IsDyadic j x a) (hj : j < 1000) : IsDyadic (j + 1) (x / 2) a :=
  isDyadic_ofModel (Dyadic.half h hj) hj

end IsDyadic

end GeoFacet.Double
