import GeoFacet.Decimal.Read
import GeoFacet.Proofs.Double.WholeNumber
import GeoFacet.Proofs.Text.WholeNumber

/-!
# Whole numbers are written with their digits

Below `2^53` a double has each whole number for a value of its own: no other one lies in the
interval that rounds to it. So a grid of tens and more has a decimal of the interval only if the
number is on that grid itself, and the decimal that is found, its zeros written out, has the digits
of the number.

Main statement: `plainText_ofNat`.
-/

namespace GeoFacet

theorem digitsOf_mul_ten_pow {n : Nat} (hn : 0 < n) (k : Nat) :
    digitsOf (n * 10 ^ k) = digitsOf n ++ List.replicate k '0' := by
  induction k with
  | zero => simp
  | succ k ih =>
    have happend := Nat.toDigits_append_toDigits (b := 10) (n := n * 10 ^ k) (d := 0) (by decide)
      (Nat.mul_pos hn (Nat.pow_pos (by decide))) (by decide)
    rw [List.replicate_succ', ← List.append_assoc, ← ih, Nat.pow_succ, ← Nat.mul_assoc,
      Nat.mul_comm _ 10]
    exact happend.symm

namespace RoundingInterval

/-- The interval reaches from a whole number by no more than half of one to either side. It is in
units of which there are `2^j` to one, and its digits are those of a double. -/
structure Around (r : RoundingInterval) (n j : Nat) : Prop where
  exponent : r.exponent = -(j : Int)
  places : 2 ≤ j
  value : r.value = n * 2 ^ j
  low : r.low < r.value ∧ r.value ≤ r.low + 2
  high : r.value < r.high ∧ r.high ≤ r.value + 2
  digits : r.high < 2 ^ 55

variable {r : RoundingInterval} {n j : Nat}

theorem scaled_natCast (a g b j : Nat) : scaled a g b (-(j : Int)) = (a * 10 ^ g * 2 ^ j, b) := by
  simp [scaled]

/-- Of the whole numbers the interval holds the one it is around. -/
theorem Around.holds_iff (h : r.Around n j) (a g : Nat) :
    r.holds ⟨a, g⟩ = true ↔ a * 10 ^ g = n := by
  rw [holds, h.exponent]
  simp only [scaled_natCast]
  have hunit : 2 ^ 2 ≤ 2 ^ j := Nat.pow_le_pow_right (by decide) h.places
  have hvalue := h.value
  obtain ⟨hlow, hlow'⟩ := h.low
  obtain ⟨hhigh, hhigh'⟩ := h.high
  constructor
  · intro hholds
    have hbounds : r.low ≤ a * 10 ^ g * 2 ^ j ∧ a * 10 ^ g * 2 ^ j ≤ r.high := by
      split at hholds <;> simp only [Bool.and_eq_true, decide_eq_true_eq] at hholds <;> omega
    -- The next multiples of `2 ^ j` on either side lie outside of the interval.
    rcases Nat.lt_trichotomy (a * 10 ^ g) n with hless | heq | hmore
    · have := Nat.mul_le_mul_right (2 ^ j) (Nat.succ_le_of_lt hless)
      rw [Nat.succ_mul] at this
      omega
    · exact heq
    · have := Nat.mul_le_mul_right (2 ^ j) (Nat.succ_le_of_lt hmore)
      rw [Nat.succ_mul] at this
      omega
  · intro heq
    rw [heq]
    split <;> simp only [Bool.and_eq_true, decide_eq_true_eq] <;> omega

/-- A grid has a decimal of the interval if the number is on it. -/
theorem Around.onGrid_eq (h : r.Around n j) (hn : 0 < n) (tie : Tie) (g : Nat) :
    r.onGrid tie g = if 10 ^ g ∣ n then some ⟨n / 10 ^ g, g⟩ else none := by
  have hfloor : n * 2 ^ j / (1 * 10 ^ g * 2 ^ j) = n / 10 ^ g := by
    rw [Nat.one_mul, Nat.mul_div_mul_right _ _ (Nat.two_pow_pos j)]
  have habove : r.holds ⟨n / 10 ^ g + 1, g⟩ = false := by
    rw [← Bool.not_eq_true, h.holds_iff, Nat.mul_comm]
    exact (Nat.lt_mul_div_succ n (Nat.pow_pos (by decide))).ne'
  rw [onGrid, h.exponent, h.value]
  simp only [scaled_natCast, hfloor, habove, Bool.and_false, Bool.false_eq_true, if_false]
  by_cases hdvd : 10 ^ g ∣ n
  · have hne : n / 10 ^ g ≠ 0 := (Nat.div_pos (Nat.le_of_dvd hn hdvd) (Nat.pow_pos (by decide))).ne'
    have hbelow := (h.holds_iff (n / 10 ^ g) g).mpr (Nat.div_mul_cancel hdvd)
    simp [hdvd, hne, hbelow]
  · have hbelow : r.holds ⟨n / 10 ^ g, g⟩ = false := by
      rw [← Bool.not_eq_true, h.holds_iff]
      exact fun heq => hdvd ⟨_, heq.symm.trans (Nat.mul_comm _ _)⟩
    simp [hdvd, hbelow]

/-- Going down from a grid of tens, the search ends at one that the number is on, the units at the
latest. -/
theorem Around.exists_search (h : r.Around n j) (hn : 0 < n) (tie : Tie) :
    ∀ {steps g : Nat}, g < steps →
      ∃ i : Nat, 10 ^ i ∣ n ∧ r.search tie steps g = ⟨n / 10 ^ i, i⟩ := by
  intro steps
  induction steps with
  | zero => exact fun hg => absurd hg (Nat.not_lt_zero _)
  | succ steps ih =>
    intro g hg
    rw [search, h.onGrid_eq hn]
    by_cases hdvd : 10 ^ g ∣ n
    · rw [if_pos hdvd]
      exact ⟨g, hdvd, rfl⟩
    · rw [if_neg hdvd]
      cases g with
      | zero => exact absurd (Nat.one_dvd n) hdvd
      | succ g =>
        rw [Option.getD_none, Nat.cast_succ, Int.add_sub_cancel]
        exact ih (Nat.lt_of_succ_lt_succ hg)

theorem Around.exists_shortest (h : r.Around n j) (hn : 0 < n) (tie : Tie) :
    ∃ i : Nat, 10 ^ i ∣ n ∧ r.shortest tie = ⟨n / 10 ^ i, i⟩ := by
  have hhigh : 0 < r.high := Nat.zero_lt_of_lt h.high.1
  have hvalue : 2 ^ j ≤ r.value := by
    rw [h.value]
    exact Nat.le_mul_of_pos_left _ hn
  have hlow : j ≤ r.high.log2 :=
    (Nat.le_log2 hhigh.ne').mpr (hvalue.trans h.high.1.le)
  have htop : r.high.log2 < 55 := (Nat.log2_lt hhigh.ne').mpr h.digits
  obtain ⟨g, hg⟩ := Int.eq_ofNat_of_zero_le (show
    0 ≤ ((r.high.log2 : Int) + r.exponent) * 30103 / 100000 + 3 by rw [h.exponent]; omega)
  have hlt : g < 32 := by
    rw [h.exponent] at hg
    have := h.places
    omega
  rw [shortest, if_neg (by have := Nat.two_pow_pos j; omega), hg]
  exact h.exists_search hn tie hlt

end RoundingInterval

/-- The decimal of a number on a grid is written with the digits of the number. -/
theorem Decimal.positional_whole {n i : Nat} (hn : 0 < n) (hdvd : 10 ^ i ∣ n) :
    Decimal.positional ⟨n / 10 ^ i, i⟩ = digitsOf n := by
  obtain ⟨m, rfl⟩ := hdvd
  have hm : 0 < m := Nat.pos_of_mul_pos_left hn
  rw [Nat.mul_div_cancel_left _ (Nat.pow_pos (by decide)), Decimal.positional,
    if_pos (Int.natCast_nonneg i), Nat.mul_comm, digitsOf_mul_ten_pow hm]
  rfl

/-! ## Doubles -/

open Double

/-- The 53 binary digits of a whole number, without a fraction of it. -/
theorem exists_ofNat_eq {n : Nat} (hn : 0 < n) (h : n < 2 ^ 53) :
    ∃ (m k : Nat) (hm : 0 < m), (2 ^ 52 ≤ m ∧ m < 2 ^ 53) ∧ k ≤ 52 ∧ n * 2 ^ 52 = m * 2 ^ k ∧
      Float.ofNat n = .ofModel (Float.Model.pack (.finite .positive m (k - 52) hm)) := by
  obtain ⟨u, hu, hdenotes⟩ := exists_ofNat (h.trans (by decide : 2 ^ 53 < 2 ^ 64))
  rw [nearest_of_lt h] at hdenotes
  generalize hvalue : (n : Int) = a at hdenotes
  cases hdenotes with
  | zero s => omega
  | @finite s m n' k hm hdigits hn' hrange =>
    obtain rfl : s = .positive := by
      cases s with
      | positive => rfl
      | negative =>
        rw [Double.signed] at hvalue
        omega
    obtain rfl : n = n' := Int.ofNat.inj hvalue
    have hk : 2 ^ k * 2 ^ 52 < 2 ^ 53 * 2 ^ 52 :=
      calc 2 ^ k * 2 ^ 52 ≤ m * 2 ^ k := by
            rw [Nat.mul_comm]
            exact Nat.mul_le_mul_right _ hdigits.1
        _ = n * 2 ^ 52 := hn'.symm
        _ < 2 ^ 53 * 2 ^ 52 := Nat.mul_lt_mul_of_pos_right h (by decide)
    exact ⟨m, k, hm, hdigits, Nat.lt_succ_iff.mp ((Nat.pow_lt_pow_iff_right (by decide : 1 < 2)).mp
      (Nat.lt_of_mul_lt_mul_right hk)), hn', hu⟩

theorem exists_unpack_ofNat {n : Nat} (hn : 0 < n) (h : n < 2 ^ 53) :
    ∃ m e hm, (Float.ofNat n).toModel.unpack = .finite .positive m e hm := by
  obtain ⟨m, k, hm, hdigits, hk, -, heq⟩ := exists_ofNat_eq hn h
  refine ⟨m, k - 52, hm, ?_⟩
  rw [heq]
  exact Double.unpack_pack .positive hm hdigits.1 hdigits.2 (by omega)

theorem isFinite_ofNat {n : Nat} (hn : 0 < n) (h : n < 2 ^ 53) :
    (Float.ofNat n).isFinite = true := by
  obtain ⟨m, e, hm, hunpack⟩ := exists_unpack_ofNat hn h
  show (Float.ofNat n).toModel.unpack.isFinite = true
  rw [hunpack]
  rfl

/-- The double of a whole number is in fields: its biased exponent, and its digits without the
first. -/
theorem exists_toBits_ofNat {n : Nat} (hn : 0 < n) (h : n < 2 ^ 53) :
    ∃ m k, 2 ^ 52 ≤ m ∧ m < 2 ^ 53 ∧ k ≤ 52 ∧ n * 2 ^ 52 = m * 2 ^ k ∧
      (Float.ofNat n).toBits.toNat = (k + 1023) * 2 ^ 52 + (m - 2 ^ 52) := by
  obtain ⟨m, k, hm, ⟨hlow, hhigh⟩, hk, hvalue, heq⟩ := exists_ofNat_eq hn h
  refine ⟨m, k, hlow, hhigh, hk, hvalue, ?_⟩
  rw [show k + 1023 = ((k : Int) - 52 + 1075).toNat by omega, heq]
  exact toNat_toBits_pack hm hlow hhigh (by omega)

theorem signBit_ofNat {n : Nat} (hn : 0 < n) (h : n < 2 ^ 53) :
    signBit (Float.ofNat n) = false := by
  obtain ⟨m, k, hlow, hhigh, hk, -, hbits⟩ := exists_toBits_ofNat hn h
  rw [signBit, hbits]
  exact Nat.testBit_lt_two_pow (by omega)

/-- The interval of the double of a whole number is around it. -/
theorem around_ofNat {n : Nat} (hn : 0 < n) (h : n < 2 ^ 53) :
    ∃ j, (RoundingInterval.ofFloat (Float.ofNat n)).Around n j := by
  obtain ⟨m, k, hlow, hhigh, hk, hvalue, hbits⟩ := exists_toBits_ofNat hn h
  -- The parts of the bit pattern are read back by division.
  have hbiased : ((k + 1023) * 2 ^ 52 + (m - 2 ^ 52)) / Nat.pow 2 52 % 2048 = k + 1023 := by
    rw [Nat.pow_eq]
    omega
  have hfraction : ((k + 1023) * 2 ^ 52 + (m - 2 ^ 52)) % Nat.pow 2 52 = m - 2 ^ 52 := by
    rw [Nat.pow_eq]
    omega
  have hmantissa : Nat.pow 2 52 + (m - 2 ^ 52) = m := by
    rw [Nat.pow_eq]
    omega
  have hunits : 4 * m = n * 2 ^ (54 - k) := by
    refine Nat.eq_of_mul_eq_mul_right (Nat.two_pow_pos k) ?_
    rw [Nat.mul_assoc n, ← Nat.pow_add, Nat.sub_add_cancel (by omega), Nat.mul_assoc, ← hvalue]
    omega
  refine ⟨54 - k, ?_⟩
  rw [RoundingInterval.ofFloat]
  simp only [hbits, RoundingInterval.fractionCount, hbiased, hfraction,
    if_neg (Nat.succ_ne_zero (k + 1022)), hmantissa]
  constructor
  · show ((k + 1023 : Nat) : Int) - 1077 = -((54 - k : Nat) : Int)
    omega
  · omega
  · exact hunits
  · dsimp only
    split <;> omega
  · dsimp only
    omega
  · dsimp only
    omega

/-- **A whole number is written with its digits.** -/
theorem plainText_ofNat {n : Nat} (hn : 0 < n) (h : n < 2 ^ 53) :
    plainText (Float.ofNat n) = toString n := by
  obtain ⟨m, e, hm, hunpack⟩ := exists_unpack_ofNat hn h
  obtain ⟨j, haround⟩ := around_ofNat hn h
  obtain ⟨i, hdvd, hshortest⟩ := haround.exists_shortest hn .up
  have hnan : (Float.ofNat n).isNaN = false := by
    show (Float.ofNat n).toModel.unpack.isNaN = false
    rw [hunpack]
    rfl
  have hinf : (Float.ofNat n).isInf = false := by
    show (Float.ofNat n).toModel.unpack.isInf = false
    rw [hunpack]
    rfl
  rw [plainText, hnan, hinf, if_neg Bool.false_ne_true, if_neg Bool.false_ne_true]
  show String.ofList (if signBit (Float.ofNat n) = true then _ else
    (shortestDecimal .up (Float.ofNat n)).positional) = _
  rw [signBit_ofNat hn h, if_neg Bool.false_ne_true, shortestDecimal, hshortest,
    Decimal.positional_whole hn hdvd]
  rfl

/-! ## Reading back -/

theorem takeWhile_isDigit_toDigits (n : Nat) :
    (Nat.toDigits 10 n).takeWhile Char.isDigit = Nat.toDigits 10 n :=
  List.takeWhile_eq_self_iff.mpr fun _ => Nat.isDigit_of_mem_toDigits (by decide) (by decide)

theorem dropWhile_isDigit_toDigits (n : Nat) : (Nat.toDigits 10 n).dropWhile Char.isDigit = [] :=
  List.dropWhile_eq_nil_iff.mpr fun _ => Nat.isDigit_of_mem_toDigits (by decide) (by decide)

theorem readDecimal?_toDigits (n : Nat) : readDecimal? (Nat.toDigits 10 n) = some ⟨n, 0⟩ := by
  rw [readDecimal?, takeWhile_isDigit_toDigits, dropWhile_isDigit_toDigits]
  simp only [List.append_nil, digitsValue?_toDigits]
  rfl

theorem toFloat_whole {n : Nat} (hn : 0 < n) (h : n < 2 ^ 53) :
    Decimal.toFloat ⟨n, 0⟩ = Float.ofNat n := by
  have hlength : (digitsOf n).length ≤ 16 :=
    Nat.toDigits_length 10 n 16 (by decide) (h.trans (by decide))
  have hsmall : ¬(n = 0 ∨ (0 : Int) + (digitsOf n).length < -330) := by omega
  have hlarge : ¬330 < (0 : Int) + (digitsOf n).length := by omega
  rw [Decimal.toFloat, if_neg hsmall, if_neg hlarge]
  rfl

theorem toLower_of_isDigit {c : Char} (h : c.isDigit = true) : c.toLower = c := by
  have hrange : c.toNat ≤ 57 := by
    simp only [Char.isDigit, Bool.and_eq_true, decide_eq_true_eq, UInt32.le_iff_toNat_le] at h
    exact h.2
  rw [Char.toLower, dif_neg]
  rintro ⟨hlow, -⟩
  have : 65 ≤ c.toNat := hlow
  omega

/-- A whole number is read from its digits. -/
theorem readFloat?_toString {n : Nat} (hn : 0 < n) (h : n < 2 ^ 53) :
    readFloat? (toString n) = some (Float.ofNat n) := by
  have hdigit : ∀ c ∈ Nat.toDigits 10 n, c.isDigit = true := fun _ =>
    Nat.isDigit_of_mem_toDigits (by decide) (by decide)
  have hlower : (Nat.toDigits 10 n).map Char.toLower = Nat.toDigits 10 n :=
    (List.map_congr_left fun c hc => toLower_of_isDigit (hdigit c hc)).trans (List.map_id _)
  -- the words for what is no number have letters
  have hword (word : String) (c : Char) (hc : c ∈ word.toList) (hletter : c.isDigit = false) :
      String.ofList (Nat.toDigits 10 n) ≠ word := by
    rintro rfl
    rw [String.toList_ofList] at hc
    rw [hdigit c hc] at hletter
    cases hletter
  have hdigits : (toString n).toList = Nat.toDigits 10 n := String.toList_ofList
  rw [readFloat?, hdigits, splitSign_of_isDigit hdigit]
  simp only [hlower, Bool.false_eq_true, if_false, Option.map_id']
  split
  · exact absurd ‹_› (hword "inf" 'i' (by decide) (by decide))
  · exact absurd ‹_› (hword "infinity" 'i' (by decide) (by decide))
  · exact absurd ‹_› (hword "nan" 'n' (by decide) (by decide))
  · rw [readDecimal?_toDigits, Option.map_some, toFloat_whole hn h]

theorem zero_lt_ofNat {n : Nat} (hn : 0 < n) (h : n < 2 ^ 53) : 0.0 < Float.ofNat n := by
  obtain ⟨m, e, hm, hunpack⟩ := exists_unpack_ofNat hn h
  have hcompare : ((0.0 : Float).toModel.unpack.compare (Float.ofNat n).toModel.unpack ==
      some .lt) = true := by
    rw [hunpack]
    rfl
  exact decide_eq_true hcompare

end GeoFacet
