import GeoFacet.Decimal.Read
import GeoFacet.Text.Blank

/-!
# Whole numbers as text

A whole number is written with an optional minus sign and decimal digits, so its text holds neither
white space nor a comma, and it is read back. Main statements: `readInt64?_toString` and
`readNat?_toString`.
-/

namespace GeoFacet

theorem toList_toString_int (n : Int) :
    (toString n).toList =
      if n < 0 then '-' :: Nat.toDigits 10 n.natAbs else Nat.toDigits 10 n.natAbs := by
  have hrepr (m : Nat) : (Nat.repr m).toList = Nat.toDigits 10 m := String.toList_ofList
  cases n with
  | ofNat m =>
    simp only [Int.ofNat_eq_natCast, Int.not_lt.mpr (Int.natCast_nonneg m), if_false,
      Int.natAbs_natCast]
    exact hrepr m
  | negSucc m =>
    rw [if_pos (Int.negSucc_lt_zero m)]
    show ("-" ++ Nat.repr (m + 1)).toList = '-' :: Nat.toDigits 10 (m + 1)
    rw [String.toList_append, hrepr]
    rfl

theorem isDigit_of_mem_toString_int {n : Int} {c : Char} (h : c ∈ (toString n).toList) :
    c.isDigit = true ∨ c = '-' := by
  have hdigit : ∀ m, c ∈ Nat.toDigits 10 m → c.isDigit = true := fun m =>
    Nat.isDigit_of_mem_toDigits (by decide) (by decide)
  rw [toList_toString_int] at h
  split at h
  · rcases List.mem_cons.mp h with rfl | h
    · exact .inr rfl
    · exact .inl (hdigit _ h)
  · exact .inl (hdigit _ h)

theorem digitsValue?_toDigits (n : Nat) : digitsValue? (Nat.toDigits 10 n) = some n := by
  have hdigits : (Nat.toDigits 10 n).all Char.isDigit = true :=
    List.all_eq_true.mpr fun c => Nat.isDigit_of_mem_toDigits (by decide) (by decide)
  have hne : (Nat.toDigits 10 n).isEmpty = false :=
    List.isEmpty_eq_false_iff.mpr Nat.toDigits_ne_nil
  rw [digitsValue?, hdigits, hne]
  exact congrArg some (Nat.ofDigitChars_toDigits (by decide) (by decide))

theorem splitSign_of_isDigit {cs : List Char} (h : ∀ c ∈ cs, c.isDigit = true) :
    splitSign cs = (false, cs) := by
  unfold splitSign
  split
  · exact absurd (h '-' List.mem_cons_self) (by decide)
  · exact absurd (h '+' List.mem_cons_self) (by decide)
  · rfl

theorem splitSign_toString_int (n : Int) :
    splitSign (toString n).toList = (decide (n < 0), Nat.toDigits 10 n.natAbs) := by
  rw [toList_toString_int]
  by_cases hneg : n < 0
  · rw [if_pos hneg, decide_eq_true hneg]
    rfl
  · rw [if_neg hneg, decide_eq_false hneg]
    exact splitSign_of_isDigit fun c => Nat.isDigit_of_mem_toDigits (by decide) (by decide)

/-- A whole number of the signed 64-bit range is read back from its text. -/
theorem readInt64?_toString {n : Int}
    (hn : Int64.minValue.toInt ≤ n ∧ n ≤ Int64.maxValue.toInt) :
    readInt64? (toString n) = some n := by
  have hsigned : (if decide (n < 0) = true then -(n.natAbs : Int) else n.natAbs) = n := by
    simp only [decide_eq_true_eq]
    omega
  simp only [readInt64?, splitSign_toString_int, digitsValue?_toDigits, Option.bind_eq_bind,
    Option.bind_some, hsigned, if_pos hn]

theorem toList_toString_nat (n : Nat) : (toString n).toList = Nat.toDigits 10 n := by
  rw [Nat.toString_eq_ofList_toDigits, String.toList_ofList]

theorem isDigit_of_mem_toString_nat {n : Nat} {c : Char} (h : c ∈ (toString n).toList) :
    c.isDigit = true := by
  rw [toList_toString_nat] at h
  exact Nat.isDigit_of_mem_toDigits (by decide) (by decide) h

/-- A whole number from zero up is read back from its text, unless it is too great. -/
theorem readNat?_toString {max n : Nat} (h : n ≤ max) : readNat? max (toString n) = some n := by
  have hplus : ¬(Nat.toDigits 10 n).head? = some '+' := by
    intro hhead
    have hmem := List.mem_of_head? hhead
    rw [← toList_toString_nat] at hmem
    exact absurd (isDigit_of_mem_toString_nat hmem) (by decide)
  simp only [readNat?, toList_toString_nat, if_neg hplus, digitsValue?_toDigits,
    Option.bind_eq_bind, Option.bind_some, if_pos h]

namespace Text

theorem isSpace_of_isDigit {c : Char} (h : c.isDigit = true) : isSpace c = false := by
  have hrange : 48 ≤ c.toNat ∧ c.toNat ≤ 57 := by
    simpa [Char.isDigit, UInt32.le_iff_toNat_le] using h
  simp only [isSpace, Bool.or_eq_false_iff, Bool.and_eq_false_iff, decide_eq_false_iff_not]
  omega

theorem noSpace_toString_int (n : Int) : (toString n).toList.any isSpace = false := by
  rw [List.any_eq_false]
  intro c hc
  rcases isDigit_of_mem_toString_int hc with hdigit | rfl
  · simp [isSpace_of_isDigit hdigit]
  · decide

theorem noComma_toString_int (n : Int) : ',' ∉ (toString n).toList := by
  intro hc
  rcases isDigit_of_mem_toString_int hc with hdigit | hminus
  · exact absurd hdigit (by decide)
  · exact absurd hminus (by decide)

end Text

end GeoFacet
