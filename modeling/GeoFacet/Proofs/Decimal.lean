import GeoFacet.Decimal.Layout

/-!
# The characters of a written double

A double is written as one of three words or with digits, a point and a sign: `plainText_cases`.
-/

namespace GeoFacet

/-- A character that a number is written with. -/
def IsNumeral (c : Char) : Prop := c.isDigit = true ∨ c = '.' ∨ c = '-'

instance (c : Char) : Decidable (IsNumeral c) := inferInstanceAs (Decidable (_ ∨ _))

theorem mem_positional {d : Decimal} {c : Char} (hc : c ∈ d.positional) :
    c.isDigit = true ∨ c = '.' := by
  have hdigits : ∀ c ∈ digitsOf d.significand, c.isDigit = true := fun c hc =>
    Nat.isDigit_of_mem_toDigits (by decide) (by decide) hc
  have hpadded : ∀ (n : Nat), ∀ c ∈ List.replicate n '0' ++ digitsOf d.significand,
      c.isDigit = true := by
    intro n c hc
    rcases List.mem_append.mp hc with hc | hc
    · rw [List.eq_of_mem_replicate hc]
      decide
    · exact hdigits c hc
  rw [Decimal.positional] at hc
  -- Without a point there are digits and zeros; with one the digits stand around it.
  split at hc
  · rcases List.mem_append.mp hc with hc | hc
    · exact .inl (hdigits c hc)
    · rw [List.eq_of_mem_replicate hc]
      exact .inl (by decide)
  · rcases List.mem_append.mp hc with hc | hc
    · exact .inl (hpadded _ c (List.mem_of_mem_take hc))
    · rcases List.mem_cons.mp hc with hc | hc
      · exact .inr hc
      · exact .inl (hpadded _ c (List.mem_of_mem_drop hc))

theorem positional_ne_nil (d : Decimal) : d.positional ≠ [] := by
  have hdigits : digitsOf d.significand ≠ [] := Nat.toDigits_ne_nil
  rw [Decimal.positional]
  split
  · exact fun h => hdigits (List.append_eq_nil_iff.mp h).1
  · exact fun h => List.cons_ne_nil _ _ (List.append_eq_nil_iff.mp h).2

/-- A double is written as a word for what is no number, or as a number. -/
theorem plainText_cases (x : Float) : plainText x ∈ ["NaN", "inf", "-inf"] ∨
    ∃ cs, plainText x = String.ofList cs ∧ cs ≠ [] ∧ ∀ c ∈ cs, IsNumeral c := by
  have hnumber : ∀ c ∈ (shortestDecimal .up x).positional, IsNumeral c :=
    fun c hc => (mem_positional hc).imp_right .inl
  have hsigned (cs : List Char) : (if signBit x then '-' :: cs else cs) = cs ∨
      (if signBit x then '-' :: cs else cs) = '-' :: cs := by
    by_cases hsign : signBit x = true <;> simp [hsign]
  rw [plainText]
  split
  · exact .inl (by decide)
  · split
    · refine .inl ?_
      show String.ofList (if signBit x then '-' :: "inf".toList else "inf".toList) ∈ _
      rcases hsigned "inf".toList with h | h <;> rw [h] <;> decide
    · refine .inr ⟨_, rfl, ?_⟩
      rcases hsigned (shortestDecimal .up x).positional with h | h <;> rw [h]
      · exact ⟨positional_ne_nil _, hnumber⟩
      · exact ⟨List.cons_ne_nil _ _, List.forall_mem_cons.mpr ⟨.inr (.inr rfl), hnumber⟩⟩

theorem plainText_ne_empty (x : Float) : plainText x ≠ "" := by
  rcases plainText_cases x with hword | ⟨cs, hcs, hne, -⟩
  · intro h
    rw [h] at hword
    exact absurd hword (by decide)
  · intro h
    rw [hcs, String.ofList_eq_empty_iff] at h
    exact hne h

/-- A character that no word and no number holds. -/
theorem notMem_plainText {c : Char} (hnumeral : ¬IsNumeral c) (hword : c ∉ "NaNinf".toList)
    (x : Float) : c ∉ (plainText x).toList := by
  have hminus : c ≠ '-' := fun h => hnumeral (.inr (.inr h))
  rcases plainText_cases x with hx | ⟨cs, hcs, -, hnumerals⟩
  · simp only [List.mem_cons, List.not_mem_nil, or_false] at hx
    rcases hx with hx | hx | hx <;> rw [hx] <;> simp_all
  · rw [hcs, String.toList_ofList]
    exact fun hc => hnumeral (hnumerals c hc)

end GeoFacet
