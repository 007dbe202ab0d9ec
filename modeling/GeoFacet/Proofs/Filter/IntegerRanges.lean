import GeoFacet.Proofs.Double.WholeNumber
import GeoFacet.Proofs.Filter.RangeGrammar
import GeoFacet.Proofs.Text.WholeNumber

/-!
# Ranges between whole numbers

Whole numbers are compared as doubles, so a range between two of them is accepted exactly if they
are next to different doubles (`parse_integers`). Up to `2^53` that is the order of the whole
numbers, and so it is for any two that are further apart than 1024; between neighbours of greater
size a lower bound below the upper one may be refused.
-/

namespace GeoFacet

open Double (nearestInt)

/-- A whole number that fits into 64 bits with its sign. -/
def IsInt64 (n : Int) : Prop := Int64.minValue.toInt ≤ n ∧ n ≤ Int64.maxValue.toInt

instance (n : Int) : Decidable (IsInt64 n) := inferInstanceAs (Decidable (_ ∧ _))

variable {a b : Int}

theorem IsInt64.natAbs_le (h : IsInt64 a) : a.natAbs ≤ 2 ^ 63 := by
  have hmin : Int64.minValue.toInt = -2 ^ 63 := rfl
  have hmax : Int64.maxValue.toInt = 2 ^ 63 - 1 := rfl
  rw [IsInt64, hmin, hmax] at h
  omega

namespace Scalar

theorem parse_toString (h : IsInt64 a) : parse (toString a) = .integer a := by
  have htrim := Text.trim_of_noSpace (Text.noSpace_toString_int a)
  simp only [parse, htrim, readInt64?_toString h]

theorem compareFloats_eq {x y : Float} {order : Ordering}
    (h : x.toModel.compare y.toModel = some order)
    (h' : y.toModel.compare x.toModel = some order.swap) : compareFloats x y = some order := by
  have hlt (x y : Float) : x < y ↔ (x.toModel.compare y.toModel == some .lt) = true :=
    decide_eq_true_iff
  have hbeq : (x == y) = (x.toModel.compare y.toModel == some .eq) := rfl
  rw [compareFloats, if_congr (hlt x y) rfl rfl, if_congr (hlt y x) rfl rfl, hbeq, h, h']
  cases order <;> rfl

/-- Whole numbers compare as the doubles next to them. -/
theorem compare_integer (ha : IsInt64 a) (hb : IsInt64 b) :
    (integer a).compare (integer b) = some (Ord.compare (nearestInt a) (nearestInt b)) := by
  have hrange {n : Int} (h : IsInt64 n) : n.natAbs < 2 ^ 64 := h.natAbs_le.trans_lt (by decide)
  refine compareFloats_eq (Double.compare_ofInt (hrange ha) (hrange hb)) ?_
  rw [Double.compare_ofInt (hrange hb) (hrange ha), ← Std.OrientedCmp.eq_swap]

end Scalar

namespace ValueRange

variable (minInclusive maxInclusive : Bool)

theorem notMem_toString {c : Char} (hdigit : c.isDigit = false) (hminus : c ≠ '-') (n : Int) :
    c ∉ (toString n).toList := by
  intro hc
  rcases isDigit_of_mem_toString_int hc with h | h
  · rw [hdigit] at h
    cases h
  · exact hminus h

theorem isBound_toString (ha : IsInt64 a) : IsBound (toString a) := by
  refine ⟨fun hempty => ?_, notMem_toString (by decide) (by decide) a⟩
  have hread := readInt64?_toString ha
  rw [hempty] at hread
  cases hread

/-- A range between two whole numbers is accepted exactly if the doubles next to them are in order,
and refused as empty otherwise. -/
theorem parse_itemText_toString (ha : IsInt64 a) (hb : IsInt64 b) :
    parse none (itemText minInclusive maxInclusive (toString a) (toString b)) =
      if nearestInt a < nearestInt b then
        .ok [⟨.integer a, .integer b, minInclusive, maxInclusive⟩]
      else refuse (.emptyRange (toString a) (toString b)) := by
  have hsplit : split? (itemText minInclusive maxInclusive (toString a) (toString b)) =
      some ⟨toString a, toString b, minInclusive, maxInclusive⟩ :=
    split?_eq_some.mpr ⟨rfl, isBound_toString ha, isBound_toString hb⟩
  have hcheck : check ⟨.integer a, .integer b, minInclusive, maxInclusive⟩ =
      if nearestInt a < nearestInt b then .ok ()
      else refuse (.emptyRange (toString a) (toString b)) := by
    rw [check, Scalar.compare_integer ha hb]
    rcases lt_trichotomy (nearestInt a) (nearestInt b) with h | h | h
    · rw [compare_lt_iff_lt.mpr h, if_pos h]
    · rw [compare_eq_iff_eq.mpr h, if_neg h.not_lt]
      rfl
    · rw [compare_gt_iff_gt.mpr h, if_neg (not_lt_of_gt h)]
      rfl
  rw [parse, items_itemText (Text.noComma_toString_int a) (Text.noComma_toString_int b),
    Outcome.mapM_cons, parseItem, hsplit]
  simp only [orRefuse, bound, Scalar.parse_toString ha, Scalar.parse_toString hb, Outcome.ok_bind,
    hcheck]
  split <;> rfl

/-- **A range between two whole numbers follows the order of the doubles next to them**, whatever
its brackets. Where it is accepted its lower bound is the lower one. It is accepted if the bounds are
in order and of size up to `2^53`, and if they are further apart than 1024. -/
theorem parse_integers (ha : IsInt64 a) (hb : IsInt64 b) :
    (∀ minInclusive maxInclusive,
      parse none (itemText minInclusive maxInclusive (toString a) (toString b)) =
        if nearestInt a < nearestInt b then
          .ok [⟨.integer a, .integer b, minInclusive, maxInclusive⟩]
        else refuse (.emptyRange (toString a) (toString b))) ∧
      (Scalar.integer a).compare (.integer b) = some (compare (nearestInt a) (nearestInt b)) ∧
      (nearestInt a < nearestInt b → a < b) ∧
      (a.natAbs ≤ 2 ^ 53 → b.natAbs ≤ 2 ^ 53 → (nearestInt a < nearestInt b ↔ a < b)) ∧
      (a + 1024 < b → nearestInt a < nearestInt b) := by
  refine ⟨fun l u => parse_itemText_toString l u ha hb, Scalar.compare_integer ha hb, ?_, ?_, ?_⟩
  · intro h
    -- Rounding to doubles keeps the order, though not strictly.
    by_contra hle
    exact absurd h (not_lt.mpr (Double.nearestInt_mono (not_lt.mp hle)))
  · intro hsmall hsmall'
    rw [Double.nearestInt_of_natAbs_le hsmall, Double.nearestInt_of_natAbs_le hsmall']
  · intro h
    -- Rounding moves each bound by at most half of that distance.
    have hnear := Double.nearestInt_near ha.natAbs_le
    have hnear' := Double.nearestInt_near hb.natAbs_le
    omega

/-- The whole number behind `2^53` is next to the double of `2^53`, so the range between the two is
refused; the range before it is accepted. -/
theorem parse_integers_neighbours :
    parse none "[9007199254740991<9007199254740992[" =
        .ok [⟨.integer 9007199254740991, .integer 9007199254740992, true, false⟩] ∧
      parse none "[9007199254740992<9007199254740993]" =
        refuse (.emptyRange "9007199254740992" "9007199254740993") ∧
      (Scalar.integer 9007199254740992).compare (.integer 9007199254740993) = some .eq := by
  obtain ⟨hbefore, -⟩ :=
    @parse_integers 9007199254740991 9007199254740992 (by decide) (by decide)
  obtain ⟨hbehind, hcompare, -⟩ :=
    @parse_integers 9007199254740992 9007199254740993 (by decide) (by decide)
  exact ⟨hbefore true false, hbehind true true, hcompare⟩

end ValueRange

end GeoFacet
