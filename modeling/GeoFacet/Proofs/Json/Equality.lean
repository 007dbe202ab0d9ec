import GeoFacet.Json.Basic
import Mathlib

/-!
# Equal document values

Equality of document values compares doubles as numbers: the two zeros are equal, and a double that
is no number differs from itself. It is symmetric and transitive all the same (`beq_symm`,
`beq_trans`), and so is the equality of lists of values.
-/

namespace GeoFacet

/-! ## Doubles -/

section Doubles

open Float.Model

/-- Two unpacked doubles are equal if both are zeros, or if they are one and the same number. -/
theorem compare_eq_eq_iff {a b : UnpackedFloat} : (a.compare b == some .eq) = true ↔
    a.isNaN = false ∧ (a = b ∨ (∃ s, a = .zero s) ∧ ∃ s, b = .zero s) := by
  cases a with
  | notANumber => simp [UnpackedFloat.compare, UnpackedFloat.isNaN]
  | infinity s =>
    have hsign (s t : UnpackedFloat.Sign) : compare s t = .eq ↔ s = t := by
      cases s <;> cases t <;> exact ⟨fun h => (by cases h <;> rfl), fun h => (by cases h <;> rfl)⟩
    cases b with
    | infinity t => simp [UnpackedFloat.compare, UnpackedFloat.isNaN, hsign]
    | notANumber | zero t | finite t m e h =>
      cases s <;> simp [UnpackedFloat.compare, UnpackedFloat.isNaN]
  | zero s =>
    cases b with
    | finite t m e h => cases t <;> simp [UnpackedFloat.compare, UnpackedFloat.isNaN]
    | infinity t => cases t <;> simp [UnpackedFloat.compare, UnpackedFloat.isNaN]
    | notANumber | zero t => simp [UnpackedFloat.compare, UnpackedFloat.isNaN]
  | finite s m e h =>
    cases b with
    | finite t n f h' =>
      cases s <;> cases t <;>
        simp [UnpackedFloat.compare, UnpackedFloat.isNaN, Ordering.then_eq_eq, and_comm]
    | infinity t => cases s <;> cases t <;> simp [UnpackedFloat.compare, UnpackedFloat.isNaN]
    | notANumber | zero t => cases s <;> simp [UnpackedFloat.compare, UnpackedFloat.isNaN]

theorem float_beq_iff {x y : Float} : (x == y) = true ↔ x.isNaN = false ∧
    (x.toModel.unpack = y.toModel.unpack ∨
      (∃ s, x.toModel.unpack = .zero s) ∧ ∃ s, y.toModel.unpack = .zero s) :=
  compare_eq_eq_iff

theorem isNaN_congr {x y : Float} (h : x.toModel.unpack = y.toModel.unpack) :
    x.isNaN = y.isNaN := congrArg UnpackedFloat.isNaN h

theorem isNaN_of_zero {x : Float} (h : ∃ s, x.toModel.unpack = .zero s) : x.isNaN = false := by
  obtain ⟨s, hs⟩ := h
  exact congrArg UnpackedFloat.isNaN hs

theorem float_beq_symm {x y : Float} (h : (x == y) = true) : (y == x) = true := by
  rw [float_beq_iff] at h ⊢
  obtain ⟨hnumber, hsame | ⟨hx, hy⟩⟩ := h
  · exact ⟨isNaN_congr hsame ▸ hnumber, .inl hsame.symm⟩
  · exact ⟨isNaN_of_zero hy, .inr ⟨hy, hx⟩⟩

theorem float_beq_trans {x y z : Float} (hxy : (x == y) = true) (hyz : (y == z) = true) :
    (x == z) = true := by
  rw [float_beq_iff] at hxy hyz ⊢
  obtain ⟨hnumber, hxy⟩ := hxy
  refine ⟨hnumber, ?_⟩
  rcases hxy with hxy | ⟨hx, hy⟩
  · rw [hxy]
    exact hyz.2
  · rcases hyz.2 with hyz | ⟨-, hz⟩
    · exact .inr ⟨hx, hyz ▸ hy⟩
    · exact .inr ⟨hx, hz⟩

end Doubles

/-! ## Document values -/

namespace Json

mutual

theorem beq_symm : ∀ {a b : Json}, a.beq b = true → b.beq a = true
  | .null, .null, _ => rfl
  | .bool _, .bool _, h => BEq.symm h
  | .int _, .int _, h => BEq.symm h
  | .float _, .float _, h => float_beq_symm h
  | .text _, .text _, h => BEq.symm h
  | .list as, .list bs, h => @beqItems_symm as bs h
  | .object as, .object bs, h => @beqMembers_symm as bs h

theorem beqItems_symm : ∀ {as bs : List Json}, beqItems as bs = true → beqItems bs as = true
  | [], [], _ => rfl
  | a :: as, b :: bs, h => by
    rw [beqItems, Bool.and_eq_true] at h ⊢
    exact ⟨beq_symm h.1, beqItems_symm h.2⟩

theorem beqMembers_symm : ∀ {as bs : List (String × Json)},
    beqMembers as bs = true → beqMembers bs as = true
  | [], [], _ => rfl
  | (k, a) :: as, (l, b) :: bs, h => by
    rw [beqMembers, Bool.and_eq_true, Bool.and_eq_true] at h ⊢
    exact ⟨⟨BEq.symm h.1.1, beq_symm h.1.2⟩, beqMembers_symm h.2⟩

end

mutual

theorem beq_trans : ∀ {a b c : Json}, a.beq b = true → b.beq c = true → a.beq c = true
  | .null, .null, .null, _, _ => rfl
  | .bool _, .bool _, .bool _, h, h' => BEq.trans h h'
  | .int _, .int _, .int _, h, h' => BEq.trans h h'
  | .float _, .float _, .float _, h, h' => float_beq_trans h h'
  | .text _, .text _, .text _, h, h' => BEq.trans h h'
  | .list as, .list bs, .list cs, h, h' => @beqItems_trans as bs cs h h'
  | .object as, .object bs, .object cs, h, h' => @beqMembers_trans as bs cs h h'

theorem beqItems_trans : ∀ {as bs cs : List Json},
    beqItems as bs = true → beqItems bs cs = true → beqItems as cs = true
  | [], [], [], _, _ => rfl
  | a :: as, b :: bs, c :: cs, h, h' => by
    rw [beqItems, Bool.and_eq_true] at h h' ⊢
    exact ⟨beq_trans h.1 h'.1, beqItems_trans h.2 h'.2⟩

theorem beqMembers_trans : ∀ {as bs cs : List (String × Json)},
    beqMembers as bs = true → beqMembers bs cs = true → beqMembers as cs = true
  | [], [], [], _, _ => rfl
  | (k, a) :: as, (l, b) :: bs, (m, c) :: cs, h, h' => by
    rw [beqMembers, Bool.and_eq_true, Bool.and_eq_true] at h h' ⊢
    exact ⟨⟨BEq.trans h.1.1 h'.1.1, beq_trans h.1.2 h'.1.2⟩, beqMembers_trans h.2 h'.2⟩

end

instance : PartialEquivBEq Json := ⟨beq_symm, beq_trans⟩

end Json

/-! ## Lists of values -/

section Lists

variable {α : Type} [BEq α] [PartialEquivBEq α]

theorem list_beq_symm {as bs : List α} (h : (as == bs) = true) : (bs == as) = true := by
  induction as generalizing bs with
  | nil =>
    cases bs with
    | nil => rfl
    | cons b bs => cases h
  | cons a as ih =>
    cases bs with
    | nil => cases h
    | cons b bs =>
      rw [List.cons_beq_cons, Bool.and_eq_true] at h ⊢
      exact ⟨BEq.symm h.1, ih h.2⟩

theorem list_beq_trans {as bs cs : List α} (h : (as == bs) = true) (h' : (bs == cs) = true) :
    (as == cs) = true := by
  induction as generalizing bs cs with
  | nil =>
    cases bs with
    | nil => exact h'
    | cons b bs => cases h
  | cons a as ih =>
    cases bs with
    | nil => cases h
    | cons b bs =>
      cases cs with
      | nil => cases h'
      | cons c cs =>
        rw [List.cons_beq_cons, Bool.and_eq_true] at h h' ⊢
        exact ⟨BEq.trans h.1 h'.1, ih h.2 h'.2⟩

instance instPartialEquivBEqList : PartialEquivBEq (List α) := ⟨list_beq_symm, list_beq_trans⟩

omit [PartialEquivBEq α]

theorem append_beq_append {as bs : List α} (h : as.length = bs.length) (a b : α) :
    (as ++ [a] == bs ++ [b]) = ((as == bs) && (a == b)) := by
  induction as generalizing bs with
  | nil => simp [List.length_eq_zero_iff.mp h.symm]
  | cons x as ih =>
    cases bs with
    | nil => cases h
    | cons y bs =>
      rw [List.cons_append, List.cons_append, List.cons_beq_cons, List.cons_beq_cons,
        ih (Nat.succ.inj h), Bool.and_assoc]

/-- What equal lists begin with is equal. -/
theorem take_beq_take {as bs : List α} (h : (as == bs) = true) (n : Nat) :
    (as.take n == bs.take n) = true := by
  induction n generalizing as bs with
  | zero => rfl
  | succ n ih =>
    cases as with
    | nil =>
      cases bs with
      | nil => rfl
      | cons b bs => cases h
    | cons a as =>
      cases bs with
      | nil => cases h
      | cons b bs =>
        rw [List.cons_beq_cons, Bool.and_eq_true] at h
        simp [h.1, ih h.2]

end Lists

end GeoFacet
