import GeoFacet.Proofs.Filter.Conditions
import Mathlib.Data.List.Duplicate

/-!
# Groups that are given twice

Groups are compared double by double, and a double that is no number differs from itself. The
scalars of accepted conditions are finite, so a group is equal to itself unless a shape of it has a
coordinate that is no number, as the words of a well-known text may say. A filter keeps every other
group once (`Filter.isUnordered_of_duplicate`), and such a one each time it is given
(`Filter.add_of_isUnordered`).
-/

namespace GeoFacet

/-! ## Doubles -/

/-- A number equals itself. -/
theorem beq_self_of_isNaN {x : Float} (h : x.isNaN = false) : (x == x) = true := by
  show (x.toModel.unpack.compare x.toModel.unpack == some .eq) = true
  replace h : x.toModel.unpack.isNaN = false := h
  cases hx : x.toModel.unpack with
  | notANumber =>
    rw [hx] at h
    cases h
  | infinity sign => cases sign <;> rfl
  | zero sign => cases sign <;> rfl
  | finite sign mantissa exponent hpos =>
    have heq : (compare exponent exponent).then (compare mantissa mantissa) = .eq := by simp
    cases sign with
    | negative =>
      show (some ((compare exponent exponent).then (compare mantissa mantissa)).swap ==
        some .eq) = true
      rw [heq]
      rfl
    | positive =>
      show (some ((compare exponent exponent).then (compare mantissa mantissa)) ==
        some .eq) = true
      rw [heq]
      rfl

/-- A double that equals one is a number. -/
theorem isNaN_of_beq {x y : Float} (h : (x == y) = true) : x.isNaN = false := by
  replace h : (x.toModel.unpack.compare y.toModel.unpack == some .eq) = true := h
  show x.toModel.unpack.isNaN = false
  cases hx : x.toModel.unpack with
  | notANumber =>
    rw [hx] at h
    cases h
  | infinity sign => rfl
  | zero sign => rfl
  | finite sign mantissa exponent hpos => rfl

theorem isNaN_of_isFinite {x : Float} (h : x.isFinite = true) : x.isNaN = false := by
  replace h : x.toModel.unpack.isFinite = true := h
  show x.toModel.unpack.isNaN = false
  cases hx : x.toModel.unpack with
  | notANumber =>
    rw [hx] at h
    cases h
  | infinity sign => rfl
  | zero sign => rfl
  | finite sign mantissa exponent hpos => rfl

/-- A list equals itself if each of its members does. -/
theorem beq_self_of_forall {α : Type} [BEq α] {as : List α} (h : ∀ a ∈ as, (a == a) = true) :
    (as == as) = true := by
  induction as with
  | nil => rfl
  | cons a as ih =>
    rw [List.cons_beq_cons, h a List.mem_cons_self, ih fun b hb => h b (List.mem_cons_of_mem a hb)]
    rfl

/-- Each member of a list equals one of any equal list. -/
theorem exists_beq_of_mem {α : Type} [BEq α] {as bs : List α} (h : (as == bs) = true) :
    ∀ a ∈ as, ∃ b, (a == b) = true := by
  induction as generalizing bs with
  | nil => simp
  | cons a as ih =>
    cases bs with
    | nil => cases h
    | cons b bs =>
      rw [List.cons_beq_cons, Bool.and_eq_true] at h
      exact List.forall_mem_cons.mpr ⟨⟨b, h.1⟩, ih h.2⟩

/-! ## Geometries -/

/-- Both coordinates are numbers. -/
def Position.IsNumber (p : Position) : Prop := p.x.isNaN = false ∧ p.y.isNaN = false

theorem Position.IsNumber.beq_self {p : Position} (h : p.IsNumber) : (p == p) = true := by
  show (p.x == p.x && p.y == p.y) = true
  rw [beq_self_of_isNaN h.1, beq_self_of_isNaN h.2]
  rfl

theorem Position.isNumber_of_beq {p q : Position} (h : (p == q) = true) : p.IsNumber := by
  replace h : (p.x == q.x && p.y == q.y) = true := h
  rw [Bool.and_eq_true] at h
  exact ⟨isNaN_of_beq h.1, isNaN_of_beq h.2⟩

theorem Path.isNumber_of_beq {ps qs : Path} (h : (ps == qs) = true) : ∀ p ∈ ps, p.IsNumber := by
  intro p hp
  obtain ⟨q, hq⟩ := exists_beq_of_mem h p hp
  exact Position.isNumber_of_beq hq

namespace Polygon

def positions (p : Polygon) : List Position := p.exterior ++ p.interiors.flatten

theorem beq_self {p : Polygon} (h : ∀ a ∈ p.positions, a.IsNumber) : (p == p) = true := by
  have hexterior : (p.exterior == p.exterior) = true :=
    beq_self_of_forall fun a ha => (h a (List.mem_append_left _ ha)).beq_self
  have hinteriors : (p.interiors == p.interiors) = true :=
    beq_self_of_forall fun path hpath => beq_self_of_forall fun a ha =>
      (h a (List.mem_append_right _ (List.mem_flatten.mpr ⟨path, hpath, ha⟩))).beq_self
  show (p.exterior == p.exterior && p.interiors == p.interiors) = true
  rw [hexterior, hinteriors]
  rfl

theorem isNumber_of_beq {p q : Polygon} (h : (p == q) = true) :
    ∀ a ∈ p.positions, a.IsNumber := by
  replace h : (p.exterior == q.exterior && p.interiors == q.interiors) = true := h
  rw [Bool.and_eq_true] at h
  intro a ha
  rcases List.mem_append.mp ha with ha | ha
  · exact Path.isNumber_of_beq h.1 a ha
  · obtain ⟨path, hpath, ha⟩ := List.mem_flatten.mp ha
    obtain ⟨path', hsame⟩ := exists_beq_of_mem h.2 path hpath
    exact Path.isNumber_of_beq hsame a ha

end Polygon

namespace Geometry

mutual

/-- The positions that a geometry is drawn through. -/
def positions : Geometry → List Position
  | .point p => [p]
  | .lineString ps | .multiPoint ps => ps
  | .polygon p => p.positions
  | .multiLineString paths => paths.flatten
  | .multiPolygon ps => ps.flatMap Polygon.positions
  | .collection members => positionsOf members

def positionsOf : List Geometry → List Position
  | [] => []
  | g :: rest => g.positions ++ positionsOf rest

end

mutual

/-- A geometry equals itself if its coordinates are numbers. -/
theorem beq_self : ∀ {g : Geometry}, (∀ a ∈ g.positions, a.IsNumber) → g.beq g = true
  | .point p, h => (h p List.mem_cons_self).beq_self
  | .lineString _, h => beq_self_of_forall fun a ha => (h a ha).beq_self
  | .multiPoint _, h => beq_self_of_forall fun a ha => (h a ha).beq_self
  | .polygon _, h => Polygon.beq_self h
  | .multiLineString _, h => beq_self_of_forall fun path hpath =>
    beq_self_of_forall fun a ha => (h a (List.mem_flatten.mpr ⟨path, hpath, ha⟩)).beq_self
  | .multiPolygon _, h => beq_self_of_forall fun p hp =>
    Polygon.beq_self fun a ha => h a (List.mem_flatMap.mpr ⟨p, hp, ha⟩)
  | .collection members, h => @beqMembers_self members h

theorem beqMembers_self : ∀ {members : List Geometry},
    (∀ a ∈ positionsOf members, a.IsNumber) → beqMembers members members = true
  | [], _ => rfl
  | g :: rest, h => by
    rw [beqMembers, beq_self fun a ha => h a (List.mem_append_left _ ha),
      beqMembers_self fun a ha => h a (List.mem_append_right _ ha)]
    rfl

end

mutual

/-- A geometry equals another one only if its coordinates are numbers. -/
theorem isNumber_of_beq : ∀ {g h : Geometry}, g.beq h = true → ∀ a ∈ g.positions, a.IsNumber
  | .point p, .point q, heq, a, ha => by
    rw [List.mem_singleton.mp ha]
    exact Position.isNumber_of_beq heq
  | .lineString ps, .lineString qs, heq, a, ha => Path.isNumber_of_beq heq a ha
  | .multiPoint ps, .multiPoint qs, heq, a, ha => Path.isNumber_of_beq heq a ha
  | .polygon p, .polygon q, heq, a, ha => Polygon.isNumber_of_beq heq a ha
  | .multiLineString ps, .multiLineString qs, heq, a, ha => by
    obtain ⟨path, hpath, ha⟩ := List.mem_flatten.mp ha
    obtain ⟨path', hsame⟩ := exists_beq_of_mem heq path hpath
    exact Path.isNumber_of_beq hsame a ha
  | .multiPolygon ps, .multiPolygon qs, heq, a, ha => by
    obtain ⟨p, hp, ha⟩ := List.mem_flatMap.mp ha
    obtain ⟨q, hsame⟩ := exists_beq_of_mem heq p hp
    exact Polygon.isNumber_of_beq hsame a ha
  | .collection gs, .collection hs, heq, a, ha => isNumber_of_beqMembers heq a ha

theorem isNumber_of_beqMembers : ∀ {gs hs : List Geometry}, beqMembers gs hs = true →
    ∀ a ∈ positionsOf gs, a.IsNumber
  | [], _, _, _, ha => nomatch ha
  | g :: gs, h :: hs, heq, a, ha => by
    rw [beqMembers, Bool.and_eq_true] at heq
    rcases List.mem_append.mp ha with ha | ha
    · exact isNumber_of_beq heq.1 a ha
    · exact isNumber_of_beqMembers heq.2 a ha

end
end Geometry

/-! ## Scalars -/

namespace Scalar

/-- A scalar that is a finite double if it is one at all. -/
def IsFinite (v : Scalar) : Prop := ∀ x, v = .float x → x.isFinite = true

theorem isFinite_integer (n : Int) : (integer n).IsFinite := by
  intro x h
  cases h

theorem isFinite_boolean (b : Bool) : (boolean b).IsFinite := by
  intro x h
  cases h

theorem isFinite_text (s : String) : (text s).IsFinite := by
  intro x h
  cases h

theorem IsFinite.beq_self {v : Scalar} (h : v.IsFinite) : (v == v) = true := by
  cases v with
  | integer n => exact beq_self_eq_true n
  | float x => exact beq_self_of_isNaN (isNaN_of_isFinite (h x rfl))
  | boolean b => exact beq_self_eq_true b
  | text s => exact beq_self_eq_true s

/-- A double is read from a text only if it is finite. -/
theorem isFinite_parse (raw : String) : (parse raw).IsFinite := by
  rw [parse]
  split
  · exact isFinite_integer _
  · split
    · split
      · rename_i y _ hfinite
        intro x h
        cases h
        exact hfinite
      · exact isFinite_text _
    · exact isFinite_text _

end Scalar

namespace ValueRange

/-- Both bounds are finite. -/
def IsFinite (r : ValueRange) : Prop := r.min.IsFinite ∧ r.max.IsFinite

theorem IsFinite.beq_self {r : ValueRange} (h : r.IsFinite) : (r == r) = true := by
  show (r.min == r.min && (r.max == r.max && (r.minInclusive == r.minInclusive &&
    r.maxInclusive == r.maxInclusive))) = true
  rw [h.1.beq_self, h.2.beq_self, beq_self_eq_true, beq_self_eq_true]
  rfl

theorem isFinite_bound {dateFormat : Option String} {raw : String} {v : Scalar}
    (h : bound dateFormat raw = .ok v) : v.IsFinite := by
  cases dateFormat with
  | none =>
    obtain rfl : Scalar.parse raw = v := Except.ok.inj h
    exact Scalar.isFinite_parse raw
  | some format =>
    obtain ⟨n, -, rfl⟩ := Outcome.map_eq_ok.mp h
    exact Scalar.isFinite_integer n

theorem isFinite_parse {dateFormat : Option String} {value : String} {rs : List ValueRange}
    (h : parse dateFormat value = .ok rs) : ∀ r ∈ rs, r.IsFinite := by
  intro r hr
  obtain ⟨item, -, hitem⟩ := Outcome.exists_of_mem_mapM (parse_eq_ok h).1 hr
  obtain ⟨parts, -, hmin, hmax, -⟩ := parseItem_eq_ok hitem
  exact ⟨isFinite_bound hmin, isFinite_bound hmax⟩

end ValueRange

/-! ## Conditions -/

namespace Condition

/-- The scalars of a condition are finite. -/
def IsFinite : Condition → Prop
  | .oneOf _ vs | .noneOf _ vs => ∀ v ∈ vs, v.IsFinite
  | .compare _ _ v _ => v.IsFinite
  | .ranges _ rs _ => ∀ r ∈ rs, r.IsFinite
  | .like _ _ | .spatial .. | .text _ _ => True

/-- The shape of a condition has a coordinate that is no number. -/
def IsUnordered : Condition → Prop
  | .spatial _ _ _ shape => ∃ p ∈ shape.positions, ¬p.IsNumber
  | _ => False

theorem beq_self {c : Condition} (hfinite : c.IsFinite) (hordered : ¬c.IsUnordered) :
    (c == c) = true := by
  cases c with
  | oneOf f vs =>
    show (f == f && vs == vs) = true
    rw [beq_self_of_forall fun v hv => (hfinite v hv).beq_self, beq_self_eq_true]
    rfl
  | noneOf f vs =>
    show (f == f && vs == vs) = true
    rw [beq_self_of_forall fun v hv => (hfinite v hv).beq_self, beq_self_eq_true]
    rfl
  | compare f op v isDate =>
    show (f == f && (op == op && (v == v && isDate == isDate))) = true
    rw [hfinite.beq_self, beq_self_eq_true, beq_self_eq_true, beq_self_eq_true]
    rfl
  | like f part =>
    show (f == f && part == part) = true
    rw [beq_self_eq_true, beq_self_eq_true]
    rfl
  | ranges f rs isDate =>
    show (f == f && (rs == rs && isDate == isDate)) = true
    rw [beq_self_of_forall fun r hr => (hfinite r hr).beq_self, beq_self_eq_true, beq_self_eq_true]
    rfl
  | spatial f relation negated shape =>
    have hshape : ∀ p ∈ shape.positions, p.IsNumber := fun p hp =>
      Classical.byContradiction fun hnumber => hordered ⟨p, hp, hnumber⟩
    show (f == f && (relation == relation && (negated == negated && shape.beq shape))) = true
    rw [Geometry.beq_self hshape, beq_self_eq_true, beq_self_eq_true, beq_self_eq_true]
    rfl
  | text f words =>
    show (f == f && words == words) = true
    rw [beq_self_eq_true, beq_self_eq_true]
    rfl

/-- A shape with a coordinate that is no number differs from every other one. -/
theorem beq_eq_false {c d : Condition} (h : c.IsUnordered) : (c == d) = false := by
  cases c with
  | spatial f relation negated shape =>
    obtain ⟨p, hp, hnumber⟩ := h
    cases d with
    | spatial f' relation' negated' shape' =>
      rw [← Bool.not_eq_true]
      intro heq
      replace heq : (f == f' && (relation == relation' && (negated == negated' &&
        shape.beq shape'))) = true := heq
      simp only [Bool.and_eq_true] at heq
      exact hnumber (Geometry.isNumber_of_beq heq.2.2.2 p hp)
    | _ => rfl
  | _ => cases h

theorem isFinite_typedValue {type : FieldType} {field raw : String} {v : Scalar}
    (h : typedValue type field raw = .ok v) : v.IsFinite := by
  unfold typedValue at h
  dsimp only at h
  split at h
  · split at h
    · obtain rfl := Except.ok.inj h
      exact Scalar.isFinite_parse (Text.trim raw)
    · cases h
  · split at h
    · split at h
      · obtain rfl := Except.ok.inj h
        exact Scalar.isFinite_boolean true
      · split at h
        · obtain rfl := Except.ok.inj h
          exact Scalar.isFinite_boolean false
        · cases h
    · obtain rfl := Except.ok.inj h
      exact Scalar.isFinite_text (Text.trim raw)

theorem isFinite_typedValues {type : FieldType} {field value : String} {vs : List Scalar}
    (h : typedValues type field value = .ok vs) : ∀ v ∈ vs, v.IsFinite := by
  obtain ⟨values, hvalues, h⟩ := Outcome.bind_eq_ok.mp h
  split at h
  · cases h
  · cases h
    intro v hv
    obtain ⟨raw, -, hraw⟩ := Outcome.exists_of_mem_mapM hvalues hv
    exact isFinite_typedValue hraw

/-- The scalars of an accepted expression are finite. -/
theorem isFinite_ofExpression {c : Collection} {dateFormat : Option String} {e : Expression}
    {cond : Condition} (h : ofExpression c dateFormat e = .ok cond) : cond.IsFinite := by
  obtain ⟨_, -, h⟩ := Outcome.bind_eq_ok.mp h
  obtain ⟨type, -, h⟩ := Outcome.bind_eq_ok.mp h
  obtain ⟨vs, hvs, rfl | rfl⟩ | ⟨op, v, hv, rfl⟩ | rfl | ⟨rs, -, -, hrs, -, rfl⟩ |
    ⟨relation, negated, shape, rfl⟩ := ofParts_cases h
  · exact isFinite_typedValues hvs
  · exact isFinite_typedValues hvs
  · rcases hv with ⟨-, n, rfl⟩ | hv
    · exact Scalar.isFinite_integer n
    · exact isFinite_typedValue hv
  · trivial
  · exact ValueRange.isFinite_parse hrs
  · trivial

end Condition

/-! ## Filters -/

namespace Filter

variable {filter : Filter} {group : List Condition}

/-- No group equals one before it. -/
def Distinct (filter : Filter) : Prop := filter.Pairwise fun g h => (h == g) = false

/-- Adding a group to a filter without duplicates makes none. -/
theorem Distinct.add (h : filter.Distinct) (group : List Condition) :
    (filter.add group).Distinct := by
  rw [Filter.add]
  by_cases hkept : (group.isEmpty || filter.contains group) = true
  · rwa [if_pos hkept]
  · rw [if_neg hkept]
    rw [Bool.or_eq_true, not_or, List.contains_iff_exists_mem_beq] at hkept
    refine List.pairwise_append.mpr ⟨h, List.pairwise_singleton _ _, fun g hg g' hg' => ?_⟩
    rw [List.mem_singleton.mp hg', ← Bool.not_eq_true]
    exact fun heq => hkept.2 ⟨g, hg, heq⟩

/-- A group that differs from every group is kept each time it is given. -/
theorem add_of_isUnordered (h : ∃ cond ∈ group, cond.IsUnordered) :
    filter.add group = filter ++ [group] := by
  obtain ⟨cond, hcond, hunordered⟩ := h
  have hnew : ¬(group.isEmpty || filter.contains group) = true := by
    rw [Bool.or_eq_true, not_or, List.contains_iff_exists_mem_beq, List.isEmpty_iff]
    refine ⟨List.ne_nil_of_mem hcond, fun ⟨g, _, heq⟩ => ?_⟩
    obtain ⟨cond', hsame⟩ := exists_beq_of_mem heq cond hcond
    rw [Condition.beq_eq_false hunordered] at hsame
    cases hsame
  rw [add, if_neg hnew]

/-- What a filter holds after a group was added. -/
theorem mem_add {g : List Condition} (h : g ∈ filter.add group) :
    g ∈ filter ∨ g = group ∧ group ≠ [] := by
  rw [Filter.add] at h
  split at h
  · exact .inl h
  · rename_i hkept
    rcases List.mem_append.mp h with h | h
    · exact .inl h
    · refine .inr ⟨List.mem_singleton.mp h, fun hempty => hkept ?_⟩
      rw [hempty]
      rfl

/-- **A group that stands in a filter twice has a coordinate that is no number.** -/
theorem isUnordered_of_duplicate (h : filter.Distinct) (hduplicate : List.Duplicate group filter)
    (hfinite : ∀ cond ∈ group, cond.IsFinite) : ∃ cond ∈ group, cond.IsUnordered := by
  by_contra hnone
  have hself : (group == group) = true := beq_self_of_forall fun cond hcond =>
    Condition.beq_self (hfinite cond hcond) fun hunordered => hnone ⟨cond, hcond, hunordered⟩
  have htwice := h.sublist (List.duplicate_iff_sublist.mp hduplicate)
  have hdiffers := List.rel_of_pairwise_cons htwice List.mem_cons_self
  rw [hself] at hdiffers
  cases hdiffers

end Filter

end GeoFacet
