import GeoFacet.Proofs.Filter.Equality
import GeoFacet.Proofs.Json.Equality

/-!
# Equal conditions

Equality of conditions is that of their parts, doubles compared as numbers. It is symmetric and
transitive, and so is the equality of groups; only a shape with a coordinate that is no number
differs from itself. Equal conditions hold of the same documents if the tests do not tell equal
values apart (`Condition.holds_congr`).
-/

namespace GeoFacet

/-- What is compared by its parts is compared by an equivalence if the parts are. -/
theorem partialEquivBEq_of_parts {α β : Type} [BEq α] [BEq β] [PartialEquivBEq β] (parts : α → β)
    (h : ∀ a b, (a == b) = (parts a == parts b)) : PartialEquivBEq α where
  symm hab := by
    rw [h] at hab ⊢
    exact BEq.symm hab
  trans hab hbc := by
    rw [h] at hab hbc ⊢
    exact BEq.trans hab hbc

instance instPartialEquivBEqFloat : PartialEquivBEq Float := ⟨float_beq_symm, float_beq_trans⟩

/-! ## Geometries -/

instance : PartialEquivBEq Position :=
  partialEquivBEq_of_parts (fun p => [p.x, p.y]) fun p q => by
    show (p.x == q.x && p.y == q.y) = (p.x == q.x && (p.y == q.y && true))
    rw [Bool.and_true]

instance : PartialEquivBEq Path := inferInstanceAs (PartialEquivBEq (List Position))

instance : PartialEquivBEq Polygon :=
  partialEquivBEq_of_parts (fun p => p.exterior :: p.interiors) fun _ _ => rfl

namespace Geometry

mutual

theorem beq_symm : ∀ {g h : Geometry}, g.beq h = true → h.beq g = true
  | .point _, .point _, h => @BEq.symm Position _ _ _ _ h
  | .lineString _, .lineString _, h => @BEq.symm Path _ _ _ _ h
  | .polygon _, .polygon _, h => @BEq.symm Polygon _ _ _ _ h
  | .multiPoint _, .multiPoint _, h => @BEq.symm (List Position) _ _ _ _ h
  | .multiLineString _, .multiLineString _, h => @BEq.symm (List Path) _ _ _ _ h
  | .multiPolygon _, .multiPolygon _, h => @BEq.symm (List Polygon) _ _ _ _ h
  | .collection gs, .collection hs, h => @beqMembers_symm gs hs h

theorem beqMembers_symm : ∀ {gs hs : List Geometry},
    beqMembers gs hs = true → beqMembers hs gs = true
  | [], [], _ => rfl
  | g :: gs, h :: hs, heq => by
    rw [beqMembers, Bool.and_eq_true] at heq ⊢
    exact ⟨beq_symm heq.1, beqMembers_symm heq.2⟩

end

mutual

theorem beq_trans : ∀ {g h i : Geometry}, g.beq h = true → h.beq i = true → g.beq i = true
  | .point _, .point _, .point _, h, h' => @BEq.trans Position _ _ _ _ _ h h'
  | .lineString _, .lineString _, .lineString _, h, h' => @BEq.trans Path _ _ _ _ _ h h'
  | .polygon _, .polygon _, .polygon _, h, h' => @BEq.trans Polygon _ _ _ _ _ h h'
  | .multiPoint _, .multiPoint _, .multiPoint _, h, h' => @BEq.trans (List Position) _ _ _ _ _ h h'
  | .multiLineString _, .multiLineString _, .multiLineString _, h, h' =>
    @BEq.trans (List Path) _ _ _ _ _ h h'
  | .multiPolygon _, .multiPolygon _, .multiPolygon _, h, h' =>
    @BEq.trans (List Polygon) _ _ _ _ _ h h'
  | .collection gs, .collection hs, .collection is, h, h' => @beqMembers_trans gs hs is h h'

theorem beqMembers_trans : ∀ {gs hs is : List Geometry},
    beqMembers gs hs = true → beqMembers hs is = true → beqMembers gs is = true
  | [], [], _, _, h => h
  | g :: gs, h :: hs, i :: is, heq, heq' => by
    rw [beqMembers, Bool.and_eq_true] at heq heq' ⊢
    exact ⟨beq_trans heq.1 heq'.1, beqMembers_trans heq.2 heq'.2⟩

end

instance : PartialEquivBEq Geometry := ⟨beq_symm, beq_trans⟩

end Geometry

/-! ## Scalars and ranges -/

namespace Scalar

theorem beq_symm : ∀ {v w : Scalar}, (v == w) = true → (w == v) = true
  | .integer _, .integer _, h => @BEq.symm Int _ _ _ _ h
  | .float _, .float _, h => @BEq.symm Float _ _ _ _ h
  | .boolean _, .boolean _, h => @BEq.symm Bool _ _ _ _ h
  | .text _, .text _, h => @BEq.symm String _ _ _ _ h

theorem beq_trans : ∀ {u v w : Scalar}, (u == v) = true → (v == w) = true → (u == w) = true
  | .integer _, .integer _, .integer _, h, h' => @BEq.trans Int _ _ _ _ _ h h'
  | .float _, .float _, .float _, h, h' => @BEq.trans Float _ _ _ _ _ h h'
  | .boolean _, .boolean _, .boolean _, h, h' => @BEq.trans Bool _ _ _ _ _ h h'
  | .text _, .text _, .text _, h, h' => @BEq.trans String _ _ _ _ _ h h'

instance : PartialEquivBEq Scalar := ⟨beq_symm, beq_trans⟩

end Scalar

theorem ValueRange.beq_iff {r s : ValueRange} : (r == s) = true ↔ (r.min == s.min) = true ∧
    (r.max == s.max) = true ∧ r.minInclusive = s.minInclusive ∧
      r.maxInclusive = s.maxInclusive := by
  show (r.min == s.min && (r.max == s.max && (r.minInclusive == s.minInclusive &&
    r.maxInclusive == s.maxInclusive))) = true ↔ _
  simp only [Bool.and_eq_true, beq_iff_eq]

instance : PartialEquivBEq ValueRange where
  symm h := by
    obtain ⟨hmin, hmax, hlower, hupper⟩ := ValueRange.beq_iff.mp h
    exact ValueRange.beq_iff.mpr ⟨BEq.symm hmin, BEq.symm hmax, hlower.symm, hupper.symm⟩
  trans h h' := by
    obtain ⟨hmin, hmax, hlower, hupper⟩ := ValueRange.beq_iff.mp h
    obtain ⟨hmin', hmax', hlower', hupper'⟩ := ValueRange.beq_iff.mp h'
    exact ValueRange.beq_iff.mpr ⟨BEq.trans hmin hmin', BEq.trans hmax hmax',
      hlower.trans hlower', hupper.trans hupper'⟩

/-! ## Conditions -/

namespace Condition

/-- Conditions of one kind on one field that differ in equal values at most. -/
inductive Same : Condition → Condition → Prop
  | oneOf (f : String) {vs ws : List Scalar} (h : (vs == ws) = true) :
    Same (.oneOf f vs) (.oneOf f ws)
  | noneOf (f : String) {vs ws : List Scalar} (h : (vs == ws) = true) :
    Same (.noneOf f vs) (.noneOf f ws)
  | compare (f : String) (op : Comparison) {v w : Scalar} (isDate : Bool) (h : (v == w) = true) :
    Same (.compare f op v isDate) (.compare f op w isDate)
  | like (f part : String) : Same (.like f part) (.like f part)
  | ranges (f : String) {rs ss : List ValueRange} (isDate : Bool) (h : (rs == ss) = true) :
    Same (.ranges f rs isDate) (.ranges f ss isDate)
  | spatial (f : String) (relation : SpatialRelation) (negated : Bool) {g g' : Geometry}
    (h : (g == g') = true) : Same (.spatial f relation negated g) (.spatial f relation negated g')
  | text (f : Option String) (words : String) : Same (.text f words) (.text f words)

/-- Equality is decided part by part. -/
theorem beq_eq_true_iff {c d : Condition} : (c == d) = true ↔ Same c d := by
  constructor
  · intro h
    -- Conditions of different forms are never equal, so seven cases are left.
    match c, d, h with
    | .oneOf f vs, .oneOf f' ws, h =>
      obtain ⟨hf, hvs⟩ := Bool.and_eq_true_iff.mp h
      obtain rfl := beq_iff_eq.mp hf
      exact .oneOf f hvs
    | .noneOf f vs, .noneOf f' ws, h =>
      obtain ⟨hf, hvs⟩ := Bool.and_eq_true_iff.mp h
      obtain rfl := beq_iff_eq.mp hf
      exact .noneOf f hvs
    | .compare f op v isDate, .compare f' op' w isDate', h =>
      obtain ⟨hf, hrest⟩ := Bool.and_eq_true_iff.mp h
      obtain ⟨hop, hrest⟩ := Bool.and_eq_true_iff.mp hrest
      obtain ⟨hv, hdate⟩ := Bool.and_eq_true_iff.mp hrest
      obtain rfl := beq_iff_eq.mp hf
      obtain rfl := beq_iff_eq.mp hop
      obtain rfl := beq_iff_eq.mp hdate
      exact .compare f op isDate hv
    | .like f part, .like f' part', h =>
      obtain ⟨hf, hpart⟩ := Bool.and_eq_true_iff.mp h
      obtain rfl := beq_iff_eq.mp hf
      obtain rfl := beq_iff_eq.mp hpart
      exact .like f part
    | .ranges f rs isDate, .ranges f' ss isDate', h =>
      obtain ⟨hf, hrest⟩ := Bool.and_eq_true_iff.mp h
      obtain ⟨hrs, hdate⟩ := Bool.and_eq_true_iff.mp hrest
      obtain rfl := beq_iff_eq.mp hf
      obtain rfl := beq_iff_eq.mp hdate
      exact .ranges f isDate hrs
    | .spatial f relation negated g, .spatial f' relation' negated' g', h =>
      obtain ⟨hf, hrest⟩ := Bool.and_eq_true_iff.mp h
      obtain ⟨hrelation, hrest⟩ := Bool.and_eq_true_iff.mp hrest
      obtain ⟨hnegated, hg⟩ := Bool.and_eq_true_iff.mp hrest
      obtain rfl := beq_iff_eq.mp hf
      obtain rfl := beq_iff_eq.mp hrelation
      obtain rfl := beq_iff_eq.mp hnegated
      exact .spatial f relation negated hg
    | .text f words, .text f' words', h =>
      obtain ⟨hf, hwords⟩ := Bool.and_eq_true_iff.mp h
      obtain rfl := beq_iff_eq.mp hf
      obtain rfl := beq_iff_eq.mp hwords
      exact .text f words
  · intro h
    cases h with
    | oneOf f h => exact Bool.and_eq_true_iff.mpr ⟨beq_self_eq_true f, h⟩
    | noneOf f h => exact Bool.and_eq_true_iff.mpr ⟨beq_self_eq_true f, h⟩
    | compare f op isDate h =>
      exact Bool.and_eq_true_iff.mpr ⟨beq_self_eq_true f, Bool.and_eq_true_iff.mpr
        ⟨beq_self_eq_true op, Bool.and_eq_true_iff.mpr ⟨h, beq_self_eq_true isDate⟩⟩⟩
    | like f part =>
      exact Bool.and_eq_true_iff.mpr ⟨beq_self_eq_true f, beq_self_eq_true part⟩
    | ranges f isDate h =>
      exact Bool.and_eq_true_iff.mpr ⟨beq_self_eq_true f, Bool.and_eq_true_iff.mpr
        ⟨h, beq_self_eq_true isDate⟩⟩
    | spatial f relation negated h =>
      exact Bool.and_eq_true_iff.mpr ⟨beq_self_eq_true f, Bool.and_eq_true_iff.mpr
        ⟨beq_self_eq_true relation, Bool.and_eq_true_iff.mpr ⟨beq_self_eq_true negated, h⟩⟩⟩
    | text f words =>
      exact Bool.and_eq_true_iff.mpr ⟨beq_self_eq_true f, beq_self_eq_true words⟩

theorem Same.symm {c d : Condition} (h : Same c d) : Same d c := by
  cases h with
  | oneOf f h => exact .oneOf f (BEq.symm h)
  | noneOf f h => exact .noneOf f (BEq.symm h)
  | compare f op isDate h => exact .compare f op isDate (BEq.symm h)
  | like f part => exact .like f part
  | ranges f isDate h => exact .ranges f isDate (BEq.symm h)
  | spatial f relation negated h => exact .spatial f relation negated (BEq.symm h)
  | text f words => exact .text f words

theorem Same.trans {c d e : Condition} (h : Same c d) (h' : Same d e) : Same c e := by
  cases h with
  | oneOf f h => cases h' with | oneOf _ h' => exact .oneOf f (BEq.trans h h')
  | noneOf f h => cases h' with | noneOf _ h' => exact .noneOf f (BEq.trans h h')
  | compare f op isDate h =>
    cases h' with | compare _ _ _ h' => exact .compare f op isDate (BEq.trans h h')
  | like f part => exact h'
  | ranges f isDate h => cases h' with | ranges _ _ h' => exact .ranges f isDate (BEq.trans h h')
  | spatial f relation negated h =>
    cases h' with | spatial _ _ _ h' => exact .spatial f relation negated (BEq.trans h h')
  | text f words => exact h'

instance : PartialEquivBEq Condition where
  symm h := beq_eq_true_iff.mpr (beq_eq_true_iff.mp h).symm
  trans h h' := beq_eq_true_iff.mpr ((beq_eq_true_iff.mp h).trans (beq_eq_true_iff.mp h'))

end Condition

/-! ## What equal conditions select -/

/-- The tests of a search do not tell equal values apart. Equal values are the same up to the sign
of zeros. -/
structure Search.Tests.RespectsEquality {D : Type} (tests : Search.Tests D) : Prop where
  equal : ∀ x (v w : Scalar), (v == w) = true → tests.equal x v.toJson = tests.equal x w.toJson
  compare : ∀ x op (v w : Scalar), (v == w) = true →
    tests.compare x op v.toJson = tests.compare x op w.toJson
  relates : ∀ x relation (g h : Geometry), (g == h) = true →
    tests.relates x relation g.toGeoJson = tests.relates x relation h.toGeoJson

/-- A test has the same result on equal lists if it has on equal members. -/
theorem any_congr_of_beq {α : Type} [BEq α] {p : α → Bool}
    (hp : ∀ a b, (a == b) = true → p a = p b) : ∀ {as bs : List α}, (as == bs) = true →
      as.any p = bs.any p
  | [], [], _ => rfl
  | a :: as, b :: bs, h => by
    rw [List.cons_beq_cons, Bool.and_eq_true] at h
    rw [List.any_cons, List.any_cons, hp a b h.1, any_congr_of_beq hp h.2]

namespace Condition

variable {D : Type} {tests : Search.Tests D} {anyField : String → Bool} {doc : Document D}

/-- Equal conditions hold of the same documents. -/
theorem Same.holds (htests : tests.RespectsEquality) {c d : Condition} (h : Same c d) :
    c.holds tests anyField doc = d.holds tests anyField doc := by
  cases h with
  | oneOf f hvs =>
    have hany (x : D) := any_congr_of_beq (htests.equal x) hvs
    simp only [Condition.holds, hany]
  | noneOf f hvs =>
    have hany (x : D) := any_congr_of_beq (htests.equal x) hvs
    simp only [Condition.holds, hany]
  | compare f op isDate hv => simp only [Condition.holds, htests.compare _ op _ _ hv]
  | like f part => rfl
  | ranges f isDate hrs =>
    have hany (x : D) := any_congr_of_beq (p := fun r : ValueRange =>
      tests.compare x (.lower r.minInclusive) r.min.toJson &&
        tests.compare x (.upper r.maxInclusive) r.max.toJson) (fun r s hrs => by
      obtain ⟨hmin, hmax, hlower, hupper⟩ := ValueRange.beq_iff.mp hrs
      rw [htests.compare x _ _ _ hmin, htests.compare x _ _ _ hmax, hlower, hupper]) hrs
    simp only [Condition.holds, hany]
  | spatial f relation negated hg =>
    simp only [Condition.holds, htests.relates _ relation.name _ _ hg]
  | text f words => rfl

theorem holds_congr (htests : tests.RespectsEquality) {c d : Condition} (h : (c == d) = true) :
    c.holds tests anyField doc = d.holds tests anyField doc :=
  (beq_eq_true_iff.mp h).holds htests

end Condition

end GeoFacet
