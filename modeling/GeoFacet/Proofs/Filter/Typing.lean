import GeoFacet.Proofs.Filter.Conditions

/-!
# The types of filter values

The values of an accepted expression have the type of its field: equality and order comparisons type
them by the field, a date format gives milliseconds, and the bounds of a range on numbers or dates
are checked. The bounds of a range on text are not typed by the field. They are what their text is
taken for, numbers where it reads as one, and only bounds of two kinds are refused.

Main statement: `scalars_fit`.
-/

namespace GeoFacet

namespace Scalar

/-- The scalar has the type of a field: a number on fields of numbers and dates, a truth value on
boolean fields, and a text on all others. -/
def Fits (type : FieldType) (v : Scalar) : Prop :=
  if type.isMeasure then v.isNumber = true
  else if type = .boolean then ∃ b, v = .boolean b
  else ∃ s, v = .text s

theorem fits_measure {type : FieldType} (h : type.isMeasure = true) {v : Scalar} :
    v.Fits type ↔ v.isNumber = true := by
  rw [Fits, if_pos h]

theorem fits_textual {type : FieldType} (h : type.isTextual = true) {v : Scalar} :
    v.Fits type ↔ ∃ s, v = .text s := by
  cases type <;> first | rfl | cases h

/-- A text that is no number is taken for itself. -/
theorem isNumber_or_text (raw : String) :
    (parse raw).isNumber = true ∨ parse raw = .text (Text.trim raw) := by
  rw [parse]
  split
  · exact .inl rfl
  · split
    · split
      · exact .inl rfl
      · exact .inr rfl
    · exact .inr rfl

/-- Scalars that compare are both numbers or neither is. -/
theorem isNumber_eq_of_compare {v w : Scalar} {o : Ordering} (h : v.compare w = some o) :
    v.isNumber = w.isNumber := by
  cases v <;> cases w <;> first | rfl | cases h

end Scalar

/-! ## Ranges -/

namespace ValueRange

/-- What an item of a range on text comes to: both its bounds are taken for what they read as, and
they are of one kind. -/
def Untyped (item : String) (r : ValueRange) : Prop :=
  ∃ parts, split? item = some parts ∧
    r = ⟨Scalar.parse parts.min, Scalar.parse parts.max, parts.minInclusive, parts.maxInclusive⟩ ∧
    r.min.isNumber = r.max.isNumber

theorem isNumber_eq_of_check {r : ValueRange} (h : r.check = .ok ()) :
    r.min.isNumber = r.max.isNumber := by
  rw [check] at h
  split at h
  · rename_i hcompare
    exact Scalar.isNumber_eq_of_compare hcompare
  · cases h
  · cases h

theorem untyped_of_parseItem {item : String} {r : ValueRange}
    (h : parseItem none item = .ok r) : Untyped item r := by
  obtain ⟨parts, hparts, hmin, hmax, hlower, hupper, hcheck⟩ := parseItem_eq_ok h
  have hlow : Scalar.parse parts.min = r.min := Except.ok.inj hmin
  have hhigh : Scalar.parse parts.max = r.max := Except.ok.inj hmax
  refine ⟨parts, hparts, ?_, isNumber_eq_of_check hcheck⟩
  rw [hlow, hhigh, hlower, hupper]

end ValueRange

namespace Condition

/-- The scalars that a condition compares its field with. -/
def scalars : Condition → List Scalar
  | .oneOf _ vs | .noneOf _ vs => vs
  | .compare _ _ v _ => [v]
  | .ranges _ rs _ => rs.flatMap fun r => [r.min, r.max]
  | .like .. | .spatial .. | .text .. => []

variable {dateFormat : Option String} {type : FieldType} {field value : String}

theorem fits_typedValue {raw : String} {v : Scalar} (h : typedValue type field raw = .ok v) :
    v.Fits type := by
  unfold typedValue at h
  unfold Scalar.Fits
  dsimp only at h
  by_cases hmeasure : type.isMeasure = true
  · rw [if_pos hmeasure] at h ⊢
    split at h
    · rename_i hnumber
      obtain rfl := Except.ok.inj h
      exact hnumber
    · cases h
  · rw [if_neg hmeasure] at h ⊢
    by_cases hboolean : type = .boolean
    · rw [if_pos hboolean] at h ⊢
      split at h
      · exact ⟨true, (Except.ok.inj h).symm⟩
      · split at h
        · exact ⟨false, (Except.ok.inj h).symm⟩
        · cases h
    · rw [if_neg hboolean] at h ⊢
      exact ⟨Text.trim raw, (Except.ok.inj h).symm⟩

theorem fits_typedValues {vs : List Scalar} (h : typedValues type field value = .ok vs) :
    ∀ v ∈ vs, v.Fits type := by
  obtain ⟨values, hvalues, h⟩ := Outcome.bind_eq_ok.mp h
  split at h
  · cases h
  · cases h
    intro v hv
    obtain ⟨raw, -, hraw⟩ := Outcome.exists_of_mem_mapM hvalues hv
    exact fits_typedValue hraw

/-- The bounds of ranges on numbers or dates were checked. -/
theorem isNumber_of_checkBounds (hmeasure : type.isMeasure = true) {rs : List ValueRange}
    (h : checkBounds type field value rs = .ok ()) :
    ∀ r ∈ rs, r.min.isNumber = true ∧ r.max.isNumber = true := by
  rw [checkBounds, hmeasure, Bool.true_and] at h
  split at h
  · cases h
  · rename_i hnone
    intro r hr
    by_contra hbound
    refine hnone (List.any_eq_true.mpr ⟨r, hr, ?_⟩)
    rw [not_and_or] at hbound
    simpa using hbound

/-- The values of a condition have the type of its field, but for the bounds of a range on text. -/
theorem fits_of_ofParts {op : Operator} {c : Condition}
    (h : ofParts dateFormat type field op value = .ok c)
    (hfield : ¬(op = .range ∧ type.isTextual = true)) :
    ∀ v ∈ c.scalars, v.Fits type := by
  obtain ⟨vs, hvs, rfl | rfl⟩ | ⟨k, v, hv, rfl⟩ | rfl | ⟨rs, hop, hordered, hrs, hbounds, rfl⟩ |
    ⟨relation, negated, shape, rfl⟩ := ofParts_cases h
  · exact fits_typedValues hvs
  · exact fits_typedValues hvs
  · intro w hw
    obtain rfl := List.mem_singleton.mp hw
    rcases hv with ⟨hdate, n, rfl⟩ | hv
    · exact (Scalar.fits_measure (by simp [FieldType.isMeasure, hdate])).mpr rfl
    · exact fits_typedValue hv
  · intro w hw
    cases hw
  · -- A range on texts is left out, so the bounds were checked to be numbers.
    have hmeasure : type.isMeasure = true :=
      ((Bool.or_eq_true _ _).mp hordered).resolve_right fun htext => hfield ⟨hop, htext⟩
    intro w hw
    obtain ⟨r, hr, hw⟩ := List.mem_flatMap.mp hw
    obtain ⟨hmin, hmax⟩ := isNumber_of_checkBounds hmeasure hbounds r hr
    rw [Scalar.fits_measure hmeasure]
    rcases List.mem_pair.mp hw with rfl | rfl
    · exact hmin
    · exact hmax
  · intro w hw
    cases hw

/-- A range on text comes to the ranges of its items. -/
theorem untyped_of_ofParts {c : Condition} (htext : type.isTextual = true)
    (h : ofParts dateFormat type field .range value = .ok c) :
    ∃ rs, c = .ranges field rs false ∧ List.Forall₂ ValueRange.Untyped (Text.items value) rs := by
  have hdate : type.isDate = false := by
    cases type <;> first | rfl | cases htext
  have hspatial : Operator.range.isSpatial = type.isGeometry := by
    cases type <;> first | rfl | cases htext
  unfold ofParts at h
  dsimp only at h
  rw [if_neg (not_not.mpr hspatial), htext, Bool.or_true, hdate] at h
  obtain ⟨rs, hrs, h⟩ := Outcome.bind_eq_ok.mp h
  obtain ⟨_, -, h⟩ := Outcome.bind_eq_ok.mp h
  have hitems := (ValueRange.parse_eq_ok (Outcome.mapError_eq_ok.mp hrs)).1
  refine ⟨rs, (Except.ok.inj h).symm, (Outcome.mapM_eq_ok.mp hitems).imp fun item r => ?_⟩
  exact ValueRange.untyped_of_parseItem

/-- A bound of a range on text has the type of its field exactly if it reads as no number. -/
theorem fits_iff_of_untyped (htext : type.isTextual = true) {items : List String}
    {rs : List ValueRange} (h : List.Forall₂ ValueRange.Untyped items rs) :
    ∀ v ∈ (Condition.ranges field rs false).scalars, v.Fits type ↔ v.isNumber = false := by
  have hparse (raw : String) :
      (Scalar.parse raw).Fits type ↔ (Scalar.parse raw).isNumber = false := by
    rw [Scalar.fits_textual htext]
    refine ⟨fun ⟨s, hs⟩ => hs ▸ rfl, fun hnumber => ?_⟩
    rcases Scalar.isNumber_or_text raw with hyes | hno
    · rw [hyes] at hnumber
      cases hnumber
    · exact ⟨_, hno⟩
  intro v hv
  obtain ⟨r, hr, hv⟩ := List.mem_flatMap.mp hv
  obtain ⟨i, hi, rfl⟩ := List.mem_iff_getElem.mp hr
  obtain ⟨parts, -, hparts, -⟩ := h.get (h.length_eq ▸ hi) hi
  rw [List.get_eq_getElem] at hparts
  rw [hparts] at hv
  dsimp only at hv
  rcases List.mem_pair.mp hv with hv | hv
  · rw [hv]
    exact hparse parts.min
  · rw [hv]
    exact hparse parts.max

/-- **Values have the types of their fields**, but for the bounds of a range on text: these are what
their texts read as, and have the type of the field where that is no number. -/
theorem scalars_fit {c : Collection} {e : Expression} {cond : Condition}
    (h : ofExpression c dateFormat e = .ok cond)
    (htype : c.fieldType (Text.trim e.field) = .ok type) :
    (¬(e.op = .range ∧ type.isTextual = true) → ∀ v ∈ cond.scalars, v.Fits type) ∧
      (e.op = .range → type.isTextual = true → ∃ rs, cond = .ranges (Text.trim e.field) rs false ∧
        List.Forall₂ ValueRange.Untyped (Text.items e.value) rs ∧
        ∀ v ∈ cond.scalars, v.Fits type ↔ v.isNumber = false) := by
  obtain ⟨_, -, h⟩ := Outcome.bind_eq_ok.mp h
  obtain ⟨type', htype', h⟩ := Outcome.bind_eq_ok.mp h
  obtain rfl := Except.ok.inj (htype.symm.trans htype')
  refine ⟨fits_of_ofParts h, fun hop htext => ?_⟩
  rw [hop] at h
  obtain ⟨rs, rfl, hitems⟩ := untyped_of_ofParts htext h
  exact ⟨rs, rfl, hitems, fits_iff_of_untyped htext hitems⟩

def rings : Collection :=
  ⟨"rings", "rings", "id", "shape", "place", "seen", "epoch_millis", [],
    [("code", .keyword), ("place", .geoPoint), ("shape", .geoShape), ("seen", .date)]⟩

theorem scalars_fit_rings : ∃ cond,
    ofExpression rings none ⟨" code", .range, "[1<2], ]a<b["⟩ = .ok cond ∧
      rings.fieldType "code" = .ok .keyword ∧
      cond.scalars.map Scalar.kind = ["integer", "integer", "text", "text"] ∧
      ∀ v ∈ cond.scalars, v.Fits .keyword ↔ v.isNumber = false := by
  obtain ⟨cond, hcond, hkinds⟩ := Outcome.exists_of_any
    (o := ofExpression rings none ⟨" code", .range, "[1<2], ]a<b["⟩)
    (p := fun cond => cond.scalars.map Scalar.kind = ["integer", "integer", "text", "text"])
    (by decide +kernel)
  have htype : rings.fieldType "code" = .ok .keyword := by rfl
  have htrim : Text.trim " code" = "code" := by decide
  have htype' : rings.fieldType (Text.trim " code") = .ok .keyword := by rw [htrim, htype]
  obtain ⟨rs, -, -, hfit⟩ := (scalars_fit hcond htype').2 rfl rfl
  exact ⟨cond, hcond, htype, of_decide_eq_true hkinds, hfit⟩

end Condition

end GeoFacet
