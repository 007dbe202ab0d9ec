import GeoFacet.Filter.Range
import GeoFacet.Proofs.Outcome
import GeoFacet.Proofs.Text.Split

/-!
# The text of a range

A range is written with a bracket at either end and a `<` between its bounds. Bounds without commas
and without a further `<` are found again, so an accepted range is the one that was written
(`parse_itemText`).
-/

namespace GeoFacet.ValueRange

/-- The item of a range with the given ends. -/
def itemText (minInclusive maxInclusive : Bool) (min max : String) : String :=
  String.ofList ((if minInclusive then '[' else ']') ::
    (min.toList ++ '<' :: max.toList) ++ [if maxInclusive then ']' else '['])

variable {minInclusive maxInclusive : Bool} {min max : String}

theorem items_itemText (hmin : ',' ∉ min.toList) (hmax : ',' ∉ max.toList) :
    Text.items (itemText minInclusive maxInclusive min max) =
      [itemText minInclusive maxInclusive min max] := by
  have hends : Text.trim (itemText minInclusive maxInclusive min max) =
      itemText minInclusive maxInclusive min max := by
    cases minInclusive <;> cases maxInclusive <;> exact Text.trim_of_ends _ (by decide) (by decide)
  have hcomma : ',' ∉ (itemText minInclusive maxInclusive min max).toList := by
    cases minInclusive <;> cases maxInclusive <;> simp [itemText, hmin, hmax]
  have hblank : Text.isBlank (itemText minInclusive maxInclusive min max) = false := by
    cases minInclusive <;> simp [itemText, Text.isBlank, Text.isSpace]
  rw [Text.items_of_notMem hcomma, hblank, hends]
  rfl

/-- An item is split into the ends that it was written with. -/
theorem split?_itemText (hmin : '<' ∉ min.toList) (hmax : '<' ∉ max.toList) :
    split? (itemText minInclusive maxInclusive min max) =
      if min = "" ∨ max = "" then none else some ⟨min, max, minInclusive, maxInclusive⟩ := by
  rw [split?, itemText, String.toList_ofList, List.cons_append]
  simp only [List.getLast?_concat, List.dropLast_concat, Text.splitList_append hmin,
    Text.splitList_of_notMem hmax]
  cases minInclusive <;> cases maxInclusive <;> simp [List.isEmpty_iff]

/-! ## Accepted ranges -/

/-- An item that is read has two bounds, and the range they make was checked. -/
theorem parseItem_eq_ok {dateFormat : Option String} {item : String} {r : ValueRange}
    (h : parseItem dateFormat item = .ok r) : ∃ parts, split? item = some parts ∧
      bound dateFormat parts.min = .ok r.min ∧ bound dateFormat parts.max = .ok r.max ∧
      parts.minInclusive = r.minInclusive ∧ parts.maxInclusive = r.maxInclusive ∧
      check r = .ok () := by
  obtain ⟨parts, hparts, h⟩ := Outcome.bind_eq_ok.mp h
  obtain ⟨min, hmin, h⟩ := Outcome.bind_eq_ok.mp h
  obtain ⟨max, hmax, h⟩ := Outcome.bind_eq_ok.mp h
  obtain ⟨_, hcheck, h⟩ := Outcome.bind_eq_ok.mp h
  cases h
  exact ⟨parts, Outcome.orRefuse_eq_ok.mp hparts, hmin, hmax, rfl, rfl, hcheck⟩

/-- A value that is read has a range for each of its items, and has items. -/
theorem parse_eq_ok {dateFormat : Option String} {value : String} {rs : List ValueRange}
    (h : parse dateFormat value = .ok rs) :
    (Text.items value).mapM (parseItem dateFormat) = .ok rs ∧ rs ≠ [] := by
  obtain ⟨ranges, hranges, h⟩ := Outcome.bind_eq_ok.mp h
  split at h
  · cases h
  · rename_i hne
    cases h
    exact ⟨hranges, by simpa using hne⟩

/-- An item alone is read through the two bounds. -/
theorem parse_itemText (dateFormat : Option String) (hmin : ',' ∉ min.toList ∧ '<' ∉ min.toList)
    (hmax : ',' ∉ max.toList ∧ '<' ∉ max.toList) {ranges : List ValueRange}
    (h : parse dateFormat (itemText minInclusive maxInclusive min max) = .ok ranges) :
    ∃ x y, ranges = [⟨x, y, minInclusive, maxInclusive⟩] ∧ bound dateFormat min = .ok x ∧
      bound dateFormat max = .ok y := by
  have hitems := Outcome.mapM_eq_ok.mp (parse_eq_ok h).1
  rw [items_itemText hmin.1 hmax.1, List.forall₂_cons_left_iff] at hitems
  obtain ⟨⟨x, y, lower, upper⟩, rest, hr, hrest, rfl⟩ := hitems
  obtain rfl := List.forall₂_nil_left_iff.mp hrest
  obtain ⟨parts, hparts, hx, hy, rfl, rfl, -⟩ := parseItem_eq_ok hr
  rw [split?_itemText hmin.2 hmax.2] at hparts
  split at hparts
  · cases hparts
  · cases hparts
    exact ⟨x, y, rfl, hx, hy⟩

end GeoFacet.ValueRange
