import GeoFacet.Proofs.Filter.Ranges

/-!
# Which texts are ranges

An item is a range exactly if it is written as one: brackets at its ends, and between them two
bounds with a `<`, neither of them empty or with a further `<`. The brackets and bounds of an item
are its own (`Written.unique`), so the ranges of a value are those of its items one by one
(`parse_eq_ok_iff`).
-/

namespace GeoFacet

namespace Text

/-- The pieces between separators make up the whole. -/
theorem intercalate_splitList (sep : Char) (cs : List Char) :
    [sep].intercalate (splitList sep cs) = cs := by
  induction cs with
  | nil => rfl
  | cons c rest ih =>
    obtain ⟨piece, pieces, hpieces⟩ := List.exists_cons_of_ne_nil (splitList_ne_nil sep rest)
    rw [hpieces] at ih
    rw [splitList, hpieces]
    by_cases hc : c = sep
    · rw [if_pos hc, List.intercalate_cons_cons, ih, hc]
      rfl
    · rw [if_neg hc]
      cases pieces with
      | nil =>
        rw [List.intercalate_singleton] at ih ⊢
        rw [ih]
      | cons next pieces =>
        rw [List.intercalate_cons_cons] at ih ⊢
        rw [List.cons_append, List.cons_append, ih]

theorem splitList_eq_pair {sep : Char} {cs a b : List Char} :
    splitList sep cs = [a, b] ↔ cs = a ++ sep :: b ∧ sep ∉ a ∧ sep ∉ b := by
  constructor
  · intro h
    have hwhole := intercalate_splitList sep cs
    have hpieces : ∀ piece ∈ splitList sep cs, sep ∉ piece := fun _ => notMem_of_mem_splitList
    rw [h] at hwhole hpieces
    exact ⟨by rw [← hwhole]; simp, hpieces a (by simp), hpieces b (by simp)⟩
  · rintro ⟨rfl, ha, hb⟩
    rw [splitList_append ha, splitList_of_notMem hb]

end Text

namespace ValueRange

/-! ## Items -/

/-- A text between the brackets of a range. -/
def IsBound (text : String) : Prop := text ≠ "" ∧ '<' ∉ text.toList

instance (text : String) : Decidable (IsBound text) := inferInstanceAs (Decidable (_ ∧ _))

/-- An item is split exactly if it is written with brackets and two bounds, and then into these. -/
theorem split?_eq_some {item : String} {parts : RangeText} : split? item = some parts ↔
    item = itemText parts.minInclusive parts.maxInclusive parts.min parts.max ∧
      IsBound parts.min ∧ IsBound parts.max := by
  constructor
  · intro h
    rw [split?] at h
    split at h
    · rename_i left rest hitem
      split at h
      · rename_i right hright
        split at h
        · rename_i hbrackets
          split at h
          · rename_i min max hbounds
            split at h
            · cases h
            · rename_i hempty
              -- The item is put together again from its brackets and the two parts of what is
              -- between.
              obtain ⟨hinside, hmin, hmax⟩ := Text.splitList_eq_pair.mp hbounds
              obtain ⟨before, hrest⟩ := List.getLast?_eq_some_iff.mp hright
              rw [hrest, List.dropLast_concat] at hinside
              have hnonempty : min ≠ [] ∧ max ≠ [] := by simpa using hempty
              cases h
              refine ⟨?_, ⟨by simpa using hnonempty.1, by simpa⟩,
                ⟨by simpa using hnonempty.2, by simpa⟩⟩
              rw [← String.ofList_toList (s := item), hitem, hrest, hinside, itemText]
              obtain ⟨rfl | rfl, rfl | rfl⟩ := hbrackets <;> simp
          · cases h
        · cases h
      · cases h
    · cases h
  · rintro ⟨rfl, hmin, hmax⟩
    rw [split?_itemText hmin.2 hmax.2, if_neg (not_or.mpr ⟨hmin.1, hmax.1⟩)]

/-- An item is written as a range: its ends are brackets, and its bounds are read as those of the
range, the lower one below the upper one. -/
def Written (item : String) (r : ValueRange) : Prop :=
  ∃ min max, item = itemText r.minInclusive r.maxInclusive min max ∧ IsBound min ∧ IsBound max ∧
    r.min = Scalar.parse min ∧ r.max = Scalar.parse max ∧ r.min.compare r.max = some .lt

theorem check_eq_ok {r : ValueRange} : check r = .ok () ↔ r.min.compare r.max = some .lt := by
  rw [check]
  split
  · rename_i h
    exact iff_of_true rfl h
  · rename_i order h hcompare
    rw [hcompare]
    exact iff_of_false (fun h => by cases h) fun h' => h (Option.some.inj h')
  · rename_i hcompare
    rw [hcompare]
    exact iff_of_false (fun h => by cases h) fun h => by cases h

/-- **An item is read as a range exactly if it is written as one.** -/
theorem parseItem_eq_ok_iff {item : String} {r : ValueRange} :
    parseItem none item = .ok r ↔ Written item r := by
  constructor
  · intro h
    obtain ⟨parts, hparts, hmin, hmax, hlower, hupper, hcheck⟩ := parseItem_eq_ok h
    obtain ⟨hitem, hisMin, hisMax⟩ := split?_eq_some.mp hparts
    rw [hlower, hupper] at hitem
    exact ⟨parts.min, parts.max, hitem, hisMin, hisMax, (Except.ok.inj hmin).symm,
      (Except.ok.inj hmax).symm, check_eq_ok.mp hcheck⟩
  · rintro ⟨min, max, rfl, hisMin, hisMax, hmin, hmax, hless⟩
    have hsplit : split? (itemText r.minInclusive r.maxInclusive min max) =
        some ⟨min, max, r.minInclusive, r.maxInclusive⟩ := split?_eq_some.mpr ⟨rfl, hisMin, hisMax⟩
    refine Outcome.bind_eq_ok.mpr ⟨_, Outcome.orRefuse_eq_ok.mpr hsplit, ?_⟩
    refine Outcome.bind_eq_ok.mpr ⟨r.min, by rw [hmin]; rfl, ?_⟩
    refine Outcome.bind_eq_ok.mpr ⟨r.max, by rw [hmax]; rfl, ?_⟩
    exact Outcome.bind_eq_ok.mpr ⟨(), check_eq_ok.mpr hless, rfl⟩

/-- An item is written as one range only. -/
theorem Written.unique {item : String} {r r' : ValueRange} (h : Written item r)
    (h' : Written item r') : r = r' :=
  Except.ok.inj ((parseItem_eq_ok_iff.mpr h).symm.trans (parseItem_eq_ok_iff.mpr h'))

/-! ## Values -/

/-- **A value is accepted exactly if it has items and each is written as a range**, and its ranges
are those of its items. -/
theorem parse_eq_ok_iff {value : String} {rs : List ValueRange} :
    parse none value = .ok rs ↔ rs ≠ [] ∧ List.Forall₂ Written (Text.items value) rs := by
  have hitems : List.Forall₂ Written (Text.items value) rs ↔
      (Text.items value).mapM (parseItem none) = .ok rs := by
    rw [Outcome.mapM_eq_ok]
    exact ⟨fun h => h.imp fun _ _ => parseItem_eq_ok_iff.mpr,
      fun h => h.imp fun _ _ => parseItem_eq_ok_iff.mp⟩
  rw [hitems]
  constructor
  · exact fun h => (parse_eq_ok h).symm
  · rintro ⟨hne, hrs⟩
    refine Outcome.bind_eq_ok.mpr ⟨rs, hrs, ?_⟩
    rw [if_neg (by simpa using hne)]

theorem exists_parse_eq_ok_iff {value : String} : (∃ rs, parse none value = .ok rs) ↔
    Text.items value ≠ [] ∧ ∀ item ∈ Text.items value, ∃ r, Written item r := by
  constructor
  · rintro ⟨rs, h⟩
    obtain ⟨hrs, hne⟩ := parse_eq_ok h
    refine ⟨?_, fun item hitem => ?_⟩
    · intro hempty
      rw [hempty] at hrs
      cases hrs
      exact hne rfl
    · obtain ⟨r, hr⟩ := Outcome.exists_ok_of_mem_mapM hrs hitem
      exact ⟨r, parseItem_eq_ok_iff.mp hr⟩
  · rintro ⟨hne, h⟩
    obtain ⟨rs, hrs⟩ := Outcome.exists_mapM_ok (f := parseItem none) fun item hitem =>
      (h item hitem).imp fun _ hr => parseItem_eq_ok_iff.mpr hr
    refine ⟨rs, Outcome.bind_eq_ok.mpr ⟨rs, hrs, if_neg ?_⟩⟩
    rintro hempty
    obtain rfl := List.isEmpty_iff.mp hempty
    rw [Outcome.mapM_eq_ok, List.forall₂_nil_right_iff] at hrs
    exact hne hrs

end ValueRange

end GeoFacet
