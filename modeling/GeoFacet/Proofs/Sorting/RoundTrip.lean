import GeoFacet.Proofs.Sorting.Inversion
import GeoFacet.Proofs.Text.WholeNumber
import GeoFacet.Response.Hits

/-!
# Reading the cursor of a hit back

A cursor joins the sort values of a hit with commas and forgets which of them were texts. Reading it
cuts at every comma, trims the pieces and takes each for a number where it can. So the cursor of a
hit is refused exactly when one of its texts holds a comma or is blank, and gives the sort values
back exactly when every text is plain: without a comma, without white space at its ends, and not the
text of a number. Whole numbers always come back. Main statement: `Hit.parse_cursor`.
-/

namespace GeoFacet

/-! ## Sort values -/

/-- A sort value of a numeric field or of a keyword field: a whole number of the signed 64-bit range
or a text that is not empty. -/
def Json.IsSortValue : Json → Prop
  | .int n => Int64.minValue.toInt ≤ n ∧ n ≤ Int64.maxValue.toInt
  | .text s => s ≠ ""
  | _ => False

namespace Scalar

theorem toJson_eq_text_iff {v : Scalar} {s : String} : v.toJson = .text s ↔ v = .text s := by
  cases v with
  | float x =>
    rw [toJson, Json.ofFloat]
    split <;> simp
  | _ => simp [toJson]

/-- A raw text is read as a text if it is no number once it is trimmed. -/
theorem parse_eq_text_iff {raw s : String} :
    parse raw = .text s ↔ Text.trim raw = s ∧ readInt64? s = none ∧
      ∀ x, readFloat? s = some x → x.isFinite = false := by
  unfold parse
  dsimp only
  generalize Text.trim raw = t
  constructor
  · intro h
    split at h
    · cases h
    · rename_i hint
      split at h
      · rename_i x hfloat
        split at h
        · cases h
        · rename_i hfinite
          cases h
          refine ⟨rfl, hint, fun y hy => ?_⟩
          cases hfloat.symm.trans hy
          exact Bool.eq_false_iff.mpr hfinite
      · rename_i hfloat
        cases h
        exact ⟨rfl, hint, fun y hy => by cases hfloat.symm.trans hy⟩
  · rintro ⟨rfl, hint, hfinite⟩
    simp only [hint]
    cases hfloat : readFloat? t with
    | none => rfl
    | some x => simp [hfinite x hfloat]

end Scalar

namespace Cursor

/-- The piece of a cursor that stands for a value. -/
def piece : Json → String
  | .text s => s
  | v => v.print

/-- A piece at which a cursor comes apart, or that is nothing once it is trimmed. -/
def Breaks (s : String) : Prop := ',' ∈ s.toList ∨ Text.isBlank s = true

instance (s : String) : Decidable (Breaks s) := by unfold Breaks; infer_instance

/-- A text that is read from a cursor as itself. -/
structure Plain (s : String) : Prop where
  noComma : ',' ∉ s.toList
  trimmed : Text.trim s = s
  notWhole : readInt64? s = none
  notFinite : ∀ x, readFloat? s = some x → x.isFinite = false

theorem Plain.not_breaks {s : String} (h : Plain s) (hne : s ≠ "") : ¬Breaks s := by
  rintro (hcomma | hblank)
  · exact h.noComma hcomma
  · exact hne (h.trimmed ▸ Text.trim_of_isBlank hblank)

/-- A text without a comma that is read as itself, trimmed on the way, is plain. -/
theorem toJson_parse_trim_eq_text_iff {s : String} (hcomma : ',' ∉ s.toList) :
    (Scalar.parse (Text.trim s)).toJson = .text s ↔ Plain s := by
  rw [Scalar.toJson_eq_text_iff, Scalar.parse_eq_text_iff]
  constructor
  · rintro ⟨htrim, hwhole, hfinite⟩
    exact ⟨hcomma, Text.trim_eq_self_of_trim_trim htrim, hwhole, hfinite⟩
  · rintro ⟨-, htrim, hwhole, hfinite⟩
    exact ⟨by rw [htrim, htrim], hwhole, hfinite⟩

theorem toJson_parse_trim_toString {n : Int}
    (hn : Int64.minValue.toInt ≤ n ∧ n ≤ Int64.maxValue.toInt) :
    (Scalar.parse (Text.trim (toString n))).toJson = .int n := by
  have htrim := Text.trim_of_noSpace (Text.noSpace_toString_int n)
  unfold Scalar.parse
  simp only [htrim, readInt64?_toString hn, Scalar.toJson]

section Values

variable {v : Json}

/-- Only a text breaks a cursor. -/
theorem breaks_piece_iff (hv : v.IsSortValue) :
    Breaks (piece v) ↔ ∃ s, v = .text s ∧ Breaks s := by
  cases v with
  | int n =>
    refine ⟨fun h => ?_, fun ⟨_, h, _⟩ => (by cases h)⟩
    rcases h with hcomma | hblank
    · exact absurd hcomma (Text.noComma_toString_int n)
    · -- A blank text is trimmed to nothing, and nothing is no number.
      have htrim := Text.trim_of_noSpace (Text.noSpace_toString_int n)
      have hempty : toString n = "" := htrim ▸ Text.trim_of_isBlank hblank
      have hread := readInt64?_toString hv
      rw [hempty] at hread
      cases hread
  | text s =>
    refine ⟨fun h => ⟨s, rfl, h⟩, fun ⟨t, heq, h⟩ => ?_⟩
    cases heq
    exact h
  | _ => exact hv.elim

/-- A whole number comes back from its piece, and a text if it is plain. -/
theorem toJson_parse_trim_piece_iff (hv : v.IsSortValue) (hbreaks : ¬Breaks (piece v)) :
    (Scalar.parse (Text.trim (piece v))).toJson = v ↔ ∀ s, v = .text s → Plain s := by
  cases v with
  | int n => exact ⟨fun _ _ h => (by cases h), fun _ => toJson_parse_trim_toString hv⟩
  | text s =>
    have hcomma : ',' ∉ s.toList := (not_or.mp hbreaks).1
    refine (toJson_parse_trim_eq_text_iff hcomma).trans ⟨fun h t heq => ?_, fun h => h s rfl⟩
    cases heq
    exact h
  | _ => exact hv.elim

theorem exists_breaks_piece_iff {values : List Json} (hsort : ∀ v ∈ values, v.IsSortValue) :
    (∃ p ∈ values.map piece, Breaks p) ↔ ∃ s, .text s ∈ values ∧ Breaks s := by
  constructor
  · rintro ⟨p, hp, hbreaks⟩
    obtain ⟨v, hv, rfl⟩ := List.mem_map.mp hp
    obtain ⟨s, rfl, hbreaks⟩ := (breaks_piece_iff (hsort v hv)).mp hbreaks
    exact ⟨s, hv, hbreaks⟩
  · rintro ⟨s, hs, hbreaks⟩
    exact ⟨s, List.mem_map_of_mem hs, hbreaks⟩

/-- Reading the pieces of sort values gives them back if every text among them is plain. -/
theorem map_toJson_parse_trim_piece_iff {values : List Json} (hsort : ∀ v ∈ values, v.IsSortValue)
    (hbreaks : ∀ v ∈ values, ¬Breaks (piece v)) :
    (values.map fun v => (Scalar.parse (Text.trim (piece v))).toJson) = values ↔
      ∀ s, .text s ∈ values → Plain s := by
  have hpointwise := List.map_inj_left (l := values) (g := id)
    (f := fun v => (Scalar.parse (Text.trim (piece v))).toJson)
  rw [List.map_id] at hpointwise
  refine hpointwise.trans ⟨fun h s hs => ?_, fun h v hv => ?_⟩
  · exact (toJson_parse_trim_piece_iff (hsort _ hs) (hbreaks _ hs)).mp (h _ hs) s rfl
  · refine (toJson_parse_trim_piece_iff (hsort v hv) (hbreaks v hv)).mpr fun s heq => ?_
    exact h s (heq ▸ hv)

end Values

/-! ## Reading pieces -/

section Pieces

variable {keys : List SortKey} {idPath : String} {pieces : List String}

theorem parseValues_of_noDistance (hnone : keys.any SortKey.isDistance = false)
    (hlen : pieces.length = keys.length) :
    parseValues keys pieces = .ok (pieces.map Scalar.parse) := by
  induction keys generalizing pieces with
  | nil =>
    rw [List.length_eq_zero_iff.mp hlen]
    rfl
  | cons key keys ih =>
    obtain _ | ⟨raw, raws⟩ := pieces
    · cases hlen
    rw [List.any_cons, Bool.or_eq_false_iff] at hnone
    have hvalue : parseValue key raw = .ok (Scalar.parse raw) := by
      rw [parseValue, hnone.1]
      rfl
    rw [parseValues, hvalue, ih hnone.2 (Nat.succ.inj hlen)]
    rfl

theorem ne_nil_of_holdsField (hid : holdsField idPath keys = true)
    (hlen : pieces.length = keys.length) : pieces ≠ [] := by
  rintro rfl
  rw [List.length_eq_zero_iff.mp hlen.symm] at hid
  cases hid

/-- A piece that breaks the cursor makes the pieces too many or leaves one of them empty. -/
theorem parse_of_breaks (hid : holdsField idPath keys = true)
    (hlen : pieces.length = keys.length) (hbreaks : ∃ p ∈ pieces, Breaks p) :
    parse keys (",".intercalate pieces) idPath =
      refuse (.cursorSize (",".intercalate pieces) keys.length) := by
  have hne := ne_nil_of_holdsField hid hlen
  rw [parse, hid, if_neg (by simp)]
  dsimp only
  rw [if_pos]
  rw [List.length_map]
  by_cases hcomma : ∀ p ∈ pieces, ',' ∉ p.toList
  · right
    obtain ⟨p, hp, hbreaks⟩ := hbreaks
    have hblank := hbreaks.resolve_left (hcomma p hp)
    rw [Text.split_intercalate hne hcomma, List.any_eq_true]
    exact ⟨Text.trim p, List.mem_map_of_mem hp, by simp [Text.trim_of_isBlank hblank]⟩
  · -- A piece with a comma makes more pieces than there are keys.
    left
    push Not at hcomma
    obtain ⟨p, hp, hcomma⟩ := hcomma
    have hcount : 0 < (pieces.flatMap String.toList).count ',' :=
      List.count_pos_iff.mpr (List.mem_flatMap.mpr ⟨p, hp, hcomma⟩)
    rw [Text.length_split_intercalate hne, hlen]
    omega

/-- Pieces of which none breaks the cursor are read one by one. -/
theorem parse_of_not_breaks (hid : holdsField idPath keys = true)
    (hnone : keys.any SortKey.isDistance = false) (hlen : pieces.length = keys.length)
    (hbreaks : ∀ p ∈ pieces, ¬Breaks p) :
    parse keys (",".intercalate pieces) idPath =
      .ok (pieces.map fun p => Scalar.parse (Text.trim p)) := by
  have hsplit := Text.split_intercalate (ne_nil_of_holdsField hid hlen) fun p hp =>
    (not_or.mp (hbreaks p hp)).1
  have hany : (pieces.map Text.trim).any (· = "") = false := by
    rw [List.any_map, List.any_eq_false]
    intro p hp
    have hblank := (not_or.mp (hbreaks p hp)).2
    simpa [Text.trim_eq_empty_iff] using hblank
  have hlen' : (pieces.map Text.trim).length = keys.length := by rw [List.length_map, hlen]
  rw [parse, hid, if_neg (by simp), hsplit]
  dsimp only
  rw [if_neg (not_or.mpr ⟨not_not.mpr hlen', by rw [hany]; exact Bool.false_ne_true⟩),
    parseValues_of_noDistance hnone hlen', List.map_map, Function.comp_def]

end Pieces

theorem ofValues?_of_ne_nil {values : List Json} (hne : values ≠ []) :
    ofValues? values = some (",".intercalate (values.map piece)) := by
  rw [ofValues?, if_neg (by simpa using hne)]
  rfl

end Cursor

/-! ## The cursor of a hit -/

section Hit

variable {keys : List SortKey} {idPath : String} {h : Hit}

/-- **Which cursors are read back.** For keys that hold the identifier and no distance, and a hit
with one sort value for each key, the hit has a cursor. It is refused exactly when a text among the
values holds a comma or is blank, and it gives the sort values of the hit exactly when every text
among them is plain. -/
theorem Hit.parse_cursor (hid : Cursor.holdsField idPath keys = true)
    (hnone : keys.any SortKey.isDistance = false) (hlen : h.sort.length = keys.length)
    (hsort : ∀ v ∈ h.sort, v.IsSortValue) :
    ∃ cursor, h.cursor = some cursor ∧
      (Cursor.parse keys cursor idPath = refuse (.cursorSize cursor keys.length) ↔
        ∃ s, .text s ∈ h.sort ∧ Cursor.Breaks s) ∧
      ((Cursor.parse keys cursor idPath).map (·.map Scalar.toJson) = .ok h.sort ↔
        ∀ s, .text s ∈ h.sort → Cursor.Plain s) := by
  have hlen' : (h.sort.map Cursor.piece).length = keys.length := by rw [List.length_map, hlen]
  have hne : h.sort ≠ [] := by
    simpa using Cursor.ne_nil_of_holdsField hid hlen'
  refine ⟨_, Cursor.ofValues?_of_ne_nil hne, ?_⟩
  rw [← Cursor.exists_breaks_piece_iff hsort]
  -- A piece that breaks the cursor is found by the count; the others are read one by one.
  by_cases hbreaks : ∃ p ∈ h.sort.map Cursor.piece, Cursor.Breaks p
  · have hrefused := Cursor.parse_of_breaks hid hlen' hbreaks
    refine ⟨iff_of_true hrefused hbreaks, iff_of_false ?_ ?_⟩
    · rw [hrefused]
      exact fun h => by cases h
    · intro hplain
      obtain ⟨s, hs, hbreaks⟩ := (Cursor.exists_breaks_piece_iff hsort).mp hbreaks
      exact (hplain s hs).not_breaks (hsort _ hs) hbreaks
  · have hread := Cursor.parse_of_not_breaks hid hnone hlen' fun p hp h => hbreaks ⟨p, hp, h⟩
    have hwhole : ∀ v ∈ h.sort, ¬Cursor.Breaks (Cursor.piece v) := fun v hv h =>
      hbreaks ⟨_, List.mem_map_of_mem hv, h⟩
    refine ⟨iff_of_false ?_ hbreaks, ?_⟩
    · rw [hread]
      exact fun h => by cases h
    · rw [hread, ← Cursor.map_toJson_parse_trim_piece_iff hsort hwhole]
      simp only [Except.map, List.map_map, Function.comp_def, Except.ok.injEq]

/-- A hit whose sort values are a name and a number. -/
def namedHit (name : String) : Hit where
  id := .int 7
  geometry := none
  centroid := none
  timestamp := none
  custom := []
  data := .object [("id", .int 7), ("name", .text name)]
  sort := [.text name, .int 7]

def nameKeys : List SortKey := [.field "name" .desc, .field "id" .asc]

theorem isSortValue_namedHit {name : String} (hname : name ≠ "") :
    ∀ v ∈ (namedHit name).sort, v.IsSortValue := by
  have hseven : Int64.minValue.toInt ≤ 7 ∧ 7 ≤ Int64.maxValue.toInt := by decide
  simp only [namedHit, List.mem_cons, List.not_mem_nil, or_false, forall_eq_or_imp, forall_eq]
  exact ⟨hname, hseven⟩

/-- A plain name is read back, one with a comma is refused, and digits come back as a number. -/
theorem parse_cursor_names :
    (Cursor.parse nameKeys "ab,7" "id").map (·.map Scalar.toJson) = .ok [.text "ab", .int 7] ∧
      Cursor.parse nameKeys "a,b,7" "id" = refuse (.cursorSize "a,b,7" 2) ∧
      (Cursor.parse nameKeys "007,7" "id").map (·.map Scalar.toJson) ≠
        .ok [.text "007", .int 7] := by
  have hread (name : String) (hname : name ≠ "") :=
    @Hit.parse_cursor nameKeys "id" (namedHit name) (by decide) (by decide) rfl
      (isSortValue_namedHit hname)
  refine ⟨?_, ?_, ?_⟩
  · obtain ⟨cursor, hcursor, -, hplain⟩ := hread "ab" (by decide)
    obtain rfl : cursor = "ab,7" :=
      Option.some.inj (hcursor.symm.trans (by decide +kernel))
    refine hplain.mpr fun s hs => ?_
    have hs : s = "ab" := by simpa [namedHit] using hs
    subst hs
    exact ⟨by decide, by decide, by decide +kernel, fun x hx => by cases hx⟩
  · obtain ⟨cursor, hcursor, hrefused, -⟩ := hread "a,b" (by decide)
    obtain rfl : cursor = "a,b,7" :=
      Option.some.inj (hcursor.symm.trans (by decide +kernel))
    exact hrefused.mpr ⟨"a,b", List.mem_cons_self, by decide⟩
  · obtain ⟨cursor, hcursor, -, hplain⟩ := hread "007" (by decide)
    obtain rfl : cursor = "007,7" :=
      Option.some.inj (hcursor.symm.trans (by decide +kernel))
    intro hback
    have hnone := (hplain.mp hback "007" List.mem_cons_self).notWhole
    exact absurd hnone (by decide +kernel)

end Hit

end GeoFacet
