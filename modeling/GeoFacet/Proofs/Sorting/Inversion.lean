import GeoFacet.Proofs.Decimal
import GeoFacet.Proofs.Outcome
import GeoFacet.Proofs.Text.Split
import GeoFacet.Sorting.Cursor

/-!
# Reading an inverted sort back

A page before a cursor is scanned in the inverted order, which is written down as a specification
and read again. The keys survive this wherever their names are neither empty nor begin with a sign:
`parse_invert`. A bare plus sign gives a key without a name, and the inverted specification of such
a key is refused: `parse_invert_of_empty`.
-/

namespace GeoFacet

namespace SortKey

/-! ## Names that a token gives -/

/-- What a name has that was read from a token between commas. -/
structure Nameable (name : String) : Prop where
  noComma : ',' ∉ name.toList
  noSpace : name.toList.any Text.isSpace = false
  noTag : Text.dropStart? distanceTag.toList name.toList = none

/-- The name does not begin with a sign. -/
def Unsigned (name : String) : Prop :=
  name.toList.head? ≠ some '-' ∧ name.toList.head? ≠ some '+'

instance (name : String) : Decidable (Unsigned name) := by unfold Unsigned; infer_instance

/-- What a field token says: a sign or none, and behind it the name of the field. -/
theorem token_of_parse {raw name : String} {o : Order} (h : parse raw = .ok (.field name o)) :
    Text.trim raw ≠ "-" ∧ (Text.trim raw).toList.any Text.isSpace = false ∧
      Text.dropStart? distanceTag.toList name.toList = none ∧
      ((Text.trim raw).toList = '-' :: name.toList ∧ o = .desc ∨
        (Text.trim raw).toList = '+' :: name.toList ∧ o = .asc ∨
        (Text.trim raw).toList = name.toList ∧ o = .asc ∧ Unsigned name) := by
  rw [parse] at h
  split at h
  · cases h
  · rename_i hsome
    rw [not_or] at hsome
    split at h
    rename_i order unsigned hsign
    split at h
    · obtain ⟨⟨lat, lon⟩, -, h⟩ := Outcome.bind_eq_ok.mp h
      cases h
    · rename_i htag
      split at h
      · obtain ⟨⟨lat, lon⟩, -, h⟩ := Outcome.bind_eq_ok.mp h
        cases h
      · rename_i hspace
        cases h
        rw [String.toList_ofList]
        refine ⟨hsome.2, Bool.eq_false_iff.mpr hspace, htag, ?_⟩
        -- The sign that was taken off says which of the three spellings was read.
        split at hsign <;> cases hsign
        · exact .inl ⟨‹_›, rfl⟩
        · exact .inr (.inl ⟨‹_›, rfl⟩)
        · rename_i hminus hplus
          refine .inr (.inr ⟨rfl, rfl, ?_, ?_⟩)
          · intro hhead
            rw [String.toList_ofList] at hhead
            exact hminus _ (List.eq_cons_of_mem_head? hhead)
          · intro hhead
            rw [String.toList_ofList] at hhead
            exact hplus _ (List.eq_cons_of_mem_head? hhead)

/-- A field token without its sign is its name, which is empty after a plus sign only. -/
theorem nameable_of_parse {raw name : String} {o : Order} (hraw : ',' ∉ raw.toList)
    (h : parse raw = .ok (.field name o)) : Nameable name ∧ (name = "" → o = .asc) := by
  obtain ⟨hminus, hspace, htag, htoken⟩ := token_of_parse h
  have hsub : ∀ c ∈ name.toList, c ∈ (Text.trim raw).toList := by
    intro c hc
    rcases htoken with ⟨ht, -⟩ | ⟨ht, -⟩ | ⟨ht, -⟩ <;> rw [ht]
    · exact List.mem_cons_of_mem '-' hc
    · exact List.mem_cons_of_mem '+' hc
    · exact hc
  refine ⟨⟨fun hc => hraw (Text.mem_of_mem_trim (hsub _ hc)), ?_, htag⟩, ?_⟩
  · rw [List.any_eq_false] at hspace ⊢
    exact fun c hc => hspace c (hsub c hc)
  · rintro rfl
    rcases htoken with ⟨ht, -⟩ | ⟨-, ho⟩ | ⟨-, ho⟩
    · exact absurd (String.toList_inj.mp ht) hminus
    · exact ho
    · exact ho.1

/-! ## Written keys -/

theorem toList_display_asc (name : String) : (display (.field name .asc)).toList = name.toList := by
  simp [display, isDescending, order]

theorem toList_display_desc (name : String) :
    (display (.field name .desc)).toList = '-' :: name.toList := by
  simp [display, isDescending, order]

theorem noSpace_display {name : String} (hn : Nameable name) (o : Order) :
    (display (.field name o)).toList.any Text.isSpace = false := by
  cases o with
  | asc => rw [toList_display_asc, hn.noSpace]
  | desc =>
    have hsign : Text.isSpace '-' = false := by decide
    rw [toList_display_desc, List.any_cons, hsign, hn.noSpace, Bool.or_false]

theorem noComma_display {name : String} (hn : Nameable name) (o : Order) :
    ',' ∉ (display (.field name o)).toList := by
  cases o with
  | asc => simpa [toList_display_asc] using hn.noComma
  | desc => simpa [toList_display_desc] using hn.noComma

/-- A key that was read from a token between commas is written without any, also turned round. -/
theorem noComma_inverted_of_parse {raw : String} {k : SortKey} (hraw : ',' ∉ raw.toList)
    (h : parse raw = .ok k) : ',' ∉ k.inverted.display.toList := by
  cases k with
  | field name o => exact noComma_display (nameable_of_parse hraw h).1 o.flip
  | distance lat lon o =>
    have hplain (x : Float) : ',' ∉ (plainText x).toList :=
      notMem_plainText (by decide) (by decide) x
    cases o <;>
      simp [inverted, Order.flip, display, isDescending, order, distanceTag, hplain]

theorem parse_display_asc {name : String} (hn : Nameable name) (hs : Unsigned name)
    (hne : name ≠ "") : parse (display (.field name .asc)) = .ok (.field name .asc) := by
  have htrim := Text.trim_of_noSpace (noSpace_display hn .asc)
  have hspace := noSpace_display hn .asc
  rw [parse]
  simp only [htrim, hspace]
  -- The name begins with a character that is no sign.
  obtain ⟨c, cs, hc⟩ := List.exists_cons_of_ne_nil (mt String.toList_eq_nil_iff.mp hne)
  have hminus : c ≠ '-' := fun h => hs.1 (by rw [hc, h]; rfl)
  have hplus : c ≠ '+' := fun h => hs.2 (by rw [hc, h]; rfl)
  have hd : display (.field name .asc) = name := String.toList_inj.mp (toList_display_asc name)
  have hname : name ≠ "-" := by
    intro h
    rw [h] at hc
    cases hc
    exact hminus rfl
  have htag := hn.noTag
  have hname' : String.ofList (c :: cs) = name := by rw [← hc, String.ofList_toList]
  rw [hc] at htag
  rw [hd, if_neg (not_or.mpr ⟨hne, hname⟩)]
  simp [hc, htag, hminus, hplus, hname']

theorem parse_display_desc {name : String} (hn : Nameable name) (hne : name ≠ "") :
    parse (display (.field name .desc)) = .ok (.field name .desc) := by
  have htrim := Text.trim_of_noSpace (noSpace_display hn .desc)
  have hspace := noSpace_display hn .desc
  have hd := toList_display_desc name
  have hlong : ¬(display (.field name .desc) = "" ∨ display (.field name .desc) = "-") := by
    rintro (h | h) <;> rw [h] at hd
    · cases hd
    · exact hne (String.toList_eq_nil_iff.mp (List.tail_eq_of_cons_eq hd).symm)
  rw [parse]
  simp only [htrim, hspace]
  rw [if_neg hlong]
  simp only [hd, hn.noTag, String.ofList_toList]
  rfl

theorem parse_display {name : String} (hn : Nameable name) (hs : Unsigned name) (hne : name ≠ "")
    (o : Order) : parse (display (.field name o)) = .ok (.field name o) := by
  cases o with
  | asc => exact parse_display_asc hn hs hne
  | desc => exact parse_display_desc hn hne

/-- A falling key without a name is written as a bare sign. -/
theorem parse_display_empty :
    parse (display (.field "" .desc)) = refuse (.malformedSortToken "-") := by
  rfl

/-- The key of a field with an order. -/
def ofField (f : String × Order) : SortKey := .field f.1 f.2

@[simp] theorem isDistance_ofField (f : String × Order) : (ofField f).isDistance = false := rfl

/-- The same field the other way round. -/
def turned (f : String × Order) : String × Order := (f.1, f.2.flip)

theorem inverted_ofField (f : String × Order) : (ofField f).inverted = ofField (turned f) := rfl

end SortKey

namespace Sorting

open SortKey

/-! ## Specifications -/

/-- The keys of a specification that was read are those of its tokens. -/
theorem tokens_of_parse {spec : String} {keys : List SortKey} (h : parse spec = .ok keys) :
    (Text.split ',' spec).mapM SortKey.parse = .ok keys := by
  rw [parse] at h
  obtain ⟨ks, hks, h⟩ := Outcome.bind_eq_ok.mp h
  split at h
  · cases h
  · cases h
    exact hks

theorem nameable_of_parse {spec : String} {fields : List (String × Order)}
    (h : parse spec = .ok (fields.map ofField)) :
    ∀ f ∈ fields, Nameable f.1 ∧ (f.1 = "" → f.2 = .asc) := by
  intro f hf
  have hkey : ofField f ∈ fields.map ofField := List.mem_map_of_mem hf
  obtain ⟨raw, hraw, hparse⟩ := Outcome.exists_of_mem_mapM (tokens_of_parse h) hkey
  exact SortKey.nameable_of_parse (Text.notMem_of_mem_split hraw) hparse

/-- A specification that was read has a key. -/
theorem ne_nil_of_parse {spec : String} {keys : List SortKey} (h : parse spec = .ok keys) :
    keys ≠ [] := by
  rintro rfl
  have htokens := Outcome.mapM_eq_ok.mp (tokens_of_parse h)
  rw [List.forall₂_nil_right_iff] at htokens
  exact Text.split_ne_nil ',' spec htokens

/-- A specification that was read is not blank. -/
theorem not_isBlank_of_parse {spec : String} {keys : List SortKey} (h : parse spec = .ok keys) :
    Text.isBlank spec = false := by
  by_contra hb
  rw [Bool.not_eq_false] at hb
  have hcomma : ',' ∉ spec.toList := fun hc => by
    have := List.all_eq_true.mp hb ',' hc
    exact absurd this (by decide)
  have hsplit : Text.split ',' spec = [spec] := by
    rw [Text.split, Text.splitList_of_notMem hcomma, List.map_singleton, String.ofList_toList]
  have htokens := Outcome.mapM_eq_ok.mp (tokens_of_parse h)
  rw [hsplit, List.forall₂_cons_left_iff] at htokens
  obtain ⟨key, -, hkey, -⟩ := htokens
  rw [SortKey.parse, Text.trim_of_isBlank hb, if_pos (.inl rfl)] at hkey
  cases hkey

/-! ## The inverted specification -/

section Invert

variable {spec : String} {fields : List (String × Order)}

/-- The tokens of the inverted specification are the written keys. -/
theorem split_invert {keys : List SortKey} (h : parse spec = .ok keys) :
    ∃ inverted, invert spec = .ok inverted ∧
      Text.split ',' inverted = keys.map fun k => k.inverted.display := by
  refine ⟨",".intercalate (keys.map fun k => k.inverted.display), ?_, ?_⟩
  · rw [invert, h]
    rfl
  · apply Text.split_intercalate
    · rw [Ne, List.map_eq_nil_iff]
      exact ne_nil_of_parse h
    · intro p hp
      obtain ⟨k, hk, rfl⟩ := List.mem_map.mp hp
      obtain ⟨raw, hraw, hparse⟩ := Outcome.exists_of_mem_mapM (tokens_of_parse h) hk
      exact noComma_inverted_of_parse (Text.notMem_of_mem_split hraw) hparse

theorem parse_of_fields (hsplit : Text.split ',' spec = fields.map fun f => (ofField f).display)
    (hf : ∀ f ∈ fields, SortKey.parse (ofField f).display = .ok (ofField f)) :
    parse spec = .ok (fields.map ofField) := by
  have hkeys : (Text.split ',' spec).mapM SortKey.parse = .ok (fields.map ofField) := by
    rw [hsplit, Outcome.mapM_map, Outcome.mapM_ok hf]
  have hnone : (fields.map ofField).filter isDistance = [] := by
    rw [List.filter_eq_nil_iff]
    intro k hk
    obtain ⟨f, -, rfl⟩ := List.mem_map.mp hk
    simp
  rw [parse, hkeys, Outcome.ok_bind, hnone]
  rfl

/-- **Inverting turns every key round.** Names that begin with a sign or are empty are left out. -/
theorem parse_invert (h : parse spec = .ok (fields.map ofField))
    (hs : ∀ f ∈ fields, Unsigned f.1) (hne : "" ∉ fields.map Prod.fst) :
    ∃ inverted, invert spec = .ok inverted ∧
      parse inverted = .ok ((fields.map turned).map ofField) := by
  obtain ⟨inverted, hinv, hsplit⟩ := split_invert h
  refine ⟨inverted, hinv, parse_of_fields ?_ ?_⟩
  · simp only [hsplit, List.map_map, Function.comp_def, inverted_ofField]
  · intro f hf
    obtain ⟨g, hg, rfl⟩ := List.mem_map.mp hf
    have hname : g.1 ≠ "" := fun heq => hne (heq ▸ List.mem_map_of_mem hg)
    exact parse_display (nameable_of_parse h g hg).1 (hs g hg) hname g.2.flip

/-- **A key without a name cannot be inverted.** It was written as a plus sign, and turned round it
becomes a bare minus sign, which is no token. -/
theorem parse_invert_of_empty (h : parse spec = .ok (fields.map ofField))
    (hs : ∀ f ∈ fields, Unsigned f.1) (hempty : "" ∈ fields.map Prod.fst) :
    ∃ inverted, invert spec = .ok inverted ∧
      parse inverted = refuse (.malformedSortToken "-") := by
  obtain ⟨inverted, hinv, hsplit⟩ := split_invert h
  refine ⟨inverted, hinv, ?_⟩
  -- The first key without a name; those before it are read back.
  obtain ⟨f, hf⟩ : ∃ f, fields.find? (fun f => f.1 = "") = some f := by
    rw [← Option.isSome_iff_exists, List.find?_isSome]
    obtain ⟨f, hf, hname⟩ := List.mem_map.mp hempty
    exact ⟨f, hf, decide_eq_true hname⟩
  obtain ⟨hname, before, rest, rfl, hbefore⟩ := List.find?_eq_some_iff_append.mp hf
  have hname : f.1 = "" := of_decide_eq_true hname
  have hasc := (nameable_of_parse h f (by simp)).2 hname
  have hfail : SortKey.parse (ofField (turned f)).display = refuse (.malformedSortToken "-") := by
    rw [ofField, turned, hname, hasc]
    exact parse_display_empty
  have hread : ∀ g ∈ before,
      SortKey.parse (ofField (turned g)).display = .ok (ofField (turned g)) := by
    intro g hg
    have hmem : g ∈ before ++ f :: rest := List.mem_append_left _ hg
    have hne : g.1 ≠ "" := by simpa using hbefore g hg
    exact parse_display (nameable_of_parse h g hmem).1 (hs g hmem) hne g.2.flip
  simp only [inverted_ofField, List.map_map, Function.comp_def] at hsplit
  rw [parse, hsplit, Outcome.mapM_map,
    Outcome.mapM_append_error (fun g hg => ⟨_, hread g hg⟩) hfail]
  rfl

end Invert

end Sorting

/-! ## Cursors -/

namespace Cursor

open SortKey

theorem length_of_parseValues {keys : List SortKey} {raws : List String} {values : List Scalar}
    (hraws : raws.length = keys.length) (h : parseValues keys raws = .ok values) :
    values.length = keys.length := by
  induction keys generalizing raws values with
  | nil =>
    cases h
    rfl
  | cons key keys ih =>
    obtain _ | ⟨raw, raws⟩ := raws
    · cases hraws
    obtain ⟨v, -, h⟩ := Outcome.bind_eq_ok.mp h
    obtain ⟨vs, hvs, h⟩ := Outcome.bind_eq_ok.mp h
    cases h
    rw [List.length_cons, List.length_cons, ih (Nat.succ.inj hraws) hvs]

/-- A cursor gives one value for each key. -/
theorem length_of_parse {keys : List SortKey} {cursor idPath : String} {values : List Scalar}
    (h : parse keys cursor idPath = .ok values) : values.length = keys.length := by
  rw [parse] at h
  split at h
  · cases h
  · dsimp only at h
    split at h
    · cases h
    · rename_i hsize
      rw [not_or, not_not] at hsize
      exact length_of_parseValues hsize.1 h

theorem parseValues_turned (fields : List (String × Order)) (raws : List String) :
    parseValues ((fields.map turned).map ofField) raws = parseValues (fields.map ofField) raws := by
  induction fields generalizing raws with
  | nil => rfl
  | cons f fs ih =>
    cases raws with
    | nil => rfl
    | cons raw raws =>
      rw [List.map_cons, List.map_cons, List.map_cons, parseValues, parseValues, ih]
      rfl

theorem holdsField_ofField {path : String} {fields : List (String × Order)} :
    holdsField path (fields.map ofField) = true ↔ path ∈ fields.map Prod.fst := by
  rw [holdsField, List.any_map, List.any_eq_true, List.mem_map]
  refine exists_congr fun f => and_congr_right fun _ => ?_
  exact decide_eq_true_iff

/-- A cursor is read alike in both directions. -/
theorem parse_turned {fields : List (String × Order)} {idPath : String}
    (hid : idPath ∈ fields.map Prod.fst) (cursor : String) :
    parse ((fields.map turned).map ofField) cursor idPath =
      parse (fields.map ofField) cursor idPath := by
  have hid' : idPath ∈ (fields.map turned).map Prod.fst := by
    rw [List.map_map]
    exact hid
  simp only [parse, holdsField_ofField.mpr hid, holdsField_ofField.mpr hid', parseValues_turned,
    List.length_map]
  simp

end Cursor

end GeoFacet
