import GeoFacet.Proofs.Sorting.Inversion
import GeoFacet.Proofs.Text.WholeNumber

/-!
# Turning a sort round

The inverted specification is written from keys that were read, and read again where a page is
scanned the other way. A falling key is always read back from its sign and its name, if it has one;
a rising key is written as its bare name, so a name that begins with a sign is taken for another
key. A distance is read back wherever its two numbers are.

Main statement: `invert_reverses`.
-/

namespace GeoFacet

namespace SortKey

/-- A point on the globe whose numbers are read back from their text. -/
structure ReadablePoint (lat lon : Float) : Prop where
  globe : -90 ≤ lat ∧ lat ≤ 90 ∧ -180 ≤ lon ∧ lon ≤ 180
  lat_eq : readFloat? (plainText lat) = some lat
  lon_eq : readFloat? (plainText lon) = some lon

/-- The numbers of a key are read back from their text. -/
def ReadsBack : SortKey → Prop
  | .field .. => True
  | .distance lat lon _ =>
    readFloat? (plainText lat) = some lat ∧ readFloat? (plainText lon) = some lon

instance : (k : SortKey) → Decidable k.ReadsBack
  | .field .. => inferInstanceAs (Decidable True)
  | .distance .. => inferInstanceAs (Decidable (_ ∧ _))

/-- What a key has that was read from a token between commas, given that numbers are read back. -/
def OfToken : SortKey → Prop
  | .field name o => Nameable name ∧ (name = "" → o = .asc)
  | .distance lat lon _ => ReadablePoint lat lon

/-- The key turned round has a token of its own. -/
def Invertible : SortKey → Prop
  | .field name .asc => name ≠ ""
  | .field name .desc => Unsigned name
  | .distance .. => True

/-- The key has a token of its own in both orders. -/
def Plain : SortKey → Prop
  | .field name _ => name ≠ "" ∧ Unsigned name
  | .distance .. => True

instance : (k : SortKey) → Decidable k.Plain
  | .field .. => inferInstanceAs (Decidable (_ ∧ _))
  | .distance .. => inferInstanceAs (Decidable True)

@[simp] theorem inverted_inverted (k : SortKey) : k.inverted.inverted = k := by
  cases k <;> simp [inverted]

@[simp] theorem isDistance_inverted (k : SortKey) : k.inverted.isDistance = k.isDistance := by
  cases k <;> rfl

theorem Plain.invertible {k : SortKey} (h : k.Plain) : k.Invertible := by
  cases k with
  | field name o =>
    cases o with
    | asc => exact h.1
    | desc => exact h.2
  | distance => trivial

theorem ReadsBack.inverted {k : SortKey} (h : k.ReadsBack) : k.inverted.ReadsBack := by
  cases k <;> exact h

theorem Plain.inverted {k : SortKey} (h : k.Plain) : k.inverted.Plain := by
  cases k <;> exact h

/-! ## Distances -/

section Distances

variable {lat lon : Float}

theorem globe_of_readPoint? {text : String} (h : readPoint? text = some (lat, lon)) :
    -90 ≤ lat ∧ lat ≤ 90 ∧ -180 ≤ lon ∧ lon ≤ 180 := by
  unfold readPoint? at h
  split at h
  · split at h
    · rename_i hglobe
      cases h
      exact hglobe
    · cases h
  · cases h

theorem globe_of_parse {raw : String} {o : Order} (h : parse raw = .ok (.distance lat lon o)) :
    -90 ≤ lat ∧ lat ≤ 90 ∧ -180 ≤ lon ∧ lon ≤ 180 := by
  have hpoint {text : String} {o' : Order}
      (h : (orRefuse (.malformedDistance raw) (readPoint? text) >>= fun point =>
        .ok (distance point.1 point.2 o')) = .ok (distance lat lon o)) :
      readPoint? text = some (lat, lon) := by
    obtain ⟨point, hread, h⟩ := Outcome.bind_eq_ok.mp h
    cases h
    exact Outcome.orRefuse_eq_ok.mp hread
  unfold parse at h
  dsimp only at h
  split at h
  · cases h
  · split at h
    · exact globe_of_readPoint? (hpoint h)
    · split at h
      · exact globe_of_readPoint? (hpoint h)
      · cases h

/-- What stands before the blank in the token of a distance. -/
def distanceStart (lat : Float) (o : Order) : String :=
  (if o = .desc then "-" else "") ++ distanceTag ++ plainText lat

theorem display_distance (lat lon : Float) (o : Order) :
    display (.distance lat lon o) = distanceStart lat o ++ " " ++ plainText lon := by
  cases o <;> rfl

theorem noSpace_plainText (x : Float) : (plainText x).toList.any Text.isSpace = false := by
  rw [List.any_eq_false]
  intro c hc hspace
  refine notMem_plainText ?_ ?_ x hc
  · rintro (hdigit | rfl | rfl)
    · rw [Text.isSpace_of_isDigit hdigit] at hspace
      cases hspace
    · exact absurd hspace (by decide)
    · exact absurd hspace (by decide)
  · have hwords : "NaNinf".toList.any Text.isSpace = false := by decide
    exact fun hword => List.any_eq_false.mp hwords c hword hspace

theorem noSpace_distanceStart (lat : Float) (o : Order) :
    (distanceStart lat o).toList.any Text.isSpace = false := by
  have hstart :
      ((if o = .desc then "-" else "") ++ distanceTag).toList.any Text.isSpace = false := by
    cases o <;> decide
  rw [distanceStart, String.toList_append, List.any_append, hstart, noSpace_plainText]
  rfl

theorem distanceStart_ne_empty (lat : Float) (o : Order) : distanceStart lat o ≠ "" := by
  rw [distanceStart]
  simp [distanceTag]

theorem trim_display_distance (lat lon : Float) (o : Order) :
    Text.trim (display (.distance lat lon o)) = display (.distance lat lon o) := by
  rw [display_distance]
  exact Text.trim_pair (noSpace_distanceStart lat o) (noSpace_plainText lon)
    (distanceStart_ne_empty lat o) (plainText_ne_empty lon)

theorem ReadablePoint.readPoint?_eq (h : ReadablePoint lat lon) :
    readPoint? (plainText lat ++ " " ++ plainText lon) = some (lat, lon) := by
  rw [readPoint?, Text.words_pair (noSpace_plainText lat) (noSpace_plainText lon)
    (plainText_ne_empty lat) (plainText_ne_empty lon)]
  simp only [List.map_cons, List.map_nil, h.lat_eq, h.lon_eq]
  rw [if_pos h.globe]

theorem parse_display_distance (h : ReadablePoint lat lon) (o : Order) :
    parse (display (.distance lat lon o)) = .ok (.distance lat lon o) := by
  obtain ⟨point, hpoint⟩ : ∃ point, (plainText lat ++ " " ++ plainText lon).toList = point :=
    ⟨_, rfl⟩
  have hread : readPoint? (String.ofList point) = some (lat, lon) := by
    rw [← hpoint, String.ofList_toList, h.readPoint?_eq]
  have htag : Text.dropStart? distanceTag.toList (distanceTag.toList ++ point) = some point :=
    Text.dropStart?_append _ _
  have htoken : (display (.distance lat lon o)).toList =
      (if o = .desc then ['-'] else []) ++ (distanceTag.toList ++ point) := by
    rw [← hpoint]
    cases o <;> simp [display_distance, distanceStart]
  -- The tag alone is longer than the two tokens that are refused.
  have hlong : ¬(display (.distance lat lon o) = "" ∨ display (.distance lat lon o) = "-") := by
    have hlength : 12 ≤ (display (.distance lat lon o)).toList.length := by
      have htag : distanceTag.toList.length = 12 := rfl
      rw [htoken, List.length_append, List.length_append, htag]
      omega
    rintro (h | h) <;> rw [h] at hlength <;> exact absurd hlength (by decide)
  rw [parse]
  simp only [trim_display_distance]
  rw [if_neg hlong]
  cases o with
  | asc =>
    obtain ⟨c, rest, hc, hminus, hplus⟩ : ∃ c rest, distanceTag.toList ++ point = c :: rest ∧
        c ≠ '-' ∧ c ≠ '+' := ⟨'g', _, rfl, by decide, by decide⟩
    rw [hc] at htoken htag
    simp [htoken, htag, hread, hminus, hplus, orRefuse]
  | desc => simp [htoken, htag, hread, orRefuse]

/-- The token of a distance is not read as a field. -/
theorem parse_display_distance_ne (lat lon : Float) (o : Order) (name : String) (o' : Order) :
    parse (display (.distance lat lon o)) ≠ .ok (.field name o') := by
  intro h
  obtain ⟨-, hspace, -⟩ := token_of_parse h
  have hblank : Text.isSpace ' ' = true := by decide
  rw [trim_display_distance, display_distance] at hspace
  simp [hblank] at hspace

end Distances

/-! ## One key -/

section Field

variable {name name' : String} {o : Order}

/-- A rising key is written without a sign, so a sign that its name begins with is read as one. -/
theorem read_display_asc (hn : Nameable name)
    (h : parse (display (.field name .asc)) = .ok (.field name' o)) :
    name.toList = '-' :: name'.toList ∧ o = .desc ∨ name.toList = '+' :: name'.toList ∧ o = .asc ∨
      name = name' ∧ o = .asc ∧ Unsigned name := by
  obtain ⟨-, -, -, htoken⟩ := token_of_parse h
  rw [Text.trim_of_noSpace (noSpace_display hn .asc), toList_display_asc] at htoken
  refine htoken.imp_right (Or.imp_right ?_)
  rintro ⟨hname, ho, hs⟩
  obtain rfl := String.toList_inj.mp hname
  exact ⟨rfl, ho, hs⟩

/-- A falling key is written with a sign of its own. -/
theorem read_display_desc (hn : Nameable name)
    (h : parse (display (.field name .desc)) = .ok (.field name' o)) :
    name = name' ∧ o = .desc ∧ name ≠ "" := by
  obtain ⟨hminus, -, -, htoken⟩ := token_of_parse h
  rw [Text.trim_of_noSpace (noSpace_display hn .desc)] at hminus htoken
  have hne : name ≠ "" := by
    rintro rfl
    exact hminus rfl
  rw [toList_display_desc] at htoken
  rcases htoken with ⟨hname, ho⟩ | ⟨hname, -⟩ | ⟨hname, -, hs⟩
  · exact ⟨String.toList_inj.mp (List.cons.inj hname).2, ho, hne⟩
  · exact absurd (List.cons.inj hname).1 (by decide)
  · exact absurd (hname ▸ rfl) hs.1

end Field

/-- **A key turned round is read back exactly if it has a token of its own.** -/
theorem parse_inverted_iff {k : SortKey} (hk : k.OfToken) :
    parse k.inverted.display = .ok k.inverted ↔ k.Invertible := by
  cases k with
  | distance lat lon o => exact iff_of_true (parse_display_distance hk o.flip) trivial
  | field name o =>
    obtain ⟨hn, hempty⟩ := hk
    cases o with
    | asc => exact ⟨fun h => (read_display_desc hn h).2.2, parse_display_desc hn⟩
    | desc =>
      have hne : name ≠ "" := fun hname => nomatch hempty hname
      refine ⟨fun h => ?_, fun hs => parse_display_asc hn hs hne⟩
      rcases read_display_asc hn h with ⟨-, ho⟩ | ⟨hname, -⟩ | ⟨-, -, hs⟩
      · cases ho
      · exact absurd hname.symm (List.cons_ne_self _ _)
      · exact hs

/-- A key that comes back when it is turned round twice has a token of its own in both orders. -/
theorem plain_of_parse_twice {k k' : SortKey} (hk : k.OfToken)
    (hturned : parse k.inverted.display = .ok k') (hback : parse k'.inverted.display = .ok k) :
    k.Plain := by
  cases k with
  | distance lat lon o => trivial
  | field name o =>
    cases k' with
    | distance lat lon o' => exact absurd hback (parse_display_distance_ne lat lon o'.flip name o)
    | field name' o' =>
      obtain ⟨hn, hempty⟩ := hk
      have hn' : Nameable name' := (nameable_of_parse (noComma_display hn o.flip) hturned).1
      cases o with
      | asc =>
        obtain ⟨rfl, rfl, hne⟩ := read_display_desc hn hturned
        rcases read_display_asc hn hback with ⟨-, ho⟩ | ⟨hname, -⟩ | ⟨-, -, hs⟩
        · cases ho
        · exact absurd hname.symm (List.cons_ne_self _ _)
        · exact ⟨hne, hs⟩
      | desc =>
        rcases read_display_asc hn hturned with ⟨hname, rfl⟩ | ⟨hname, rfl⟩ | ⟨-, -, hs⟩
        · -- each turn would take a sign off, so the name would be shorter than itself
          rcases read_display_asc hn' hback with ⟨hname', -⟩ | ⟨-, ho⟩ | ⟨-, ho, -⟩
          · have hlength := congrArg List.length hname
            rw [hname'] at hlength
            simp at hlength
            omega
          · cases ho
          · cases ho
        · obtain ⟨rfl, -, -⟩ := read_display_desc hn' hback
          exact absurd hname.symm (List.cons_ne_self _ _)
        · exact ⟨(fun hname => nomatch hempty hname), hs⟩

end SortKey

namespace Sorting

open SortKey

variable {spec inverted : String} {keys : List SortKey}

theorem parse_eq_ok_iff : parse spec = .ok keys ↔
    List.Forall₂ (fun raw k => SortKey.parse raw = .ok k) (Text.split ',' spec) keys ∧
      (keys.filter isDistance).length ≤ 1 := by
  rw [← Outcome.mapM_eq_ok]
  constructor
  · intro h
    refine ⟨tokens_of_parse h, ?_⟩
    rw [parse, tokens_of_parse h, Outcome.ok_bind] at h
    split at h
    · cases h
    · omega
  · rintro ⟨hkeys, hone⟩
    rw [parse, hkeys, Outcome.ok_bind, if_neg (by omega)]

theorem ofToken_of_parse (h : parse spec = .ok keys) (hread : ∀ k ∈ keys, k.ReadsBack) :
    ∀ k ∈ keys, k.OfToken := by
  intro k hk
  obtain ⟨raw, hraw, hparse⟩ := Outcome.exists_of_mem_mapM (tokens_of_parse h) hk
  cases k with
  | field name o => exact SortKey.nameable_of_parse (Text.notMem_of_mem_split hraw) hparse
  | distance lat lon o =>
    obtain ⟨hlat, hlon⟩ := hread _ hk
    exact ⟨globe_of_parse hparse, hlat, hlon⟩

/-- **An inverted specification is read as the keys turned round** exactly if every key has a token
then. -/
theorem parse_eq_inverted_iff (h : parse spec = .ok keys) (hread : ∀ k ∈ keys, k.ReadsBack)
    (hsplit : Text.split ',' inverted = keys.map fun k => k.inverted.display) :
    parse inverted = .ok (keys.map SortKey.inverted) ↔ ∀ k ∈ keys, k.Invertible := by
  have hone : ((keys.map SortKey.inverted).filter isDistance).length ≤ 1 := by
    have hsame : isDistance ∘ SortKey.inverted = isDistance := by
      funext k
      exact isDistance_inverted k
    rw [List.filter_map, List.length_map, hsame]
    exact (parse_eq_ok_iff.mp h).2
  rw [parse_eq_ok_iff, hsplit, List.forall₂_map_left_iff, List.forall₂_map_right_iff,
    List.forall₂_same, and_iff_left hone]
  exact forall₂_congr fun k hk => parse_inverted_iff (ofToken_of_parse h hread k hk)

/-- **Inverting a sort.** Every specification that is read can be inverted. What is read then are
the same keys turned round exactly if each key has a token then, and inverting once more gives the
keys back exactly if each has a token in both orders. -/
theorem invert_reverses (h : parse spec = .ok keys) (hread : ∀ k ∈ keys, k.ReadsBack) :
    ∃ inverted, invert spec = .ok inverted ∧
      (parse inverted = .ok (keys.map SortKey.inverted) ↔ ∀ k ∈ keys, k.Invertible) ∧
      ((∃ again, invert inverted = .ok again ∧ parse again = .ok keys) ↔ ∀ k ∈ keys, k.Plain) := by
  obtain ⟨inverted, hinvert, hsplit⟩ := split_invert h
  have hiff := parse_eq_inverted_iff h hread hsplit
  refine ⟨inverted, hinvert, hiff, ?_, ?_⟩
  · rintro ⟨again, hagain, hkeys⟩ k hk
    obtain ⟨turned, hturned, -⟩ := Outcome.bind_eq_ok.mp hagain
    obtain ⟨again', hagain', hsplit'⟩ := split_invert hturned
    obtain rfl := Except.ok.inj (hagain.symm.trans hagain')
    have hfirst := (parse_eq_ok_iff.mp hturned).1
    have hsecond := (parse_eq_ok_iff.mp hkeys).1
    rw [hsplit, List.forall₂_map_left_iff] at hfirst
    rw [hsplit', List.forall₂_map_left_iff] at hsecond
    -- The key and its two turns stand at one place of the three specifications.
    obtain ⟨i, hi, rfl⟩ := List.mem_iff_getElem.mp hk
    have hi' : i < turned.length := hfirst.length_eq ▸ hi
    exact plain_of_parse_twice (ofToken_of_parse h hread _ hk) (hfirst.get hi hi')
      (hsecond.get hi' hi)
  · intro hplain
    have hparse := hiff.mpr fun k hk => (hplain k hk).invertible
    obtain ⟨again, hagain, hsplit'⟩ := split_invert hparse
    refine ⟨again, hagain, ?_⟩
    have hread' : ∀ k ∈ keys.map SortKey.inverted, k.ReadsBack :=
      List.forall_mem_map.mpr fun k hk => (hread k hk).inverted
    have hplain' : ∀ k ∈ keys.map SortKey.inverted, k.Invertible :=
      List.forall_mem_map.mpr fun k hk => (hplain k hk).inverted.invertible
    have hkeys := (parse_eq_inverted_iff hparse hread' hsplit').mpr hplain'
    simpa [List.map_map, Function.comp_def] using hkeys

/-- A falling key whose name begins with a minus sign is taken for another falling key. -/
example : (invert "--speed").toOption = some "-speed" := by decide +kernel

theorem invert_reverses_speed : ∃ keys inverted again,
    parse "-speed, geodistance:50 4,id" = .ok keys ∧ (∀ k ∈ keys, k.ReadsBack) ∧
      keys.map SortKey.isDescending = [true, false, false] ∧
      invert "-speed, geodistance:50 4,id" = .ok inverted ∧
      parse inverted = .ok (keys.map SortKey.inverted) ∧
      invert inverted = .ok again ∧ parse again = .ok keys := by
  obtain ⟨keys, hkeys, hp⟩ := Outcome.exists_of_any (o := parse "-speed, geodistance:50 4,id")
    (p := fun keys => decide (∀ k ∈ keys, k.ReadsBack) &&
      (keys.map SortKey.isDescending = [true, false, false] : Bool) && decide (∀ k ∈ keys, k.Plain))
    (by decide +kernel)
  obtain ⟨hp, hplain⟩ := Bool.and_eq_true_iff.mp hp
  obtain ⟨hread, horders⟩ := Bool.and_eq_true_iff.mp hp
  have hread : ∀ k ∈ keys, k.ReadsBack := of_decide_eq_true hread
  have hplain : ∀ k ∈ keys, k.Plain := of_decide_eq_true hplain
  obtain ⟨inverted, hinvert, hturned, hback⟩ := invert_reverses hkeys hread
  obtain ⟨again, hagain, hsame⟩ := hback.mpr hplain
  exact ⟨keys, inverted, again, hkeys, hread, of_decide_eq_true horders, hinvert,
    hturned.mpr fun k hk => (hplain k hk).invertible, hagain, hsame⟩

end Sorting

end GeoFacet
