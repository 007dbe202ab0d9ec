import GeoFacet.Json.Selection
import GeoFacet.Proofs.Json.Decoding

/-!
# What the reader gives

A whole number that was read fits 64 bits, at any depth (`fits_of_read?`, `fits_of_readFor?`), so a
size that was decoded from a text can be written and read again.
-/

namespace GeoFacet.Json

/-- A whole number of the signed or unsigned 64-bit range. -/
def IsWord (n : Int) : Prop := -0x8000000000000000 ≤ n ∧ n < 0x10000000000000000

/-- Every whole number in the value fits 64 bits. -/
inductive Fits : Json → Prop
  | null : Fits .null
  | bool (b : Bool) : Fits (.bool b)
  | int {n : Int} : IsWord n → Fits (.int n)
  | float (x : Float) : Fits (.float x)
  | text (s : String) : Fits (.text s)
  | list {items : List Json} : (∀ v ∈ items, Fits v) → Fits (.list items)
  | object {members : List (String × Json)} : (∀ m ∈ members, Fits m.2) → Fits (.object members)

theorem NumberText.fits_value? {t : NumberText} {v : Json} (h : t.value? = some v) : Fits v := by
  simp only [NumberText.value?] at h
  generalize t.whole.foldl _ 0 = value at h
  generalize ht : t.negative = negative at h
  by_cases hwhole : t.fraction.isNone ∧ t.exponent.isNone ∧
      if negative = true then value ≠ 0 ∧ value ≤ UInt64.size / 2 else value < UInt64.size
  · rw [if_pos hwhole] at h
    cases h
    obtain ⟨-, -, hfits⟩ := hwhole
    apply Fits.int
    simp only [UInt64.size] at hfits
    cases negative <;> simp [IsWord] at hfits ⊢ <;> omega
  · rw [if_neg hwhole] at h
    obtain ⟨x, -, rfl⟩ := Option.map_eq_some_iff.mp h
    exact .float _

theorem fits_readNumber? {cs : List Char} {p : Json × List Char} (h : readNumber? cs = some p) :
    Fits p.1 := by
  obtain ⟨⟨t, rest⟩, -, h⟩ := Option.bind_eq_some_iff.mp h
  obtain ⟨v, hv, h⟩ := Option.bind_eq_some_iff.mp h
  cases h
  exact NumberText.fits_value? hv

/-- The reader gives numbers that fit, if all that it has gathered so far fit. -/
structure ReadsFitting (fuel : Nat) : Prop where
  value : ∀ depth cs p, readValue? fuel depth cs = some p → Fits p.1
  items : ∀ depth acc cs p, (∀ v ∈ acc, Fits v) → readItems? fuel depth acc cs = some p →
    ∀ v ∈ p.1, Fits v
  members : ∀ depth acc cs p, (∀ m ∈ acc, Fits m.2) → readMembers? fuel depth acc cs = some p →
    ∀ m ∈ p.1, Fits m.2

theorem readsFitting (fuel : Nat) : ReadsFitting fuel := by
  -- The three readers call each other with less fuel, so their claims are proved at once.
  induction fuel with
  | zero => constructor <;> intros <;> simp_all [readValue?, readItems?, readMembers?]
  | succ fuel ih =>
    constructor
    case value =>
      intro depth cs p h
      rw [readValue?] at h
      split at h
      · obtain ⟨q, -, rfl⟩ := Option.map_eq_some_iff.mp h
        exact .text _
      · split at h
        · cases h
        · split at h
          · cases h
            exact .list (by simp)
          · obtain ⟨q, hq, rfl⟩ := Option.map_eq_some_iff.mp h
            exact .list (ih.items _ _ _ _ (by simp) hq)
      · split at h
        · cases h
        · split at h
          · cases h
            exact .object (by simp)
          · obtain ⟨q, hq, rfl⟩ := Option.map_eq_some_iff.mp h
            exact .object (ih.members _ _ _ _ (by simp) hq)
      · obtain ⟨q, -, rfl⟩ := Option.map_eq_some_iff.mp h
        exact .null
      · obtain ⟨q, -, rfl⟩ := Option.map_eq_some_iff.mp h
        exact .bool _
      · obtain ⟨q, -, rfl⟩ := Option.map_eq_some_iff.mp h
        exact .bool _
      · exact fits_readNumber? h
    case items =>
      intro depth acc cs p hacc h
      rw [readItems?] at h
      split at h
      · cases h
      · rename_i v rest hv
        have hnew : ∀ u ∈ v :: acc, Fits u := by
          intro u hu
          rcases List.mem_cons.mp hu with rfl | hu
          · exact ih.value _ _ _ hv
          · exact hacc u hu
        split at h
        · exact ih.items _ _ _ _ hnew h
        · cases h
          exact fun u hu => hnew u (List.mem_reverse.mp hu)
        · cases h
    case members =>
      intro depth acc cs p hacc h
      rw [readMembers?] at h
      split at h
      · split at h
        · cases h
        · rename_i key rest _
          split at h
          · split at h
            · cases h
            · rename_i v rest hv
              have hnew : ∀ u ∈ (key, v) :: acc, Fits u.2 := by
                intro u hu
                rcases List.mem_cons.mp hu with rfl | hu
                · exact ih.value _ _ _ hv
                · exact hacc u hu
              split at h
              · exact ih.members _ _ _ _ hnew h
              · cases h
                exact fun u hu => hnew u (List.mem_reverse.mp hu)
              · cases h
          · cases h
      · cases h

theorem fits_readChosenMembers? {names : List String} {fuel : Nat} {acc : List (String × Json)}
    {cs : List Char} {p : List (String × Json) × List Char} (hacc : ∀ m ∈ acc, Fits m.2)
    (h : readChosenMembers? names fuel acc cs = some p) : ∀ m ∈ p.1, Fits m.2 := by
  induction fuel generalizing acc cs with
  | zero => cases h
  | succ fuel ih =>
    rw [readChosenMembers?] at h
    split at h
    · obtain ⟨⟨key, rest⟩, -, h⟩ := Option.bind_eq_some_iff.mp h
      dsimp only at h
      split at h
      · obtain ⟨⟨value, rest⟩, hvalue, h⟩ := Option.bind_eq_some_iff.mp h
        have hnew : ∀ m ∈ (value.map (key, ·)).toList ++ acc, Fits m.2 := by
          intro m hm
          rcases List.mem_append.mp hm with hm | hm
          · obtain ⟨v, rfl, rfl⟩ := Option.map_eq_some_iff.mp (Option.mem_toList.mp hm)
            -- A member that is not chosen is skipped, so only chosen ones have a value.
            simp only [readChosen?] at hvalue
            split at hvalue
            · obtain ⟨q, hq, heq⟩ := Option.map_eq_some_iff.mp hvalue
              cases heq
              exact (readsFitting _).value _ _ _ hq
            · obtain ⟨q, hq, heq⟩ := Option.map_eq_some_iff.mp hvalue
              cases heq
          · exact hacc m hm
        dsimp only at h
        split at h
        · exact ih hnew h
        · cases h
          exact fun m hm => hnew m (List.mem_reverse.mp hm)
        · cases h
      · cases h
    · cases h

/-- A document ends where nothing but blanks is left. -/
theorem fits_of_ended {o : Option (Json × List Char)} {v : Json} (ho : ∀ p, o = some p → Fits p.1)
    (h : (o.bind fun p => if (skipBlanks p.2).isEmpty then some p.1 else none) = some v) :
    Fits v := by
  obtain ⟨p, hp, h⟩ := Option.bind_eq_some_iff.mp h
  by_cases hrest : (skipBlanks p.2).isEmpty
  · rw [if_pos hrest] at h
    cases h
    exact ho p hp
  · rw [if_neg hrest] at h
    cases h

/-- A whole number in a value that was read fits 64 bits. -/
theorem fits_of_read? {text : String} {v : Json} (h : read? text = some v) : Fits v := by
  refine fits_of_ended (o := readValue? (2 * text.toList.length + 2) maxDepth text.toList)
    (fun p hp => (readsFitting _).value _ _ _ hp) ?_
  rw [← h]
  simp only [read?]
  cases readValue? (2 * text.toList.length + 2) maxDepth text.toList <;> rfl

/-- A whole number in the members that were chosen fits 64 bits. -/
theorem fits_of_readFor? {names : List String} {text : String} {v : Json}
    (h : readFor? names text = some v) : Fits v := by
  simp only [readFor?, Option.bind_eq_bind] at h
  split at h
  · split at h
    · refine fits_of_ended (fun p hp => ?_) h
      cases hp
      exact .object (by simp)
    · refine fits_of_ended (fun p hp => ?_) h
      obtain ⟨q, hq, rfl⟩ := Option.map_eq_some_iff.mp hp
      exact .object (fits_readChosenMembers? (by simp) hq)
  · exact fits_of_ended (fun p hp => (readsFitting _).value _ _ _ hp) h

/-! ## Decoding a value that fits -/

theorem Fits.asNat?_lt {v : Json} {n : Nat} (hv : v.Fits) (h : asNat? v = some n) :
    n < UInt64.size := by
  cases hv with
  | @int k hk =>
    rw [asNat?] at h
    split at h
    · cases h
      simp only [UInt64.size, IsWord] at hk ⊢
      omega
    · cases h
  | _ => cases h

theorem mem_of_lookup {fs : Fields} {name : String} {v : Json} (h : fs.lookup name = some v) :
    (name, v) ∈ fs := by
  obtain ⟨before, after, rfl, -⟩ := List.lookup_eq_some_iff.mp h
  simp

theorem Fits.objectFields? {v : Json} (hv : v.Fits) {names : List String} {fs : Fields}
    (h : v.objectFields? names = some fs) : fs.All Fits := by
  intro name u hu
  cases hv with
  | object hmembers =>
    simp only [Json.objectFields?] at h
    split at h
    · cases h
      exact hmembers _ (List.mem_filter.mp (mem_of_lookup hu)).1
    · cases h
  | _ => cases h

theorem Fits.fields? {v : Json} (hv : v.Fits) {names : List String} {fs : Fields}
    (h : v.fields? names = some fs) : fs.All Fits := by
  cases hv with
  | list hitems =>
    simp only [Json.fields?] at h
    split at h
    · cases h
      exact fun name u hu => hitems u (List.of_mem_zip (mem_of_lookup hu)).2
    · cases h
  | object hmembers => exact (Fits.object hmembers).objectFields? h
  | _ => cases h

/-- What holds of every item that is decoded from a fitting value holds of the items of a list. -/
theorem Fits.listOf? {α : Type} {P : α → Prop} {decode : Json → Option α} {v : Json} {as : List α}
    (hv : v.Fits) (hdecode : ∀ v a, v.Fits → decode v = some a → P a)
    (h : v.listOf? decode = some as) : ∀ a ∈ as, P a := by
  cases hv with
  | list hitems => exact forall_of_listOf? hitems hdecode h
  | _ => cases h

end GeoFacet.Json
