import GeoFacet.Json.Basic
import Mathlib.Data.List.Nodup

/-!
# Looking up the members of a built object

An object is built by putting its members one after another into an ascending list. A look-up in it
sees none of that order: where the keys are distinct, every key gives the value it was listed with.
Main statements: `get?_ofMembers` and `get?_ofPresent`.
-/

namespace GeoFacet.Json

/-! ## Association lists -/

section Association

variable {α : Type}

theorem lookup_cons_ite (l k : String) (v : α) (ms : List (String × α)) :
    ((l, v) :: ms).lookup k = if k = l then some v else ms.lookup k := by
  rw [List.lookup_cons]
  by_cases hk : k = l
  · rw [if_pos hk, beq_iff_eq.mpr hk]
  · rw [if_neg hk, beq_eq_false_iff_ne.mpr hk]

theorem lookup_eq_none_of_notMem {ms : List (String × α)} {k : String}
    (h : k ∉ ms.map Prod.fst) : ms.lookup k = none := by
  induction ms with
  | nil => rfl
  | cons m rest ih =>
    obtain ⟨l, v⟩ := m
    rw [List.map_cons, List.mem_cons, not_or] at h
    rw [lookup_cons_ite, if_neg h.1, ih h.2]

/-- Where the keys are distinct, each member is found under its key. -/
theorem lookup_of_mem {ms : List (String × α)} (h : (ms.map Prod.fst).Nodup) {k : String} {v : α}
    (hm : (k, v) ∈ ms) : ms.lookup k = some v := by
  induction ms with
  | nil => cases hm
  | cons m rest ih =>
    obtain ⟨l, w⟩ := m
    rw [List.map_cons, List.nodup_cons] at h
    rw [lookup_cons_ite]
    rcases List.mem_cons.mp hm with hfirst | hrest
    · cases hfirst
      rw [if_pos rfl]
    · have hne : k ≠ l := by
        rintro rfl
        exact h.1 (List.mem_map.mpr ⟨_, hrest, rfl⟩)
      rw [if_neg hne, ih h.2 hrest]

theorem lookup_reverse_of_nodup {ms : List (String × α)} (h : (ms.map Prod.fst).Nodup)
    (k : String) : ms.reverse.lookup k = ms.lookup k := by
  induction ms with
  | nil => rfl
  | cons m rest ih =>
    obtain ⟨l, v⟩ := m
    rw [List.map_cons, List.nodup_cons] at h
    rw [List.reverse_cons, List.lookup_append, ih h.2, lookup_cons_ite, lookup_cons_ite]
    by_cases hk : k = l
    · subst hk
      rw [lookup_eq_none_of_notMem h.1, if_pos rfl, if_pos rfl]
      rfl
    · rw [if_neg hk, if_neg hk, List.lookup_nil, Option.or_none]

end Association

/-! ## Objects -/

theorem insertMember_of_lt {key k : String} (h : key < k) (v w : Json)
    (rest : List (String × Json)) :
    insertMember key v ((k, w) :: rest) = (key, v) :: (k, w) :: rest := by
  rw [insertMember, if_pos h]

theorem insertMember_of_not_lt {key k : String} (h : ¬key < k) (hne : key ≠ k) (v w : Json)
    (rest : List (String × Json)) :
    insertMember key v ((k, w) :: rest) = (k, w) :: insertMember key v rest := by
  rw [insertMember, if_neg h, if_neg hne]

/-- Two members that were listed in descending order of their keys. -/
theorem ofMembers_swap {k l : String} (h : l < k) (v w : Json) :
    ofMembers [(k, v), (l, w)] = .object [(l, w), (k, v)] :=
  congrArg object (insertMember_of_lt h w v [])

theorem lookup_insertMember (key : String) (value : Json) (ms : List (String × Json))
    (k : String) :
    (insertMember key value ms).lookup k = if k = key then some value else ms.lookup k := by
  induction ms with
  | nil => exact lookup_cons_ite key k value []
  | cons m rest ih =>
    obtain ⟨l, v⟩ := m
    by_cases hlt : key < l
    · rw [insertMember, if_pos hlt, lookup_cons_ite]
    · by_cases heq : key = l
      · rw [insertMember, if_neg hlt, if_pos heq, lookup_cons_ite, lookup_cons_ite, ← heq]
        by_cases hk : k = key <;> simp [hk]
      · rw [insertMember, if_neg hlt, if_neg heq, lookup_cons_ite, lookup_cons_ite, ih]
        by_cases hk : k = key
        · rw [if_neg (hk ▸ heq : ¬k = l), if_pos hk, if_pos hk]
        · simp [hk]

/-- Of two members with one key the later one is found. -/
theorem lookup_foldl_insertMember (ms acc : List (String × Json)) (k : String) :
    (ms.foldl (fun acc m => insertMember m.1 m.2 acc) acc).lookup k =
      (ms.reverse.lookup k).or (acc.lookup k) := by
  induction ms generalizing acc with
  | nil => rfl
  | cons m rest ih =>
    obtain ⟨l, v⟩ := m
    rw [List.foldl_cons, ih, List.reverse_cons, List.lookup_append, lookup_insertMember,
      lookup_cons_ite, Option.or_assoc]
    by_cases hk : k = l <;> simp [hk]

/-- Where the keys are distinct, each gives its value. -/
theorem get?_ofMembers {ms : List (String × Json)} (h : (ms.map Prod.fst).Nodup) (k : String) :
    (ofMembers ms).get? k = ms.lookup k := by
  show (ms.foldl (fun acc m => insertMember m.1 m.2 acc) []).lookup k = ms.lookup k
  rw [lookup_foldl_insertMember, lookup_reverse_of_nodup h, List.lookup_nil, Option.or_none]

theorem perm_insertMember {key : String} {ms : List (String × Json)} (h : key ∉ ms.map Prod.fst)
    (value : Json) : (insertMember key value ms).Perm ((key, value) :: ms) := by
  induction ms with
  | nil => exact .refl _
  | cons m rest ih =>
    obtain ⟨l, v⟩ := m
    rw [List.map_cons, List.mem_cons, not_or] at h
    by_cases hlt : key < l
    · rw [insertMember_of_lt hlt]
    · rw [insertMember_of_not_lt hlt h.1]
      exact ((ih h.2).cons (l, v)).trans (.swap _ _ _)

/-- Where the keys are distinct, no member is lost and none is added. -/
theorem perm_members {ms : List (String × Json)} (h : (ms.map Prod.fst).Nodup) :
    (ofMembers ms).members.Perm ms := by
  have hfold : ∀ (ms acc : List (String × Json)), ((acc ++ ms).map Prod.fst).Nodup →
      (ms.foldl (fun acc m => insertMember m.1 m.2 acc) acc).Perm (acc ++ ms) := by
    intro ms
    induction ms with
    | nil => exact fun acc _ => (List.append_nil acc).symm ▸ .refl _
    | cons m rest ih =>
      intro acc hacc
      have hmiddle : (acc ++ m :: rest).Perm ((m :: acc) ++ rest) := List.perm_middle
      have hnew : m.1 ∉ acc.map Prod.fst := by
        have hnodup := (hmiddle.map Prod.fst).nodup_iff.mp hacc
        rw [List.cons_append, List.map_cons, List.nodup_cons, List.map_append,
          List.mem_append, not_or] at hnodup
        exact hnodup.1.1
      have hinsert := (perm_insertMember hnew m.2).append_right rest
      have hrest := ih _ (((hinsert.trans hmiddle.symm).map Prod.fst).nodup_iff.mpr hacc)
      exact hrest.trans (hinsert.trans hmiddle.symm)
  exact hfold ms [] h

theorem member_ofMembers {ms : List (String × Json)} (h : (ms.map Prod.fst).Nodup) (k : String) :
    (ofMembers ms).member k = (ms.lookup k).getD .null := by
  rw [member, get?_ofMembers h]

/-! ## Members that may be missing -/

section Present

variable {α : Type}

/-- The members that are present. -/
abbrev present (ms : List (String × Option α)) : List (String × α) :=
  ms.filterMap fun (k, v) => v.map (k, ·)

theorem mem_of_mem_present {ms : List (String × Option α)} {k : String}
    (h : k ∈ (present ms).map Prod.fst) : k ∈ ms.map Prod.fst := by
  obtain ⟨p, hp, rfl⟩ := List.mem_map.mp h
  obtain ⟨⟨l, v⟩, hm, hv⟩ := List.mem_filterMap.mp hp
  obtain ⟨w, -, rfl⟩ := Option.map_eq_some_iff.mp hv
  exact List.mem_map.mpr ⟨(l, v), hm, rfl⟩

theorem nodup_present {ms : List (String × Option α)} (h : (ms.map Prod.fst).Nodup) :
    ((present ms).map Prod.fst).Nodup := by
  induction ms with
  | nil => exact h
  | cons m rest ih =>
    obtain ⟨l, v⟩ := m
    rw [List.map_cons, List.nodup_cons] at h
    cases v with
    | none => exact ih h.2
    | some w => exact List.nodup_cons.mpr ⟨fun hl => h.1 (mem_of_mem_present hl), ih h.2⟩

theorem lookup_present {ms : List (String × Option α)} (h : (ms.map Prod.fst).Nodup)
    (k : String) : (present ms).lookup k = (ms.lookup k).join := by
  induction ms with
  | nil => rfl
  | cons m rest ih =>
    obtain ⟨l, v⟩ := m
    rw [List.map_cons, List.nodup_cons] at h
    rw [lookup_cons_ite]
    cases v with
    | none =>
      show (present rest).lookup k = _
      by_cases hk : k = l
      · rw [if_pos hk, lookup_eq_none_of_notMem fun hm => h.1 (hk ▸ mem_of_mem_present hm)]
        rfl
      · rw [if_neg hk, ih h.2]
    | some w =>
      show ((l, w) :: present rest).lookup k = _
      rw [lookup_cons_ite, ih h.2]
      by_cases hk : k = l <;> simp [hk]

end Present

/-- Where the keys are distinct, each gives its value if it has one. -/
theorem get?_ofPresent {ms : List (String × Option Json)} (h : (ms.map Prod.fst).Nodup)
    (k : String) : (ofPresent ms).get? k = (ms.lookup k).join := by
  rw [ofPresent, get?_ofMembers (nodup_present h), lookup_present h]

end GeoFacet.Json
