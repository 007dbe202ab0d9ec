import GeoFacet.Json.Decode
import GeoFacet.Proofs.Json.Members
import Mathlib.Data.String.Basic

/-!
# Decoding what was encoded

A decoder inverts an encoder if it gives back every value that was encoded (`Json.Inverts`). The
parts of a structure are inverted one by one: words, lists, maps, and fields that are required, have
a default or are optional. A structure is encoded as an object with its fields as members, in any
order and among members of other structures; `Json.bind_objectFields?` gives its fields back.

A map is encoded as an object. It comes back if its entries are ascending, which those of every
decoded map are (`ascending_of_mapOf?`).
-/

namespace GeoFacet

/-- Every word is found by its name. -/
class LawfulVocabulary (α : Type) [Vocabulary α] : Prop where
  ofName?_name : ∀ a : α, Vocabulary.ofName? (Vocabulary.name a) = some a

namespace Json

/-! ## Values -/

section Values

variable {α : Type} {decode : Json → Option α} {encode : α → Json}

/-- Decoding gives back every value that was encoded. -/
def Inverts (decode : Json → Option α) (encode : α → Json) : Prop :=
  ∀ a, decode (encode a) = some a

theorem inverts_text : Inverts asText? Json.text := fun _ => rfl

theorem inverts_bool : Inverts asBool? Json.bool := fun _ => rfl

theorem inverts_nat : Inverts asNat? ofNat := by
  intro n
  rw [ofNat, asNat?, if_pos (Int.natCast_nonneg n), Int.toNat_natCast]

theorem inverts_word [Vocabulary α] [LawfulVocabulary α] (emptyIsNull : Bool) :
    Inverts (word? emptyIsNull) (ofWord : α → Json) :=
  LawfulVocabulary.ofName?_name

/-- A list comes back if each of its items does. -/
theorem listOf?_list {as : List α} (h : ∀ a ∈ as, decode (encode a) = some a) :
    listOf? decode (.list (as.map encode)) = some as := by
  show (as.map encode).mapM decode = some as
  induction as with
  | nil => rfl
  | cons a as ih =>
    rw [List.map_cons, List.mapM_cons, h a List.mem_cons_self,
      ih fun b hb => h b (List.mem_cons_of_mem a hb)]
    rfl

theorem Inverts.list (h : Inverts decode encode) :
    Inverts (listOf? decode) fun as => .list (as.map encode) :=
  fun _ => listOf?_list fun a _ => h a

/-- What holds of all that is decoded from the items of a list holds of the decoded list. -/
theorem forall_of_listOf? {R : Json → Prop} {P : α → Prop} {items : List Json} {as : List α}
    (hitems : ∀ v ∈ items, R v) (hdecode : ∀ v a, R v → decode v = some a → P a)
    (h : listOf? decode (.list items) = some as) : ∀ a ∈ as, P a := by
  replace h : items.mapM decode = some as := h
  induction items generalizing as with
  | nil =>
    cases h
    simp
  | cons v items ih =>
    rw [List.mapM_cons] at h
    obtain ⟨a, ha, h⟩ := Option.bind_eq_some_iff.mp h
    obtain ⟨rest, hrest, h⟩ := Option.bind_eq_some_iff.mp h
    cases h
    intro b hb
    rcases List.mem_cons.mp hb with rfl | hb
    · exact hdecode v _ (hitems v List.mem_cons_self) ha
    · exact ih (fun u hu => hitems u (List.mem_cons_of_mem v hu)) hrest b hb

end Values

/-! ## Fields -/

theorem distinctKeys_of_nodup {ms : List (String × Json)} (h : (ms.map Prod.fst).Nodup) :
    distinctKeys ms = true := by
  induction ms with
  | nil => rfl
  | cons m ms ih =>
    obtain ⟨k, v⟩ := m
    rw [List.map_cons, List.nodup_cons] at h
    have hnew : ms.any (·.1 == k) = false := by
      rw [List.any_eq_false]
      intro m hm heq
      exact h.1 (List.mem_map.mpr ⟨m, hm, beq_iff_eq.mp heq⟩)
    rw [distinctKeys, hnew, ih h.2]
    rfl

/-- The members of an object that a structure knows. -/
def known (names : List String) (ms : List (String × Json)) : Fields :=
  (ofMembers ms).members.filter fun m => names.contains m.1

theorem objectFields?_ofMembers {ms : List (String × Json)} (h : (ms.map Prod.fst).Nodup)
    (names : List String) : objectFields? names (ofMembers ms) = some (known names ms) := by
  have hdistinct : ((known names ms).map Prod.fst).Nodup :=
    (((perm_members h).map Prod.fst).nodup_iff.mpr h).sublist (List.filter_sublist.map Prod.fst)
  show (if distinctKeys (known names ms) then some (known names ms) else none) = _
  rw [if_pos (distinctKeys_of_nodup hdistinct)]

theorem lookup_filter {names : List String} {k : String} (hk : names.contains k = true)
    (ms : List (String × Json)) :
    (ms.filter fun m => names.contains m.1).lookup k = ms.lookup k := by
  induction ms with
  | nil => rfl
  | cons m ms ih =>
    obtain ⟨l, v⟩ := m
    rw [List.filter_cons, lookup_cons_ite]
    by_cases hkl : k = l
    · subst hkl
      rw [if_pos hk, if_pos rfl, lookup_cons_ite, if_pos rfl]
    · rw [if_neg hkl]
      split
      · rw [lookup_cons_ite, if_neg hkl, ih]
      · exact ih

/-- A known field has the value that the member was listed with. -/
theorem lookup_known {ms : List (String × Json)} (h : (ms.map Prod.fst).Nodup)
    {names : List String} {k : String} (hk : names.contains k = true) :
    (known names ms).lookup k = ms.lookup k := by
  rw [known, lookup_filter hk]
  exact get?_ofMembers h k

/-- The only member of its key is known alone. -/
theorem known_cons {k : String} {v : Json} {ms : List (String × Json)}
    (h : (((k, v) :: ms).map Prod.fst).Nodup) : known [k] ((k, v) :: ms) = [(k, v)] := by
  have hothers : ms.filter (fun m => [k].contains m.1) = [] := by
    rw [List.filter_eq_nil_iff]
    intro m hm hmem
    have hk : m.1 = k := by simpa using hmem
    exact (List.nodup_cons.mp h).1 (List.mem_map.mpr ⟨m, hm, hk⟩)
  have hperm := (perm_members h).filter fun m => [k].contains m.1
  rw [List.filter_cons_of_pos (by simp), hothers] at hperm
  exact List.perm_singleton.mp hperm

theorem objectFields?_single {k : String} {v : Json} {ms : List (String × Json)}
    (h : (((k, v) :: ms).map Prod.fst).Nodup) :
    objectFields? [k] (ofMembers ((k, v) :: ms)) = some [(k, v)] := by
  rw [objectFields?_ofMembers h, known_cons h]

/-- A structure is decoded from its fields, which have the values that the members were listed
with. -/
theorem bind_objectFields? {α : Type} {ms : List (String × Json)} {names : List String}
    {f : Fields → Option α} {a : α} (keys : List String) (hkeys : ms.map Prod.fst = keys)
    (hdistinct : keys.Nodup)
    (hf : ∀ fs : Fields, (∀ k, names.contains k = true → fs.lookup k = ms.lookup k) →
      f fs = some a) : (objectFields? names (ofMembers ms) >>= f) = some a := by
  rw [← hkeys] at hdistinct
  rw [objectFields?_ofMembers hdistinct]
  exact hf _ fun k => lookup_known hdistinct

theorem bind_fields? {α : Type} {ms : List (String × Json)} {names : List String}
    {f : Fields → Option α} {a : α} (keys : List String) (hkeys : ms.map Prod.fst = keys)
    (hdistinct : keys.Nodup)
    (hf : ∀ fs : Fields, (∀ k, names.contains k = true → fs.lookup k = ms.lookup k) →
      f fs = some a) : (fields? names (ofMembers ms) >>= f) = some a :=
  bind_objectFields? keys hkeys hdistinct hf

end Json

namespace Fields

variable {α : Type} {fs : Fields} {name : String} {decode : Json → Option α} {encode : α → Json}
  {a : α}

theorem required_of (h : Json.Inverts decode encode) (hfield : fs.lookup name = some (encode a)) :
    fs.required name decode = some a := by
  rw [required, hfield, Option.bind_some, h]

theorem defaulted_eq {v : Json} (hfield : fs.lookup name = some v) (default : α) :
    fs.defaulted name default decode = decode v := by
  rw [defaulted, hfield]

theorem defaulted_of (h : Json.Inverts decode encode) (hfield : fs.lookup name = some (encode a))
    (default : α) : fs.defaulted name default decode = some a := by
  rw [defaulted_eq hfield, h]

/-- An optional field is null if it has no value, so its values must not be null. -/
theorem optional_of (h : Json.Inverts decode encode) (hnull : ∀ a, encode a ≠ .null)
    {o : Option α} (hfield : fs.lookup name = some (.ofOption encode o)) :
    fs.optional name decode = some o := by
  rw [optional, hfield]
  cases o with
  | none => rfl
  | some a =>
    have hvalue := h a
    have hgiven := hnull a
    simp only [Json.ofOption, Option.map_some, Option.getD_some]
    generalize encode a = v at hvalue hgiven
    cases v with
    | null => exact absurd rfl hgiven
    | _ => simp only [hvalue, Option.map_some]

/-- Every value that was given has a property. -/
def All (R : Json → Prop) (fs : Fields) : Prop := ∀ name v, fs.lookup name = some v → R v

variable {R : Json → Prop} {P : α → Prop} (hfs : fs.All R)
  (hdecode : ∀ v a, R v → decode v = some a → P a)

include hfs hdecode

theorem All.required (h : fs.required name decode = some a) : P a := by
  obtain ⟨v, hv, h⟩ := Option.bind_eq_some_iff.mp h
  exact hdecode v a (hfs name v hv) h

theorem All.defaulted {default : α} (hdefault : P default)
    (h : fs.defaulted name default decode = some a) : P a := by
  rw [Fields.defaulted] at h
  split at h
  · cases h
    exact hdefault
  · rename_i v hv
    exact hdecode v a (hfs name v hv) h

theorem All.optional {o : Option α} (h : fs.optional name decode = some o) : ∀ a ∈ o, P a := by
  rw [Fields.optional] at h
  split at h
  · cases h
    simp
  · cases h
    simp
  · rename_i v _ hv
    obtain ⟨b, hb, rfl⟩ := Option.map_eq_some_iff.mp h
    intro a ha
    cases ha
    exact hdecode v b (hfs name v hv) hb

end Fields

/-! ## Maps -/

namespace Json

section Maps

variable {α : Type}

/-- Entries in ascending order of their keys, each key once. -/
def Ascending (entries : List (String × α)) : Prop := entries.Pairwise fun e e' => e.1 < e'.1

theorem insertEntry_of_gt {key : String} {entries : List (String × α)}
    (h : ∀ e ∈ entries, e.1 < key) (a : α) : insertEntry key a entries = entries ++ [(key, a)] := by
  induction entries with
  | nil => rfl
  | cons e entries ih =>
    have hlt : e.1 < key := h e List.mem_cons_self
    rw [insertEntry, if_neg (lt_asymm hlt), if_neg (ne_of_gt hlt),
      ih fun e' he' => h e' (List.mem_cons_of_mem e he')]
    rfl

theorem mem_of_mem_insertEntry {key : String} {a : α} {entries : List (String × α)}
    {e : String × α} (h : e ∈ insertEntry key a entries) : e = (key, a) ∨ e ∈ entries := by
  induction entries with
  | nil => exact .inl (List.mem_singleton.mp h)
  | cons e' entries ih =>
    rw [insertEntry] at h
    split at h
    · exact List.mem_cons.mp h
    · split at h
      · rcases List.mem_cons.mp h with h | h
        · exact .inl h
        · exact .inr (List.mem_cons_of_mem e' h)
      · rcases List.mem_cons.mp h with h | h
        · exact .inr (h ▸ List.mem_cons_self)
        · exact (ih h).imp id (List.mem_cons_of_mem e')

theorem ascending_insertEntry {entries : List (String × α)} (h : Ascending entries) (key : String)
    (a : α) : Ascending (insertEntry key a entries) := by
  induction entries with
  | nil => exact List.pairwise_singleton _ _
  | cons e entries ih =>
    obtain ⟨hfirst, hrest⟩ := List.pairwise_cons.mp h
    rw [insertEntry]
    by_cases hlt : key < e.1
    · rw [if_pos hlt]
      refine List.pairwise_cons.mpr ⟨fun e' he' => ?_, h⟩
      rcases List.mem_cons.mp he' with rfl | he'
      · exact hlt
      · exact lt_trans hlt (hfirst e' he')
    · by_cases heq : key = e.1
      · rw [if_neg hlt, if_pos heq]
        exact List.pairwise_cons.mpr ⟨fun e' he' => heq ▸ hfirst e' he', hrest⟩
      · rw [if_neg hlt, if_neg heq]
        -- An entry of the rest is the new one, which is greater, or one of those that were there.
        refine List.pairwise_cons.mpr ⟨fun e' he' => ?_, ih hrest⟩
        rcases mem_of_mem_insertEntry he' with rfl | he'
        · exact lt_of_le_of_ne (not_lt.mp hlt) (Ne.symm heq)
        · exact hfirst e' he'

/-- The map of some entries, put in one after another. -/
def gathered (entries acc : List (String × α)) : List (String × α) :=
  entries.foldl (fun acc e => insertEntry e.1 e.2 acc) acc

theorem ascending_gathered (entries : List (String × α)) {acc : List (String × α)}
    (h : Ascending acc) : Ascending (gathered entries acc) := by
  induction entries generalizing acc with
  | nil => exact h
  | cons e entries ih => exact ih (ascending_insertEntry h e.1 e.2)

/-- Ascending entries are gathered as they stand. -/
theorem gathered_of_ascending {entries acc : List (String × α)} (h : Ascending (acc ++ entries)) :
    gathered entries acc = acc ++ entries := by
  induction entries generalizing acc with
  | nil => exact (List.append_nil acc).symm
  | cons e entries ih =>
    have hbefore : ∀ e' ∈ acc, e'.1 < e.1 := fun e' he' =>
      (List.pairwise_append.mp h).2.2 e' he' e List.mem_cons_self
    show gathered entries (insertEntry e.1 e.2 acc) = _
    rw [insertEntry_of_gt hbefore, ih (by rwa [List.append_assoc]), List.append_assoc]
    rfl

theorem insertMember_eq_insertEntry (key : String) (value : Json) (ms : List (String × Json)) :
    insertMember key value ms = insertEntry key value ms := by
  induction ms with
  | nil => rfl
  | cons m ms ih => rw [insertMember, insertEntry, ih]

theorem ofMembers_eq_gathered (ms : List (String × Json)) :
    ofMembers ms = .object (gathered ms []) := by
  rw [ofMembers, gathered]
  simp only [insertMember_eq_insertEntry]

/-- Ascending members stay as they stand. -/
theorem ofMembers_of_ascending {ms : List (String × Json)} (h : Ascending ms) :
    ofMembers ms = .object ms :=
  (ofMembers_eq_gathered ms).trans (congrArg object (gathered_of_ascending h))

theorem mem_of_mem_gathered {entries acc : List (String × α)} {e : String × α}
    (h : e ∈ gathered entries acc) : e ∈ entries ∨ e ∈ acc := by
  induction entries generalizing acc with
  | nil => exact .inr h
  | cons e' entries ih =>
    rcases ih h with h | h
    · exact .inl (List.mem_cons_of_mem e' h)
    · rcases mem_of_mem_insertEntry h with rfl | h
      · exact .inl List.mem_cons_self
      · exact .inr h

/-- An object has no member that was not listed. -/
theorem mem_of_mem_members {ms : List (String × Json)} {m : String × Json}
    (h : m ∈ (ofMembers ms).members) : m ∈ ms := by
  rw [ofMembers_eq_gathered] at h
  exact (mem_of_mem_gathered h).elim id fun h => absurd h List.not_mem_nil

/-- The entries of a decoded map are ascending. -/
theorem ascending_of_mapOf? {decode : Json → Option α} {v : Json} {entries : List (String × α)}
    (h : mapOf? decode v = some entries) : Ascending entries := by
  cases v with
  | object ms =>
    obtain ⟨given, -, hgiven⟩ := Option.bind_eq_some_iff.mp h
    cases hgiven
    exact ascending_gathered given List.Pairwise.nil
  | _ => cases h

/-- An ascending map comes back. -/
theorem mapOf?_ofMap {decode : Json → Option α} {encode : α → Json} (h : Inverts decode encode)
    {entries : List (String × α)} (hentries : Ascending entries) :
    mapOf? decode (ofMap encode entries) = some entries := by
  have hencoded : Ascending (entries.map fun e => (e.1, encode e.2)) :=
    List.pairwise_map.mpr hentries
  have hdecoded (es : List (String × α)) : (es.map fun e => (e.1, encode e.2)).mapM
      (fun m => (decode m.2).map fun a => (m.1, a)) = some es := by
    induction es with
    | nil => rfl
    | cons e es ih =>
      rw [List.map_cons, List.mapM_cons, h e.2, ih]
      rfl
  -- Members that ascend are gathered as they stand, on the way out and on the way back.
  have hobject : ofMap encode entries = .object (entries.map fun e => (e.1, encode e.2)) :=
    ofMembers_of_ascending hencoded
  rw [hobject]
  show ((entries.map fun e => (e.1, encode e.2)).mapM
    fun m => (decode m.2).map fun a => (m.1, a)).bind (fun es => some (gathered es [])) = _
  have hgathered : gathered entries [] = [] ++ entries := gathered_of_ascending hentries
  rw [hdecoded, Option.bind_some, hgathered, List.nil_append]

end Maps

end Json

end GeoFacet
