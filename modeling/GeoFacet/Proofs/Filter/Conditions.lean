import GeoFacet.Proofs.Filter.Ranges
import GeoFacet.Proofs.Gathering
import GeoFacet.Proofs.Search.Matching
import GeoFacet.Proofs.Sql.Clause

/-!
# What conditions say on either backend

An accepted condition has no empty list. Its row predicate is read from text as it is written
(`legible_ofCondition`) and is true of a document exactly where the condition holds
(`truth_ofCondition`), if the tests of both backends say the same about every value; so are the
predicates of a whole filter (`truthAll_ofFilter`).
-/

namespace GeoFacet

/-! ## Conditions that were accepted -/

namespace Condition

/-- The lists of a condition are not empty. -/
def Sound : Condition → Prop
  | .oneOf _ vs => vs ≠ []
  | .noneOf _ vs => vs ≠ []
  | .ranges _ rs _ => rs ≠ []
  | _ => True

theorem ne_nil_of_typedValues {type : FieldType} {field value : String} {vs : List Scalar}
    (h : typedValues type field value = .ok vs) : vs ≠ [] := by
  obtain ⟨values, -, h⟩ := Outcome.bind_eq_ok.mp h
  split at h
  · cases h
  · rename_i hne
    cases h
    simpa using hne

/-- What an operator on a field can come to. -/
theorem ofParts_cases {dateFormat : Option String} {type : FieldType} {field : String}
    {op : Operator} {value : String} {c : Condition}
    (h : ofParts dateFormat type field op value = .ok c) :
    (∃ vs, typedValues type field value = .ok vs ∧ (c = .oneOf field vs ∨ c = .noneOf field vs)) ∨
      (∃ op v, (type.isDate = true ∧ (∃ n, v = .integer n) ∨ typedValue type field value = .ok v) ∧
        c = .compare field op v type.isDate) ∨
      c = .like field value ∨
      (∃ rs, op = .range ∧ (type.isMeasure || type.isTextual) = true ∧
        ValueRange.parse (if type.isDate then dateFormat else none) value = .ok rs ∧
        checkBounds type field value rs = .ok () ∧ c = .ranges field rs type.isDate) ∨
      ∃ relation negated shape, c = .spatial field relation negated shape := by
  unfold ofParts at h
  dsimp only at h
  split at h
  · cases h
  · cases op with
    | eq =>
      obtain ⟨vs, hvs, rfl⟩ := Outcome.map_eq_ok.mp h
      exact .inl ⟨vs, hvs, .inl rfl⟩
    | ne =>
      obtain ⟨vs, hvs, rfl⟩ := Outcome.map_eq_ok.mp h
      exact .inl ⟨vs, hvs, .inr rfl⟩
    | range =>
      dsimp only at h
      split at h
      · cases h
      · rename_i hordered
        obtain ⟨rs, hrs, h⟩ := Outcome.bind_eq_ok.mp h
        obtain ⟨_, hbounds, h⟩ := Outcome.bind_eq_ok.mp h
        cases h
        exact .inr (.inr (.inr (.inl ⟨rs, rfl, by simpa [or_iff_not_imp_left] using hordered,
          Outcome.mapError_eq_ok.mp hrs, hbounds, rfl⟩)))
    | like =>
      dsimp only at h
      split at h
      · cases h
        exact .inr (.inr (.inl rfl))
      · cases h
    | gte | gt | lte | lt =>
      dsimp only at h
      split at h
      · cases h
      · split at h
        · rename_i format hformat
          obtain ⟨v, hv, h⟩ := Outcome.bind_eq_ok.mp h
          obtain ⟨n, -, rfl⟩ := Outcome.map_eq_ok.mp hv
          cases h
          -- Only a date has a format to be read with.
          have hdate : type.isDate = true := by
            by_contra hdate
            rw [if_neg hdate] at hformat
            cases hformat
          exact .inr (.inl ⟨_, _, .inl ⟨hdate, n, rfl⟩, rfl⟩)
        · obtain ⟨v, hv, h⟩ := Outcome.bind_eq_ok.mp h
          cases h
          exact .inr (.inl ⟨_, v, .inr hv, rfl⟩)
    | within | notWithin | intersects | notIntersects =>
      obtain ⟨shape, -, h⟩ := Outcome.bind_eq_ok.mp h
      cases h
      exact .inr (.inr (.inr (.inr ⟨_, _, shape, rfl⟩)))

theorem sound_ofParts {dateFormat : Option String} {type : FieldType} {field : String}
    {op : Operator} {value : String} {c : Condition}
    (h : ofParts dateFormat type field op value = .ok c) : c.Sound := by
  obtain ⟨vs, hvs, rfl | rfl⟩ | ⟨op, v, -, rfl⟩ | rfl | ⟨rs, -, -, hrs, -, rfl⟩ |
    ⟨relation, negated, shape, rfl⟩ := ofParts_cases h
  · exact ne_nil_of_typedValues hvs
  · exact ne_nil_of_typedValues hvs
  · trivial
  · trivial
  · exact (ValueRange.parse_eq_ok hrs).2
  · trivial

/-- A condition of an operator is on its field. -/
theorem field?_ofParts {dateFormat : Option String} {type : FieldType} {field : String}
    {op : Operator} {value : String} {c : Condition}
    (h : ofParts dateFormat type field op value = .ok c) : c.field? = some field := by
  obtain ⟨vs, -, rfl | rfl⟩ | ⟨op, v, -, rfl⟩ | rfl | ⟨rs, -, -, -, -, rfl⟩ |
    ⟨relation, negated, shape, rfl⟩ := ofParts_cases h <;> rfl

theorem sound_ofExpression {c : Collection} {dateFormat : Option String} {e : Expression}
    {cond : Condition} (h : ofExpression c dateFormat e = .ok cond) : cond.Sound := by
  obtain ⟨_, -, h⟩ := Outcome.bind_eq_ok.mp h
  obtain ⟨type, -, h⟩ := Outcome.bind_eq_ok.mp h
  exact sound_ofParts h

/-- A condition of an expression is on a field. -/
theorem field?_ofExpression {c : Collection} {dateFormat : Option String} {e : Expression}
    {cond : Condition} (h : ofExpression c dateFormat e = .ok cond) : cond.field? ≠ none := by
  obtain ⟨_, -, h⟩ := Outcome.bind_eq_ok.mp h
  obtain ⟨type, -, h⟩ := Outcome.bind_eq_ok.mp h
  rw [field?_ofParts h]
  exact Option.some_ne_none _

/-- A search is a condition on the words of one field, or of all where that is allowed. -/
theorem ofSearch_eq_ok {c : Collection} {allowUnscoped : Bool} {query : String} {cond : Condition}
    (h : ofSearch c allowUnscoped query = .ok cond) :
    ∃ field words, cond = .text field words ∧ (field = none → allowUnscoped = true) ∧
      ofSearch c true query = .ok cond := by
  unfold ofSearch at h ⊢
  split at h
  · rename_i field words hscoped
    dsimp only at h
    split at h
    · cases h
    · rename_i hwords
      obtain ⟨type, htype, h⟩ := Outcome.bind_eq_ok.mp h
      split at h
      · cases h
      · rename_i hgeometry
        cases h
        refine ⟨_, _, rfl, ?_, ?_⟩
        · intro hnone
          cases hnone
        · simp [hwords, htype, hgeometry]
  · rename_i hscoped
    dsimp only at h
    split at h
    · cases h
    · rename_i hwords
      split at h
      · cases h
      · rename_i hallowed
        cases h
        refine ⟨_, _, rfl, fun _ => by simpa using hallowed, ?_⟩
        simp [hwords]

end Condition

namespace FilterRequest

variable {r : FilterRequest} {c : Collection} {groups : List (List Condition)}

/-- A condition of a request comes from an expression or from a search. -/
theorem origin_of_groups {allowUnscoped : Bool} (h : r.groups c allowUnscoped = .ok groups)
    {group : List Condition} (hgroup : group ∈ groups) {cond : Condition} (hcond : cond ∈ group) :
    (∃ e, Condition.ofExpression c r.dateFormat e = .ok cond) ∨
      ∃ query, Condition.ofSearch c allowUnscoped query = .ok cond := by
  obtain ⟨es, hes, h⟩ := Outcome.bind_eq_ok.mp h
  obtain ⟨qs, hqs, h⟩ := Outcome.bind_eq_ok.mp h
  cases h
  rcases List.mem_append.mp hgroup with hgroup | hgroup
  · obtain ⟨es', -, hes'⟩ := Outcome.exists_of_mem_mapM hes hgroup
    obtain ⟨e, -, he⟩ := Outcome.exists_of_mem_mapM hes' hcond
    exact .inl ⟨e, he⟩
  · obtain ⟨qs', -, hqs'⟩ := Outcome.exists_of_mem_mapM hqs hgroup
    obtain ⟨q, -, hq⟩ := Outcome.exists_of_mem_mapM hqs' hcond
    exact .inr ⟨q, hq⟩

/-- The conditions of a request have no empty lists. -/
theorem sound_of_groups {allowUnscoped : Bool} (h : r.groups c allowUnscoped = .ok groups) :
    ∀ group ∈ groups, ∀ cond ∈ group, cond.Sound := by
  intro group hgroup cond hcond
  rcases origin_of_groups h hgroup hcond with ⟨e, he⟩ | ⟨query, hquery⟩
  · exact Condition.sound_ofExpression he
  · obtain ⟨field, words, rfl, -, -⟩ := Condition.ofSearch_eq_ok hquery
    trivial

/-- Where all fields cannot be searched at once, every condition is on a field. -/
theorem field?_of_groups (h : r.groups c false = .ok groups) :
    ∀ group ∈ groups, ∀ cond ∈ group, cond.field? ≠ none := by
  intro group hgroup cond hcond
  rcases origin_of_groups h hgroup hcond with ⟨e, he⟩ | ⟨query, hquery⟩
  · exact Condition.field?_ofExpression he
  · obtain ⟨field, words, rfl, hfield, -⟩ := Condition.ofSearch_eq_ok hquery
    exact fun hnone => absurd (hfield hnone) (by decide)

/-- What is accepted without searches of all fields is accepted with them, and comes to the same. -/
theorem groups_of_groups (h : r.groups c false = .ok groups) : r.groups c true = .ok groups := by
  obtain ⟨es, hes, h⟩ := Outcome.bind_eq_ok.mp h
  obtain ⟨qs, hqs, h⟩ := Outcome.bind_eq_ok.mp h
  cases h
  have hqs' : r.searches.mapM (Condition.ofSearches c true) = .ok qs := by
    rw [Outcome.mapM_eq_ok] at hqs ⊢
    refine hqs.imp fun query conds hconds => ?_
    rw [Condition.ofSearches, Outcome.mapM_eq_ok] at hconds ⊢
    refine hconds.imp fun q cond hq => ?_
    obtain ⟨-, -, -, -, hq⟩ := Condition.ofSearch_eq_ok hq
    exact hq
  rw [groups, hes, Outcome.ok_bind, hqs']
  rfl

end FilterRequest

namespace Filter

/-- The groups that are gathered are some of those given, without the empty ones. -/
theorem mem_of_mem_gather {groups : List (List Condition)} {group : List Condition}
    (h : group ∈ gather groups) : group ∈ groups ∧ group ≠ [] := by
  -- The fold starts from any filter, so that the induction on the groups goes through.
  have hfold : ∀ (groups : List (List Condition)) (f : Filter),
      group ∈ groups.foldl add f → group ∈ f ∨ group ∈ groups ∧ group ≠ [] := by
    intro groups
    induction groups with
    | nil => exact fun f h => .inl h
    | cons g gs ih =>
      intro f h
      rcases ih (f.add g) h with hf | ⟨hgs, hne⟩
      · rw [add] at hf
        split at hf
        · exact .inl hf
        · rename_i hskip
          rcases List.mem_append.mp hf with hf | hg
          · exact .inl hf
          · rw [List.mem_singleton.mp hg]
            refine .inr ⟨List.mem_cons_self, ?_⟩
            rintro rfl
            simp at hskip
      · exact .inr ⟨List.mem_cons_of_mem g hgs, hne⟩
  exact (hfold groups [] h).resolve_left List.not_mem_nil

end Filter

/-! ## The relational side -/

namespace Sql

variable {D : Type}

/-- A document as a row: a column has the value of its field, cast or not. -/
def rowOf (doc : Document D) : RowValues D
  | .column f => doc f
  | .cast (.column f) _ => doc f
  | _ => none

/-- The tests of the two backends say the same about every value. -/
structure Agreement (search : Search.Tests D) (sql : Tests D) : Prop where
  equal : ∀ x v, sql.equal x v = search.equal x v.toJson
  compare : ∀ x op v, sql.compare x op v = search.compare x op v.toJson
  like : ∀ x part, sql.like x (Predicate.containing part) =
    search.wildcard x (Search.Query.containing part)
  words : ∀ x words, sql.likeAnyCase x (Predicate.containing words) = search.words x words
  relates : ∀ x relation shape, sql.relates relation x (.text (Wkt.write shape)) =
    search.relates x relation.name shape.toGeoJson

namespace Predicate

variable {search : Search.Tests D} {sql : Tests D} {anyField : String → Bool} {doc : Document D}

theorem truthAny_eq_true {ps : List (Predicate Scalar)} {row : RowValues D} :
    truthAny sql row ps = some true ↔ ∃ p ∈ ps, truth sql row p = some true := by
  induction ps with
  | nil => simp [truthAny]
  | cons p ps ih => simp [truthAny, Truth.or_eq_true, ih]

theorem truthAll_eq_true {ps : List (Predicate Scalar)} {row : RowValues D} :
    truthAll sql row ps = some true ↔ ∀ p ∈ ps, truth sql row p = some true := by
  induction ps with
  | nil => simp [truthAll]
  | cons p ps ih => simp [truthAll, Truth.and_eq_true, ih]

theorem truth_anyOf {ps : List (Predicate Scalar)} {row : RowValues D} :
    truth sql row (anyOf ps) = some true ↔ ∃ p ∈ ps, truth sql row p = some true := by
  match ps with
  | [] => exact truthAny_eq_true
  | [p] => simp [anyOf]
  | p :: q :: ps => exact truthAny_eq_true

theorem legible_anyOf {α : Type} {ps : List (Predicate α)} (hne : ps ≠ [])
    (h : ∀ p ∈ ps, p.Legible) : (anyOf ps).Legible := by
  match ps with
  | [] => exact absurd rfl hne
  | [p] => exact h p List.mem_cons_self
  | p :: q :: ps => exact .any (by simp) h

theorem forall_mem_pair {α : Type} {P : α → Prop} {a b : α} (ha : P a) (hb : P b) :
    ∀ x ∈ [a, b], P x := by
  intro x hx
  rcases List.mem_cons.mp hx with rfl | hx
  · exact ha
  · rw [List.mem_singleton.mp hx]
    exact hb

/-- A condition on a field has a row predicate. -/
theorem exists_ofCondition {cond : Condition} (h : cond.field? ≠ none) :
    ∃ p, ofCondition cond = .ok p := by
  match cond, h with
  | .oneOf _ [], _ | .oneOf _ [_], _ | .oneOf _ (_ :: _ :: _), _ => exact ⟨_, rfl⟩
  | .noneOf _ _, _ | .compare _ _ _ _, _ | .like _ _, _ | .ranges _ _ _, _ => exact ⟨_, rfl⟩
  | .spatial _ _ _ _, _ | .text (some _) _, _ => exact ⟨_, rfl⟩
  | .text none _, h => exact absurd rfl h

/-- The predicate of an accepted condition is read as it is written. -/
theorem legible_ofCondition {c : Condition} {p : Predicate Scalar} (hc : c.Sound)
    (h : ofCondition c = .ok p) : p.Legible := by
  cases c with
  | oneOf f vs =>
    obtain _ | ⟨v, _ | ⟨w, vs⟩⟩ := vs
    · exact absurd rfl hc
    · cases h
      exact .test (.equal f v)
    · cases h
      exact .test (.isOneOf f (by simp))
  | noneOf f vs =>
    cases h
    exact .any (by simp) (forall_mem_pair (.test (.isNull f)) (.test (.isNoneOf f hc)))
  | compare f op v isDate =>
    cases h
    exact .test (.compare f op v)
  | like f part =>
    cases h
    exact .test (.like f _)
  | ranges f rs isDate =>
    cases h
    refine legible_anyOf (by simpa [Condition.Sound] using hc) fun p hp => ?_
    obtain ⟨r, -, rfl⟩ := List.mem_map.mp hp
    exact .all (by simp) (forall_mem_pair (.test (.compare f _ _)) (.test (.compare f _ _)))
  | spatial f relation negated shape =>
    cases h
    cases negated with
    | false => exact .test (.spatial relation f _)
    | true =>
      exact .any (by simp) (forall_mem_pair (.test (.isNull f)) (.not (.spatial relation f _)))
  | text field words =>
    cases field with
    | none => cases h
    | some f =>
      cases h
      exact .test (.likeAnyCase f _)

/-- **The predicate of a condition is true where the condition holds.** -/
theorem truth_ofCondition (agreement : Agreement search sql) {c : Condition} {p : Predicate Scalar}
    (h : ofCondition c = .ok p) :
    truth sql (rowOf doc) p = some true ↔ c.holds search anyField doc = true := by
  cases c with
  | oneOf f vs =>
    obtain _ | ⟨v, _ | ⟨w, vs⟩⟩ := vs <;> cases h <;> cases hf : doc f <;>
      simp [truth, rowOf, Condition.holds, hf, agreement.equal]
  | noneOf f vs =>
    cases h
    cases hf : doc f <;>
      simp [truth, truthAny, rowOf, Condition.holds, hf, agreement.equal, Truth.or_eq_true]
  | compare f op v isDate =>
    cases h
    cases hf : doc f <;> simp [truth, rowOf, Condition.holds, hf, agreement.compare]
  | like f part =>
    cases h
    cases hf : doc f <;> simp [truth, rowOf, Condition.holds, hf, agreement.like]
  | ranges f rs isDate =>
    cases h
    rw [truth_anyOf]
    cases hf : doc f <;>
      simp [truth, truthAll, ofRange, rowOf, Condition.holds, hf, agreement.compare,
        Truth.and_eq_true]
  | spatial f relation negated shape =>
    cases h
    cases negated <;> cases hf : doc f <;>
      simp [truth, truthAny, rowOf, Condition.holds, hf, agreement.relates, Truth.or_eq_true,
        Truth.not]
  | text field words =>
    cases field with
    | none => cases h
    | some f =>
      cases h
      cases hf : doc f <;> simp [truth, rowOf, Condition.holds, hf, agreement.words]

/-- The predicate of a group is true where one of its conditions holds. -/
theorem truth_ofGroup (agreement : Agreement search sql) {group : List Condition}
    {p : Predicate Scalar} (h : ofGroup group = .ok p) :
    truth sql (rowOf doc) p = some true ↔
      group.any (Condition.holds search anyField doc) = true := by
  obtain ⟨ps, hps, hp⟩ := Outcome.bind_eq_ok.mp h
  cases hp
  rw [truth_anyOf, List.any_eq_true]
  have hforall := Outcome.mapM_eq_ok.mp hps
  clear h hps
  induction hforall with
  | nil => simp
  | cons hc _ ih =>
    rw [List.exists_mem_cons_iff, List.exists_mem_cons_iff]
    exact or_congr (truth_ofCondition agreement hc) ih

/-- The predicates of a filter are all true where the filter holds. -/
theorem truthAll_ofFilter (agreement : Agreement search sql) {f : Filter}
    {ps : List (Predicate Scalar)} (h : ofFilter f = .ok ps) :
    truthAll sql (rowOf doc) ps = some true ↔
      (f.all fun group => group.any (Condition.holds search anyField doc)) = true := by
  rw [truthAll_eq_true, List.all_eq_true]
  have hforall := Outcome.mapM_eq_ok.mp h
  clear h
  induction hforall with
  | nil => simp
  | cons hg _ ih =>
    rw [List.forall_mem_cons, List.forall_mem_cons]
    exact and_congr (truth_ofGroup agreement hg) ih

theorem legible_ofFilter {f : Filter} {ps : List (Predicate Scalar)}
    (hne : ∀ group ∈ f, group ≠ []) (hsound : ∀ group ∈ f, ∀ c ∈ group, c.Sound)
    (h : ofFilter f = .ok ps) : ∀ p ∈ ps, p.Legible := by
  intro p hp
  obtain ⟨group, hgroup, hp⟩ := Outcome.exists_of_mem_mapM h hp
  obtain ⟨qs, hqs, hp⟩ := Outcome.bind_eq_ok.mp hp
  cases hp
  refine legible_anyOf ?_ fun q hq => ?_
  · rintro rfl
    have hforall := Outcome.mapM_eq_ok.mp hqs
    rw [List.forall₂_nil_right_iff] at hforall
    exact hne group hgroup hforall
  · obtain ⟨c, hc, hq⟩ := Outcome.exists_of_mem_mapM hqs hq
    exact legible_ofCondition (hsound group hgroup c hc) hq

end Predicate

end Sql

end GeoFacet
