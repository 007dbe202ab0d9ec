import GeoFacet.Proofs.Filter.Agreement

/-!
# Validation does not depend on the backend

A request goes through the same checks for every backend, and a backend builds a plan of whatever
passes them. The one check that differs is whether a search may be without a field, so the outcomes
of the two backends are the same or the relational one is a refusal of such a search; this relation
(`Outcome.Stricter`) passes through chains of steps and walks over lists.

Main statement: `validation_agrees`.
-/

namespace GeoFacet

/-! ## Outcomes of which one is stricter -/

namespace Outcome

variable {α β : Type} {refusal : Fault → Prop}

/-- Two outcomes are the same, or the stricter one is a refusal of the given kind. -/
def Stricter (refusal : Fault → Prop) (strict lax : Outcome α) : Prop :=
  strict = lax ∨ ∃ e, strict = .error e ∧ refusal e

theorem Stricter.refl (o : Outcome α) : Stricter refusal o o := .inl rfl

theorem Stricter.bind {strict lax : Outcome α} {f g : α → Outcome β}
    (h : Stricter refusal strict lax) (hf : ∀ a, Stricter refusal (f a) (g a)) :
    Stricter refusal (strict >>= f) (lax >>= g) := by
  rcases h with rfl | ⟨e, rfl, he⟩
  · cases strict with
    | error e => exact .inl rfl
    | ok a => exact hf a
  · exact .inr ⟨e, rfl, he⟩

theorem Stricter.mapM {f g : α → Outcome β} {xs : List α}
    (h : ∀ x ∈ xs, Stricter refusal (f x) (g x)) :
    Stricter refusal (xs.mapM f) (xs.mapM g) := by
  induction xs with
  | nil => exact .refl _
  | cons x xs ih =>
    rw [mapM_cons, mapM_cons]
    have hrest := ih fun y hy => h y (List.mem_cons_of_mem x hy)
    exact (h x List.mem_cons_self).bind fun y => hrest.bind fun ys => .refl _

/-- What passes the stricter checks passes the laxer ones. -/
theorem Stricter.lax_eq_ok {strict lax : Outcome α} (h : Stricter refusal strict lax) {a : α}
    (hstrict : strict = .ok a) : lax = .ok a := by
  rcases h with rfl | ⟨e, rfl, -⟩
  · exact hstrict
  · cases hstrict

/-- Where nothing is refused, the checks come to the same. -/
theorem Stricter.eq_of_not_refusal {strict lax : Outcome α} (h : Stricter refusal strict lax)
    (hnone : ∀ e, ¬refusal e) : strict = lax := by
  rcases h with rfl | ⟨e, -, he⟩
  · rfl
  · exact absurd he (hnone e)

/-- What only the stricter checks refuse is refused for their reason. -/
theorem Stricter.refusal_of_ok {strict lax : Outcome α} (h : Stricter refusal strict lax) {a : α}
    {e : Fault} (hlax : lax = .ok a) (hstrict : strict = .error e) : refusal e := by
  rcases h with rfl | ⟨e', rfl, he⟩
  · cases hlax.symm.trans hstrict
  · cases hstrict
    exact he

/-- Whether an outcome is a failure, and which. -/
def verdict (o : Outcome α) : Outcome Unit := o.map fun _ => ()

theorem Stricter.verdict {strict lax : Outcome α} (h : Stricter refusal strict lax) :
    Stricter refusal strict.verdict lax.verdict := by
  rcases h with rfl | ⟨e, rfl, he⟩
  · exact .inl rfl
  · exact .inr ⟨e, rfl, he⟩

theorem verdict_eq_ok {o : Outcome α} : o.verdict = .ok () ↔ ∃ a, o = .ok a := by
  cases o with
  | error e => exact ⟨fun h => (by cases h), fun ⟨_, h⟩ => (by cases h)⟩
  | ok a => exact ⟨fun _ => ⟨a, rfl⟩, fun _ => rfl⟩

theorem verdict_eq_error {o : Outcome α} {e : Fault} : o.verdict = .error e ↔ o = .error e := by
  cases o with
  | error e' => exact ⟨fun h => (by cases h; rfl), fun h => (by cases h; rfl)⟩
  | ok a => exact ⟨fun h => (by cases h), fun h => (by cases h)⟩

theorem verdict_map (o : Outcome α) (f : α → β) : verdict (o.map f) = o.verdict := by
  cases o <;> rfl

/-- A last step that cannot fail leaves the verdict. -/
theorem verdict_bind {o : Outcome α} {f : α → Outcome β}
    (h : ∀ a, o = .ok a → ∃ b, f a = .ok b) : (o >>= f).verdict = o.verdict := by
  cases o with
  | error e => rfl
  | ok a =>
    obtain ⟨b, hb⟩ := h a rfl
    rw [ok_bind, hb]
    rfl

end Outcome

/-! ## Searches without a field -/

/-- Whether a search names a field: a text that is not blank before its first colon. -/
def Condition.isScoped (query : String) : Bool :=
  (Text.cut? ':' query).any fun (field, _) => !Text.isBlank field

namespace FilterRequest

/-- Every search of the request names a field. -/
def Scoped (r : FilterRequest) : Prop :=
  ∀ group ∈ r.searches, ∀ query ∈ group, Condition.isScoped query = true

/-- The fault is the refusal of a search of the request that names no field. -/
def RefusesUnscoped (r : FilterRequest) (e : Fault) : Prop :=
  ∃ group ∈ r.searches, ∃ query ∈ group,
    Condition.isScoped query = false ∧ e = .of (.unscopedText query)

end FilterRequest

namespace Condition

variable {c : Collection} {query : String}

/-- A search that names no field is refused where all fields cannot be searched at once. -/
theorem ofSearch_of_not_isScoped (c : Collection) (allowUnscoped : Bool)
    (h : isScoped query = false) : ofSearch c allowUnscoped query =
      if Text.trim (String.ofList (query.toList.dropWhile (· = ':'))) = "" then refuse .missingText
      else if !allowUnscoped then refuse (.unscopedText query)
      else .ok (.text none (Text.trim (String.ofList (query.toList.dropWhile (· = ':'))))) := by
  have hfilter : ((Text.cut? ':' query).filter fun (field, _) => !Text.isBlank field) = none := by
    rwa [← Option.isNone_iff_eq_none, ← Option.not_isSome, Option.isSome_filter,
      Bool.not_eq_true']
  rw [ofSearch, hfilter]

/-- A search that names a field is checked alike by all backends. -/
theorem ofSearch_of_isScoped (c : Collection) (h : isScoped query = true) :
    ofSearch c false query = ofSearch c true query := by
  obtain ⟨parts, hfilter⟩ : ∃ parts,
      ((Text.cut? ':' query).filter fun (field, _) => !Text.isBlank field) = some parts := by
    rwa [← Option.isSome_iff_exists, Option.isSome_filter]
  rw [ofSearch, ofSearch, hfilter]

/-- A search is checked alike by all backends, up to the refusal of one that names no field. -/
theorem stricter_ofSearch (c : Collection) (query : String) :
    Outcome.Stricter (fun e => isScoped query = false ∧ e = .of (.unscopedText query))
      (ofSearch c false query) (ofSearch c true query) := by
  cases hscoped : isScoped query with
  | true => exact .inl (ofSearch_of_isScoped c hscoped)
  | false =>
    rw [ofSearch_of_not_isScoped c false hscoped, ofSearch_of_not_isScoped c true hscoped]
    split
    · exact .refl _
    · exact .inr ⟨_, rfl, rfl, rfl⟩

/-- Where all fields cannot be searched at once, an accepted search names its field. -/
theorem isScoped_of_ofSearch {cond : Condition} (h : ofSearch c false query = .ok cond) :
    isScoped query = true := by
  by_contra hscoped
  rw [Bool.not_eq_true] at hscoped
  rw [ofSearch_of_not_isScoped c false hscoped] at h
  split at h <;> cases h

end Condition

namespace FilterRequest

variable {r : FilterRequest} {c : Collection} {groups : List (List Condition)}

/-- The groups of a request are checked alike up to the refusal of a search without a field. -/
theorem stricter_groups (r : FilterRequest) (c : Collection) :
    Outcome.Stricter r.RefusesUnscoped (r.groups c false) (r.groups c true) := by
  have hsearch : ∀ group ∈ r.searches, ∀ query ∈ group, Outcome.Stricter r.RefusesUnscoped
      (Condition.ofSearch c false query) (Condition.ofSearch c true query) :=
    fun group hgroup query hquery => (Condition.stricter_ofSearch c query).imp id
      fun ⟨e, hfail, hscoped, he⟩ => ⟨e, hfail, group, hgroup, query, hquery, hscoped, he⟩
  refine Outcome.Stricter.bind (.refl _) fun expressions => ?_
  refine Outcome.Stricter.bind (.mapM fun group hgroup => ?_) fun searches => .refl _
  exact .mapM (hsearch group hgroup)

/-- A request with searches of all fields is refused where these are not allowed. -/
theorem scoped_of_groups (h : r.groups c false = .ok groups) : r.Scoped := by
  obtain ⟨_, -, h⟩ := Outcome.bind_eq_ok.mp h
  obtain ⟨qs, hqs, -⟩ := Outcome.bind_eq_ok.mp h
  intro group hgroup query hquery
  obtain ⟨conds, hconds⟩ := Outcome.exists_ok_of_mem_mapM hqs hgroup
  obtain ⟨cond, hcond⟩ := Outcome.exists_ok_of_mem_mapM hconds hquery
  exact Condition.isScoped_of_ofSearch hcond

/-- No search of a request in which each names a field is refused for naming none. -/
theorem Scoped.not_refuses (h : r.Scoped) (e : Fault) : ¬r.RefusesUnscoped e := by
  rintro ⟨group, hgroup, query, hquery, hscoped, -⟩
  rw [h group hgroup query hquery] at hscoped
  cases hscoped

/-- The refusal of a search that names no field is that of a feature. -/
theorem RefusesUnscoped.code_eq {e : Fault} (h : r.RefusesUnscoped e) : e.code = .notAllowed := by
  obtain ⟨-, -, query, -, -, rfl⟩ := h
  rfl

end FilterRequest

/-! ## Plans of what passed the checks -/

namespace Sql

theorem Predicate.exists_ofFilter {f : Filter}
    (h : ∀ group ∈ f, ∀ cond ∈ group, cond.field? ≠ none) : ∃ ps, ofFilter f = .ok ps := by
  refine Outcome.exists_mapM_ok fun group hgroup => ?_
  obtain ⟨ps, hps⟩ := Outcome.exists_mapM_ok fun cond hcond =>
    exists_ofCondition (h group hgroup cond hcond)
  exact ⟨anyOf ps, by rw [ofGroup, hps, Outcome.ok_bind]⟩

/-- A plan is built of every draft whose conditions are each on a field. -/
theorem Draft.exists_build_of_field? {d : Draft}
    (h : ∀ group ∈ d.filter, ∀ cond ∈ group, cond.field? ≠ none) : ∃ plan, d.build = .ok plan := by
  obtain ⟨filter, hfilter⟩ := Predicate.exists_ofFilter h
  rw [build, hfilter, Outcome.ok_bind]
  exact ⟨_, rfl⟩

/-- **A plan is built of every draft whose filter was checked.** -/
theorem Draft.exists_build {r : FilterRequest} {c : Collection} {groups : List (List Condition)}
    (h : r.groups c false = .ok groups) {d : Draft} (hd : d.filter = Filter.gather groups) :
    ∃ plan, d.build = .ok plan := by
  refine Draft.exists_build_of_field? fun group hgroup => ?_
  rw [hd] at hgroup
  exact FilterRequest.field?_of_groups h group (Filter.mem_of_mem_gather hgroup).1

end Sql

/-! ## The checks of a request -/

/-- The checks of a request, in their order. -/
def Request.checked (c : Collection) (maxPageSize : Nat) (allowUnscoped : Bool) :
    Request → Outcome Unit
  | .search r => (r.compiled c maxPageSize allowUnscoped).verdict
  | .facets r =>
    (FacetPlan.compile c r.geo r.facets >>= fun _ => r.filter.groups c allowUnscoped).verdict
  | .compute r =>
    (r.filter.groups c allowUnscoped >>= fun _ => checkComputation c r.field r.metric).verdict

/-- A backend plans whatever passed the checks. -/
structure Backend.Plans (b : Backend) (c : Collection) : Prop where
  search : ∀ page, ∃ draft, b.Drafts c page draft ∧ ∀ (r : FilterRequest) groups scan,
    r.groups c b.capabilities.unscopedText = .ok groups →
      ∃ plan, b.build (draft (Filter.gather groups) scan) = .ok plan
  facets : ∀ (r : FilterRequest) d levels, b.addFilter c r (b.start c) = .ok d →
    ∃ plan, b.build (b.setFacets levels d) = .ok plan
  computation : ∀ (r : FilterRequest) d field metric, b.addFilter c r (b.start c) = .ok d →
    ∃ next : FieldType → b.Draft,
      b.setComputation field metric d = (checkComputation c field metric).map next ∧
        ∀ type, ∃ plan, b.build (next type) = .ok plan

theorem Search.plans (c : Collection) : backend.Plans c where
  search page := ⟨_, drafts c page, fun _ _ _ _ => ⟨_, rfl⟩⟩
  facets _ _ _ _ := ⟨_, rfl⟩
  computation r d field metric hd := by
    obtain ⟨groups, -, rfl⟩ := Outcome.map_eq_ok.mp ((addFilter_start c r).symm.trans hd)
    refine ⟨fun _ => Draft.setAggregations (Aggregation.ofComputation (Text.trim field) metric)
      { Draft.start c with filter := Filter.gather groups }, ?_, fun _ => ⟨Draft.build _, rfl⟩⟩
    show (checkComputation c field metric >>= _ : Outcome Draft) = _
    cases checkComputation c field metric <;> rfl

theorem Sql.plans (c : Collection) : backend.Plans c where
  search page := ⟨_, drafts c page, fun _ _ _ hgroups => Draft.exists_build hgroups rfl⟩
  facets r d levels hd := by
    obtain ⟨groups, hgroups, rfl⟩ := Outcome.map_eq_ok.mp ((addFilter_start c r).symm.trans hd)
    exact Draft.exists_build hgroups rfl
  computation r d field metric hd := by
    obtain ⟨groups, hgroups, rfl⟩ := Outcome.map_eq_ok.mp ((addFilter_start c r).symm.trans hd)
    refine ⟨fun _ => { Draft.start c with
      filter := Filter.gather groups, aim := .computation (Text.trim field) metric }, ?_,
      fun _ => Draft.exists_build hgroups rfl⟩
    show (checkComputation c field metric >>= _ : Outcome Draft) = _
    cases checkComputation c field metric <;> rfl

/-- **A request is planned exactly if it passes the checks**, and else fails where they do. -/
theorem Service.verdict_explain {b : Backend} {s : Service b} (h : b.Plans s.collection)
    (r : Request) : (s.explain r).verdict =
      r.checked s.collection s.maxPageSize b.capabilities.unscopedText := by
  cases r with
  | search r =>
    obtain ⟨draft, hdraft, hbuild⟩ := h.search r.page
    show (s.compileSearch r >>= fun compiled => .ok compiled.1).verdict = _
    rw [Outcome.verdict_bind fun _ _ => ⟨_, rfl⟩, s.compileSearch_eq r hdraft]
    refine Outcome.verdict_bind fun q hq => ?_
    obtain ⟨-, -, ⟨groups, hgroups, hfilter⟩, -⟩ := SearchRequest.compiled_eq_ok.mp hq
    obtain ⟨plan, hplan⟩ := hbuild r.filter groups q.scan hgroups
    exact ⟨_, by rw [hfilter, hplan]; rfl⟩
  | facets r =>
    show (s.compileFacets r >>= fun compiled => .ok compiled.2).verdict = _
    rw [Outcome.verdict_bind fun _ _ => ⟨_, rfl⟩, compileFacets, facetPlan, Request.checked]
    cases FacetPlan.compile s.collection r.geo r.facets with
    | error e => rfl
    | ok levels =>
      rw [Outcome.ok_bind, Outcome.ok_bind, Outcome.verdict_bind fun d hd => ?_,
        Backend.addFilter_eq, Outcome.verdict_map]
      obtain ⟨plan, hplan⟩ := h.facets r.filter d levels hd
      exact ⟨_, by rw [hplan]; rfl⟩
  | compute r =>
    show (b.addFilter s.collection r.filter (b.start s.collection) >>= fun d =>
      b.setComputation r.field r.metric d >>= b.build).verdict = _
    have hadded := b.addFilter_eq s.collection r.filter (b.start s.collection)
    rw [Request.checked]
    -- A plan is built from any filter, so only its groups and the metric can be refused.
    cases hgroups : r.filter.groups s.collection b.capabilities.unscopedText with
    | error e =>
      rw [hadded, hgroups]
      rfl
    | ok groups =>
      rw [hgroups] at hadded
      obtain ⟨next, hnext, hbuild⟩ := h.computation r.filter _ r.field r.metric hadded
      rw [hadded]
      show (b.setComputation r.field r.metric _ >>= b.build).verdict = _
      rw [hnext, Outcome.verdict_bind fun d hd => ?_, Outcome.verdict_map, Outcome.ok_bind]
      obtain ⟨type, -, rfl⟩ := Outcome.map_eq_ok.mp hd
      exact hbuild type

namespace Request

/-- A request is checked alike up to the refusal of a search without a field. -/
theorem stricter_checked (r : Request) (c : Collection) (maxPageSize : Nat) :
    Outcome.Stricter r.filter.RefusesUnscoped (r.checked c maxPageSize false)
      (r.checked c maxPageSize true) := by
  have hgroups := r.filter.stricter_groups c
  cases r with
  | search r =>
    refine .verdict (.bind (.refl _) fun _ => .bind (.refl _) fun _ => ?_)
    exact hgroups.bind fun _ => .refl _
  | facets r => exact .verdict (.bind (.refl _) fun _ => hgroups)
  | compute r => exact .verdict (hgroups.bind fun _ => .refl _)

/-- What passes the checks without searches of all fields names a field in each search. -/
theorem scoped_of_checked {r : Request} {c : Collection} {maxPageSize : Nat}
    (h : r.checked c maxPageSize false = .ok ()) : r.filter.Scoped := by
  cases r with
  | search r =>
    obtain ⟨q, hq⟩ := Outcome.verdict_eq_ok.mp h
    obtain ⟨-, -, ⟨groups, hgroups, -⟩, -⟩ := SearchRequest.compiled_eq_ok.mp hq
    exact FilterRequest.scoped_of_groups hgroups
  | facets r =>
    obtain ⟨groups, hchecked⟩ := Outcome.verdict_eq_ok.mp h
    obtain ⟨_, -, hgroups⟩ := Outcome.bind_eq_ok.mp hchecked
    exact FilterRequest.scoped_of_groups hgroups
  | compute r =>
    obtain ⟨_, hchecked⟩ := Outcome.verdict_eq_ok.mp h
    obtain ⟨groups, hgroups, -⟩ := Outcome.bind_eq_ok.mp hchecked
    exact FilterRequest.scoped_of_groups hgroups

end Request

/-- **Validation does not depend on the backend.** What the relational backend plans, the search
plans. Where every search of a request names a field, both plan it or fail with the same fault. The
relational backend refuses a request that the search plans exactly if some search names no field,
and refuses such a search for a feature that it lacks. -/
theorem validation_agrees (c : Collection) (maxPageSize : Nat) (r : Request) :
    ((∃ plan, (Service.mk (b := Sql.backend) c maxPageSize).explain r = .ok plan) →
      ∃ plan, (Service.mk (b := Search.backend) c maxPageSize).explain r = .ok plan) ∧
    (r.filter.Scoped →
      (∃ plan plan', (Service.mk (b := Sql.backend) c maxPageSize).explain r = .ok plan ∧
        (Service.mk (b := Search.backend) c maxPageSize).explain r = .ok plan') ∨
      ∃ e, (Service.mk (b := Sql.backend) c maxPageSize).explain r = .error e ∧
        (Service.mk (b := Search.backend) c maxPageSize).explain r = .error e) ∧
    ((∃ plan, (Service.mk (b := Search.backend) c maxPageSize).explain r = .ok plan) →
      ((∃ e, (Service.mk (b := Sql.backend) c maxPageSize).explain r = .error e) ↔
        ¬r.filter.Scoped) ∧
      ∀ e, (Service.mk (b := Sql.backend) c maxPageSize).explain r = .error e →
        e.code = .notAllowed ∧ r.filter.RefusesUnscoped e) := by
  have hsql : _ = r.checked c maxPageSize false :=
    Service.verdict_explain (s := ⟨c, maxPageSize⟩) (Sql.plans c) r
  have hsearch : _ = r.checked c maxPageSize true :=
    Service.verdict_explain (s := ⟨c, maxPageSize⟩) (Search.plans c) r
  -- The relational checks are the others and one more, on unscoped searches.
  have hstricter := r.stricter_checked c maxPageSize
  have hscoped : r.filter.Scoped → r.checked c maxPageSize false = r.checked c maxPageSize true :=
    fun h => hstricter.eq_of_not_refusal h.not_refuses
  refine ⟨fun hplan => ?_, fun h => ?_, fun hplan => ⟨⟨?_, fun h => ?_⟩, fun e he => ?_⟩⟩
  · rw [← Outcome.verdict_eq_ok, hsql] at hplan
    rw [← Outcome.verdict_eq_ok, hsearch]
    exact hstricter.lax_eq_ok hplan
  · have hsame := hsql.trans ((hscoped h).trans hsearch.symm)
    cases hresult : (Service.mk (b := Sql.backend) c maxPageSize).explain r with
    | error e =>
      rw [hresult] at hsame
      exact .inr ⟨e, rfl, Outcome.verdict_eq_error.mp hsame.symm⟩
    | ok plan =>
      rw [hresult] at hsame
      obtain ⟨plan', hplan'⟩ := Outcome.verdict_eq_ok.mp hsame.symm
      exact .inl ⟨plan, plan', rfl, hplan'⟩
  · rintro ⟨e, he⟩ h
    rw [← Outcome.verdict_eq_ok, hsearch] at hplan
    rw [← Outcome.verdict_eq_error, hsql, hscoped h] at he
    cases hplan.symm.trans he
  · cases hresult : (Service.mk (b := Sql.backend) c maxPageSize).explain r with
    | error e => exact ⟨e, rfl⟩
    | ok plan =>
      rw [hresult] at hsql
      exact absurd (Request.scoped_of_checked hsql.symm) h
  · rw [← Outcome.verdict_eq_ok, hsearch] at hplan
    rw [← Outcome.verdict_eq_error, hsql] at he
    have hrefused := hstricter.refusal_of_ok hplan he
    exact ⟨hrefused.code_eq, hrefused⟩

/-- A search for a word in any field is planned by the one backend, and refused by the other. -/
theorem validation_agrees_words :
    let words : Request := .search ⟨⟨[], [["owl"]], none⟩, Page.first⟩
    (∃ plan, (Service.mk (b := Search.backend) people 100).explain words = .ok plan) ∧
      ∃ e, (Service.mk (b := Sql.backend) people 100).explain words = .error e ∧
        e.code = .notAllowed := by
  intro words
  have hplan : ∃ plan, (Service.mk (b := Search.backend) people 100).explain words = .ok plan :=
    ⟨_, rfl⟩
  have hunscoped : ¬words.filter.Scoped := fun h =>
    absurd (h ["owl"] List.mem_cons_self "owl" List.mem_cons_self) (by decide)
  obtain ⟨hrefused, hcode⟩ := (validation_agrees people 100 words).2.2 hplan
  obtain ⟨e, he⟩ := hrefused.mpr hunscoped
  exact ⟨hplan, e, he, (hcode e he).1⟩

end GeoFacet
