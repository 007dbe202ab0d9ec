import GeoFacet.Proofs.Filter.Conditions
import GeoFacet.Proofs.Search.Store

/-!
# Both backends filter alike

A request that the relational backend accepts is accepted by the search, and the query of one plan
matches a document exactly where the text of the other's count keeps it: both say what the gathered
conditions say. On either backend a negated operator selects the complement.

Main statement: `filters_agree`.
-/

namespace GeoFacet

/-! ## What plans select -/

variable {D : Type}

/-- Whether the query of a plan matches a document. -/
def Search.Plan.selects? (tests : Search.Tests D) (anyField : String → Bool) (p : Search.Plan)
    (doc : Document D) : Option Bool :=
  Search.matches? tests anyField doc ((p.toJson.member "body").member "query")

/-- What the text of the one count of a plan says about a document. -/
def Sql.Plan.counts? (tests : Sql.Tests D) (p : Sql.Plan) (doc : Document D) : Option Sql.Truth :=
  match p.statements.filter (·.purpose = .count) with
  | [count] => Sql.keeps? tests (Sql.rowOf doc) count.sql count.params
  | _ => none

/-- The filter that a request consists of, beside what it asks for. -/
def Request.filter : Request → FilterRequest
  | .search r => r.filter
  | .facets r => r.filter
  | .compute r => r.filter

/-- Whether a request asks for the number of matching records. -/
def Request.isCounted : Request → Bool
  | .compute _ => false
  | _ => true

/-! ## Accepted requests -/

/-- What is accepted without searches of all fields is accepted with them. -/
theorem SearchRequest.compiled_of_compiled {r : SearchRequest} {c : Collection} {limit : Nat}
    {q : Compiled} (h : r.compiled c limit false = .ok q) : r.compiled c limit true = .ok q := by
  obtain ⟨hcheck, hcursor, ⟨groups, hgroups, hfilter⟩, hscan⟩ := compiled_eq_ok.mp h
  exact compiled_eq_ok.mpr
    ⟨hcheck, hcursor, ⟨groups, FilterRequest.groups_of_groups hgroups, hfilter⟩, hscan⟩

/-- The facets of a request that is accepted, and its filter. -/
theorem Service.explainFacets_eq_ok {b : Backend} {s : Service b} {r : FacetRequest}
    {plan : b.Plan} : s.explainFacets r = .ok plan ↔ ∃ levels d, s.facetPlan r = .ok levels ∧
      b.addFilter s.collection r.filter (b.start s.collection) = .ok d ∧
      b.build (b.setFacets levels d) = .ok plan := by
  constructor
  · intro h
    obtain ⟨⟨levels, plan'⟩, hcompile, hplan⟩ := Outcome.bind_eq_ok.mp h
    cases hplan
    obtain ⟨_, hlevels, hcompile⟩ := Outcome.bind_eq_ok.mp hcompile
    obtain ⟨d, hd, hcompile⟩ := Outcome.bind_eq_ok.mp hcompile
    obtain ⟨_, hbuild, hcompile⟩ := Outcome.bind_eq_ok.mp hcompile
    cases hcompile
    exact ⟨levels, d, hlevels, hd, hbuild⟩
  · rintro ⟨levels, d, hlevels, hd, hbuild⟩
    rw [explainFacets, compileFacets, hlevels, Outcome.ok_bind, hd, Outcome.ok_bind, hbuild]
    rfl

/-- The query of an accepted request is that of its filter. -/
theorem Search.query_of_explain {s : Service Search.backend} {r : Request} {plan : Search.Plan}
    (hr : r.isCounted) (h : s.explain r = .ok plan) :
    ∃ groups, r.filter.groups s.collection true = .ok groups ∧
      plan.query = Query.ofFilter (Filter.gather groups) := by
  cases r with
  | search r =>
    obtain ⟨q, hq, hbuild⟩ := (Service.explainSearch_eq_ok (drafts s.collection r.page)).mp h
    obtain ⟨-, -, ⟨groups, hgroups, hfilter⟩, -⟩ := SearchRequest.compiled_eq_ok.mp hq
    cases hbuild
    exact ⟨groups, hgroups, congrArg Query.ofFilter hfilter⟩
  | facets r =>
    obtain ⟨levels, d, -, hd, hbuild⟩ := Service.explainFacets_eq_ok.mp h
    obtain ⟨groups, hgroups, rfl⟩ :=
      Outcome.map_eq_ok.mp ((addFilter_start s.collection r.filter).symm.trans hd)
    cases hbuild
    exact ⟨groups, hgroups, rfl⟩
  | compute r => cases hr

/-- The query of an accepted request of any kind is that of its filter. -/
theorem Search.filter_of_explain {s : Service Search.backend} {r : Request} {plan : Search.Plan}
    (h : s.explain r = .ok plan) :
    ∃ groups, r.filter.groups s.collection true = .ok groups ∧
      plan.query = Query.ofFilter (Filter.gather groups) := by
  cases r with
  | search r => exact query_of_explain rfl h
  | facets r => exact query_of_explain rfl h
  | compute r =>
    obtain ⟨d, hd, h⟩ := Outcome.bind_eq_ok.mp h
    obtain ⟨groups, hgroups, rfl⟩ :=
      Outcome.map_eq_ok.mp ((addFilter_start s.collection r.filter).symm.trans hd)
    obtain ⟨d', hd', hbuild⟩ := Outcome.bind_eq_ok.mp h
    obtain ⟨type, -, hd'⟩ := Outcome.bind_eq_ok.mp hd'
    cases hd'
    cases hbuild
    exact ⟨groups, hgroups, rfl⟩

namespace Sql

theorem filter_levelStatements (c : Collection) (filter : List (Predicate Scalar))
    (above levels : List FacetLevel) :
    (levelStatements c filter above levels).filter (·.purpose = .count) = [] := by
  induction levels generalizing above with
  | nil => rfl
  | cons l below ih => exact ih (above ++ [l])

/-- The count of an accepted request is that of its filter. -/
theorem count_of_explain {s : Service backend} {r : Request} {plan : Plan} (hr : r.isCounted)
    (h : s.explain r = .ok plan) :
    ∃ groups filter, r.filter.groups s.collection false = .ok groups ∧
      Predicate.ofFilter (Filter.gather groups) = .ok filter ∧
      plan.statements.filter (·.purpose = .count) =
        [Draft.countStatement s.collection filter] := by
  cases r with
  | search r =>
    obtain ⟨q, hq, hbuild⟩ := (Service.explainSearch_eq_ok (drafts s.collection r.page)).mp h
    obtain ⟨-, -, ⟨groups, hgroups, hgather⟩, -⟩ := SearchRequest.compiled_eq_ok.mp hq
    obtain ⟨filter, hfilter, hbuild⟩ := Outcome.bind_eq_ok.mp hbuild
    cases hbuild
    exact ⟨groups, filter, hgroups, hgather ▸ hfilter, rfl⟩
  | facets r =>
    obtain ⟨levels, d, -, hd, hbuild⟩ := Service.explainFacets_eq_ok.mp h
    obtain ⟨groups, hgroups, rfl⟩ :=
      Outcome.map_eq_ok.mp ((addFilter_start s.collection r.filter).symm.trans hd)
    obtain ⟨filter, hfilter, hbuild⟩ := Outcome.bind_eq_ok.mp hbuild
    cases hbuild
    refine ⟨groups, filter, hgroups, hfilter, ?_⟩
    show Draft.countStatement s.collection filter :: List.filter _ (levelStatements _ _ _ _) = _
    rw [filter_levelStatements]
  | compute r => cases hr

/-- **What the relational backend accepts, the search accepts.** -/
theorem search_explain_of_explain {c : Collection} {maxPageSize : Nat} {r : Request} {plan : Plan}
    (hr : r.isCounted)
    (h : (Service.mk (b := backend) c maxPageSize).explain r = .ok plan) :
    ∃ plan', (Service.mk (b := Search.backend) c maxPageSize).explain r = .ok plan' := by
  cases r with
  | search r =>
    obtain ⟨q, hq, -⟩ := (Service.explainSearch_eq_ok (drafts c r.page)).mp h
    exact ⟨_, (Service.explainSearch_eq_ok (Search.drafts c r.page)).mpr
      ⟨q, SearchRequest.compiled_of_compiled hq, rfl⟩⟩
  | facets r =>
    obtain ⟨levels, d, hlevels, hd, -⟩ := Service.explainFacets_eq_ok.mp h
    obtain ⟨groups, hgroups, -⟩ :=
      Outcome.map_eq_ok.mp ((addFilter_start c r.filter).symm.trans hd)
    have hadded := Search.addFilter_start c r.filter
    rw [FilterRequest.groups_of_groups hgroups] at hadded
    exact ⟨_, Service.explainFacets_eq_ok.mpr ⟨levels, _, hlevels, hadded, rfl⟩⟩
  | compute r => cases hr

end Sql

/-! ## Negated operators -/

/-- The operator that asks for the complement. -/
def Operator.opposite? : Operator → Option Operator
  | .eq => some .ne
  | .within => some .notWithin
  | .intersects => some .notIntersects
  | _ => none

namespace Condition

/-- The condition that holds of the complement, for one that can be turned round. -/
def opposite : Condition → Condition
  | .oneOf f vs => .noneOf f vs
  | .spatial f relation negated shape => .spatial f relation (!negated) shape
  | c => c

theorem field?_opposite (c : Condition) : c.opposite.field? = c.field? := by cases c <;> rfl

/-- A condition on values or on a relation, not negated. -/
def Plain : Condition → Prop
  | .oneOf _ _ => True
  | .spatial _ _ false _ => True
  | _ => False

variable {op op' : Operator} {c : Collection} {dateFormat : Option String} {field value : String}
  {cond : Condition}

/-- Opposite operators are accepted alike. -/
theorem ofParts_opposite (h : op.opposite? = some op') {type : FieldType} :
    ofParts dateFormat type field op' value = .ok cond ↔
      ∃ plain, ofParts dateFormat type field op value = .ok plain ∧ plain.opposite = cond := by
  -- Opposites are spatial alike, so the type of the field is checked in the same way.
  have hspatial : op'.isSpatial = op.isSpatial := by cases op <;> cases h <;> rfl
  rw [← Outcome.map_eq_ok]
  unfold ofParts
  dsimp only
  rw [hspatial]
  by_cases htype : op.isSpatial ≠ type.isGeometry
  · rw [if_pos htype, if_pos htype]
    constructor
    · intro hrefused
      cases hrefused
    · intro hrefused
      cases hrefused
  · rw [if_neg htype, if_neg htype]
    cases op <;> cases h
    case eq.refl => cases typedValues type field value <;> exact Iff.rfl
    case within.refl => cases aboutField field (Shape.parse value) <;> exact Iff.rfl
    case intersects.refl => cases aboutField field (Shape.parse value) <;> exact Iff.rfl

theorem plain_ofParts (h : op.opposite? = some op') {type : FieldType}
    (hcond : ofParts dateFormat type field op value = .ok cond) : cond.Plain := by
  unfold ofParts at hcond
  dsimp only at hcond
  split at hcond
  · cases hcond
  · cases op <;> cases h
    case eq.refl =>
      obtain ⟨vs, -, rfl⟩ := Outcome.map_eq_ok.mp hcond
      trivial
    case within.refl =>
      obtain ⟨shape, -, hcond⟩ := Outcome.bind_eq_ok.mp hcond
      cases hcond
      trivial
    case intersects.refl =>
      obtain ⟨shape, -, hcond⟩ := Outcome.bind_eq_ok.mp hcond
      cases hcond
      trivial

theorem ofExpression_opposite (h : op.opposite? = some op') :
    ofExpression c dateFormat ⟨field, op', value⟩ = .ok cond ↔
      ∃ plain, ofExpression c dateFormat ⟨field, op, value⟩ = .ok plain ∧
        plain.opposite = cond := by
  constructor
  · intro hcond
    obtain ⟨_, hcheck, hcond⟩ := Outcome.bind_eq_ok.mp hcond
    obtain ⟨type, htype, hcond⟩ := Outcome.bind_eq_ok.mp hcond
    obtain ⟨plain, hplain, rfl⟩ := (ofParts_opposite h).mp hcond
    exact ⟨plain, Outcome.bind_eq_ok.mpr
      ⟨(), hcheck, Outcome.bind_eq_ok.mpr ⟨type, htype, hplain⟩⟩, rfl⟩
  · rintro ⟨plain, hplain, rfl⟩
    obtain ⟨_, hcheck, hplain⟩ := Outcome.bind_eq_ok.mp hplain
    obtain ⟨type, htype, hplain⟩ := Outcome.bind_eq_ok.mp hplain
    exact Outcome.bind_eq_ok.mpr ⟨(), hcheck, Outcome.bind_eq_ok.mpr
      ⟨type, htype, (ofParts_opposite h).mpr ⟨plain, hplain, rfl⟩⟩⟩

theorem plain_ofExpression (h : op.opposite? = some op')
    (hcond : ofExpression c dateFormat ⟨field, op, value⟩ = .ok cond) : cond.Plain := by
  obtain ⟨_, -, hcond⟩ := Outcome.bind_eq_ok.mp hcond
  obtain ⟨type, -, hcond⟩ := Outcome.bind_eq_ok.mp hcond
  exact plain_ofParts h hcond

theorem exists_opposite (h : op.opposite? = some op') :
    (∃ cond, ofExpression c dateFormat ⟨field, op, value⟩ = .ok cond) ↔
      ∃ cond, ofExpression c dateFormat ⟨field, op', value⟩ = .ok cond := by
  constructor
  · rintro ⟨cond, hcond⟩
    exact ⟨cond.opposite, (ofExpression_opposite h).mpr ⟨cond, hcond, rfl⟩⟩
  · rintro ⟨cond, hcond⟩
    obtain ⟨plain, hplain, -⟩ := (ofExpression_opposite h).mp hcond
    exact ⟨plain, hplain⟩

/-- **The opposite holds of the complement**, documents without a value included. -/
theorem holds_opposite (h : cond.Plain) (tests : Search.Tests D) (anyField : String → Bool)
    (doc : Document D) :
    cond.opposite.holds tests anyField doc = !cond.holds tests anyField doc := by
  match cond, h with
  | .oneOf f vs, _ => rfl
  | .spatial f relation false shape, _ =>
    show (true != _) = !(false != _)
    rw [Bool.true_bne, Bool.false_bne]

end Condition

/-- A search with one expression for its filter. -/
def Expression.asked (e : Expression) (dateFormat : Option String) (page : Page) : SearchRequest :=
  ⟨⟨[[e]], [], dateFormat⟩, page⟩

theorem Expression.groups_asked (e : Expression) (dateFormat : Option String) (page : Page)
    (c : Collection) (allowUnscoped : Bool) {groups : List (List Condition)} :
    (e.asked dateFormat page).filter.groups c allowUnscoped = .ok groups ↔
      ∃ cond, Condition.ofExpression c dateFormat e = .ok cond ∧ groups = [[cond]] := by
  show (([[e]].mapM (Condition.ofExpressions c dateFormat) : Outcome _) >>= _) = _ ↔ _
  rw [Outcome.mapM_cons, Condition.ofExpressions, Outcome.mapM_cons]
  cases Condition.ofExpression c dateFormat e with
  | error fault => exact ⟨fun h => (by cases h), fun ⟨_, h, _⟩ => (by cases h)⟩
  | ok cond =>
    constructor
    · intro h
      cases h
      exact ⟨cond, rfl, rfl⟩
    · rintro ⟨cond', h, rfl⟩
      cases h
      rfl

/-- A request of one expression is accepted if its page and its expression are. -/
theorem Service.accepts_asked {b : Backend} {s : Service b} {e : Expression}
    {dateFormat : Option String} {page : Page} {draft : Filter → Scan → b.Draft}
    (h : b.Drafts s.collection page draft)
    (hbuild : ∀ cond scan, Condition.ofExpression s.collection dateFormat e = .ok cond →
      ∃ plan, b.build (draft [[cond]] scan) = .ok plan) :
    (∃ plan, s.explainSearch (e.asked dateFormat page) = .ok plan) ↔
      page.check s.maxPageSize = .ok () ∧
        (∃ cursor scan, page.cursor = .ok cursor ∧
          Scan.ofPage s.collection.idPath page cursor = .ok scan) ∧
        ∃ cond, Condition.ofExpression s.collection dateFormat e = .ok cond := by
  constructor
  · rintro ⟨plan, hplan⟩
    obtain ⟨q, hq, -⟩ := (Service.explainSearch_eq_ok (r := e.asked dateFormat page) h).mp hplan
    obtain ⟨hcheck, hcursor, ⟨groups, hgroups, -⟩, hscan⟩ := SearchRequest.compiled_eq_ok.mp hq
    obtain ⟨cond, hcond, -⟩ := (e.groups_asked dateFormat page _ _).mp hgroups
    exact ⟨hcheck, ⟨q.cursor, q.scan, hcursor, hscan⟩, cond, hcond⟩
  · rintro ⟨hcheck, ⟨cursor, scan, hcursor, hscan⟩, cond, hcond⟩
    obtain ⟨plan, hplan⟩ := hbuild cond scan hcond
    have hgroups := (e.groups_asked dateFormat page s.collection b.capabilities.unscopedText).mpr
      ⟨cond, hcond, rfl⟩
    exact ⟨plan, (Service.explainSearch_eq_ok (r := e.asked dateFormat page) h).mpr
      ⟨⟨cursor, [[cond]], scan⟩,
        SearchRequest.compiled_eq_ok.mpr ⟨hcheck, hcursor, ⟨_, hgroups, rfl⟩, hscan⟩, hplan⟩⟩

/-- A condition on values or on a relation has a row predicate, and so has its opposite. -/
theorem Sql.exists_ofCondition {cond : Condition} (h : cond.Plain) :
    (∃ p, Predicate.ofCondition cond = .ok p) ∧
      ∃ p, Predicate.ofCondition cond.opposite = .ok p := by
  have hfield : cond.field? ≠ none := by
    match cond, h with
    | .oneOf f vs, _ => exact Option.some_ne_none f
    | .spatial f relation false shape, _ => exact Option.some_ne_none f
  exact ⟨Predicate.exists_ofCondition hfield,
    Predicate.exists_ofCondition (cond.field?_opposite ▸ hfield)⟩

theorem Sql.exists_build {cond : Condition} (h : ∃ p, Predicate.ofCondition cond = .ok p)
    (c : Collection) (page : Page) (scan : Scan) :
    ∃ plan, backend.build (draftOf c page [[cond]] scan) = .ok plan := by
  obtain ⟨p, hp⟩ := h
  have hfilter : Predicate.ofFilter [[cond]] = .ok [p] := by
    rw [Predicate.ofFilter, Outcome.mapM_cons, Predicate.ofGroup, Outcome.mapM_cons, hp]
    rfl
  show ∃ plan, (Predicate.ofFilter [[cond]] >>= _) = _
  rw [hfilter]
  exact ⟨_, rfl⟩

section Opposites

variable {op op' : Operator} {field value : String} {dateFormat : Option String} {page : Page}

theorem Sql.accepts_opposite (h : op.opposite? = some op') (s : Service backend) :
    (∃ plan, s.explainSearch (Expression.asked ⟨field, op, value⟩ dateFormat page) = .ok plan) ↔
      ∃ plan, s.explainSearch (Expression.asked ⟨field, op', value⟩ dateFormat page) =
        .ok plan := by
  rw [Service.accepts_asked (drafts s.collection page) fun cond scan hcond => ?_,
    Service.accepts_asked (drafts s.collection page) fun cond scan hcond => ?_,
    Condition.exists_opposite h]
  · obtain ⟨plain, hplain, rfl⟩ := (Condition.ofExpression_opposite h).mp hcond
    exact exists_build (exists_ofCondition (Condition.plain_ofExpression h hplain)).2 _ _ _
  · exact exists_build (exists_ofCondition (Condition.plain_ofExpression h hcond)).1 _ _ _

theorem Search.accepts_opposite (h : op.opposite? = some op') (s : Service backend) :
    (∃ plan, s.explainSearch (Expression.asked ⟨field, op, value⟩ dateFormat page) = .ok plan) ↔
      ∃ plan, s.explainSearch (Expression.asked ⟨field, op', value⟩ dateFormat page) =
        .ok plan := by
  rw [Service.accepts_asked (drafts s.collection page) fun cond scan hcond => ⟨_, rfl⟩,
    Service.accepts_asked (drafts s.collection page) fun cond scan hcond => ⟨_, rfl⟩,
    Condition.exists_opposite h]

end Opposites

/-! ## What accepted requests select -/

/-- Whether one condition of each group holds. -/
def Filter.holds (tests : Search.Tests D) (anyField : String → Bool) (doc : Document D)
    (f : Filter) : Bool :=
  f.all fun group => group.any (Condition.holds tests anyField doc)

theorem Search.selects?_of_query {plan : Search.Plan} {f : Filter}
    (h : plan.query = Query.ofFilter f) (tests : Search.Tests D) (anyField : String → Bool)
    (doc : Document D) : plan.selects? tests anyField doc = some (f.holds tests anyField doc) := by
  have hmember : (plan.toJson.member "body").member "query" = plan.query.toJson := by
    rw [Json.member, Plan.get?_body]
    rfl
  rw [Plan.selects?, hmember, h, matches?_ofFilter]
  rfl

theorem Search.selects?_of_explain {s : Service Search.backend} {r : Request} {plan : Search.Plan}
    (hr : r.isCounted) (h : s.explain r = .ok plan) :
    ∃ groups, r.filter.groups s.collection true = .ok groups ∧
      ∀ (tests : Search.Tests D) (anyField : String → Bool) (doc : Document D),
        plan.selects? tests anyField doc =
          some ((Filter.gather groups).holds tests anyField doc) := by
  obtain ⟨groups, hgroups, hquery⟩ := query_of_explain hr h
  exact ⟨groups, hgroups, selects?_of_query hquery⟩

theorem Sql.counts?_of_explain {search : Search.Tests D} {sql : Sql.Tests D}
    (agreement : Agreement search sql) {s : Service Sql.backend} {r : Request} {plan : Sql.Plan}
    (hr : r.isCounted) (h : s.explain r = .ok plan) :
    ∃ groups, r.filter.groups s.collection false = .ok groups ∧
      ∀ (anyField : String → Bool) (doc : Document D), ∃ t, plan.counts? sql doc = some t ∧
        (t = some true ↔ (Filter.gather groups).holds search anyField doc = true) := by
  obtain ⟨groups, filter, hgroups, hfilter, hcount⟩ := count_of_explain hr h
  refine ⟨groups, hgroups, fun anyField doc => ⟨Predicate.truthAll sql (rowOf doc) filter, ?_, ?_⟩⟩
  · have hlegible : ∀ p ∈ filter, p.Legible := Predicate.legible_ofFilter
      (fun group hgroup => (Filter.mem_of_mem_gather hgroup).2)
      (fun group hgroup => FilterRequest.sound_of_groups hgroups group
        (Filter.mem_of_mem_gather hgroup).1) hfilter
    rw [Plan.counts?, hcount]
    exact keeps?_countStatement sql (rowOf doc) s.collection hlegible
  · exact Predicate.truthAll_ofFilter agreement hfilter

/-- Both requests are accepted or none, and a document is kept for one exactly if it is not for the
other. -/
def Sql.Opposed (tests : Sql.Tests D) (s : Service Sql.backend) (r r' : Request) : Prop :=
  ((∃ plan, s.explain r = .ok plan) ↔ ∃ plan, s.explain r' = .ok plan) ∧
    ∀ plan plan' : Sql.Plan, s.explain r = .ok plan → s.explain r' = .ok plan' →
      ∀ doc, ∃ t t', plan.counts? tests doc = some t ∧ plan'.counts? tests doc = some t' ∧
        (t' = some true ↔ t ≠ some true)

/-- Both requests are accepted or none, and a document matches one exactly if it does not match the
other. -/
def Search.Opposed (tests : Search.Tests D) (s : Service Search.backend) (r r' : Request) : Prop :=
  ((∃ plan, s.explain r = .ok plan) ↔ ∃ plan, s.explain r' = .ok plan) ∧
    ∀ plan plan' : Search.Plan, s.explain r = .ok plan → s.explain r' = .ok plan' →
      ∀ anyField doc, ∃ b, plan.selects? tests anyField doc = some b ∧
        plan'.selects? tests anyField doc = some !b

section Opposites

variable {op op' : Operator} {field value : String} {dateFormat : Option String} {page : Page}

/-- The filters of opposite expressions hold of complements. -/
theorem Filter.holds_opposite (h : op.opposite? = some op') {c : Collection} {allowUnscoped : Bool}
    {groups groups' : List (List Condition)}
    (hgroups : (Expression.asked ⟨field, op, value⟩ dateFormat page).filter.groups c allowUnscoped =
      .ok groups)
    (hgroups' : (Expression.asked ⟨field, op', value⟩ dateFormat page).filter.groups c
      allowUnscoped = .ok groups')
    (tests : Search.Tests D) (anyField : String → Bool) (doc : Document D) :
    (gather groups').holds tests anyField doc = !(gather groups).holds tests anyField doc := by
  obtain ⟨cond, hcond, rfl⟩ := (Expression.groups_asked _ _ _ _ _).mp hgroups
  obtain ⟨cond', hcond', rfl⟩ := (Expression.groups_asked _ _ _ _ _).mp hgroups'
  obtain ⟨plain, hplain, rfl⟩ := (Condition.ofExpression_opposite h).mp hcond'
  cases hcond.symm.trans hplain
  have hone : ∀ cond : Condition,
      (gather [[cond]]).holds tests anyField doc = cond.holds tests anyField doc := by
    intro cond
    show ((cond.holds tests anyField doc || false) && true) = _
    rw [Bool.or_false, Bool.and_true]
  rw [hone, hone, Condition.holds_opposite (Condition.plain_ofExpression h hcond)]

theorem Search.opposed (h : op.opposite? = some op') (tests : Search.Tests D)
    (s : Service Search.backend) :
    Opposed tests s (.search (Expression.asked ⟨field, op, value⟩ dateFormat page))
      (.search (Expression.asked ⟨field, op', value⟩ dateFormat page)) := by
  refine ⟨accepts_opposite h s, fun plan plan' hplan hplan' anyField doc => ?_⟩
  obtain ⟨groups, hgroups, hselects⟩ := selects?_of_explain rfl hplan
  obtain ⟨groups', hgroups', hselects'⟩ := selects?_of_explain rfl hplan'
  refine ⟨_, hselects tests anyField doc, ?_⟩
  rw [hselects', Filter.holds_opposite h hgroups hgroups']

theorem Sql.opposed {search : Search.Tests D} {sql : Sql.Tests D} (agreement : Agreement search sql)
    (h : op.opposite? = some op') (s : Service Sql.backend) :
    Opposed sql s (.search (Expression.asked ⟨field, op, value⟩ dateFormat page))
      (.search (Expression.asked ⟨field, op', value⟩ dateFormat page)) := by
  refine ⟨accepts_opposite h s, fun plan plan' hplan hplan' doc => ?_⟩
  obtain ⟨groups, hgroups, hcounts⟩ := counts?_of_explain agreement rfl hplan
  obtain ⟨groups', hgroups', hcounts'⟩ := counts?_of_explain agreement rfl hplan'
  obtain ⟨t, ht, htrue⟩ := hcounts (fun _ => false) doc
  obtain ⟨t', ht', htrue'⟩ := hcounts' (fun _ => false) doc
  refine ⟨t, t', ht, ht', ?_⟩
  rw [htrue', ne_eq, htrue, Filter.holds_opposite h hgroups hgroups', Bool.not_eq_true,
    Bool.not_eq_true']

end Opposites

/-- **Both backends filter alike.** What the relational backend accepts, the search accepts, and a
document matches the query exactly if the text of the count is true of it. On either backend a
negated operator selects the complement, documents without a value included. -/
theorem filters_agree {search : Search.Tests D} {sql : Sql.Tests D}
    (agreement : Sql.Agreement search sql) (c : Collection) (maxPageSize : Nat) :
    (∀ (r : Request) (plan : Sql.Plan), r.isCounted →
      (Service.mk (b := Sql.backend) c maxPageSize).explain r = .ok plan →
        ∃ plan' : Search.Plan,
          (Service.mk (b := Search.backend) c maxPageSize).explain r = .ok plan' ∧
          ∀ anyField doc, ∃ t b, plan.counts? sql doc = some t ∧
            plan'.selects? search anyField doc = some b ∧ (t = some true ↔ b = true)) ∧
    ∀ op op' : Operator, op.opposite? = some op' → ∀ field value dateFormat page,
      Sql.Opposed sql ⟨c, maxPageSize⟩
        (.search (Expression.asked ⟨field, op, value⟩ dateFormat page))
        (.search (Expression.asked ⟨field, op', value⟩ dateFormat page)) ∧
      Search.Opposed search ⟨c, maxPageSize⟩
        (.search (Expression.asked ⟨field, op, value⟩ dateFormat page))
        (.search (Expression.asked ⟨field, op', value⟩ dateFormat page)) := by
  constructor
  · intro r plan hr hplan
    obtain ⟨plan', hplan'⟩ := Sql.search_explain_of_explain hr hplan
    obtain ⟨groups, hgroups, hcounts⟩ := Sql.counts?_of_explain agreement hr hplan
    obtain ⟨groups', hgroups', hselects⟩ := Search.selects?_of_explain hr hplan'
    -- Without unscoped searches both backends have the same groups.
    cases (FilterRequest.groups_of_groups hgroups).symm.trans hgroups'
    refine ⟨plan', hplan', fun anyField doc => ?_⟩
    obtain ⟨t, ht, htrue⟩ := hcounts anyField doc
    exact ⟨t, _, ht, hselects search anyField doc, htrue⟩
  · intro op op' h field value dateFormat page
    exact ⟨Sql.opposed agreement h ⟨c, maxPageSize⟩, Search.opposed h search ⟨c, maxPageSize⟩⟩

/-! ### A filter of people

Documents have whole numbers for their fields; those of adults are selected, and a person of unknown
age is not. -/

/-- Whole numbers against the values of a document query. -/
def Search.wholeTests : Search.Tests Int where
  equal x
    | .int n => x == n
    | _ => false
  compare x op
    | .int n =>
      match op with
      | .gte => n ≤ x
      | .gt => n < x
      | .lte => x ≤ n
      | .lt => x < n
    | _ => false
  wildcard _ _ := false
  words _ _ := false
  relates _ _ _ := false

/-- Whole numbers against the values of a statement. -/
def Sql.integerTests : Sql.Tests Int where
  equal x v := Search.wholeTests.equal x v.toJson
  compare x op v := Search.wholeTests.compare x op v.toJson
  like _ _ := false
  likeAnyCase _ _ := false
  relates _ _ _ := false

theorem Sql.agreement_integerTests : Agreement Search.wholeTests integerTests where
  equal _ _ := rfl
  compare _ _ _ := rfl
  like _ _ := rfl
  words _ _ := rfl
  relates _ _ _ := rfl

def people : Collection :=
  ⟨"people", "people", "id", "shape", "center", "seen", "epoch_millis", [],
    [("age", .integer), ("id", .integer)]⟩

/-- Everyone of eighteen years or more. -/
def adults : Request := .search ((Expression.mk "age" .gte "18").asked none Page.first)

def aged (years : Option Int) : Document Int := fun field => if field = "age" then years else none

theorem filters_agree_adults : ∃ (plan : Sql.Plan) (plan' : Search.Plan),
    (Service.mk (b := Sql.backend) people 100).explain adults = .ok plan ∧
    (Service.mk (b := Search.backend) people 100).explain adults = .ok plan' ∧
    plan'.selects? Search.wholeTests (fun _ => false) (aged (some 20)) = some true ∧
    plan.counts? Sql.integerTests (aged (some 20)) = some (some true) ∧
    plan'.selects? Search.wholeTests (fun _ => false) (aged none) = some false ∧
    plan.counts? Sql.integerTests (aged none) ≠ some (some true) := by
  obtain ⟨plan, hplan⟩ : ∃ plan,
      (Service.mk (b := Sql.backend) people 100).explain adults = .ok plan := ⟨_, rfl⟩
  obtain ⟨plan', hplan', hagree⟩ :=
    (filters_agree Sql.agreement_integerTests people 100).1 adults plan rfl hplan
  have hyes : plan'.selects? Search.wholeTests (fun _ => false) (aged (some 20)) = some true := by
    cases hplan'
    rfl
  have hno : plan'.selects? Search.wholeTests (fun _ => false) (aged none) = some false := by
    cases hplan'
    rfl
  obtain ⟨t, b, ht, hb, htrue⟩ := hagree (fun _ => false) (aged (some 20))
  obtain ⟨t', b', ht', hb', htrue'⟩ := hagree (fun _ => false) (aged none)
  rw [hyes] at hb
  cases hb
  rw [hno] at hb'
  cases hb'
  refine ⟨plan, plan', hplan, hplan', hyes, ?_, hno, ?_⟩
  · rw [ht, htrue.mpr rfl]
  · rw [ht']
    intro h
    exact absurd (htrue'.mp (Option.some.inj h)) (by decide)

end GeoFacet
