import GeoFacet.Proofs.Filter.Agreement
import GeoFacet.Proofs.Filter.Equivalence
import GeoFacet.Proofs.Sql.Parameters

/-!
# Groups are filtered by once

The filter of a request has each of its groups once, in the order in which they come first, and none
without alternatives. A group that comes again, or an empty one, is not added, so that the plans of
all kinds of requests are the same with it and without it; what they select is what satisfies every
group that was asked for.

Main statement: `FilterRequest.repetition_changes_nothing`.
-/

namespace GeoFacet

/-! ## Filters -/

namespace Filter

variable {filter : Filter} {group : List Condition} {groups : List (List Condition)}

/-- The groups that are not empty, each once and where it comes first. -/
structure HasOnce (filter : Filter) (groups : List (List Condition)) : Prop where
  inOrder : filter = (groups.filter (!·.isEmpty)).eraseDups
  once : ∀ group ∈ groups, group ≠ [] → filter.countP (· == group) = 1

/-- Adding groups is a walk that erases duplicates. -/
theorem foldl_add_eq (groups : List (List Condition)) (filter : Filter) :
    groups.foldl add filter =
      List.eraseDupsBy.loop (· == ·) (groups.filter (!·.isEmpty)) filter.reverse := by
  induction groups generalizing filter with
  | nil => exact filter.reverse_reverse.symm
  | cons group rest ih =>
    rw [List.foldl_cons, ih, add]
    cases hempty : group.isEmpty with
    | true => rw [List.filter_cons_of_neg (by rw [hempty]; decide), Bool.true_or, if_pos rfl]
    | false =>
      rw [List.filter_cons_of_pos (by rw [hempty]; rfl), List.eraseDupsBy.loop, Bool.false_or,
        List.any_reverse, ← List.contains_eq_any_beq]
      cases filter.contains group with
      | true => rfl
      | false => rw [if_neg Bool.false_ne_true, List.reverse_append]; rfl

/-- **A filter is its groups without the empty ones and without duplicates.** -/
theorem gather_eq (groups : List (List Condition)) :
    gather groups = (groups.filter (!·.isEmpty)).eraseDups :=
  foldl_add_eq groups []

theorem distinct_gather (groups : List (List Condition)) : (gather groups).Distinct := by
  have hdistinct : ∀ filter : Filter, filter.Distinct → (groups.foldl add filter).Distinct := by
    induction groups with
    | nil => exact fun _ h => h
    | cons group rest ih => exact fun filter h => ih _ (h.add group)
  exact hdistinct [] List.Pairwise.nil

theorem add_nil (filter : Filter) : filter.add [] = filter := rfl

/-- A group that equals one of the filter is not added. -/
theorem add_of_beq {kept : List Condition} (hkept : kept ∈ filter) (h : (group == kept) = true) :
    filter.add group = filter := by
  have hthere : filter.contains group = true :=
    List.contains_iff_exists_mem_beq.mpr ⟨kept, hkept, h⟩
  rw [add, hthere, Bool.or_true, if_pos rfl]

theorem mem_add_of_mem {kept : List Condition} (h : kept ∈ filter) : kept ∈ filter.add group := by
  rw [add]
  split
  · exact h
  · exact List.mem_append_left _ h

/-- What was added is there, or what it equals is. -/
theorem exists_mem_add (hne : group ≠ []) :
    ∃ kept ∈ filter.add group, kept = group ∨ (group == kept) = true := by
  rw [add]
  split
  · rename_i hthere
    rw [List.isEmpty_eq_false_iff.mpr hne, Bool.false_or,
      List.contains_iff_exists_mem_beq] at hthere
    obtain ⟨kept, hkept, h⟩ := hthere
    exact ⟨kept, hkept, .inr h⟩
  · exact ⟨group, List.mem_append_right _ List.mem_cons_self, .inl rfl⟩

theorem gather_append (before after : List (List Condition)) :
    gather (before ++ after) = after.foldl add (gather before) :=
  List.foldl_append

/-- Each group that is not empty is in the filter, or one that it equals is. -/
theorem exists_mem_gather (hgroup : group ∈ groups) (hne : group ≠ []) :
    ∃ kept ∈ gather groups, kept = group ∨ (group == kept) = true := by
  obtain ⟨before, after, rfl⟩ := List.append_of_mem hgroup
  have hadded : ∃ kept ∈ (gather before).add group, kept = group ∨ (group == kept) = true :=
    exists_mem_add hne
  obtain ⟨kept, hkept, h⟩ := hadded
  refine ⟨kept, ?_, h⟩
  rw [gather_append, List.foldl_cons]
  generalize (gather before).add group = filter at hkept
  clear hgroup
  induction after generalizing filter with
  | nil => exact hkept
  | cons group' rest ih => exact ih _ (mem_add_of_mem hkept)

/-- What equals a group of a filter without duplicates equals one alone. -/
theorem Distinct.countP_eq_one (h : filter.Distinct) {kept : List Condition}
    (hkept : kept ∈ filter) (heq : (kept == group) = true) :
    filter.countP (· == group) = 1 := by
  obtain ⟨before, after, rfl⟩ := List.append_of_mem hkept
  obtain ⟨-, hafter, hbefore⟩ := List.pairwise_append.mp h
  have hnone : ∀ other, ((kept == other) = false ∨ (other == kept) = false) →
      ¬(other == group) = true := by
    intro other hdiffers hsame
    have hother : (other == kept) = true := BEq.trans hsame (BEq.symm heq)
    rcases hdiffers with hdiffers | hdiffers
    · rw [BEq.symm hother] at hdiffers
      cases hdiffers
    · rw [hother] at hdiffers
      cases hdiffers
  rw [List.countP_append, List.countP_cons_of_pos (p := (· == group)) heq,
    List.countP_eq_zero.mpr fun other hother =>
      hnone other (.inl (hbefore other hother kept List.mem_cons_self)),
    List.countP_eq_zero.mpr fun other hother =>
      hnone other (.inr (List.rel_of_pairwise_cons hafter hother))]

/-- The filter of groups that equal themselves. -/
theorem hasOnce_gather (hself : ∀ group ∈ groups, (group == group) = true) :
    (gather groups).HasOnce groups where
  inOrder := gather_eq groups
  once group hgroup hne := by
    obtain ⟨kept, hkept, heq⟩ := exists_mem_gather hgroup hne
    refine (distinct_gather groups).countP_eq_one hkept ?_
    rcases heq with rfl | heq
    · exact hself kept hgroup
    · exact BEq.symm heq

/-- A document satisfies an alternative of each group that has any. -/
def Satisfied {D : Type} (tests : Search.Tests D) (anyField : String → Bool) (doc : Document D)
    (groups : List (List Condition)) : Prop :=
  ∀ group ∈ groups, group ≠ [] → ∃ cond ∈ group, cond.holds tests anyField doc = true

/-- A filter holds where each group that it was gathered from is satisfied. -/
theorem holds_gather {D : Type} {tests : Search.Tests D} (htests : tests.RespectsEquality)
    (anyField : String → Bool) (doc : Document D) :
    (gather groups).holds tests anyField doc = true ↔ Satisfied tests anyField doc groups := by
  simp only [holds, List.all_eq_true]
  constructor
  · intro h group hgroup hne
    rw [← List.any_eq_true]
    obtain ⟨kept, hkept, rfl | heq⟩ := exists_mem_gather hgroup hne
    · exact h kept hkept
    · rw [any_congr_of_beq (fun _ _ => Condition.holds_congr htests) heq]
      exact h kept hkept
  · intro h group hgroup
    obtain ⟨hgroup, hne⟩ := mem_of_mem_gather hgroup
    exact List.any_eq_true.mpr (h group hgroup hne)

end Filter

/-! ## Another group -/

/-- Both outcomes are the same fault, or both are values that are related. -/
inductive Outcome.Both {α β : Type} (R : α → β → Prop) : Outcome α → Outcome β → Prop
  | error (e : Fault) : Both R (.error e) (.error e)
  | ok {a : α} {b : β} (h : R a b) : Both R (.ok a) (.ok b)

namespace Outcome

variable {α β γ δ : Type}

theorem Both.refl (o : Outcome α) : Both (· = ·) o o := by
  cases o with
  | error e => exact .error e
  | ok a => exact .ok rfl

theorem Both.bind {R : α → β → Prop} {S : γ → δ → Prop} {o : Outcome α} {o' : Outcome β}
    {f : α → Outcome γ} {g : β → Outcome δ} (h : Both R o o')
    (hfg : ∀ a b, R a b → Both S (f a) (g b)) : Both S (o >>= f) (o' >>= g) := by
  cases h with
  | error e => exact .error e
  | ok h => exact hfg _ _ h

end Outcome

/-- A list with one group more: a copy of one before it, or one without alternatives. -/
inductive Repetition {α : Type} : List (List α) → List (List α) → Prop
  | inserted (before after : List (List α)) (group : List α) (h : group ∈ before ∨ group = []) :
    Repetition (before ++ after) (before ++ group :: after)

namespace Repetition

variable {α β : Type} {xs xs' : List (List α)} {f : List α → Outcome (List β)}

theorem append_right (h : Repetition xs xs') (ys : List (List α)) :
    Repetition (xs ++ ys) (xs' ++ ys) := by
  obtain ⟨before, after, group, h⟩ := h
  rw [List.append_assoc, List.append_assoc]
  exact .inserted before (after ++ ys) group h

theorem append_left (h : Repetition xs xs') (ys : List (List α)) :
    Repetition (ys ++ xs) (ys ++ xs') := by
  obtain ⟨before, after, group, h⟩ := h
  rw [← List.append_assoc, ← List.append_assoc]
  exact .inserted (ys ++ before) after group (h.imp_left fun hmem => List.mem_append_right ys hmem)

theorem gather_eq {groups groups' : List (List Condition)} (h : Repetition groups groups')
    (hself : ∀ group ∈ groups, (group == group) = true) :
    Filter.gather groups' = Filter.gather groups := by
  obtain ⟨before, after, group, hgroup⟩ := h
  rw [Filter.gather_append, Filter.gather_append, List.foldl_cons]
  by_cases hne : group = []
  · rw [hne, Filter.add_nil]
  · have hmem := hgroup.resolve_right hne
    obtain ⟨kept, hkept, heq⟩ := Filter.exists_mem_gather hmem hne
    rw [Filter.add_of_beq hkept]
    rcases heq with rfl | heq
    · exact hself kept (List.mem_append_left _ hmem)
    · exact heq

/-- A walk over a repetition comes to one. -/
theorem mapM (hf : f [] = .ok []) (h : Repetition xs xs') :
    Outcome.Both Repetition (xs.mapM f) (xs'.mapM f) := by
  obtain ⟨before, after, group, hgroup⟩ := h
  rw [Outcome.mapM_append, Outcome.mapM_append]
  cases hbefore : before.mapM f with
  | error e => exact .error e
  | ok ys =>
    obtain ⟨y, hy, hinserted⟩ : ∃ y, f group = .ok y ∧ (y ∈ ys ∨ y = []) := by
      rcases hgroup with hmem | rfl
      · obtain ⟨y, hy⟩ := Outcome.exists_ok_of_mem_mapM hbefore hmem
        exact ⟨y, hy, .inl (Outcome.mem_of_mapM hbefore hmem hy)⟩
      · exact ⟨[], hf, .inr rfl⟩
    rw [Outcome.ok_bind, Outcome.ok_bind, Outcome.mapM_cons, hy, Outcome.ok_bind]
    cases after.mapM f with
    | error e => exact .error e
    | ok zs => exact .ok (.inserted ys zs y hinserted)

end Repetition

namespace FilterRequest

/-- The request with another group, a copy of one before it in the same list or one without
alternatives. -/
inductive Repeats (r : FilterRequest) : FilterRequest → Prop
  | expressions {groups : List (List Expression)} (h : Repetition r.expressions groups) :
    Repeats r { r with expressions := groups }
  | searches {groups : List (List String)} (h : Repetition r.searches groups) :
    Repeats r { r with searches := groups }

variable {r r' : FilterRequest} {c : Collection} {allowUnscoped : Bool}
  {groups : List (List Condition)}

/-- Accepted groups equal themselves, unless a coordinate of a shape is no number. -/
theorem beq_self_of_groups (h : r.groups c allowUnscoped = .ok groups)
    (hordered : ∀ group ∈ groups, ∀ cond ∈ group, ¬cond.IsUnordered) :
    ∀ group ∈ groups, (group == group) = true := by
  intro group hgroup
  refine beq_self_of_forall fun cond hcond =>
    Condition.beq_self ?_ (hordered group hgroup cond hcond)
  rcases origin_of_groups h hgroup hcond with ⟨e, he⟩ | ⟨query, hquery⟩
  · exact Condition.isFinite_ofExpression he
  · obtain ⟨field, words, rfl, -⟩ := Condition.ofSearch_eq_ok hquery
    trivial

theorem Repeats.both_groups (h : r.Repeats r') (c : Collection) (allowUnscoped : Bool) :
    Outcome.Both Repetition (r.groups c allowUnscoped) (r'.groups c allowUnscoped) := by
  cases h with
  | expressions h =>
    refine (h.mapM (f := Condition.ofExpressions c r.dateFormat) rfl).bind fun es es' hes => ?_
    refine (Outcome.Both.refl (r.searches.mapM _)).bind fun qs qs' hqs => ?_
    exact .ok (hqs ▸ hes.append_right qs)
  | searches h =>
    refine (Outcome.Both.refl (r.expressions.mapM _)).bind fun es es' hes => ?_
    refine (h.mapM (f := Condition.ofSearches c allowUnscoped) rfl).bind fun qs qs' hqs => ?_
    exact .ok (hes ▸ hqs.append_left es)

/-- A repetition comes to the same filter, or to the same fault. -/
theorem Repeats.gather_eq (h : r.Repeats r')
    (hself : ∀ groups, r.groups c allowUnscoped = .ok groups →
      ∀ group ∈ groups, (group == group) = true) :
    (r'.groups c allowUnscoped).map Filter.gather =
      (r.groups c allowUnscoped).map Filter.gather := by
  have hgroups := h.both_groups c allowUnscoped
  generalize r'.groups c allowUnscoped = o' at hgroups
  generalize r.groups c allowUnscoped = o at hgroups hself
  cases hgroups with
  | error e => rfl
  | ok hrepeats => exact congrArg Except.ok (hrepeats.gather_eq (hself _ rfl))

end FilterRequest

/-! ## Plans -/

/-- The request with another filter. -/
def Request.withFilter (f : FilterRequest) : Request → Request
  | .search r => .search { r with filter := f }
  | .facets r => .facets { r with filter := f }
  | .compute r => .compute { r with filter := f }

/-- The filter is all that a plan has of it. -/
theorem Service.explain_withFilter {b : Backend} {s : Service b} {r : Request} {f : FilterRequest}
    (h : b.addFilter s.collection f (b.start s.collection) =
      b.addFilter s.collection r.filter (b.start s.collection)) :
    s.explain (r.withFilter f) = s.explain r := by
  cases r with
  | search r =>
    show s.explainSearch { r with filter := f } = s.explainSearch r
    unfold explainSearch compileSearch
    dsimp only
    rw [h]
    rfl
  | facets r =>
    show s.explainFacets { r with filter := f } = s.explainFacets r
    unfold explainFacets compileFacets facetPlan
    dsimp only
    rw [h]
    rfl
  | compute r =>
    show s.explainComputation { r with filter := f } = s.explainComputation r
    unfold explainComputation
    dsimp only
    rw [h]
    rfl

theorem Search.addFilter_congr {c : Collection} {f f' : FilterRequest}
    (h : (f'.groups c true).map Filter.gather = (f.groups c true).map Filter.gather) :
    Search.backend.addFilter c f' (Search.Draft.start c) =
      Search.backend.addFilter c f (Search.Draft.start c) := by
  have hdraft := congrArg (Except.map fun filter =>
    { Search.Draft.start c with filter := filter }) h
  rw [Search.addFilter_start, Search.addFilter_start]
  cases hf : f.groups c true <;> cases hf' : f'.groups c true <;> rw [hf, hf'] at hdraft <;>
    exact hdraft

theorem Sql.addFilter_congr {c : Collection} {f f' : FilterRequest}
    (h : (f'.groups c false).map Filter.gather = (f.groups c false).map Filter.gather) :
    Sql.backend.addFilter c f' (Sql.Draft.start c) =
      Sql.backend.addFilter c f (Sql.Draft.start c) := by
  have hdraft := congrArg (Except.map fun filter =>
    { Sql.Draft.start c with filter := filter }) h
  rw [Sql.addFilter_start, Sql.addFilter_start]
  cases hf : f.groups c false <;> cases hf' : f'.groups c false <;> rw [hf, hf'] at hdraft <;>
    exact hdraft

/-- **A repetition has the same plans**, or is refused alike. -/
theorem FilterRequest.Repeats.explain_eq {r r' : FilterRequest} (h : r.Repeats r') {c : Collection}
    (hself : ∀ groups, r.groups c true = .ok groups → ∀ group ∈ groups, (group == group) = true)
    (maxPageSize : Nat) {request : Request} (hrequest : request.filter = r) :
    (Service.mk (b := Search.backend) c maxPageSize).explain (request.withFilter r') =
      (Service.mk (b := Search.backend) c maxPageSize).explain request ∧
    (Service.mk (b := Sql.backend) c maxPageSize).explain (request.withFilter r') =
      (Service.mk (b := Sql.backend) c maxPageSize).explain request := by
  subst hrequest
  constructor
  · exact Service.explain_withFilter (Search.addFilter_congr (h.gather_eq hself))
  · exact Service.explain_withFilter (Sql.addFilter_congr (h.gather_eq fun groups hgroups =>
      hself groups (groups_of_groups hgroups)))

/-! ## What plans select -/

section Selecting

variable {D : Type} {search : Search.Tests D} {c : Collection} {maxPageSize : Nat}
  {request : Request} {groups : List (List Condition)}

/-- The query of a plan matches the documents that satisfy the groups of the request. -/
theorem Search.selects?_of_groups (hequal : search.RespectsEquality) {plan : Search.Plan}
    (hgroups : request.filter.groups c true = .ok groups)
    (h : (Service.mk (b := Search.backend) c maxPageSize).explain request = .ok plan)
    (anyField : String → Bool) (doc : Document D) :
    ∃ b, plan.selects? search anyField doc = some b ∧
      (b = true ↔ Filter.Satisfied search anyField doc groups) := by
  obtain ⟨groups', hgroups', hquery⟩ := filter_of_explain h
  cases hgroups.symm.trans hgroups'
  exact ⟨_, selects?_of_query hquery search anyField doc,
    Filter.holds_gather hequal anyField doc⟩

variable {sql : Sql.Tests D} {plan : Sql.Plan}

/-- The filter of each statement of a plan is true of the documents that satisfy the groups of the
request. -/
theorem Sql.truthAll_of_groups (agreement : Agreement search sql)
    (hequal : search.RespectsEquality) (hgroups : request.filter.groups c true = .ok groups)
    (h : (Service.mk (b := backend) c maxPageSize).explain request = .ok plan)
    (anyField : String → Bool) (doc : Document D) : ∀ statement ∈ plan.statements,
      (Predicate.truthAll sql (rowOf doc) statement.query.selection.filter = some true ↔
        Filter.Satisfied search anyField doc groups) := by
  intro statement hstatement
  obtain ⟨d, hd, hbuild⟩ := drafted_of_explain h
  obtain ⟨groups', hgroups', hfilter⟩ := Outcome.map_eq_ok.mp hd.conditions_eq
  cases (FilterRequest.groups_of_groups hgroups').symm.trans hgroups
  obtain ⟨ps, hps, hwrites⟩ := Draft.statements_of_build hbuild
  rw [(hwrites statement hstatement).filter_eq, Predicate.truthAll_ofFilter agreement hps,
    ← Filter.holds_gather hequal, hfilter]
  rfl

theorem Sql.counts?_of_groups (agreement : Agreement search sql)
    (hequal : search.RespectsEquality) (hgroups : request.filter.groups c true = .ok groups)
    (h : (Service.mk (b := backend) c maxPageSize).explain request = .ok plan)
    (hcounted : request.isCounted) (anyField : String → Bool) (doc : Document D) :
    ∃ t, plan.counts? sql doc = some t ∧
      (t = some true ↔ Filter.Satisfied search anyField doc groups) := by
  obtain ⟨groups', hgroups', hcounts⟩ := counts?_of_explain agreement hcounted h
  cases (FilterRequest.groups_of_groups hgroups').symm.trans hgroups
  obtain ⟨t, ht, htrue⟩ := hcounts anyField doc
  exact ⟨t, ht, htrue.trans (Filter.holds_gather hequal anyField doc)⟩

end Selecting

/-- **Repeated groups change nothing.** Let a filter be accepted, and let the shapes of its groups
have numbers for coordinates. What either backend gathers has each group that is not empty once, in
the order in which they come first, those of the expressions before those of the searches. With
another group, a copy of one before it in its list or an empty one, requests of all kinds come to
the same plan on either backend. And the plans select the documents that satisfy all groups of the
request that are not empty. -/
theorem FilterRequest.repetition_changes_nothing {r : FilterRequest} {c : Collection}
    {groups : List (List Condition)} (h : r.groups c true = .ok groups)
    (hordered : ∀ group ∈ groups, ∀ cond ∈ group, ¬cond.IsUnordered) :
    (∃ expressions searches,
      r.expressions.mapM (Condition.ofExpressions c r.dateFormat) = .ok expressions ∧
      r.searches.mapM (Condition.ofSearches c true) = .ok searches ∧
      groups = expressions ++ searches) ∧
    ((∃ d, Search.backend.addFilter c r (Search.Draft.start c) = .ok d ∧
        d.filter.HasOnce groups) ∧
      ∀ d, Sql.backend.addFilter c r (Sql.Draft.start c) = .ok d → d.filter.HasOnce groups) ∧
    ∀ (maxPageSize : Nat) (request : Request), request.filter = r →
      (∀ r', r.Repeats r' →
        (Service.mk (b := Search.backend) c maxPageSize).explain (request.withFilter r') =
          (Service.mk (b := Search.backend) c maxPageSize).explain request ∧
        (Service.mk (b := Sql.backend) c maxPageSize).explain (request.withFilter r') =
          (Service.mk (b := Sql.backend) c maxPageSize).explain request) ∧
      ∀ (D : Type) (search : Search.Tests D), search.RespectsEquality →
        ∀ (anyField : String → Bool) (doc : Document D),
          (∀ plan, (Service.mk (b := Search.backend) c maxPageSize).explain request = .ok plan →
            ∃ b, plan.selects? search anyField doc = some b ∧
              (b = true ↔ Filter.Satisfied search anyField doc groups)) ∧
          ∀ (sql : Sql.Tests D) (plan : Sql.Plan), Sql.Agreement search sql →
            (Service.mk (b := Sql.backend) c maxPageSize).explain request = .ok plan →
              (∀ statement ∈ plan.statements, (Sql.Predicate.truthAll sql (Sql.rowOf doc)
                statement.query.selection.filter = some true ↔
                  Filter.Satisfied search anyField doc groups)) ∧
              (request.isCounted → ∃ t, plan.counts? sql doc = some t ∧
                (t = some true ↔ Filter.Satisfied search anyField doc groups)) := by
  -- A group without an unordered condition equals itself, so it is found again.
  have hself : ∀ groups, r.groups c true = .ok groups → ∀ group ∈ groups,
      (group == group) = true := by
    intro groups' hgroups'
    cases h.symm.trans hgroups'
    exact beq_self_of_groups h hordered
  refine ⟨?_, ⟨?_, ?_⟩, fun maxPageSize request hrequest => ⟨fun r' hr' =>
    hr'.explain_eq hself maxPageSize hrequest, ?_⟩⟩
  · obtain ⟨expressions, hexpressions, h⟩ := Outcome.bind_eq_ok.mp h
    obtain ⟨searches, hsearches, h⟩ := Outcome.bind_eq_ok.mp h
    exact ⟨expressions, searches, hexpressions, hsearches, (Except.ok.inj h).symm⟩
  · rw [Search.addFilter_start, h]
    exact ⟨_, rfl, Filter.hasOnce_gather (hself groups h)⟩
  · intro d hd
    rw [Sql.addFilter_start] at hd
    obtain ⟨groups', hgroups', rfl⟩ := Outcome.map_eq_ok.mp hd
    cases (groups_of_groups hgroups').symm.trans h
    exact Filter.hasOnce_gather (hself groups h)
  · subst hrequest
    intro D search hequal anyField doc
    exact ⟨fun plan hplan => Search.selects?_of_groups hequal h hplan anyField doc,
      fun sql plan agreement hplan =>
        ⟨Sql.truthAll_of_groups agreement hequal h hplan anyField doc,
          fun hcounted =>
            Sql.counts?_of_groups agreement hequal h hplan hcounted anyField doc⟩⟩

/-! ### The adults, asked for twice -/

theorem Search.respectsEquality_wholeTests : Search.wholeTests.RespectsEquality where
  equal x v w h := by
    have hfloat (y : Float) : wholeTests.equal x (.ofFloat y) = false := by
      rw [Json.ofFloat]
      split <;> rfl
    match v, w, h with
    | .integer m, .integer n, h => rw [show m = n from beq_iff_eq.mp h]
    | .float y, .float z, _ => exact (hfloat y).trans (hfloat z).symm
    | .boolean _, .boolean _, _ => rfl
    | .text _, .text _, _ => rfl
  compare x op v w h := by
    have hfloat (y : Float) : wholeTests.compare x op (.ofFloat y) = false := by
      rw [Json.ofFloat]
      split <;> rfl
    match v, w, h with
    | .integer m, .integer n, h => rw [show m = n from beq_iff_eq.mp h]
    | .float y, .float z, _ => exact (hfloat y).trans (hfloat z).symm
    | .boolean _, .boolean _, _ => rfl
    | .text _, .text _, _ => rfl
  relates _ _ _ _ _ := rfl

/-- The filter of `adults`, its group given again. -/
def adultsTwice : FilterRequest :=
  ⟨[[⟨"age", .gte, "18"⟩], [⟨"age", .gte, "18"⟩]], [], none⟩

theorem repetition_changes_nothing_adults : ∃ (plan : Sql.Plan) (plan' : Search.Plan),
    (Service.mk (b := Sql.backend) people 100).explain (adults.withFilter adultsTwice) =
      .ok plan ∧
    (Service.mk (b := Search.backend) people 100).explain (adults.withFilter adultsTwice) =
      .ok plan' ∧
    (Service.mk (b := Sql.backend) people 100).explain adults = .ok plan ∧
    (Service.mk (b := Search.backend) people 100).explain adults = .ok plan' ∧
    (∃ t, plan.counts? Sql.integerTests (aged (some 20)) = some t ∧ (t = some true ↔
      Filter.Satisfied Search.wholeTests (fun _ => false) (aged (some 20))
        [[.compare "age" .gte (.integer 18) false]])) := by
  obtain ⟨plan, hplan⟩ : ∃ plan,
      (Service.mk (b := Sql.backend) people 100).explain adults = .ok plan := ⟨_, rfl⟩
  obtain ⟨plan', hplan'⟩ : ∃ plan',
      (Service.mk (b := Search.backend) people 100).explain adults = .ok plan' := ⟨_, rfl⟩
  have hgroups : adults.filter.groups people true =
      .ok [[.compare "age" .gte (.integer 18) false]] := rfl
  have hordered : ∀ group ∈ [[Condition.compare "age" .gte (.integer 18) false]],
      ∀ cond ∈ group, ¬cond.IsUnordered := by
    intro group hgroup cond hcond h
    rw [List.mem_singleton.mp hgroup] at hcond
    rw [List.mem_singleton.mp hcond] at h
    exact h
  obtain ⟨-, -, hplans⟩ := FilterRequest.repetition_changes_nothing hgroups hordered
  obtain ⟨hsame, hselects⟩ := hplans 100 adults rfl
  have hrepeats : adults.filter.Repeats adultsTwice := .expressions
    (.inserted adults.filter.expressions [] [⟨"age", .gte, "18"⟩] (.inl List.mem_cons_self))
  obtain ⟨hsearch, hsql⟩ := hsame adultsTwice hrepeats
  obtain ⟨-, hcounts⟩ := hselects Int Search.wholeTests Search.respectsEquality_wholeTests
    (fun _ => false) (aged (some 20))
  exact ⟨plan, plan', hsql.trans hplan, hsearch.trans hplan', hplan, hplan',
    (hcounts Sql.integerTests plan Sql.agreement_integerTests hplan).2 rfl⟩

end GeoFacet
