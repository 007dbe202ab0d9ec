import GeoFacet.Proofs.Filter.Equality
import GeoFacet.Proofs.Sorting.Inversion
import GeoFacet.Proofs.Sql.WellFormed
import GeoFacet.Proofs.Steps
import GeoFacet.Proofs.Validation
import GeoFacet.Sql.Backend

/-!
# Plans of gathered drafts

Whatever steps gathered a draft, its groups hold checked conditions and its cursor has a value for
each key. These facts are kept by every step and are all that a plan needs: it is built without a
check of its own, and the clauses of its statements are well-formed.

A group is kept once, unless one of its shapes has a coordinate that is no number. Such a group
differs from itself and is kept each time it is given.

Main statement: `plan_of_steps`.
-/

namespace GeoFacet

/-! ## What a step keeps -/

/-- A condition that passed the checks of a backend without searches of all fields. -/
structure Condition.Checked (cond : Condition) : Prop where
  sound : cond.Sound
  onField : cond.field? ≠ none
  finite : cond.IsFinite

namespace Sql

namespace Draft

/-- The keys and values of a cursor that one of the steps gave. -/
def FromCursor (c : Collection) (steps : List Step) (keyed : List (SortKey × Scalar)) : Prop :=
  ∃ spec cursor keys values, Step.cursor spec cursor ∈ steps ∧ Sorting.parse spec = .ok keys ∧
    Cursor.parse keys cursor c.idPath = .ok values ∧ keyed = keys.zip values

/-- What is known of a draft that some steps gathered. -/
structure Gathered (c : Collection) (steps : List Step) (d : Draft) : Prop where
  collection_eq : d.collection = c
  distinct : d.filter.Distinct
  nonempty : ∀ group ∈ d.filter, group ≠ []
  checked : ∀ group ∈ d.filter, ∀ cond ∈ group, cond.Checked
  cursor : ∀ keyed ∈ d.after, FromCursor c steps keyed

variable {c : Collection} {steps : List Step} {d d' : Draft}

theorem Gathered.addGroup (h : d.Gathered c steps) {group : List Condition}
    (hgroup : ∀ cond ∈ group, cond.Checked) : (d.addGroup group).Gathered c steps where
  collection_eq := h.collection_eq
  distinct := h.distinct.add group
  nonempty := by
    intro g hg
    rcases Filter.mem_add hg with hg | ⟨rfl, hne⟩
    · exact h.nonempty g hg
    · exact hne
  checked := by
    intro g hg
    rcases Filter.mem_add hg with hg | ⟨rfl, -⟩
    · exact h.checked g hg
    · exact hgroup
  cursor := h.cursor

/-- A step that leaves the filter and the cursor as they are. -/
theorem Gathered.congr (h : d.Gathered c steps) (hcollection : d'.collection = d.collection)
    (hfilter : d'.filter = d.filter) (hafter : d'.after = d.after) : d'.Gathered c steps where
  collection_eq := hcollection.trans h.collection_eq
  distinct := hfilter ▸ h.distinct
  nonempty := hfilter ▸ h.nonempty
  checked := hfilter ▸ h.checked
  cursor := hafter ▸ h.cursor

/-- Every accepted step keeps what is known. -/
theorem Gathered.take (h : d.Gathered c steps) {step : Step} (hstep : step ∈ steps)
    (htake : backend.take c d step = .ok d') : Gathered c steps d' := by
  cases step with
  | filter dateFormat group =>
    obtain ⟨conds, hconds, htake⟩ := Outcome.bind_eq_ok.mp htake
    cases htake
    refine h.addGroup fun cond hcond => ?_
    obtain ⟨e, -, he⟩ := Outcome.exists_of_mem_mapM hconds hcond
    exact ⟨Condition.sound_ofExpression he, Condition.field?_ofExpression he,
      Condition.isFinite_ofExpression he⟩
  | search group =>
    obtain ⟨conds, hconds, htake⟩ := Outcome.bind_eq_ok.mp htake
    cases htake
    refine h.addGroup fun cond hcond => ?_
    -- This backend refuses an unscoped search, so the search has a field.
    obtain ⟨query, -, hquery⟩ := Outcome.exists_of_mem_mapM hconds hcond
    obtain ⟨field, words, rfl, hscoped, -⟩ := Condition.ofSearch_eq_ok hquery
    exact ⟨trivial, fun hnone => absurd (hscoped hnone) Bool.false_ne_true, trivial⟩
  | page size offset =>
    cases htake
    exact h.congr rfl rfl rfl
  | sort spec =>
    obtain ⟨keys, -, htake⟩ := Outcome.bind_eq_ok.mp htake
    cases htake
    exact h.congr rfl rfl rfl
  | cursor spec cursor =>
    obtain ⟨keys, hkeys, htake⟩ := Outcome.bind_eq_ok.mp htake
    obtain ⟨values, hvalues, htake⟩ := Outcome.bind_eq_ok.mp htake
    cases htake
    refine ⟨h.collection_eq, h.distinct, h.nonempty, h.checked, fun keyed hkeyed => ?_⟩
    rw [← Option.mem_some.mp hkeyed]
    rw [h.collection_eq] at hvalues
    exact ⟨spec, cursor, keys, values, hstep, hkeys, hvalues, rfl⟩
  | facets plan =>
    cases htake
    exact h.congr rfl rfl rfl
  | computation field metric =>
    obtain ⟨type, -, htake⟩ := Outcome.bind_eq_ok.mp htake
    cases htake
    exact h.congr rfl rfl rfl

/-- The draft after some steps, of which those that fail are left out. -/
def ofSteps (c : Collection) (steps : List Step) : Draft := backend.run c steps

/-- **Whatever the steps, the draft is gathered from checked parts.** -/
theorem gathered_ofSteps (c : Collection) (steps : List Step) :
    (ofSteps c steps).Gathered c steps := by
  refine Backend.run_induction steps ?_ fun step hstep d d' htake h => h.take hstep htake
  exact ⟨rfl, List.Pairwise.nil, by simp [backend, start], by simp [backend, start],
    by simp [backend, start]⟩

/-! ## The plan -/

/-- The keyset predicate of a cursor has one value for each key, and at least one key. -/
inductive IsKeyset (c : Collection) (steps : List Step) : Predicate Scalar → Prop
  | intro {spec cursor : String} {keys : List SortKey} {values : List Scalar}
    (hstep : .cursor spec cursor ∈ steps) (hkeys : Sorting.parse spec = .ok keys)
    (hvalues : Cursor.parse keys cursor c.idPath = .ok values) (hne : keys ≠ [])
    (hlength : values.length = keys.length) :
    IsKeyset c steps (Predicate.keyset c.centroidPath (keys.zip values))

theorem FromCursor.isKeyset {keyed : List (SortKey × Scalar)} (h : FromCursor c steps keyed) :
    IsKeyset c steps (Predicate.keyset c.centroidPath keyed) := by
  obtain ⟨spec, cursor, keys, values, hstep, hkeys, hvalues, rfl⟩ := h
  exact .intro hstep hkeys hvalues (Sorting.ne_nil_of_parse hkeys) (Cursor.length_of_parse hvalues)

theorem IsKeyset.wellFormed {p : Predicate Scalar} (h : IsKeyset c steps p) : p.WellFormed := by
  obtain ⟨-, -, -, hne, hlength⟩ := h
  refine Predicate.wellFormed_keyset c.centroidPath fun hzip => ?_
  rw [List.zip_eq_nil_iff] at hzip
  rcases hzip with hkeys | hvalues
  · exact hne hkeys
  · rw [hvalues] at hlength
    exact hne (List.eq_nil_of_length_eq_zero hlength.symm)

/-- The further predicates of a statement. -/
theorem Gathered.further (h : d.Gathered c steps) {filter : List (Predicate Scalar)}
    {s : Statement} (hwrites : d.Writes filter s) :
    ∀ p ∈ s.query.selection.further, (∃ field, p = .notNull field) ∨ IsKeyset c steps p := by
  intro p hp
  rcases hwrites.further_eq with ⟨-, hfurther⟩ | ⟨-, fields, hfurther⟩
  · rw [hfurther, Option.mem_toList] at hp
    obtain ⟨keyed, hkeyed, rfl⟩ := Option.map_eq_some_iff.mp hp
    rw [h.collection_eq]
    exact .inr (h.cursor keyed hkeyed).isKeyset
  · rw [hfurther] at hp
    obtain ⟨field, -, rfl⟩ := List.mem_map.mp hp
    exact .inl ⟨field, rfl⟩

theorem Gathered.wellFormed (h : d.Gathered c steps) {filter : List (Predicate Scalar)}
    (hfilter : Predicate.ofFilter d.filter = .ok filter) {s : Statement}
    (hwrites : d.Writes filter s) : s.WellFormed := by
  refine Statement.wellFormed hwrites.clean fun p hp => ?_
  rcases List.mem_append.mp hp with hp | hp
  · rw [hwrites.filter_eq] at hp
    exact (Predicate.legible_ofFilter h.nonempty (fun group hgroup cond hcond =>
      (h.checked group hgroup cond hcond).sound) hfilter p hp).wellFormed
  · rcases h.further hwrites p hp with ⟨field, rfl⟩ | hkeyset
    · exact .notNull field
    · exact hkeyset.wellFormed

end Draft

/-- **A plan is built whatever the steps, and its clauses are well-formed.** After any steps on a
collection, of which those that fail are left out, every group of the filter has conditions without
empty lists, each of which has a predicate, and stands in the filter once unless a shape in it has a
coordinate that is no number. The statements of the plan have complete clauses; what a clause says
behind the filter is that a field is present, or is the keyset of a cursor with a value for each
key. -/
theorem plan_of_steps (c : Collection) (steps : List Step) :
    (∀ group ∈ (Draft.ofSteps c steps).filter, group ≠ [] ∧
      (∀ cond ∈ group, cond.Sound ∧ ∃ p, Predicate.ofCondition cond = .ok p) ∧
      (List.Duplicate group (Draft.ofSteps c steps).filter → ∃ cond ∈ group, cond.IsUnordered)) ∧
    ∃ plan, (Draft.ofSteps c steps).build = .ok plan ∧ ∀ s ∈ plan.statements, s.WellFormed ∧
      ∀ p ∈ s.query.selection.further, (∃ field, p = .notNull field) ∨
        Draft.IsKeyset c steps p := by
  have h := Draft.gathered_ofSteps c steps
  constructor
  · intro group hgroup
    have hchecked := h.checked group hgroup
    refine ⟨h.nonempty group hgroup, fun cond hcond => ⟨(hchecked cond hcond).sound, ?_⟩, ?_⟩
    · exact Predicate.exists_ofCondition (hchecked cond hcond).onField
    · exact fun htwice => Filter.isUnordered_of_duplicate h.distinct htwice fun cond hcond =>
        (hchecked cond hcond).finite
  · obtain ⟨plan, hplan⟩ := Draft.exists_build_of_field? fun group hgroup cond hcond =>
      (h.checked group hgroup cond hcond).onField
    obtain ⟨filter, hfilter, hwrites⟩ := Draft.statements_of_build hplan
    exact ⟨plan, hplan, fun s hs => ⟨h.wellFormed hfilter (hwrites s hs), h.further (hwrites s hs)⟩⟩

/-! ### Harbors

A point without a longitude is given twice, a search names no field, and a cursor has one key. -/

def harbors : Collection :=
  ⟨"harbors", "harbors", "id", "shape", "place", "seen", "epoch_millis", [],
    [("id", .integer), ("shape", .point)]⟩

def nowhere : List Expression := [⟨"shape", .within, "POINT(-nan 2)"⟩]

def harborSteps : List Step :=
  [.filter none nowhere, .filter none nowhere, .search ["owl"], .cursor "id" "3"]

/-- Whether a group asks for one point, whose longitude is no number. -/
def asksUnplaced : Outcome (List Condition) → Bool
  | .ok [.spatial _ _ _ (.point p)] => p.x.isNaN
  | _ => false

/-- The point is read, and it has a coordinate that is no number. -/
theorem isUnordered_nowhere : ∃ group, Condition.ofExpressions harbors none nowhere = .ok group ∧
    ∃ cond ∈ group, cond.IsUnordered := by
  have hread : asksUnplaced (Condition.ofExpressions harbors none nowhere) = true := by
    decide +kernel
  unfold asksUnplaced at hread
  split at hread
  · rename_i f relation negated p hgroup
    refine ⟨_, hgroup, _, List.mem_singleton_self _, p, List.mem_singleton_self p, fun hnumber => ?_⟩
    rw [hnumber.1] at hread
    cases hread
  · cases hread

theorem plan_of_steps_harbors : ∃ point,
    (Draft.ofSteps harbors harborSteps).filter = [point, point] ∧
    (Draft.ofSteps harbors harborSteps).after = some [(.field "id" .asc, .integer 3)] ∧
    (∃ cond ∈ point, cond.IsUnordered) ∧
    ∃ plan, (Draft.ofSteps harbors harborSteps).build = .ok plan ∧
      ∀ s ∈ plan.statements, s.WellFormed := by
  obtain ⟨point, hpoint, hunordered⟩ := isUnordered_nowhere
  have htake (d : Draft) : backend.attempt harbors d (.filter none nowhere) = d.addGroup point := by
    refine Backend.attempt_of_ok ?_
    show (Condition.ofExpressions harbors none nowhere >>= _) = _
    rw [hpoint]
    rfl
  have hsearch (d : Draft) : backend.attempt harbors d (.search ["owl"]) = d :=
    Backend.attempt_of_error rfl
  have hadd : ((Draft.start harbors).addGroup point).addGroup point =
      { Draft.start harbors with filter := [point, point] } := by
    simp [Draft.addGroup, Draft.start, Filter.add_of_isUnordered hunordered]
  have hsteps : Draft.ofSteps harbors harborSteps =
      backend.attempt harbors (backend.attempt harbors (backend.attempt harbors
        (backend.attempt harbors (Draft.start harbors) (.filter none nowhere))
          (.filter none nowhere)) (.search ["owl"])) (.cursor "id" "3") := rfl
  have hcursor : backend.attempt harbors { Draft.start harbors with filter := [point, point] }
      (.cursor "id" "3") = { Draft.start harbors with
        filter := [point, point], after := some [(.field "id" .asc, .integer 3)] } :=
    Backend.attempt_of_ok rfl
  rw [htake, htake, hsearch, hadd, hcursor] at hsteps
  have hfilter : (Draft.ofSteps harbors harborSteps).filter = [point, point] := by rw [hsteps]
  have htwice : List.Duplicate point (Draft.ofSteps harbors harborSteps).filter := by
    rw [hfilter]
    exact (List.mem_singleton_self point).duplicate_cons_self
  obtain ⟨hgroups, plan, hplan, hstatements⟩ := plan_of_steps harbors harborSteps
  refine ⟨point, hfilter, by rw [hsteps], (hgroups point htwice.mem).2.2 htwice, plan, hplan, ?_⟩
  exact fun s hs => (hstatements s hs).1

end Sql

end GeoFacet
