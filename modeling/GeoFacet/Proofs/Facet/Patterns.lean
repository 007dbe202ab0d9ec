import GeoFacet.Proofs.Facet.Entries
import GeoFacet.Sql.Plan

/-!
# Patterns of term levels

A term level may restrict its keys to those that match a pattern. The pattern is checked where the
plan is made, and nothing else of the plan depends on it (`FacetPlan.compile_withPattern`). A search
asks for it in the aggregation of the level, so two requests that differ in a pattern differ in their
plans. Statements never mention it: with another pattern, or with none, they are the same.

Main statement: `pattern_reaches_search_only`.
-/

namespace GeoFacet

/-! ## Another pattern at a depth -/

def FacetLevel.withPattern (pattern : Option String) (l : FacetLevel) : FacetLevel :=
  { l with pattern := pattern }

namespace FacetSpec

/-- The specifications with another pattern at a depth. -/
def withPattern (depth : Nat) (pattern : Option String) (specs : List FacetSpec) :
    List FacetSpec :=
  specs.modify depth fun s => { s with pattern := pattern }

variable {c : Collection} {depth : Nat} {pattern : Option String}

theorem checkPattern_of_term {s : FacetSpec} (hterm : s.type = .term)
    (hvalid : s.pattern.all Text.Pattern.isValid = true) : checkPattern s = .ok () := by
  rw [checkPattern]
  cases hpattern : s.pattern with
  | none => rfl
  | some p =>
    rw [hpattern, Option.all_some] at hvalid
    simp [hterm, hvalid]

/-- A pattern is checked and kept. No other part of a level depends on it. -/
theorem toLevel_withPattern {s : FacetSpec} {l : FacetLevel} (h : toLevel c depth s = .ok l)
    (hpattern : checkPattern { s with pattern := pattern } = .ok ()) :
    toLevel c depth { s with pattern := pattern } = .ok (l.withPattern pattern) := by
  obtain ⟨_, hformats, h⟩ := Outcome.bind_eq_ok.mp h
  obtain ⟨field, hfield, h⟩ := Outcome.bind_eq_ok.mp h
  obtain ⟨fieldType, htype, h⟩ := Outcome.bind_eq_ok.mp h
  obtain ⟨_, hsuits, h⟩ := Outcome.bind_eq_ok.mp h
  obtain ⟨kind, hkind, h⟩ := Outcome.bind_eq_ok.mp h
  obtain ⟨ms, hmetrics, h⟩ := Outcome.bind_eq_ok.mp h
  obtain ⟨order, horder, h⟩ := Outcome.bind_eq_ok.mp h
  obtain ⟨_, hsize, h⟩ := Outcome.bind_eq_ok.mp h
  -- The check of the pattern is the only step that another pattern changes.
  obtain ⟨_, -, h⟩ := Outcome.bind_eq_ok.mp h
  obtain ⟨format, hformat, h⟩ := Outcome.bind_eq_ok.mp h
  obtain ⟨geometries, hgeometries, h⟩ := Outcome.bind_eq_ok.mp h
  obtain ⟨raw, hraw, h⟩ := Outcome.bind_eq_ok.mp h
  obtain ⟨fetch, hfetch, h⟩ := Outcome.bind_eq_ok.mp h
  cases h
  refine Outcome.bind_eq_ok.mpr ⟨_, hformats, Outcome.bind_eq_ok.mpr ⟨_, hfield, ?_⟩⟩
  refine Outcome.bind_eq_ok.mpr ⟨_, htype, Outcome.bind_eq_ok.mpr ⟨_, hsuits, ?_⟩⟩
  refine Outcome.bind_eq_ok.mpr ⟨_, hkind, Outcome.bind_eq_ok.mpr ⟨_, hmetrics, ?_⟩⟩
  refine Outcome.bind_eq_ok.mpr ⟨_, horder, Outcome.bind_eq_ok.mpr ⟨_, hsize, ?_⟩⟩
  refine Outcome.bind_eq_ok.mpr ⟨_, hpattern, Outcome.bind_eq_ok.mpr ⟨_, hformat, ?_⟩⟩
  refine Outcome.bind_eq_ok.mpr ⟨_, hgeometries, Outcome.bind_eq_ok.mpr ⟨_, hraw, ?_⟩⟩
  exact Outcome.bind_eq_ok.mpr ⟨_, hfetch, rfl⟩

/-- Levels with another pattern at a depth are accepted if that pattern is. -/
theorem toLevels_withPattern {i : Nat} {specs : List FacetSpec} {levels : List FacetLevel}
    {l : FacetLevel} (h : toLevels c depth specs = .ok levels) (hl : levels[i]? = some l)
    (hterm : l.kind = .term) (hvalid : pattern.all Text.Pattern.isValid = true) :
    toLevels c depth (withPattern i pattern specs) =
      .ok (levels.modify i (FacetLevel.withPattern pattern)) := by
  induction specs generalizing depth i levels with
  | nil =>
    cases h
    cases hl
  | cons s rest ih =>
    obtain ⟨level, hlevel, h⟩ := Outcome.bind_eq_ok.mp h
    obtain ⟨below, hbelow, h⟩ := Outcome.bind_eq_ok.mp h
    cases h
    have hlevel' := Outcome.mapError_eq_ok.mp hlevel
    cases i with
    | zero =>
      cases hl
      obtain ⟨ms, hassembled⟩ := exists_assembled hlevel'
      have htype : s.type = .term := by
        rw [← hassembled.type_eq, FacetLevel.type, hterm]
        rfl
      have hnew : toLevel c depth { s with pattern := pattern } = .ok (l.withPattern pattern) :=
        toLevel_withPattern hlevel' (checkPattern_of_term htype hvalid)
      exact Outcome.bind_eq_ok.mpr ⟨_, Outcome.mapError_eq_ok.mpr hnew,
        Outcome.bind_eq_ok.mpr ⟨_, hbelow, rfl⟩⟩
    | succ i =>
      exact Outcome.bind_eq_ok.mpr ⟨_, hlevel, Outcome.bind_eq_ok.mpr ⟨_, ih hbelow hl, rfl⟩⟩

end FacetSpec

namespace FacetPlan

/-- The plan with another pattern at a depth. -/
def withPattern (depth : Nat) (pattern : Option String) (p : FacetPlan) : FacetPlan :=
  { p with levels := p.levels.modify depth (FacetLevel.withPattern pattern) }

/-- A request for facets is accepted if its levels are and the first one is placed where it must
be. -/
theorem compile_eq_ok {c : Collection} {geo : Bool} {specs : List FacetSpec} {plan : FacetPlan} :
    compile c geo specs = .ok plan ↔
      FacetSpec.toLevels c 0 specs = .ok plan.levels ∧ plan.geo = geo ∧
        ∃ first ∈ plan.levels.head?, (geo && !isPlaced first) = false := by
  constructor
  · intro h
    rw [compile] at h
    by_cases hempty : specs.isEmpty
    · rw [if_pos hempty] at h
      cases h
    · rw [if_neg hempty] at h
      obtain ⟨levels, hlevels, h⟩ := Outcome.bind_eq_ok.mp h
      cases levels with
      | nil => cases h
      | cons first below =>
        dsimp only at h
        by_cases hplaced : (geo && !isPlaced first) = true
        · rw [if_pos hplaced] at h
          cases h
        · rw [if_neg hplaced] at h
          cases h
          exact ⟨hlevels, rfl, first, rfl, Bool.eq_false_iff.mpr hplaced⟩
  · rintro ⟨hlevels, rfl, first, hfirst, hplaced⟩
    -- Without a specification there is no first level to be placed.
    cases specs with
    | nil =>
      rw [← Except.ok.inj hlevels] at hfirst
      cases hfirst
    | cons s rest =>
      obtain ⟨levels, geo⟩ := plan
      cases levels with
      | nil => cases hfirst
      | cons first' below =>
        cases hfirst
        rw [compile, if_neg (by simp), hlevels, Outcome.ok_bind]
        dsimp only at hplaced ⊢
        rw [if_neg (by simp [hplaced])]

/-- **A plan with another pattern is the plan of the request with that pattern.** -/
theorem compile_withPattern {c : Collection} {geo : Bool} {specs : List FacetSpec}
    {plan : FacetPlan} (h : compile c geo specs = .ok plan) {depth : Nat} {l : FacetLevel}
    (hl : plan.levels[depth]? = some l) (hterm : l.kind = .term) {pattern : Option String}
    (hvalid : pattern.all Text.Pattern.isValid = true) :
    compile c geo (FacetSpec.withPattern depth pattern specs) =
      .ok (plan.withPattern depth pattern) := by
  obtain ⟨hlevels, hgeo, first, hfirst, hplaced⟩ := compile_eq_ok.mp h
  refine compile_eq_ok.mpr ⟨FacetSpec.toLevels_withPattern hlevels hl hterm hvalid, hgeo, ?_⟩
  obtain ⟨levels, geo⟩ := plan
  cases levels with
  | nil => cases hfirst
  | cons first' below =>
    cases hfirst
    cases depth with
    | zero => exact ⟨_, rfl, hplaced⟩
    | succ depth => exact ⟨_, rfl, hplaced⟩

/-- What does not depend on patterns is the same for every pattern. -/
theorem map_withPattern {α : Type} {f : FacetLevel → α}
    (hf : ∀ (l : FacetLevel) (pattern : Option String), f (l.withPattern pattern) = f l)
    (plan : FacetPlan) (depth : Nat) (pattern : Option String) :
    (plan.withPattern depth pattern).levels.map f = plan.levels.map f := by
  refine List.ext_getElem? fun i => ?_
  rw [withPattern, List.getElem?_map, List.getElem?_map, List.getElem?_modify]
  cases plan.levels[i]? with
  | none => rfl
  | some l => by_cases hi : depth = i <;> simp [hi, hf]

/-- A level has its own pattern. -/
theorem withPattern_self {plan : FacetPlan} {depth : Nat} {l : FacetLevel}
    (hl : plan.levels[depth]? = some l) : plan.withPattern depth l.pattern = plan := by
  have hlevels : plan.levels.modify depth (FacetLevel.withPattern l.pattern) = plan.levels := by
    refine List.ext_getElem? fun i => ?_
    rw [List.getElem?_modify]
    by_cases hi : depth = i
    · rw [← hi, hl]
      simp [FacetLevel.withPattern]
    · simp [hi]
  rw [withPattern, hlevels]

theorem getElem?_withPattern {plan : FacetPlan} {depth : Nat} {l : FacetLevel}
    (hl : plan.levels[depth]? = some l) (pattern : Option String) :
    (plan.withPattern depth pattern).levels[depth]? = some (l.withPattern pattern) := by
  rw [withPattern, List.getElem?_modify_eq, hl]
  rfl

end FacetPlan

/-! ## Search asks for the pattern -/

namespace Search

/-- The pattern that a search asks for in the aggregation of the last of some levels. -/
def askedPattern (request : Json) (levels : List FacetLevel) : Json :=
  ((follow (request.member "body") (levelPath levels)).member "terms").member "include"

theorem member_include {l : FacetLevel} (hterm : l.kind = .term) :
    (Aggregation.bodyJson l).member "include" = .ofOption Json.text l.pattern := by
  rw [Aggregation.bodyJson, hterm, Json.member, Json.get?_ofPresent]
  · cases l.pattern <;> rfl
  · simp [Aggregation.kindMembers]

/-- The aggregation of a term level asks for its pattern. -/
theorem askedPattern_of_compile {c : Collection} {geo : Bool} {specs : List FacetSpec}
    {plan : FacetPlan} (h : FacetPlan.compile c geo specs = .ok plan) {depth : Nat} {l : FacetLevel}
    (hl : plan.levels[depth]? = some l) (hterm : l.kind = .term) {d : Draft}
    (hd : d.collection = c) :
    askedPattern (d.setFacets plan).build.toJson (plan.levels.take (depth + 1)) =
      .ofOption Json.text l.pattern := by
  have hlevel : follow ((d.setFacets plan).build.toJson.member "body")
      (levelPath (plan.levels.take (depth + 1))) =
        Aggregation.levelJson c (plan.levels.drop depth) := aggregationAt_of_compile h hd hl
  obtain ⟨hdepth, rfl⟩ := List.getElem?_eq_some_iff.mp hl
  have hbody := Aggregation.get?_kindName c plan.levels[depth] (plan.levels.drop (depth + 1))
  rw [hterm] at hbody
  rw [askedPattern, hlevel, List.drop_eq_getElem_cons hdepth, ← member_include hterm]
  exact congrArg (Json.member · "include") (member_of_get? hbody)

/-- Another pattern does not change where the aggregation of a level is. -/
theorem levelPath_withPattern (plan : FacetPlan) (depth n : Nat) (pattern : Option String) :
    levelPath ((plan.withPattern depth pattern).levels.take n) = levelPath (plan.levels.take n) := by
  have hpath (levels : List FacetLevel) :
      levelPath levels = (levels.map FacetLevel.name).flatMap fun name => ["aggs", name] := by
    rw [levelPath, List.flatMap_map]
  rw [hpath, hpath, List.map_take, List.map_take, FacetPlan.map_withPattern fun _ _ => rfl]

/-- **A search with another pattern is another search.** -/
theorem toJson_withPattern_eq_iff {c : Collection} {geo : Bool} {specs : List FacetSpec}
    {plan : FacetPlan} (h : FacetPlan.compile c geo specs = .ok plan) {depth : Nat} {l : FacetLevel}
    (hl : plan.levels[depth]? = some l) (hterm : l.kind = .term) {pattern : Option String}
    (hvalid : pattern.all Text.Pattern.isValid = true) {d : Draft} (hd : d.collection = c) :
    (d.setFacets (plan.withPattern depth pattern)).build.toJson = (d.setFacets plan).build.toJson ↔
      pattern = l.pattern := by
  constructor
  · intro hsame
    have hnew := askedPattern_of_compile (FacetPlan.compile_withPattern h hl hterm hvalid)
      (FacetPlan.getElem?_withPattern hl pattern) hterm hd
    have hold := askedPattern_of_compile h hl hterm hd
    rw [hsame, askedPattern, levelPath_withPattern] at hnew
    have heq : Json.ofOption Json.text pattern = .ofOption Json.text l.pattern := hnew.symm.trans hold
    cases pattern <;> cases hpattern : l.pattern <;> simp [hpattern, Json.ofOption] at heq ⊢
    exact heq
  · rintro rfl
    rw [FacetPlan.withPattern_self hl]

end Search

/-! ## Statements do not mention it -/

namespace Sql

/-- A level without its pattern. -/
def unpatterned : FacetLevel → FacetLevel := FacetLevel.withPattern none

theorem levelStatements_unpatterned (c : Collection) (filter : List (Predicate Scalar))
    (above levels : List FacetLevel) :
    levelStatements c filter (above.map unpatterned) (levels.map unpatterned) =
      levelStatements c filter above levels := by
  induction levels generalizing above with
  | nil => rfl
  | cons l below ih =>
    have hquery : levelQuery c filter (above.map unpatterned) (unpatterned l) =
        levelQuery c filter above l := by
      simp only [levelQuery, List.map_map, List.map_append, List.map_cons, List.map_nil]
      rfl
    have hbelow := ih (above ++ [l])
    rw [List.map_append] at hbelow
    rw [List.map_cons, levelStatements, levelStatements, hquery, ← hbelow]
    rfl

/-- **Statements are the same for every pattern.** -/
theorem build_withPattern (d : Draft) (plan : FacetPlan) (depth : Nat) (pattern : Option String) :
    (d.setFacets (plan.withPattern depth pattern)).build = (d.setFacets plan).build := by
  have hstatements (filter : List (Predicate Scalar)) :
      levelStatements d.collection filter [] (plan.withPattern depth pattern).levels =
        levelStatements d.collection filter [] plan.levels := by
    have hnew := levelStatements_unpatterned d.collection filter []
      (plan.withPattern depth pattern).levels
    rw [FacetPlan.map_withPattern fun _ _ => rfl] at hnew
    rw [← hnew, levelStatements_unpatterned d.collection filter []]
  simp only [Draft.build, Draft.setFacets, hstatements]

end Sql

/-- **The pattern of a term level reaches search, and search alone.** Search asks for it where the
level is, so two requests that differ in the pattern differ in their plans. The plan over a table is
the same for every pattern, and for none. -/
theorem pattern_reaches_search_only {c : Collection} {geo : Bool} {specs : List FacetSpec}
    {plan : FacetPlan} (h : FacetPlan.compile c geo specs = .ok plan) {depth : Nat} {l : FacetLevel}
    (hl : plan.levels[depth]? = some l) (hterm : l.kind = .term) :
    (∀ d : Search.Draft, d.collection = c →
      Search.askedPattern (d.setFacets plan).build.toJson (plan.levels.take (depth + 1)) =
        .ofOption Json.text l.pattern) ∧
    ∀ pattern : Option String, pattern.all Text.Pattern.isValid = true →
      FacetPlan.compile c geo (FacetSpec.withPattern depth pattern specs) =
        .ok (plan.withPattern depth pattern) ∧
      (∀ d : Search.Draft, d.collection = c →
        ((d.setFacets (plan.withPattern depth pattern)).build.toJson =
          (d.setFacets plan).build.toJson ↔ pattern = l.pattern)) ∧
      ∀ d : Sql.Draft,
        (d.setFacets (plan.withPattern depth pattern)).build = (d.setFacets plan).build := by
  refine ⟨fun d hd => Search.askedPattern_of_compile h hl hterm hd, fun pattern hvalid => ?_⟩
  refine ⟨FacetPlan.compile_withPattern h hl hterm hvalid, fun d hd => ?_, fun d => ?_⟩
  · exact Search.toJson_withPattern_eq_iff h hl hterm hvalid hd
  · exact Sql.build_withPattern d plan depth pattern

/-! ### Surveys of some kinds

The kinds that begin with `A`, inside the months. -/

def kindsByMonth : List FacetSpec :=
  [{ (default : FacetSpec) with type := .dateHistogram, interval := some "1 month" },
    { (default : FacetSpec) with type := .term, field := some "kind", pattern := some "A.*" }]

theorem pattern_reaches_search_only_kindsByMonth : ∃ (plan : FacetPlan) (kinds : FacetLevel),
    FacetPlan.compile surveys false kindsByMonth = .ok plan ∧ plan.levels[1]? = some kinds ∧
      kinds.kind = .term ∧
      Search.askedPattern ((Search.Draft.start surveys).setFacets plan).build.toJson
        (plan.levels.take 2) = .text "A.*" ∧
      ((Search.Draft.start surveys).setFacets (plan.withPattern 1 none)).build.toJson ≠
        ((Search.Draft.start surveys).setFacets plan).build.toJson ∧
      ((Sql.Draft.start surveys).setFacets (plan.withPattern 1 none)).build =
        ((Sql.Draft.start surveys).setFacets plan).build := by
  obtain ⟨plan, hplan, hlevel⟩ := Outcome.exists_of_any
    (o := FacetPlan.compile surveys false kindsByMonth)
    (p := fun plan => plan.levels[1]?.any fun kinds =>
      kinds.type = .term && kinds.pattern = some "A.*") (by decide +kernel)
  obtain ⟨kinds, hkinds, hparts⟩ := (Option.any_eq_true _ _).mp hlevel
  obtain ⟨htype, hpattern⟩ := Bool.and_eq_true_iff.mp hparts
  have hterm : kinds.kind = .term := by
    have htype := of_decide_eq_true htype
    revert htype
    rw [FacetLevel.type]
    cases kinds.kind <;> simp [FacetKind.type]
  have hpattern : kinds.pattern = some "A.*" := of_decide_eq_true hpattern
  obtain ⟨hasked, hother⟩ := pattern_reaches_search_only hplan hkinds hterm
  obtain ⟨-, hsearch, hsql⟩ := hother none rfl
  refine ⟨plan, kinds, hplan, hkinds, hterm, ?_, ?_, hsql _⟩
  · rw [hasked _ rfl, hpattern]
    rfl
  · rw [ne_eq, hsearch _ rfl, hpattern]
    simp

end GeoFacet
