import GeoFacet.Facet.Plan
import GeoFacet.Proofs.Outcome
import GeoFacet.Proofs.Text.Apart
import Mathlib.Data.List.Nodup

/-!
# What planned levels have in common

Every level of a compiled plan stands at its depth and is named after it; its metrics have names of
their own, and a metric that shares an aggregated geometry shares one of its kind that the level
computes (`soundFrom_of_compile`).
-/

namespace GeoFacet

/-! ## Levels of a compiled plan -/

/-- What holds of a level at a depth of a compiled plan. -/
structure FacetLevel.Sound (l : FacetLevel) (depth : Nat) : Prop where
  depth_eq : l.depth = depth
  name_eq : l.name = l.type.name ++ "_" ++ toString depth
  metricNames : ∀ m ∈ l.metrics, m.name = metricName m.function m.field
  distinctMetrics : (l.metrics.map PlannedMetric.name).Nodup
  shared : ∀ m ∈ l.metrics, ∀ g, m.source = .geometry g →
    FacetSpec.geometryOf? m.function = some g ∧ g ∈ l.aggregatedGeometries
  distinctGeometries : l.aggregatedGeometries.Nodup

/-- The levels from a depth on are sound, each at its own. -/
def FacetLevel.SoundFrom : Nat → List FacetLevel → Prop
  | _, [] => True
  | depth, l :: below => l.Sound depth ∧ SoundFrom (depth + 1) below

theorem FacetLevel.SoundFrom.getElem? {depth i : Nat} {levels : List FacetLevel} {l : FacetLevel}
    (h : SoundFrom depth levels) (hl : levels[i]? = some l) : l.Sound (depth + i) := by
  induction levels generalizing depth i with
  | nil => cases hl
  | cons first below ih =>
    cases i with
    | zero =>
      cases hl
      exact h.1
    | succ i =>
      have hsound := ih h.2 hl
      rwa [Nat.add_assoc, Nat.add_comm 1 i] at hsound

theorem FacetLevel.SoundFrom.drop {depth : Nat} {levels : List FacetLevel}
    (h : SoundFrom depth levels) (i : Nat) : SoundFrom (depth + i) (levels.drop i) := by
  induction i generalizing depth levels with
  | zero => exact h
  | succ i ih =>
    cases levels with
    | nil => trivial
    | cons first below =>
      have hbelow := ih h.2
      rwa [Nat.add_assoc, Nat.add_comm 1 i] at hbelow

theorem FacetLevel.SoundFrom.depths {depth : Nat} {levels : List FacetLevel}
    (h : SoundFrom depth levels) :
    levels.map FacetLevel.depth = List.range' depth levels.length := by
  induction levels generalizing depth with
  | nil => rfl
  | cons first below ih => rw [List.map_cons, ih h.2, h.1.depth_eq, List.length_cons, List.range'_succ]

/-- The level at a depth of a plan is sound at that depth. -/
theorem FacetLevel.SoundFrom.sound {depth : Nat} {levels : List FacetLevel} {l : FacetLevel}
    (h : SoundFrom 0 levels) (hl : levels[depth]? = some l) : l.Sound depth := by
  have hsound := h.getElem? hl
  rwa [Nat.zero_add] at hsound

theorem FacetLevel.SoundFrom.distinctGeometries {levels : List FacetLevel}
    (h : SoundFrom 0 levels) : ∀ l ∈ levels, l.aggregatedGeometries.Nodup := by
  intro l hl
  obtain ⟨depth, hdepth⟩ := List.mem_iff_getElem?.mp hl
  exact (h.sound hdepth).distinctGeometries

namespace FacetSpec

/-- The metrics planned so far have names of their own and sub-results of their own. -/
structure Planned (ms : List PlannedMetric) : Prop where
  names : ∀ m ∈ ms, m.name = metricName m.function m.field
  distinct : (ms.map PlannedMetric.name).Nodup
  own : ∀ m ∈ ms, m.source = .own

theorem Planned.concat {ms : List PlannedMetric} (h : Planned ms) {function : CollectFunction}
    {field : String} (hnew : ¬ms.any (·.name = metricName function field)) :
    Planned (ms ++ [⟨function, field, metricName function field, .own⟩]) where
  names := by
    intro m hm
    rcases List.mem_append.mp hm with hm | hm
    · exact h.names m hm
    · rw [List.mem_singleton.mp hm]
  distinct := by
    rw [List.map_append, List.map_singleton, ← List.concat_eq_append]
    refine h.distinct.concat fun hname => hnew ?_
    obtain ⟨m, hm, heq⟩ := List.mem_map.mp hname
    exact List.any_eq_true.mpr ⟨m, hm, decide_eq_true heq⟩
  own := by
    intro m hm
    rcases List.mem_append.mp hm with hm | hm
    · exact h.own m hm
    · rw [List.mem_singleton.mp hm]

theorem planned_planMetrics {c : Collection} {specs : List MetricSpec}
    {planned ms : List PlannedMetric} (hplanned : Planned planned)
    (h : planMetrics c planned specs = .ok ms) : Planned ms := by
  induction specs generalizing planned with
  | nil =>
    cases h
    exact hplanned
  | cons spec rest ih =>
    obtain ⟨parts, -, h⟩ := Outcome.bind_eq_ok.mp h
    cases parts with
    | none => exact ih hplanned h
    | some parts =>
      obtain ⟨function, field⟩ := parts
      obtain ⟨type, -, h⟩ := Outcome.bind_eq_ok.mp h
      obtain ⟨_, -, h⟩ := Outcome.bind_eq_ok.mp h
      dsimp only at h
      -- A name that is taken leaves the list as it is.
      split at h
      · exact ih hplanned h
      · rename_i hnew
        exact ih (hplanned.concat hnew) h

theorem nodup_resolveGeometries {type : FacetType} {chosen gs result : List AggregatedGeometry}
    (hchosen : chosen.Nodup) (h : resolveGeometries type chosen gs = .ok result) :
    result.Nodup := by
  induction gs generalizing chosen with
  | nil =>
    cases h
    exact hchosen
  | cons g gs ih =>
    rw [resolveGeometries] at h
    split at h
    · cases h
    · refine ih ?_ h
      split
      · exact hchosen
      · rename_i hnew
        rw [← List.concat_eq_append]
        exact hchosen.concat (by simpa using hnew)

theorem type_of_dateKind {interval : String} {kind : FacetKind} (h : dateKind interval = .ok kind) :
    kind.type = .dateHistogram := by
  obtain ⟨parsed, -, h⟩ := Outcome.bind_eq_ok.mp h
  obtain ⟨unit, -, h⟩ := Outcome.bind_eq_ok.mp h
  obtain ⟨multiplier, -, h⟩ := Outcome.bind_eq_ok.mp h
  split at h
  · cases h
  · cases h
    rfl

theorem type_of_histogramKind {interval : String} {kind : FacetKind}
    (h : histogramKind interval = .ok kind) : kind.type = .histogram := by
  obtain ⟨parsed, -, h⟩ := Outcome.bind_eq_ok.mp h
  split at h
  · cases h
  · cases h
    rfl

/-- The kind of a level is of the type that was asked for. -/
theorem type_of_resolveKind {s : FacetSpec} {kind : FacetKind} (h : resolveKind s = .ok kind) :
    kind.type = s.type := by
  unfold resolveKind at h
  split at h
  · cases h
  · rename_i htype hinterval
    cases h
    exact htype.symm
  · split at h
    · cases h
    · dsimp only at h
      split at h
      · rename_i htype
        rw [htype]
        exact type_of_dateKind h
      · rename_i htype
        rw [htype]
        exact type_of_histogramKind h
      · rename_i htype
        obtain ⟨p, -, rfl⟩ := Outcome.map_eq_ok.mp h
        exact htype.symm
      · rename_i htype
        obtain ⟨p, -, rfl⟩ := Outcome.map_eq_ok.mp h
        exact htype.symm
      · rename_i htype
        cases h
        exact htype.symm

/-- Sharing a geometry changes where a metric is found, and nothing else. -/
theorem shareGeometry_eq (c : Collection) (gs : List AggregatedGeometry) (m : PlannedMetric) :
    shareGeometry c gs m = { m with source := (shareGeometry c gs m).source } := by
  unfold shareGeometry
  split
  · split <;> rfl
  · rfl

@[simp] theorem function_shareGeometry (c : Collection) (gs : List AggregatedGeometry)
    (m : PlannedMetric) : (shareGeometry c gs m).function = m.function := by
  rw [shareGeometry_eq]

@[simp] theorem field_shareGeometry (c : Collection) (gs : List AggregatedGeometry)
    (m : PlannedMetric) : (shareGeometry c gs m).field = m.field := by
  rw [shareGeometry_eq]

@[simp] theorem name_shareGeometry (c : Collection) (gs : List AggregatedGeometry)
    (m : PlannedMetric) : (shareGeometry c gs m).name = m.name := by
  rw [shareGeometry_eq]

/-- A metric shares the geometry of its kind if it is one of the centroids and the level computes
it. -/
theorem source_shareGeometry {c : Collection} {gs : List AggregatedGeometry} {m : PlannedMetric}
    (hown : m.source = .own) {g : AggregatedGeometry} :
    (shareGeometry c gs m).source = .geometry g ↔
      geometryOf? m.function = some g ∧ m.field = c.centroidPath ∧ g ∈ gs := by
  unfold shareGeometry
  cases hgeometry : geometryOf? m.function with
  | none => simp [hown]
  | some g' =>
    by_cases hshared : m.field = c.centroidPath ∧ g' ∈ gs
    · simp only [hshared, and_self, if_true, MetricSource.geometry.injEq, Option.some.injEq]
      constructor
      · rintro rfl
        exact ⟨rfl, trivial, hshared.2⟩
      · exact And.left
    · simp only [hshared, if_false, hown, reduceCtorEq, Option.some.injEq, false_iff]
      rintro ⟨rfl, hcentroid, hmem⟩
      exact hshared ⟨hcentroid, hmem⟩

/-- A metric that is no geometry shares none. -/
theorem shareGeometry_of_not_isGeo {c : Collection} {gs : List AggregatedGeometry}
    {m : PlannedMetric} (h : m.function.isGeo = false) : shareGeometry c gs m = m := by
  have hnone : geometryOf? m.function = none := by
    revert h
    cases m.function <;> decide
  rw [shareGeometry, hnone]

/-- A level is put together from the checked parts of its specification; its metrics were planned
before they shared geometries. -/
structure Assembled (c : Collection) (depth : Nat) (s : FacetSpec) (ms : List PlannedMetric)
    (l : FacetLevel) : Prop where
  depth_eq : l.depth = depth
  name_eq : l.name = s.type.name ++ "_" ++ toString depth
  kind : resolveKind s = .ok l.kind
  planned : planMetrics c [] s.metrics = .ok ms
  metrics : l.metrics = ms.map (shareGeometry c l.aggregatedGeometries)
  order : resolveOrder s ms = .ok l.order
  size : checkSize s = .ok () ∧ l.size = s.size
  pattern : checkPattern s = .ok () ∧ l.pattern = s.pattern
  geometries : resolveGeometries s.type [] s.aggregatedGeometries = .ok l.aggregatedGeometries
  rawGeometries : groupRaw c [] s.rawGeometries = .ok l.rawGeometries

/-- **What a specification comes to**, if it is accepted. -/
theorem exists_assembled {c : Collection} {depth : Nat} {s : FacetSpec} {l : FacetLevel}
    (h : toLevel c depth s = .ok l) : ∃ ms, Assembled c depth s ms l := by
  obtain ⟨_, -, h⟩ := Outcome.bind_eq_ok.mp h
  obtain ⟨field, -, h⟩ := Outcome.bind_eq_ok.mp h
  obtain ⟨fieldType, -, h⟩ := Outcome.bind_eq_ok.mp h
  obtain ⟨_, -, h⟩ := Outcome.bind_eq_ok.mp h
  obtain ⟨kind, hkind, h⟩ := Outcome.bind_eq_ok.mp h
  obtain ⟨ms, hplanned, h⟩ := Outcome.bind_eq_ok.mp h
  obtain ⟨order, horder, h⟩ := Outcome.bind_eq_ok.mp h
  obtain ⟨_, hsize, h⟩ := Outcome.bind_eq_ok.mp h
  obtain ⟨_, hpattern, h⟩ := Outcome.bind_eq_ok.mp h
  obtain ⟨format, -, h⟩ := Outcome.bind_eq_ok.mp h
  obtain ⟨geometries, hgeometries, h⟩ := Outcome.bind_eq_ok.mp h
  obtain ⟨raw, hraw, h⟩ := Outcome.bind_eq_ok.mp h
  obtain ⟨fetch, -, h⟩ := Outcome.bind_eq_ok.mp h
  cases h
  exact ⟨ms, rfl, rfl, hkind, hplanned, rfl, horder, ⟨hsize, rfl⟩, ⟨hpattern, rfl⟩,
    hgeometries, hraw⟩

theorem planned_nil : Planned [] := ⟨by simp, by simp, by simp⟩

namespace Assembled

variable {c : Collection} {depth : Nat} {s : FacetSpec} {ms : List PlannedMetric}
  {l : FacetLevel}

theorem type_eq (h : Assembled c depth s ms l) : l.type = s.type := type_of_resolveKind h.kind

theorem planned_metrics (h : Assembled c depth s ms l) : Planned ms :=
  planned_planMetrics planned_nil h.planned

/-- A metric of a level was planned with a sub-result of its own. -/
theorem exists_planned (h : Assembled c depth s ms l) {m : PlannedMetric}
    (hm : m ∈ l.metrics) : ∃ m' ∈ ms, m'.source = .own ∧
      m'.name = metricName m'.function m'.field ∧
      m = shareGeometry c l.aggregatedGeometries m' := by
  rw [h.metrics] at hm
  obtain ⟨m', hm', rfl⟩ := List.mem_map.mp hm
  exact ⟨m', hm', h.planned_metrics.own m' hm', h.planned_metrics.names m' hm', rfl⟩

theorem sound (h : Assembled c depth s ms l) : l.Sound depth where
  depth_eq := h.depth_eq
  name_eq := by rw [h.name_eq, h.type_eq]
  metricNames := by
    intro m hm
    obtain ⟨m', -, -, hname, rfl⟩ := h.exists_planned hm
    simpa using hname
  distinctMetrics := by
    have hnames : l.metrics.map PlannedMetric.name = ms.map PlannedMetric.name := by
      rw [h.metrics, List.map_map]
      exact List.map_congr_left fun m _ => name_shareGeometry c l.aggregatedGeometries m
    exact hnames ▸ h.planned_metrics.distinct
  shared := by
    intro m hm g hg
    obtain ⟨m', -, hown, -, rfl⟩ := h.exists_planned hm
    obtain ⟨hgeometry, -, hmem⟩ := (source_shareGeometry hown).mp hg
    exact ⟨by simpa using hgeometry, hmem⟩
  distinctGeometries := nodup_resolveGeometries List.nodup_nil h.geometries

end Assembled

theorem soundFrom_toLevels {c : Collection} {depth : Nat} {specs : List FacetSpec}
    {levels : List FacetLevel} (h : toLevels c depth specs = .ok levels) :
    FacetLevel.SoundFrom depth levels := by
  induction specs generalizing depth levels with
  | nil =>
    cases h
    trivial
  | cons s rest ih =>
    obtain ⟨level, hlevel, h⟩ := Outcome.bind_eq_ok.mp h
    obtain ⟨below, hbelow, h⟩ := Outcome.bind_eq_ok.mp h
    cases h
    obtain ⟨ms, hassembled⟩ := exists_assembled (Outcome.mapError_eq_ok.mp hlevel)
    exact ⟨hassembled.sound, ih hbelow⟩

/-- The level at a depth is that of the specification at that depth. -/
theorem toLevel_of_toLevels {c : Collection} {depth i : Nat} {specs : List FacetSpec}
    {levels : List FacetLevel} {l : FacetLevel} (h : toLevels c depth specs = .ok levels)
    (hl : levels[i]? = some l) :
    ∃ s, specs[i]? = some s ∧ toLevel c (depth + i) s = .ok l := by
  induction specs generalizing depth i levels with
  | nil =>
    cases h
    cases hl
  | cons s rest ih =>
    obtain ⟨level, hlevel, h⟩ := Outcome.bind_eq_ok.mp h
    obtain ⟨below, hbelow, h⟩ := Outcome.bind_eq_ok.mp h
    cases h
    cases i with
    | zero =>
      cases hl
      exact ⟨s, rfl, Outcome.mapError_eq_ok.mp hlevel⟩
    | succ i =>
      obtain ⟨s', hs', hlevel'⟩ := ih hbelow hl
      refine ⟨s', hs', ?_⟩
      rwa [Nat.add_assoc, Nat.add_comm 1 i] at hlevel'

end FacetSpec

/-- A plan has the levels of its request, and at least one. -/
theorem FacetPlan.levels_of_compile {c : Collection} {geo : Bool} {specs : List FacetSpec}
    {plan : FacetPlan} (h : compile c geo specs = .ok plan) :
    FacetSpec.toLevels c 0 specs = .ok plan.levels ∧ plan.levels ≠ [] := by
  unfold compile at h
  split at h
  · cases h
  · obtain ⟨levels, hlevels, h⟩ := Outcome.bind_eq_ok.mp h
    cases levels with
    | nil => cases h
    | cons first rest =>
      dsimp only at h
      split at h
      · cases h
      · cases h
        exact ⟨hlevels, List.cons_ne_nil _ _⟩

/-- Every level of a compiled plan was put together at its depth. -/
theorem FacetPlan.assembled_of_compile {c : Collection} {geo : Bool} {specs : List FacetSpec}
    {plan : FacetPlan} (h : compile c geo specs = .ok plan) {depth : Nat} {l : FacetLevel}
    (hl : plan.levels[depth]? = some l) :
    ∃ s ms, FacetSpec.Assembled c depth s ms l := by
  obtain ⟨s, -, hlevel⟩ := FacetSpec.toLevel_of_toLevels (levels_of_compile h).1 hl
  obtain ⟨ms, hassembled⟩ := FacetSpec.exists_assembled hlevel
  rw [Nat.zero_add] at hassembled
  exact ⟨s, ms, hassembled⟩

/-- **Every level of a compiled plan is sound at its depth.** -/
theorem FacetPlan.soundFrom_of_compile {c : Collection} {geo : Bool} {specs : List FacetSpec}
    {plan : FacetPlan} (h : compile c geo specs = .ok plan) :
    FacetLevel.SoundFrom 0 plan.levels :=
  FacetSpec.soundFrom_toLevels (levels_of_compile h).1

end GeoFacet
