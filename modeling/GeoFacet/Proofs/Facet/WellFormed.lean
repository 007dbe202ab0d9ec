import GeoFacet.Proofs.Facet.Levels
import GeoFacet.Proofs.Facet.RawGroups

/-!
# Well-formed levels

What backends take for granted of a plan and never check again. Each part of a level owes its share
to one check: widths to the reading of intervals, orders to the metrics planned before, raw
geometries to the grouping by sorts. Sharing a geometry comes last and leaves the metrics that an
order can name alone.

Main statement: `wellFormed_of_compile`.
-/

namespace GeoFacet

/-! ## Widths -/

/-- The width of the buckets of a level is within its bounds. -/
def FacetKind.WellFormed : FacetKind → Prop
  | .dateHistogram unit multiplier => 1 ≤ multiplier ∧ (unit.isCalendar → multiplier = 1)
  | .histogram interval => 0.0 < interval
  | .term => True
  | .geohash precision => 1 ≤ precision ∧ precision ≤ 12
  | .geotile precision => precision ≤ 29

namespace Interval

/-- The number of an interval is positive, whichever of its parts are written. -/
theorem pos_of_parse? {raw : String} {i : Interval} (h : parse? raw = some i) : 0.0 < i.value := by
  have hguard : ∀ value unit,
      (if 0.0 < value then some (Interval.mk value unit) else none) = some i → 0.0 < i.value := by
    intro value unit h
    split at h
    · rename_i hpos
      cases h
      exact hpos
    · cases h
  unfold parse? at h
  dsimp only at h
  split at h
  · cases h
  · split at h <;>
    · obtain ⟨unit, -, h⟩ := Option.bind_eq_some_iff.mp h
      split at h <;>
      · obtain ⟨value, -, h⟩ := Option.bind_eq_some_iff.mp h
        exact hguard value unit h

/-- A number that is greater than zero does not equal it. -/
theorem zero_beq_of_pos {x : Float} (h : 0.0 < x) : ((0 : UInt32).toFloat == x) = false := by
  have hlt : ((0.0 : Float).toModel.unpack.compare x.toModel.unpack == some .lt) = true :=
    of_decide_eq_true h
  show ((0.0 : Float).toModel.unpack.compare x.toModel.unpack == some .eq) = false
  rw [beq_iff_eq.mp hlt]
  rfl

/-- A positive whole number is at least one. -/
theorem pos_of_asNat? {i : Interval} (hpos : 0.0 < i.value) {n : Nat} (h : i.asNat? = some n) :
    1 ≤ n := by
  rw [asNat?] at h
  split at h
  · rename_i hwhole
    cases h
    by_contra hzero
    have hcut : i.value.toUInt32 = 0 := UInt32.toNat_inj.mp (by simpa using hzero)
    rw [hcut, zero_beq_of_pos hpos] at hwhole
    cases hwhole
  · cases h

end Interval

namespace FacetSpec

theorem wellFormed_dateKind {interval : String} {kind : FacetKind}
    (h : dateKind interval = .ok kind) : kind.WellFormed := by
  obtain ⟨parsed, hparsed, h⟩ := Outcome.bind_eq_ok.mp h
  obtain ⟨unit, -, h⟩ := Outcome.bind_eq_ok.mp h
  obtain ⟨multiplier, hmultiplier, h⟩ := Outcome.bind_eq_ok.mp h
  split at h
  · cases h
  · rename_i hcalendar
    cases h
    refine ⟨Interval.pos_of_asNat? (Interval.pos_of_parse? (Outcome.orRefuse_eq_ok.mp hparsed))
      (Outcome.orRefuse_eq_ok.mp hmultiplier), fun hunit => ?_⟩
    by_contra hmultiple
    exact hcalendar (by simp [hunit, hmultiple])

theorem wellFormed_histogramKind {interval : String} {kind : FacetKind}
    (h : histogramKind interval = .ok kind) : kind.WellFormed := by
  obtain ⟨parsed, hparsed, h⟩ := Outcome.bind_eq_ok.mp h
  split at h
  · cases h
  · cases h
    exact Interval.pos_of_parse? (Outcome.orRefuse_eq_ok.mp hparsed)

theorem precision_bounds {interval : String} {min max p : Nat}
    (h : precision interval min max = .ok p) : min ≤ p ∧ p ≤ max := by
  unfold precision at h
  split at h
  · rename_i hfilter
    cases h
    simpa using (Option.filter_eq_some_iff.mp hfilter).2
  · cases h

/-- The width of a level is within its bounds. -/
theorem wellFormed_resolveKind {s : FacetSpec} {kind : FacetKind} (h : resolveKind s = .ok kind) :
    kind.WellFormed := by
  unfold resolveKind at h
  split at h
  · cases h
  · cases h
    trivial
  · split at h
    · cases h
    · dsimp only at h
      split at h
      · exact wellFormed_dateKind h
      · exact wellFormed_histogramKind h
      · obtain ⟨p, hp, rfl⟩ := Outcome.map_eq_ok.mp h
        exact precision_bounds hp
      · obtain ⟨p, hp, rfl⟩ := Outcome.map_eq_ok.mp h
        exact (precision_bounds hp).2
      · cases h
        trivial

/-! ## Orders, sizes and patterns -/

/-- Cells have no order, and an order on a metric names a planned one that is no geometry. -/
theorem order_of_resolveOrder {s : FacetSpec} {ms : List PlannedMetric}
    {order : Option BucketOrder} (h : resolveOrder s ms = .ok order) :
    (order = none ↔ s.type.isGeo) ∧ ∀ name o, order = some (.metric name o) →
      ∃ m ∈ ms, m.name = name ∧ m.function.isGeo = false := by
  unfold resolveOrder at h
  split at h
  · rename_i hgeo
    split at h
    · cases h
    · cases h
      exact ⟨⟨fun _ => hgeo, fun _ => rfl⟩, fun _ _ hmetric => (by cases hmetric)⟩
  · rename_i hgeo
    have hordered : ∀ order : BucketOrder, some order = none ↔ s.type.isGeo :=
      fun order => ⟨fun hnone => (by cases hnone), fun hcells => absurd hcells hgeo⟩
    split at h
    · cases h
      refine ⟨hordered _, fun name o hmetric => ?_⟩
      split at hmetric <;> cases hmetric
    · cases h
      exact ⟨hordered _, fun _ _ hmetric => (by cases hmetric)⟩
    · cases h
      exact ⟨hordered _, fun _ _ hmetric => (by cases hmetric)⟩
    · split at h
      · -- A metric is only named where results are ordered on one.
        rename_i m hfind
        cases h
        refine ⟨hordered _, fun name o hmetric => ?_⟩
        cases hmetric
        exact ⟨m, List.mem_of_find?_eq_some hfind, rfl, by simpa using List.find?_some hfind⟩
      · cases h
    · cases h
    · cases h

theorem size_of_checkSize {s : FacetSpec} (h : checkSize s = .ok ()) :
    s.size ≠ some 0 ∧ (s.type = .dateHistogram ∨ s.type = .histogram → s.size = none) := by
  unfold checkSize at h
  split at h
  · cases h
  · rename_i hhistogram
    split at h
    · cases h
    · rename_i hzero
      refine ⟨hzero, fun htype => ?_⟩
      cases hsize : s.size with
      | none => rfl
      | some n => exact absurd (by simpa [hsize] using htype) hhistogram

theorem term_of_checkPattern {s : FacetSpec} (h : checkPattern s = .ok ())
    (hpattern : s.pattern ≠ none) : s.type = .term := by
  unfold checkPattern at h
  split at h
  · rename_i hnone
    exact absurd hnone hpattern
  · split at h
    · cases h
    · rename_i hterm
      exact not_not.mp hterm

/-! ## Geometries -/

/-- Cells are chosen on levels of cells only. -/
theorem cells_resolveGeometries {type : FacetType} {chosen gs result : List AggregatedGeometry}
    (hchosen : ∀ g ∈ chosen, g.isCell → type.isGeo)
    (h : resolveGeometries type chosen gs = .ok result) :
    ∀ g ∈ result, g.isCell → type.isGeo := by
  induction gs generalizing chosen with
  | nil =>
    cases h
    exact hchosen
  | cons g gs ih =>
    rw [resolveGeometries] at h
    split at h
    · cases h
    · rename_i hcell
      refine ih ?_ h
      split
      · exact hchosen
      · intro g' hg' hcell'
        rcases List.mem_append.mp hg' with hg' | hg'
        · exact hchosen g' hg' hcell'
        · rw [List.mem_singleton.mp hg'] at hcell'
          simpa [hcell'] using hcell

end FacetSpec

/-- Groups of raw geometries are numbered and told apart by their sorts, and none is empty or has a
path twice. -/
structure RawGeometryGroup.Grouped (groups : List RawGeometryGroup) : Prop where
  names : groups.map RawGeometryGroup.name =
    (List.range groups.length).map fun i => "raw_geometries_" ++ toString i
  sorts : (groups.map RawGeometryGroup.sort).Nodup
  paths : ∀ g ∈ groups, g.paths ≠ [] ∧ g.paths.Nodup

/-- Groups that gather requests are numbered and told apart. -/
theorem RawGeometryGroup.Gathers.grouped {groups : List RawGeometryGroup}
    {asked : List (String × Option String)} (h : Gathers groups asked) : Grouped groups where
  names := h.names
  sorts := h.nodup_sorts
  paths := by
    intro g hg
    constructor
    · have hsort : g.sort ∈ asked.map Prod.snd :=
        (h.mem_sorts_iff g.sort).mp (List.mem_map_of_mem hg)
      obtain ⟨⟨path, sort⟩, hasked, heq⟩ := List.mem_map.mp hsort
      cases heq
      exact List.ne_nil_of_mem ((h.mem_paths_iff hg path).mpr hasked)
    · exact h.nodup_paths hg

/-! ## Levels -/

/-- The invariant of the levels of a plan: what holds of the level at a depth. -/
structure FacetLevel.WellFormed (c : Collection) (depth : Nat) (l : FacetLevel) : Prop where
  depth_eq : l.depth = depth
  name_eq : l.name = l.type.name ++ "_" ++ toString depth
  width : l.kind.WellFormed
  order_eq_none : l.order = none ↔ l.type.isGeo
  /-- an order on a metric names one of the level with a sub-result of its own -/
  ordered : ∀ name o, l.order = some (.metric name o) →
    ∃ m ∈ l.metrics, m.name = name ∧ m.function.isGeo = false ∧ m.source = .own
  distinctMetrics : (l.metrics.map PlannedMetric.name).Nodup
  /-- what is shared is the geometry of that kind of the centroids, wherever the level has it -/
  shared : ∀ m ∈ l.metrics, ∀ g, m.source = .geometry g ↔
    FacetSpec.geometryOf? m.function = some g ∧ m.field = c.centroidPath ∧
      g ∈ l.aggregatedGeometries
  distinctGeometries : l.aggregatedGeometries.Nodup
  cells : ∀ g ∈ l.aggregatedGeometries, g.isCell → l.type.isGeo
  grouped : RawGeometryGroup.Grouped l.rawGeometries
  size_ne_zero : l.size ≠ some 0
  size_eq_none : l.type = .dateHistogram ∨ l.type = .histogram → l.size = none
  patterned : l.pattern ≠ none → l.type = .term

namespace FacetSpec

/-- A level that was put together is well-formed. -/
theorem Assembled.wellFormed {c : Collection} {depth : Nat} {s : FacetSpec}
    {ms : List PlannedMetric} {l : FacetLevel} (h : Assembled c depth s ms l) :
    l.WellFormed c depth where
  depth_eq := h.sound.depth_eq
  name_eq := h.sound.name_eq
  width := wellFormed_resolveKind h.kind
  order_eq_none := h.type_eq ▸ (order_of_resolveOrder h.order).1
  ordered := by
    intro name o horder
    obtain ⟨m, hm, hname, hgeo⟩ := (order_of_resolveOrder h.order).2 name o horder
    refine ⟨shareGeometry c l.aggregatedGeometries m, ?_, ?_, ?_, ?_⟩
    · rw [h.metrics]
      exact List.mem_map_of_mem hm
    · rw [name_shareGeometry, hname]
    · rw [function_shareGeometry, hgeo]
    · rw [shareGeometry_of_not_isGeo hgeo, h.planned_metrics.own m hm]
  distinctMetrics := h.sound.distinctMetrics
  shared := by
    intro m hm g
    obtain ⟨m', -, hown, -, rfl⟩ := h.exists_planned hm
    rw [source_shareGeometry hown, function_shareGeometry, field_shareGeometry]
  distinctGeometries := h.sound.distinctGeometries
  cells := by
    rw [h.type_eq]
    exact cells_resolveGeometries (fun g hg => (by cases hg)) h.geometries
  grouped := (gathers_groupRaw .nil h.rawGeometries).grouped
  size_ne_zero := by
    rw [h.size.2]
    exact (size_of_checkSize h.size.1).1
  size_eq_none := by
    rw [h.type_eq, h.size.2]
    exact (size_of_checkSize h.size.1).2
  patterned := by
    rw [h.type_eq, h.pattern.2]
    exact term_of_checkPattern h.pattern.1

end FacetSpec

/-- **Every level of an accepted plan is well-formed at its depth.** -/
theorem FacetPlan.wellFormed_of_compile {c : Collection} {geo : Bool} {specs : List FacetSpec}
    {plan : FacetPlan} (h : compile c geo specs = .ok plan) {depth : Nat} {l : FacetLevel}
    (hl : plan.levels[depth]? = some l) : l.WellFormed c depth := by
  obtain ⟨s, ms, hassembled⟩ := assembled_of_compile h hl
  exact hassembled.wellFormed

/-! ### Surveys by kind and month

The kinds are ordered by their mean weight and share the box that is drawn around them. -/

def surveys : Collection :=
  ⟨"surveys", "surveys", "id", "shape", "place", "seen", "epoch_millis", [],
    [("kind", .keyword), ("weight", .double), ("place", .geoPoint), ("shape", .geoShape),
      ("seen", .date)]⟩

/-- Kinds by mean weight, with a box and two shapes each, and the months in each. -/
def byWeightAndMonth : List FacetSpec :=
  [{ (default : FacetSpec) with
      type := .term, field := some "kind", order := some .desc, on := some .result, size := some 5,
      metrics := [⟨some "place", some .geoBBox⟩, ⟨some "weight", some .avg⟩],
      aggregatedGeometries := [.bbox],
      rawGeometries := [⟨"shape", some "-seen"⟩, ⟨"place", none⟩, ⟨"shape", some "-seen"⟩] },
    { (default : FacetSpec) with type := .dateHistogram, interval := some "1 month" }]

theorem wellFormed_byWeightAndMonth : ∃ (plan : FacetPlan) (kinds months : FacetLevel),
    FacetPlan.compile surveys true byWeightAndMonth = .ok plan ∧
      plan.levels[0]? = some kinds ∧ kinds.order = some (.metric "avg_weight" .desc) ∧
      kinds.rawGeometries.length = 2 ∧ kinds.WellFormed surveys 0 ∧
      plan.levels[1]? = some months ∧ months.type = .dateHistogram ∧
      months.WellFormed surveys 1 := by
  obtain ⟨plan, hplan, hlevels⟩ := Outcome.exists_of_any
    (o := FacetPlan.compile surveys true byWeightAndMonth)
    (p := fun plan =>
      (plan.levels[0]?.any fun kinds =>
        kinds.order = some (.metric "avg_weight" .desc) && kinds.rawGeometries.length = 2) &&
      plan.levels[1]?.any fun months => months.type = .dateHistogram) (by decide +kernel)
  obtain ⟨hkinds, hmonths⟩ := Bool.and_eq_true_iff.mp hlevels
  obtain ⟨kinds, hkinds, hparts⟩ := (Option.any_eq_true _ _).mp hkinds
  obtain ⟨months, hmonths, htype⟩ := (Option.any_eq_true _ _).mp hmonths
  obtain ⟨horder, hraw⟩ := Bool.and_eq_true_iff.mp hparts
  exact ⟨plan, kinds, months, hplan, hkinds, of_decide_eq_true horder, of_decide_eq_true hraw,
    FacetPlan.wellFormed_of_compile hplan hkinds, hmonths, of_decide_eq_true htype,
    FacetPlan.wellFormed_of_compile hplan hmonths⟩

end GeoFacet
