import GeoFacet.Proofs.Facet.Growth
import GeoFacet.Proofs.Facet.Metrics
import GeoFacet.Proofs.Facet.WellFormed
import Mathlib

/-!
# The shape of assembled trees

A tree has the shape of its plan, whichever backend built it and whatever the result holds. The node
at an address stands on the level of its depth: it has the name of this level, a key, a count, and a
value for each of its metrics, and what else it has is what the level asks for.

Main statement: `shape_of_compile`.
-/

namespace GeoFacet

/-! ## What a level asks of its buckets -/

/-- Aggregated geometries of a level in their order, each one at most once. -/
structure FacetLevel.Aggregates (l : FacetLevel) (gs : List BucketGeometry) : Prop where
  order : (gs.map BucketGeometry.reference).Sublist
    (l.aggregatedGeometries.map AggregatedGeometry.name)
  distinct : (gs.map BucketGeometry.reference).Nodup
  aggregated : ∀ g ∈ gs, g.isRaw = false ∧ g.sort = none

/-- Raw geometries of a level, which only a search has. -/
structure FacetLevel.Takes (kind : BackendKind) (l : FacetLevel) (gs : List BucketGeometry) :
    Prop where
  search : gs ≠ [] → kind = .search
  grouped : ∀ g ∈ gs, g.isRaw = true ∧
    ∃ group ∈ l.rawGeometries, g.reference ∈ group.paths ∧ g.sort = group.sort

/-- A node has what a level asks for. The value of a metric is what the result has for it, or
null. -/
structure FacetLevel.Fits (kind : BackendKind) (l : FacetLevel)
    (value? : PlannedMetric → Option Json) (node : Bucket) : Prop where
  name : node.name = some l.name
  key : node.key.isSome = true
  count : node.count.isSome = true
  metrics : node.metrics = l.metrics.map fun m => ⟨m.function, m.field, (value? m).getD .null⟩
  geometries : ∃ aggregated raw, node.geometries = aggregated ++ raw ∧
    l.Aggregates aggregated ∧ l.Takes kind raw
  hits : node.hits ≠ [] → kind = .search ∧ l.fetch.isSome = true
  keyText : l.type = .dateHistogram → node.keyText.isSome = true

/-- What stands inside a node is not asked for. -/
theorem FacetLevel.Fits.around {kind : BackendKind} {l : FacetLevel}
    {value? : PlannedMetric → Option Json} {bucket node : Bucket} (h : l.Fits kind value? bucket)
    (haround : bucket.Around node) : l.Fits kind value? node := by
  rw [haround]
  exact ⟨h.name, h.key, h.count, h.metrics, h.geometries, h.hits, h.keyText⟩

namespace FacetLevel

variable {l : FacetLevel} {key : Json}

theorem isSome_keyText (htype : l.type = .dateHistogram) {text : Option String}
    (h : l.keyText key = .ok text) : text.isSome = true := by
  rw [keyText] at h
  split at h
  · obtain ⟨millis, -, h⟩ := Outcome.bind_eq_ok.mp h
    obtain ⟨written, -, rfl⟩ := Outcome.map_eq_ok.mp h
    rfl
  · rename_i hkind
    rw [type] at htype
    cases hl : l.kind with
    | dateHistogram unit multiplier => exact absurd hl (hkind unit multiplier)
    | histogram | term | geohash | geotile => rw [hl] at htype; cases htype

theorem injective_name : Function.Injective AggregatedGeometry.name := by
  intro a b h
  cases a <;> cases b <;> first | rfl | simp [AggregatedGeometry.name] at h

theorem sublist_references (cell : Option (BoundingBox Float))
    (computed : AggregatedGeometry → Option Json) (gs : List AggregatedGeometry) :
    ((gs.filterMap (aggregatedGeometry cell computed)).map BucketGeometry.reference).Sublist
      (gs.map AggregatedGeometry.name) := by
  induction gs with
  | nil => exact .slnil
  | cons g gs ih =>
    rw [List.filterMap_cons, List.map_cons]
    cases hg : aggregatedGeometry cell computed g with
    | none => exact ih.cons _
    | some geometry =>
      obtain ⟨json, -, rfl⟩ := Option.map_eq_some_iff.mp hg
      exact ih.cons_cons _

theorem aggregates_geometriesOf (hdistinct : l.aggregatedGeometries.Nodup)
    {computed : AggregatedGeometry → Option Json} {gs : List BucketGeometry}
    (h : l.geometriesOf key computed = .ok gs) : l.Aggregates gs := by
  rw [geometriesOf] at h
  split at h
  · cases h
    exact ⟨List.nil_sublist _, List.nodup_nil, by simp⟩
  · obtain ⟨cell, -, h⟩ := Outcome.bind_eq_ok.mp h
    cases h
    have horder := sublist_references cell computed l.aggregatedGeometries
    refine ⟨horder, (hdistinct.map injective_name).sublist horder, fun geometry hg => ?_⟩
    obtain ⟨g, -, hg⟩ := List.mem_filterMap.mp hg
    obtain ⟨json, -, rfl⟩ := Option.map_eq_some_iff.mp hg
    exact ⟨rfl, rfl⟩

/-- A geometry is shown in a feature collection. -/
theorem metricValue_of_isGeo {m : PlannedMetric} (hgeo : m.function.isGeo = true)
    {shape? : Option Json} (hnull : ∀ v, shape? = some v → v.isNull = false) :
    metricValue m (shape?.getD .null) =
      ⟨m.function, m.field, (shape?.map singleFeatureJson).getD .null⟩ := by
  rw [metricValue, hgeo]
  cases shape? with
  | none => rfl
  | some v => simp [hnull v rfl]

/-- A number is shown as it is. -/
theorem metricValue_of_not_isGeo {m : PlannedMetric} (hgeo : m.function.isGeo = false)
    (value : Json) : metricValue m value = ⟨m.function, m.field, value⟩ := by
  rw [metricValue, hgeo]
  rfl

end FacetLevel

/-! ## Buckets of a search -/

namespace Search

/-- What an item has for a metric. -/
def value? (item : Json) (m : PlannedMetric) : Option Json :=
  let result := item.member m.sourceName
  match m.function with
  | .geoBBox => (boundsPolygon? result).map singleFeatureJson
  | .geoCentroid => (centroidPoint? result).map singleFeatureJson
  | _ => result.get? "value"

theorem isNull_boundsPolygon? {result v : Json} (h : boundsPolygon? result = some v) :
    v.isNull = false := by
  obtain ⟨bounds, -, h⟩ := Option.bind_eq_some_iff.mp h
  obtain ⟨west, -, h⟩ := Option.bind_eq_some_iff.mp h
  obtain ⟨south, -, h⟩ := Option.bind_eq_some_iff.mp h
  obtain ⟨east, -, h⟩ := Option.bind_eq_some_iff.mp h
  obtain ⟨north, -, h⟩ := Option.bind_eq_some_iff.mp h
  cases h
  rfl

theorem isNull_centroidPoint? {result v : Json} (h : centroidPoint? result = some v) :
    v.isNull = false := by
  obtain ⟨location, -, h⟩ := Option.bind_eq_some_iff.mp h
  obtain ⟨lat, -, h⟩ := Option.bind_eq_some_iff.mp h
  obtain ⟨lon, -, h⟩ := Option.bind_eq_some_iff.mp h
  cases h
  rfl

theorem metricOf_eq (item : Json) (m : PlannedMetric) :
    metricOf item m = ⟨m.function, m.field, (value? item m).getD .null⟩ := by
  obtain ⟨function, field, name, source⟩ := m
  cases function with
  | geoBBox => exact FacetLevel.metricValue_of_isGeo rfl fun _ => isNull_boundsPolygon?
  | geoCentroid => exact FacetLevel.metricValue_of_isGeo rfl fun _ => isNull_centroidPoint?
  | avg | max | min | sum | cardinality => exact FacetLevel.metricValue_of_not_isGeo rfl _

theorem takes_rawGeometries (c : Collection) (l : FacetLevel) (item : Json) :
    l.Takes .search (l.rawGeometries.flatMap (rawGeometries c item)) where
  search _ := rfl
  grouped := by
    intro g hg
    obtain ⟨group, hgroup, hg⟩ := List.mem_flatMap.mp hg
    obtain ⟨hit, -, hg⟩ := List.mem_flatMap.mp hg
    obtain ⟨path, hpath, hg⟩ := List.mem_filterMap.mp hg
    obtain ⟨json, -, rfl⟩ := Option.map_eq_some_iff.mp hg
    exact ⟨rfl, group, hgroup, hpath, rfl⟩

theorem fits_bucketAlone {c : Collection} {l : FacetLevel}
    (hdistinct : l.aggregatedGeometries.Nodup) {item : Json} {b : Bucket}
    (h : bucketAlone c l item = .ok b) : l.Fits .search (value? item) b := by
  obtain ⟨keyText, hkeyText, h⟩ := Outcome.bind_eq_ok.mp h
  obtain ⟨geometries, hgeometries, h⟩ := Outcome.bind_eq_ok.mp h
  cases h
  refine ⟨rfl, rfl, rfl, List.map_congr_left fun m _ => metricOf_eq item m, ?_, fun hne => ?_,
    fun htype => ?_⟩
  · exact ⟨geometries, _, rfl, FacetLevel.aggregates_geometriesOf hdistinct hgeometries,
      takes_rawGeometries c l item⟩
  · refine ⟨rfl, ?_⟩
    by_contra hfetch
    exact hne (if_neg hfetch)
  · obtain ⟨text, rfl⟩ := Option.isSome_iff_exists.mp (FacetLevel.isSome_keyText htype hkeyText)
    rfl

end Search

/-! ## Buckets of rows -/

namespace Sql

/-- What a row has for a metric. -/
def Row.value? (row : Row) (m : PlannedMetric) : Option Json :=
  match m.function with
  | .geoBBox => (row.boxPolygon? m.sourceName).map singleFeatureJson
  | .geoCentroid => (row.centroidPoint? m.sourceName).map singleFeatureJson
  | _ => (row.lookup m.sourceName).map normalizeNumber

theorem Row.isNull_boxPolygon? {row : Row} {name : String} {v : Json}
    (h : row.boxPolygon? name = some v) : v.isNull = false := by
  obtain ⟨west, -, h⟩ := Option.bind_eq_some_iff.mp h
  obtain ⟨south, -, h⟩ := Option.bind_eq_some_iff.mp h
  obtain ⟨east, -, h⟩ := Option.bind_eq_some_iff.mp h
  obtain ⟨north, -, h⟩ := Option.bind_eq_some_iff.mp h
  cases h
  rfl

theorem Row.isNull_centroidPoint? {row : Row} {name : String} {v : Json}
    (h : row.centroidPoint? name = some v) : v.isNull = false := by
  obtain ⟨lat, -, h⟩ := Option.bind_eq_some_iff.mp h
  obtain ⟨lon, -, h⟩ := Option.bind_eq_some_iff.mp h
  cases h
  rfl

theorem Row.metricOf_eq (row : Row) (m : PlannedMetric) :
    row.metricOf m = ⟨m.function, m.field, (row.value? m).getD .null⟩ := by
  obtain ⟨function, field, name, source⟩ := m
  cases function with
  | geoBBox => exact FacetLevel.metricValue_of_isGeo rfl fun _ => isNull_boxPolygon?
  | geoCentroid => exact FacetLevel.metricValue_of_isGeo rfl fun _ => isNull_centroidPoint?
  | avg | max | min | sum | cardinality => exact FacetLevel.metricValue_of_not_isGeo rfl _

theorem fits_bucketAlone {l : FacetLevel} (hdistinct : l.aggregatedGeometries.Nodup) {row : Row}
    {b : Bucket} (h : bucketAlone l row = .ok b) : l.Fits .sql row.value? b := by
  obtain ⟨keyText, hkeyText, h⟩ := Outcome.bind_eq_ok.mp h
  obtain ⟨geometries, hgeometries, h⟩ := Outcome.bind_eq_ok.mp h
  cases h
  refine ⟨rfl, rfl, rfl, List.map_congr_left fun m _ => row.metricOf_eq m, ?_,
    fun hne => absurd rfl hne, fun htype => FacetLevel.isSome_keyText htype hkeyText⟩
  exact ⟨geometries, [], (List.append_nil _).symm,
    FacetLevel.aggregates_geometriesOf hdistinct hgeometries, fun hne => absurd rfl hne, by simp⟩

end Sql

/-! ## Trees of either backend -/

namespace FacetSpec

/-- The aggregated geometries of a level are the requested ones, each once. -/
theorem eraseDups_of_resolveGeometries {type : FacetType}
    {chosen gs result : List AggregatedGeometry}
    (h : resolveGeometries type chosen gs = .ok result) :
    result = chosen ++ (gs.filter fun g => !chosen.contains g).eraseDups := by
  induction gs generalizing chosen with
  | nil =>
    cases h
    simp
  | cons g gs ih =>
    rw [resolveGeometries] at h
    split at h
    · cases h
    · rw [ih h]
      by_cases hg : chosen.contains g = true
      · rw [if_pos hg, List.filter_cons_of_neg (by simpa using hg)]
      · -- What the rest may add is filtered by `g` as well.
        have hrest : (fun g' => !(chosen ++ [g]).contains g') =
            fun g' => !(g' == g) && !chosen.contains g' := by
          funext g'
          simp [Bool.and_comm, beq_eq_decide]
        rw [if_neg hg, List.filter_cons_of_pos (by simpa using hg), List.eraseDups_cons, hrest,
          List.filter_filter, List.append_assoc]
        rfl

end FacetSpec

namespace Backend

variable {kind : BackendKind} {c : Collection} {plan : FacetPlan}

/-- What a result has for a metric at an address. -/
def value? : (kind : BackendKind) → FacetPlan → (ofKind kind).Native → Nat → List Nat →
    PlannedMetric → Option Json
  | .search, plan, result, i, address, m =>
    (Search.partAt? plan result i address).bind (Search.value? · m)
  | .sql, plan, rows, i, address, m => (Sql.partAt? plan rows i address).bind (Sql.Row.value? · m)

/-- The root of a tree stands above the first level. -/
theorem leftOut_assembleFacets {native : (ofKind kind).Native} {tree : Bucket}
    (h : (ofKind kind).assembleFacets c plan native = .ok tree) :
    LeftOut kind plan.levels[0]? tree.otherCount := by
  rw [← List.head?_eq_getElem?]
  cases kind with
  | search => exact (Search.grown_assembleFacets h).2
  | sql => exact (Sql.grown_assembleFacets h).2

/-- A node has what its level asks for, and stands above the next level. -/
theorem fits_at? {native : (ofKind kind).Native} {tree node : Bucket}
    (hdistinct : ∀ l ∈ plan.levels, l.aggregatedGeometries.Nodup)
    (h : (ofKind kind).assembleFacets c plan native = .ok tree) {i : Nat} {address : List Nat}
    (hnode : tree.at? (i :: address) = some node) :
    (∃ l, plan.levels[address.length]? = some l ∧
        l.Fits kind (value? kind plan native i address) node) ∧
      LeftOut kind plan.levels[address.length + 1]? node.otherCount ∧
      (node.children ≠ [] → address.length + 1 < plan.levels.length) := by
  cases kind with
  | search =>
    obtain ⟨⟨l, item, bucket, hl, hitem, hbuild, haround⟩, hinside⟩ :=
      (Search.grown_assembleFacets h).1.at? hnode
    have hfits := Search.fits_bucketAlone (hdistinct l (List.mem_of_getElem? hl)) hbuild
    have hvalue : value? .search plan native i address = Search.value? item := by
      funext m
      rw [value?, hitem, Option.bind_some]
    exact ⟨⟨l, hl, hvalue ▸ hfits.around haround⟩, hinside⟩
  | sql =>
    obtain ⟨⟨l, row, bucket, hl, hrow, hbuild, haround⟩, hinside⟩ :=
      (Sql.grown_assembleFacets h).1.at? hnode
    have hfits := Sql.fits_bucketAlone (hdistinct l (List.mem_of_getElem? hl)) hbuild
    have hvalue : value? .sql plan native i address = row.value? := by
      funext m
      rw [value?, hrow, Option.bind_some]
    exact ⟨⟨l, hl, hvalue ▸ hfits.around haround⟩, hinside⟩

end Backend

/-- **An assembled tree has the shape of its plan**, for either backend and every native result that
assembles. The node at an address belongs to the level of its depth and is named after it. It has a
key, a count, and the values of the metrics of the level in their order, null where the result has
none. Its aggregated geometries are some of the requested ones in requested order, each once; raw
ones follow, in a search only, each from a group of the level. It has documents only in a search and
where they are fetched, and on a level of dates it has the text of its key. It has children only
above a further level. A count of left-out documents stands exactly above levels of terms, on the
root as on the other nodes, and is zero for the relational backend. -/
theorem shape_of_compile {c : Collection} {geo : Bool} {specs : List FacetSpec} {plan : FacetPlan}
    (h : FacetPlan.compile c geo specs = .ok plan) {kind : BackendKind}
    {native : (Backend.ofKind kind).Native} {tree : Bucket}
    (htree : (Backend.ofKind kind).assembleFacets c plan native = .ok tree) :
    LeftOut kind plan.levels[0]? tree.otherCount ∧
    ∀ (i : Nat) (address : List Nat) (node : Bucket), tree.at? (i :: address) = some node →
      ∃ l s, plan.levels[address.length]? = some l ∧ specs[address.length]? = some s ∧
        l.name = l.type.name ++ "_" ++ toString address.length ∧
        l.aggregatedGeometries = s.aggregatedGeometries.eraseDups ∧
        l.Fits kind (Backend.value? kind plan native i address) node ∧
        LeftOut kind plan.levels[address.length + 1]? node.otherCount ∧
        (node.children ≠ [] → address.length + 1 < plan.levels.length) := by
  refine ⟨Backend.leftOut_assembleFacets htree, fun i address node hnode => ?_⟩
  have hsound := FacetPlan.soundFrom_of_compile h
  have hdistinct : ∀ l ∈ plan.levels, l.aggregatedGeometries.Nodup := by
    intro l hl
    obtain ⟨depth, hdepth⟩ := List.mem_iff_getElem?.mp hl
    exact (hsound.sound hdepth).distinctGeometries
  obtain ⟨⟨l, hl, hfits⟩, hinside⟩ := Backend.fits_at? hdistinct htree hnode
  obtain ⟨s, hs, hlevel⟩ := FacetSpec.toLevel_of_toLevels (FacetPlan.levels_of_compile h).1 hl
  obtain ⟨ms, hassembled⟩ := FacetSpec.exists_assembled hlevel
  have hgeometries : l.aggregatedGeometries = s.aggregatedGeometries.eraseDups := by
    simpa using FacetSpec.eraseDups_of_resolveGeometries hassembled.geometries
  exact ⟨l, s, hl, hs, (hsound.sound hl).name_eq, hgeometries, hfits, hinside⟩

/-- The surveys of foxes, without a mean weight and without months. -/
def foxes : Json :=
  .object [("aggregations", .object [("term_0", .object [
    ("buckets", .list [.object [
      ("datehistogram_1", .object [("buckets", .list [])]),
      ("doc_count", .int 2),
      ("key", .text "fox")]]),
    ("sum_other_doc_count", .int 4)])])]

theorem shape_of_compile_foxes : ∃ plan tree node,
    FacetPlan.compile surveys true byWeightAndMonth = .ok plan ∧
      (Backend.ofKind .search).assembleFacets surveys plan foxes = .ok tree ∧
      tree.otherCount.isSome = true ∧ tree.at? [0] = some node ∧ node.name = some "term_0" ∧
      node.metrics.length = 2 ∧ node.otherCount = none := by
  obtain ⟨plan, hplan, hrest⟩ := Outcome.exists_of_any
    (o := FacetPlan.compile surveys true byWeightAndMonth)
    (p := fun plan => plan.levels.map (fun l => (l.type, l.metrics.length)) =
        [(.term, 2), (.dateHistogram, 0)] &&
      (Search.assembleFacets surveys plan foxes).toOption.any fun tree => (tree.at? [0]).isSome)
    (by decide +kernel)
  obtain ⟨hlevels, htree⟩ := Bool.and_eq_true_iff.mp hrest
  obtain ⟨tree, htree, hsome⟩ := Outcome.exists_of_any htree
  obtain ⟨node, hnode⟩ := Option.isSome_iff_exists.mp hsome
  replace htree : (Backend.ofKind .search).assembleFacets surveys plan foxes = .ok tree := htree
  obtain ⟨hroot, hnodes⟩ := shape_of_compile hplan htree
  obtain ⟨l, s, hl, -, hname, -, hfits, hleft, -⟩ := hnodes 0 [] node hnode
  have hlevel {depth : Nat} {l : FacetLevel} (hl : plan.levels[depth]? = some l) :
      [(FacetType.term, 2), (.dateHistogram, 0)][depth]? = some (l.type, l.metrics.length) := by
    rw [← of_decide_eq_true hlevels, List.getElem?_map, hl, Option.map_some]
  obtain ⟨htype, hlength⟩ := Prod.mk.inj (Option.some.inj (hlevel hl))
  refine ⟨plan, tree, node, hplan, htree, hroot.isSome_iff.mpr ⟨l, hl, htype.symm⟩, hnode,
    ?_, ?_, ?_⟩
  · rw [hfits.name, hname, ← htype]
    rfl
  · rw [hfits.metrics, List.length_map, ← hlength]
  · refine Option.not_isSome_iff_eq_none.mp fun hcount => ?_
    obtain ⟨months, hmonths, hterm⟩ := hleft.isSome_iff.mp hcount
    have htype := (Prod.mk.inj (Option.some.inj (hlevel hmonths))).1
    rw [hterm] at htype
    cases htype

end GeoFacet
