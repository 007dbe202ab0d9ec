import GeoFacet.Proofs.Facet.Levels
import GeoFacet.Search.Facets
import GeoFacet.Sql.Facets

/-!
# The names of sub-results

What a level computes in its buckets are its sub-results: the metrics of its own and the computed
geometries. Each is a member of a search bucket under its name, and one or several columns of a row.
The names of a level are distinct (`nodup_subResults`), and so are its columns (`nodup_columns`);
all begin with words that keep them apart from whatever else a bucket or a row holds.
-/

namespace GeoFacet

/-- A function computed over the documents of a bucket, under a name. -/
structure SubResult where
  function : CollectFunction
  name : String
  deriving DecidableEq

/-- What a level computes in each of its buckets. -/
def FacetLevel.subResults (l : FacetLevel) : List SubResult :=
  l.ownMetrics.map (fun m => ⟨m.function, m.name⟩) ++
    l.computedGeometries.map fun g =>
      ⟨Search.Aggregation.geometryFunction g, aggregatedGeometryName g⟩

namespace SubResult

/-! ## Names -/

/-- The words that names begin with, and the functions computed under them. -/
def beginnings : List (String × CollectFunction) :=
  [("avg_", .avg), ("cardinality_", .cardinality), ("max_", .max), ("min_", .min), ("sum_", .sum),
    ("geobbox_", .geoBBox), ("geocentroid_", .geoCentroid), ("bbox_", .geoBBox),
    ("centroid_", .geoCentroid)]

theorem apart_beginnings :
    ∀ v ∈ beginnings, ∀ w ∈ beginnings, v = w ∨ Text.Apart v.1 w.1 := by decide

/-- The name begins with a word for the function. -/
def Named (s : SubResult) : Prop :=
  ∃ word ∈ beginnings, word.2 = s.function ∧ ∃ rest, s.name = word.1 ++ rest

theorem named_metric (f : CollectFunction) (field : String) : Named ⟨f, metricName f field⟩ := by
  have hword : (f.name ++ "_", f) ∈ beginnings := by cases f <;> decide
  exact ⟨_, hword, rfl, _, rfl⟩

theorem named_geometry {g : AggregatedGeometry} (h : g.isCell = false) :
    Named ⟨Search.Aggregation.geometryFunction g, aggregatedGeometryName g⟩ := by
  cases g with
  | bbox => exact ⟨("bbox_", .geoBBox), by decide, rfl, "aggregated_geometry", rfl⟩
  | centroid => exact ⟨("centroid_", .geoCentroid), by decide, rfl, "aggregated_geometry", rfl⟩
  | cell => cases h
  | cellCenter => cases h

/-- Metrics and computed geometries begin differently. -/
theorem metricName_ne (f : CollectFunction) (field : String) {g : AggregatedGeometry}
    (h : g.isCell = false) : metricName f field ≠ aggregatedGeometryName g := by
  have hapart : Text.Apart (f.name ++ "_") (g.name ++ "_") := by
    cases g with
    | bbox | centroid => cases f <;> decide
    | cell | cellCenter => cases h
  have hname : aggregatedGeometryName g = g.name ++ "_" ++ "aggregated_geometry" := by
    rw [String.append_assoc]
    rfl
  rw [hname]
  exact hapart.append_ne

theorem Named.beginsWith {s : SubResult} (h : s.Named) :
    Text.BeginsWith (beginnings.map Prod.fst) s.name := by
  obtain ⟨word, hword, -, rest, hname⟩ := h
  exact ⟨word.1, List.mem_map_of_mem hword, rest, hname⟩

/-- The beginning of a name tells the function. -/
theorem Named.function_eq {s t : SubResult} (hs : s.Named) (ht : t.Named) {a b : String}
    (h : s.name ++ a = t.name ++ b) : s.function = t.function := by
  obtain ⟨v, hv, hvs, rest, hsname⟩ := hs
  obtain ⟨w, hw, hwt, rest', htname⟩ := ht
  rcases apart_beginnings v hv w hw with rfl | hapart
  · rw [← hvs, hwt]
  · rw [hsname, htname, String.append_assoc, String.append_assoc] at h
    exact absurd h hapart.append_ne

/-! ## Columns -/

/-- What the names of the columns of a function add to its name. -/
def endings : CollectFunction → List String
  | .geoBBox => ["_west", "_south", "_east", "_north"]
  | .geoCentroid => ["_lon", "_lat"]
  | _ => [""]

theorem apart_endings (f : CollectFunction) :
    ∀ v ∈ endings f, ∀ w ∈ endings f, v = w ∨ Text.ApartBehind v w := by
  cases f <;> decide

/-- The names of the columns of a sub-result. -/
def columnNames (s : SubResult) : List String := (endings s.function).map (s.name ++ ·)

/-- The columns that a statement selects for a function. -/
theorem columnNames_metric (f : CollectFunction) (field name : String) :
    (Sql.Column.metric f field name).map Sql.Column.name = columnNames ⟨f, name⟩ := by
  cases f <;> simp [Sql.Column.metric, columnNames, endings, Sql.Column.box, Sql.Column.centroid,
    Sql.Column.westName, Sql.Column.southName, Sql.Column.eastName, Sql.Column.northName,
    Sql.Column.lonName, Sql.Column.latName]

theorem nodup_columnNames (s : SubResult) : s.columnNames.Nodup := by
  refine List.Nodup.map (fun v w h => ?_) (by cases s.function <;> decide)
  exact (String.append_right_inj s.name).mp h

/-- Sub-results with different names have different columns. -/
theorem disjoint_columnNames {s t : SubResult} (hs : s.Named) (ht : t.Named) (h : s.name ≠ t.name) :
    s.columnNames.Disjoint t.columnNames := by
  intro column hcolumn hcolumn'
  obtain ⟨v, hv, rfl⟩ := List.mem_map.mp hcolumn
  obtain ⟨w, hw, heq⟩ := List.mem_map.mp hcolumn'
  rw [← ht.function_eq hs heq] at hv
  exact h (Text.eq_of_append_eq (apart_endings t.function) hv hw heq.symm).1

end SubResult

/-! ## The sub-results of a level -/

namespace FacetLevel

variable {l : FacetLevel} {depth : Nat}

theorem named_subResults (h : l.Sound depth) : ∀ s ∈ l.subResults, s.Named := by
  intro s hs
  rcases List.mem_append.mp hs with hs | hs
  · obtain ⟨m, hm, rfl⟩ := List.mem_map.mp hs
    rw [h.metricNames m (List.mem_filter.mp hm).1]
    exact SubResult.named_metric m.function m.field
  · obtain ⟨g, hg, rfl⟩ := List.mem_map.mp hs
    exact SubResult.named_geometry (by simpa using (List.mem_filter.mp hg).2)

/-- The names of the sub-results of a level are distinct. -/
theorem nodup_subResults (h : l.Sound depth) : (l.subResults.map SubResult.name).Nodup := by
  rw [subResults, List.map_append, List.map_map, List.map_map]
  refine List.Nodup.append ?_ ?_ ?_
  · exact h.distinctMetrics.sublist (List.filter_sublist.map _)
  · refine List.Nodup.map (fun g g' hname => ?_) (h.distinctGeometries.filter _)
    have hname : g.name ++ "_aggregated_geometry" = g'.name ++ "_aggregated_geometry" := hname
    have hname := (String.append_left_inj _).mp hname
    revert hname
    cases g <;> cases g' <;> decide
  · intro name hmetric hgeometry
    obtain ⟨m, hm, rfl⟩ := List.mem_map.mp hmetric
    obtain ⟨g, hg, hname⟩ := List.mem_map.mp hgeometry
    have hname : aggregatedGeometryName g = m.name := hname
    rw [h.metricNames m (List.mem_filter.mp hm).1] at hname
    exact SubResult.metricName_ne _ _ (by simpa using (List.mem_filter.mp hg).2) hname.symm

/-- The geometry that a function computes is computed by that function. -/
theorem function_of_geometryOf? {f : CollectFunction} {g : AggregatedGeometry}
    (h : FacetSpec.geometryOf? f = some g) :
    g.isCell = false ∧ Search.Aggregation.geometryFunction g = f := by
  revert h
  cases f <;> rintro ⟨⟩ <;> exact ⟨rfl, rfl⟩

theorem mem_computedGeometries {g : AggregatedGeometry} (hg : g ∈ l.aggregatedGeometries)
    (hcell : g.isCell = false) : g ∈ l.computedGeometries :=
  List.mem_filter.mpr ⟨hg, by rw [hcell]; rfl⟩

theorem mem_subResults_of_geometry {g : AggregatedGeometry} (hg : g ∈ l.aggregatedGeometries)
    (hcell : g.isCell = false) :
    ⟨Search.Aggregation.geometryFunction g, aggregatedGeometryName g⟩ ∈ l.subResults :=
  List.mem_append_right _ (List.mem_map.mpr ⟨g, mem_computedGeometries hg hcell, rfl⟩)

/-- Where a metric finds its value there is a sub-result for its function. -/
theorem mem_subResults_of_metric (h : l.Sound depth) {m : PlannedMetric} (hm : m ∈ l.metrics) :
    ⟨m.function, m.sourceName⟩ ∈ l.subResults := by
  rw [PlannedMetric.sourceName]
  cases hsource : m.source with
  | own =>
    refine List.mem_append_left _ (List.mem_map.mpr ⟨m, List.mem_filter.mpr ⟨hm, ?_⟩, rfl⟩)
    exact decide_eq_true hsource
  | geometry g =>
    obtain ⟨hgeometry, hg⟩ := h.shared m hm g hsource
    obtain ⟨hcell, hfunction⟩ := function_of_geometryOf? hgeometry
    rw [← hfunction]
    exact mem_subResults_of_geometry hg hcell

/-- The columns of a computed geometry are those of its function over the centroids. -/
theorem geometryColumns_eq {centroidPath : String} {g : AggregatedGeometry}
    (h : g.isCell = false) : Sql.geometryColumns centroidPath g =
      Sql.Column.metric (Search.Aggregation.geometryFunction g) centroidPath
        (aggregatedGeometryName g) := by
  cases g with
  | bbox | centroid => rfl
  | cell | cellCenter => cases h

/-- The columns of the sub-results of a level are those that its statement selects. -/
theorem columnNames_subResults (centroidPath : String) (l : FacetLevel) :
    l.subResults.flatMap SubResult.columnNames =
      (Sql.levelColumns centroidPath l).map Sql.Column.name := by
  rw [subResults, Sql.levelColumns, List.flatMap_append, List.map_append, List.map_flatMap,
    List.map_flatMap, List.flatMap_map, List.flatMap_map]
  congr 1
  · simp only [SubResult.columnNames_metric]
  · refine List.flatMap_congr fun g hg => ?_
    rw [geometryColumns_eq (by simpa using (List.mem_filter.mp hg).2),
      SubResult.columnNames_metric]

/-- No two sub-results of a level share a column. -/
theorem nodup_columns (h : l.Sound depth) :
    (l.subResults.flatMap SubResult.columnNames).Nodup := by
  rw [List.nodup_flatMap]
  refine ⟨fun s _ => s.nodup_columnNames, ?_⟩
  have hpairwise := List.pairwise_map.mp (nodup_subResults h)
  refine hpairwise.imp_of_mem fun {s t} hs ht hne => ?_
  exact SubResult.disjoint_columnNames (named_subResults h s hs) (named_subResults h t ht) hne

/-- The names of the sub-results of a level, told by their beginnings. -/
theorem block_subResults (h : l.Sound depth) :
    Text.Block (SubResult.beginnings.map Prod.fst) (l.subResults.map SubResult.name) where
  distinct := nodup_subResults h
  begins := by
    intro name hname
    obtain ⟨s, hs, rfl⟩ := List.mem_map.mp hname
    exact (named_subResults h s hs).beginsWith

/-- The columns of the sub-results of a level, told by their beginnings. -/
theorem block_columns (h : l.Sound depth) :
    Text.Block (SubResult.beginnings.map Prod.fst)
      (l.subResults.flatMap SubResult.columnNames) where
  distinct := nodup_columns h
  begins := by
    intro column hcolumn
    obtain ⟨s, hs, hcolumn⟩ := List.mem_flatMap.mp hcolumn
    obtain ⟨ending, -, rfl⟩ := List.mem_map.mp hcolumn
    exact (named_subResults h s hs).beginsWith.append ending

/-- The words that the names of levels begin with. -/
def levelWords : List String := [FacetType.dateHistogram, .histogram, .term, .geohash, .geotile].map
  fun t => t.name ++ "_"

theorem apart_levelWords : ∀ v ∈ levelWords, ∀ w ∈ levelWords, v = w ∨ Text.Apart v w := by decide

/-- The name of a level is a word and its depth. -/
theorem exists_levelWord (h : l.Sound depth) :
    ∃ word ∈ levelWords, l.name = word ++ toString depth := by
  refine ⟨l.type.name ++ "_", ?_, h.name_eq⟩
  cases l.type <;> decide

theorem beginsWith_name (h : l.Sound depth) : Text.BeginsWith levelWords l.name := by
  obtain ⟨word, hword, hname⟩ := exists_levelWord h
  exact ⟨word, hword, toString depth, hname⟩

end FacetLevel

/-! ## The columns of a level -/

namespace Sql

variable {l : FacetLevel} {depth : Nat}

/-- The names of the output columns of a level at a depth. -/
def levelNames (l : FacetLevel) (depth : Nat) : List String :=
  (List.range (depth + 1)).map keyName ++ countName :: l.subResults.flatMap SubResult.columnNames ++
    [rankName]

/-- **No two output columns of a level have the same name.** -/
theorem nodup_levelNames (h : l.Sound depth) (last : Nat) : (levelNames l last).Nodup := by
  have hnames : levelNames l last =
      [(["key_"], (List.range (last + 1)).map keyName), ([countName], [countName]),
        (SubResult.beginnings.map Prod.fst, l.subResults.flatMap SubResult.columnNames),
        ([rankName], [rankName])].flatMap Prod.snd := by
    simp [levelNames]
  have hapart : [["key_"], [countName], SubResult.beginnings.map Prod.fst, [rankName]].Pairwise
      fun vs ws => ∀ v ∈ vs, ∀ w ∈ ws, Text.Apart v w := by decide
  rw [hnames]
  refine Text.nodup_blocks hapart ?_
  simp only [List.forall_mem_cons]
  exact ⟨.numbered "key_" _, .self (List.nodup_singleton _), FacetLevel.block_columns h,
    .self (List.nodup_singleton _), fun _ hb => (by cases hb)⟩

end Sql

end GeoFacet
