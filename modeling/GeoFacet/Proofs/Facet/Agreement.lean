import GeoFacet.Proofs.Facet.Tree
import GeoFacet.Proofs.Json.Members

/-!
# Reading one bucket

The names of a row or of a nested bucket are distinct, so every value is found under its name, and
either form is read as the bucket that it was sent for: `bucketAlone_facetRow` for a row and
`bucketAlone_item` for a nested bucket.
-/

namespace GeoFacet

/-! ## Numbers -/

namespace Number

theorem asFloat?_toJson (x : Number) : x.toJson.asFloat? = some x.toFloat := by
  cases x <;> rfl

theorem normalize_toJson (x : Number) : Sql.normalizeNumber x.toJson = x.toJson := by
  cases x <;> rfl

theorem normalize_ofOption (x : Option Number) :
    Sql.normalizeNumber (Json.ofOption toJson x) = Json.ofOption toJson x := by
  cases x with
  | none => rfl
  | some x => exact normalize_toJson x

theorem number?_ofOption (x : Option Number) :
    Sql.number? (Json.ofOption toJson x) = x.map toFloat := by
  cases x with
  | none => rfl
  | some x => cases x <;> rfl

end Number

/-- Cells follow from the key; only the other geometries are computed. -/
theorem FacetLevel.geometriesOf_congr (l : FacetLevel) (key : Json)
    {computed computed' : AggregatedGeometry → Option Json}
    (h : ∀ g ∈ l.aggregatedGeometries, g.isCell = false → computed g = computed' g) :
    l.geometriesOf key computed = l.geometriesOf key computed' := by
  have hgeometry : ∀ cell, l.aggregatedGeometries.filterMap (aggregatedGeometry cell computed) =
      l.aggregatedGeometries.filterMap (aggregatedGeometry cell computed') := by
    intro cell
    refine List.filterMap_congr fun g hg => ?_
    cases g with
    | bbox => exact congrArg (Option.map _) (h _ hg rfl)
    | centroid => exact congrArg (Option.map _) (h _ hg rfl)
    | cell => rfl
    | cellCenter => rfl
  rw [geometriesOf, geometriesOf]
  simp only [hgeometry]

/-- Whether a geometry of a bucket is the aggregated one of a kind. -/
def BucketGeometry.isOf (g : AggregatedGeometry) (s : BucketGeometry) : Bool :=
  !s.isRaw && s.reference = g.name

theorem FacetLevel.filter_isOf_aggregatedGeometry {cell : Option (BoundingBox Float)}
    {computed : AggregatedGeometry → Option Json} {g g' : AggregatedGeometry}
    (hcell : g.isCell = false) :
    (aggregatedGeometry cell computed g').filter (·.isOf g) =
      if g' = g then (computed g).map fun json => ⟨g.name, json, false, none⟩ else none := by
  have hisOf (json : Json) :
      BucketGeometry.isOf g ⟨g'.name, json, false, none⟩ = decide (g' = g) := by
    cases g <;> cases g' <;> simp [BucketGeometry.isOf, AggregatedGeometry.name]
  unfold aggregatedGeometry
  split_ifs with hg
  · subst hg
    cases g' with
    | bbox | centroid => cases hcomputed : computed _ <;> simp [hisOf, hcomputed]
    | cell | cellCenter => cases hcell
  · refine Option.filter_eq_none_iff.mpr fun s hs => ?_
    obtain ⟨json, -, rfl⟩ := Option.map_eq_some_iff.mp hs
    simp [hisOf, hg]

/-- A geometry that is computed alike is shown alike, whatever the keys and the other geometries. -/
theorem FacetLevel.filter_isOf_geometriesOf {l : FacetLevel} {key key' : Json}
    {computed computed' : AggregatedGeometry → Option Json} {gs gs' : List BucketGeometry}
    (h : l.geometriesOf key computed = .ok gs) (h' : l.geometriesOf key' computed' = .ok gs')
    {g : AggregatedGeometry} (hcell : g.isCell = false) (hg : computed g = computed' g) :
    gs.filter (·.isOf g) = gs'.filter (·.isOf g) := by
  have hshown {key : Json} {computed : AggregatedGeometry → Option Json}
      {gs : List BucketGeometry} (h : l.geometriesOf key computed = .ok gs) :
      gs.filter (·.isOf g) = l.aggregatedGeometries.filterMap fun g' =>
        if g' = g then (computed g).map fun json => ⟨g.name, json, false, none⟩ else none := by
    rw [geometriesOf] at h
    split at h
    · rename_i hempty
      cases h
      rw [List.isEmpty_iff.mp hempty]
      rfl
    · obtain ⟨cell, -, h⟩ := Outcome.bind_eq_ok.mp h
      cases h
      rw [List.filter_filterMap]
      exact List.filterMap_congr fun g' _ => filter_isOf_aggregatedGeometry hcell
  rw [hshown h, hshown h', hg]

/-- Aggregated geometries are not raw. -/
theorem FacetLevel.isRaw_of_mem_geometriesOf {l : FacetLevel} {key : Json}
    {computed : AggregatedGeometry → Option Json} {gs : List BucketGeometry}
    (h : l.geometriesOf key computed = .ok gs) {s : BucketGeometry} (hs : s ∈ gs) :
    s.isRaw = false := by
  rw [geometriesOf] at h
  split at h
  · cases h
    cases hs
  · obtain ⟨cell, -, h⟩ := Outcome.bind_eq_ok.mp h
    cases h
    obtain ⟨g, -, hg⟩ := List.mem_filterMap.mp hs
    obtain ⟨json, -, rfl⟩ := Option.map_eq_some_iff.mp hg
    rfl

/-! ## Rows -/

namespace Sql

variable {l : FacetLevel} {depth : Nat}

theorem names_subColumns (measures : Measures) (s : SubResult) :
    (subColumns measures s).map Prod.fst = s.columnNames := by
  obtain ⟨function, name⟩ := s
  cases function <;> simp [subColumns, SubResult.columnNames, SubResult.endings, Column.westName,
    Column.southName, Column.eastName, Column.northName, Column.lonName, Column.latName]

theorem names_keyColumns (keys : List Json) :
    (keyColumns keys).map Prod.fst = (List.range keys.length).map keyName := by
  rw [keyColumns, List.map_map, List.range_eq_range', ← List.zipIdx_map_snd, List.map_map]
  rfl

/-- The columns of a row have distinct names. -/
theorem nodup_rowColumns (h : l.Sound depth) (above : List Json) (n : FacetNode) :
    ((rowColumns l above n).map Prod.fst).Nodup := by
  have hsubs : (l.subResults.flatMap (subColumns n.measures)).map Prod.fst =
      l.subResults.flatMap SubResult.columnNames := by
    rw [List.map_flatMap]
    exact List.flatMap_congr fun s _ => names_subColumns n.measures s
  have hnames : (rowColumns l above n).map Prod.fst ++ [rankName] = levelNames l above.length := by
    rw [rowColumns, List.map_append, List.map_cons, hsubs, names_keyColumns, List.length_append,
      List.length_singleton, levelNames]
  exact (hnames ▸ nodup_levelNames h above.length).of_append_left

/-- A column of a row is found under its name. -/
theorem lookup_facetRow (h : l.Sound depth) {above : List Json} {n : FacetNode} {column : String}
    {v : Json} (hm : (column, v) ∈ rowColumns l above n) :
    (facetRow l above n).lookup column = some v := by
  have hget := Json.get?_ofMembers (nodup_rowColumns h above n) column
  rw [Json.lookup_of_mem (nodup_rowColumns h above n) hm] at hget
  exact hget

variable {above : List Json} {n : FacetNode}

theorem mem_keyColumns {keys : List Json} {i : Nat} {k : Json} (h : keys[i]? = some k) :
    (keyName i, k) ∈ keyColumns keys :=
  List.mem_map.mpr ⟨(k, i), List.mem_zipIdx_iff_getElem?.mpr h, rfl⟩

/-- A row has the key of each level, a number where the level has numbers. -/
theorem key_facetRow (h : l.Sound depth) {l' : FacetLevel} {k : Json}
    (hk : (above ++ [n.key])[l'.depth]? = some k) (hadmits : l'.Admits k) :
    (facetRow l above n).key l' = k := by
  have hlookup : (facetRow l above n).lookup (keyName l'.depth) = some k :=
    lookup_facetRow h (List.mem_append_left _ (mem_keyColumns hk))
  rw [Row.key, hlookup]
  cases hkind : l'.kind with
  | dateHistogram unit multiplier =>
    obtain ⟨x, rfl⟩ := hadmits.number (by rw [hkind]; rfl)
    exact x.normalize_toJson
  | histogram interval =>
    obtain ⟨x, rfl⟩ := hadmits.number (by rw [hkind]; rfl)
    exact x.normalize_toJson
  | term => rfl
  | geohash p => rfl
  | geotile p => rfl

theorem count_facetRow (h : l.Sound depth) :
    (facetRow l above n).lookup countName = some (.ofNat n.count) :=
  lookup_facetRow h (List.mem_append_right _ List.mem_cons_self)

theorem lookup_subColumns (h : l.Sound depth) {s : SubResult} (hs : s ∈ l.subResults)
    {column : String} {v : Json} (hm : (column, v) ∈ subColumns n.measures s) :
    (facetRow l above n).lookup column = some v :=
  lookup_facetRow h (List.mem_append_right _ (List.mem_cons_of_mem _
    (List.mem_flatMap.mpr ⟨s, hs, hm⟩)))

theorem number?_facetRow (h : l.Sound depth) {s : SubResult} (hs : s ∈ l.subResults)
    {column : String} {x : Option Number}
    (hm : (column, Json.ofOption Number.toJson x) ∈ subColumns n.measures s) :
    (facetRow l above n).number? column = x.map Number.toFloat := by
  rw [Row.number?, lookup_subColumns h hs hm]
  exact Number.number?_ofOption x

theorem boxPolygon?_facetRow (h : l.Sound depth) {name : String}
    (hs : ⟨.geoBBox, name⟩ ∈ l.subResults) :
    (facetRow l above n).boxPolygon? name = n.measures.value? ⟨.geoBBox, name⟩ := by
  rw [Row.boxPolygon?,
    number?_facetRow h hs (x := (n.measures.box name).map Borders.west) (by simp [subColumns]),
    number?_facetRow h hs (x := (n.measures.box name).map Borders.south) (by simp [subColumns]),
    number?_facetRow h hs (x := (n.measures.box name).map Borders.east) (by simp [subColumns]),
    number?_facetRow h hs (x := (n.measures.box name).map Borders.north) (by simp [subColumns]),
    Measures.value?]
  cases n.measures.box name <;> rfl

theorem centroidPoint?_facetRow (h : l.Sound depth) {name : String}
    (hs : ⟨.geoCentroid, name⟩ ∈ l.subResults) :
    (facetRow l above n).centroidPoint? name = n.measures.value? ⟨.geoCentroid, name⟩ := by
  rw [Row.centroidPoint?,
    number?_facetRow h hs (x := (n.measures.point name).map Place.lat) (by simp [subColumns]),
    number?_facetRow h hs (x := (n.measures.point name).map Place.lon) (by simp [subColumns]),
    Measures.value?]
  cases n.measures.point name <;> rfl

/-- The value of a metric is that of the sub-result it is found in. -/
theorem metricOf_facetRow (h : l.Sound depth) {m : PlannedMetric} (hm : m ∈ l.metrics) :
    (facetRow l above n).metricOf m = FacetLevel.metricValue m
      ((n.measures.value? ⟨m.function, m.sourceName⟩).getD .null) := by
  have hs := FacetLevel.mem_subResults_of_metric h hm
  rw [Row.metricOf]
  cases hfunction : m.function with
  | geoBBox =>
    rw [hfunction] at hs
    exact congrArg (fun v => FacetLevel.metricValue m (v.getD .null)) (boxPolygon?_facetRow h hs)
  | geoCentroid =>
    rw [hfunction] at hs
    exact congrArg (fun v => FacetLevel.metricValue m (v.getD .null))
      (centroidPoint?_facetRow h hs)
  | avg | cardinality | max | min | sum =>
    rw [hfunction] at hs
    dsimp only
    rw [lookup_subColumns h hs List.mem_cons_self, Option.map_some, Number.normalize_ofOption]
    rfl

theorem computedShape?_facetRow (h : l.Sound depth) {g : AggregatedGeometry}
    (hg : g ∈ l.aggregatedGeometries) (hcell : g.isCell = false) :
    (facetRow l above n).computedShape? g = n.measures.value?
      ⟨Search.Aggregation.geometryFunction g, aggregatedGeometryName g⟩ := by
  have hs := FacetLevel.mem_subResults_of_geometry hg hcell
  cases g with
  | bbox => exact boxPolygon?_facetRow h hs
  | centroid => exact centroidPoint?_facetRow h hs
  | cell => cases hcell
  | cellCenter => cases hcell

/-- **A row is read as its bucket.** -/
theorem bucketAlone_facetRow (h : l.Sound depth) (habove : above.length = depth)
    (hkey : l.Admits n.key) : bucketAlone l (facetRow l above n) = n.bucketAlone l := by
  have hkey : (facetRow l above n).key l = n.key := by
    refine key_facetRow h ?_ hkey
    rw [h.depth_eq, ← habove]
    exact List.getElem?_concat_length
  rw [bucketAlone, FacetNode.bucketAlone, hkey, count_facetRow h,
    l.geometriesOf_congr n.key fun g hg hcell => computedShape?_facetRow h hg hcell,
    List.map_congr_left fun m hm => metricOf_facetRow h hm]
  rfl

end Sql

/-! ## Nested buckets -/

namespace Search

variable {l : FacetLevel} {depth : Nat}

/-- What a bucket at a depth holds of the next level, if anything, bears the name of that level. -/
def NamesLevel (depth : Nat) (inside : Option (String × Json)) : Prop :=
  ∀ m ∈ inside, ∃ child : FacetLevel, child.Sound (depth + 1) ∧ m.1 = child.name

/-- The members of a bucket have distinct names, and none is its key in words. -/
theorem nodup_itemMembers (h : l.Sound depth) (n : FacetNode) {inside : Option (String × Json)}
    (hinside : NamesLevel depth inside) :
    ("key_as_string" :: (itemMembers l n inside).map Prod.fst).Nodup := by
  have hnames : "key_as_string" :: (itemMembers l n inside).map Prod.fst =
      [(["key_as_string", "key", "doc_count"], ["key_as_string", "key", "doc_count"]),
        (SubResult.beginnings.map Prod.fst, l.subResults.map SubResult.name),
        (FacetLevel.levelWords, (inside.map Prod.fst).toList)].flatMap Prod.snd := by
    cases inside <;> simp [itemMembers, Function.comp_def]
  have hapart : [["key_as_string", "key", "doc_count"], SubResult.beginnings.map Prod.fst,
      FacetLevel.levelWords].Pairwise fun vs ws => ∀ v ∈ vs, ∀ w ∈ ws, Text.Apart v w := by decide
  rw [hnames]
  refine Text.nodup_blocks hapart ?_
  simp only [List.forall_mem_cons]
  refine ⟨.self (by decide), FacetLevel.block_subResults h, .ofOption fun s hs => ?_,
    fun _ hb => (by cases hb)⟩
  obtain ⟨m, hm, rfl⟩ := Option.map_eq_some_iff.mp hs
  obtain ⟨child, hchild, hname⟩ := hinside m hm
  rw [hname]
  exact FacetLevel.beginsWith_name hchild

variable {n : FacetNode} {inside : Option (String × Json)}

theorem mem_itemMembers (n : FacetNode) (inside : Option (String × Json)) {s : SubResult}
    (hs : s ∈ l.subResults) : (s.name, subResult n.measures s) ∈ itemMembers l n inside :=
  List.mem_cons_of_mem _ (List.mem_cons_of_mem _
    (List.mem_append_left _ (List.mem_map.mpr ⟨s, hs, rfl⟩)))

theorem get?_item (h : l.Sound depth)
    (hinside : NamesLevel depth inside)
    {name : String} {v : Json} (hm : (name, v) ∈ itemMembers l n inside) :
    (Json.ofMembers (itemMembers l n inside)).get? name = some v := by
  have hnodup := (List.nodup_cons.mp (nodup_itemMembers h n hinside)).2
  rw [Json.get?_ofMembers hnodup, Json.lookup_of_mem hnodup hm]

theorem get?_item_keyText (h : l.Sound depth)
    (hinside : NamesLevel depth inside) :
    (Json.ofMembers (itemMembers l n inside)).get? "key_as_string" = none := by
  obtain ⟨hmissing, hnodup⟩ := List.nodup_cons.mp (nodup_itemMembers h n hinside)
  rw [Json.get?_ofMembers hnodup, Json.lookup_eq_none_of_notMem hmissing]

/-- The box of a sub-result. -/
theorem boundsPolygon?_subResult (measures : Measures) (name : String) :
    boundsPolygon? (subResult measures ⟨.geoBBox, name⟩) =
      measures.value? ⟨.geoBBox, name⟩ := by
  rw [subResult, Measures.value?]
  cases measures.box name with
  | none => rfl
  | some b =>
    simp [boundsPolygon?, Json.get?_ofPresent, Json.member_ofMembers, Json.lookup_cons_ite,
      Number.asFloat?_toJson]

theorem centroidPoint?_subResult (measures : Measures) (name : String) :
    centroidPoint? (subResult measures ⟨.geoCentroid, name⟩) =
      measures.value? ⟨.geoCentroid, name⟩ := by
  rw [subResult, Measures.value?]
  cases measures.point name with
  | none => rfl
  | some p =>
    simp [centroidPoint?, Json.get?_ofPresent, Json.member_ofMembers, Json.lookup_cons_ite,
      Number.asFloat?_toJson]

theorem member_of_get? {v w : Json} {key : String} (h : v.get? key = some w) :
    v.member key = w := by
  rw [Json.member, h]
  rfl

/-- The value of a metric is that of the sub-result it is found in. -/
theorem metricOf_item (h : l.Sound depth)
    (hinside : NamesLevel depth inside)
    {m : PlannedMetric} (hm : m ∈ l.metrics) :
    metricOf (Json.ofMembers (itemMembers l n inside)) m = FacetLevel.metricValue m
      ((n.measures.value? ⟨m.function, m.sourceName⟩).getD .null) := by
  have hs := FacetLevel.mem_subResults_of_metric h hm
  have hmember := member_of_get? (get?_item h hinside (mem_itemMembers n inside hs))
  rw [metricOf, hmember]
  cases hfunction : m.function with
  | geoBBox =>
    exact congrArg (fun v => FacetLevel.metricValue m (v.getD .null))
      (boundsPolygon?_subResult n.measures m.sourceName)
  | geoCentroid =>
    exact congrArg (fun v => FacetLevel.metricValue m (v.getD .null))
      (centroidPoint?_subResult n.measures m.sourceName)
  | avg | cardinality | max | min | sum => rfl

theorem computedShape?_item (h : l.Sound depth)
    (hinside : NamesLevel depth inside)
    {g : AggregatedGeometry} (hg : g ∈ l.aggregatedGeometries) (hcell : g.isCell = false) :
    computedShape? (Json.ofMembers (itemMembers l n inside)) g = n.measures.value?
      ⟨Aggregation.geometryFunction g, aggregatedGeometryName g⟩ := by
  have hs := FacetLevel.mem_subResults_of_geometry hg hcell
  have hmember := member_of_get? (get?_item h hinside (mem_itemMembers n inside hs))
  cases g with
  | bbox => exact (congrArg boundsPolygon? hmember).trans (boundsPolygon?_subResult _ _)
  | centroid => exact (congrArg centroidPoint? hmember).trans (centroidPoint?_subResult _ _)
  | cell => cases hcell
  | cellCenter => cases hcell

/-- **A nested bucket is read as its bucket**, where no documents were asked for. -/
theorem bucketAlone_item (c : Collection) (h : l.Sound depth)
    (hbare : l.rawGeometries = [] ∧ l.fetch = none)
    (hinside : NamesLevel depth inside) :
    bucketAlone c l (Json.ofMembers (itemMembers l n inside)) = n.bucketAlone l := by
  have hkey : (Json.ofMembers (itemMembers l n inside)).member "key" = n.key :=
    member_of_get? (get?_item h hinside List.mem_cons_self)
  have hcount : (Json.ofMembers (itemMembers l n inside)).member "doc_count" = .ofNat n.count :=
    member_of_get? (get?_item h hinside (List.mem_cons_of_mem _ List.mem_cons_self))
  rw [bucketAlone, FacetNode.bucketAlone, hkey, hcount, Json.member, get?_item_keyText h hinside,
    hbare.1, hbare.2,
    l.geometriesOf_congr n.key fun g hg hcell => computedShape?_item h hinside hg hcell,
    List.map_congr_left fun m hm => metricOf_item h hinside hm]
  cases l.keyText n.key with
  | error e => rfl
  | ok text =>
    simp only [Outcome.ok_bind, List.flatMap_nil, List.append_nil]
    cases text <;> rfl

end Search

end GeoFacet
