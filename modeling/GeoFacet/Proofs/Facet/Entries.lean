import GeoFacet.Proofs.Facet.WellFormed
import GeoFacet.Proofs.Facet.Agreement
import GeoFacet.Proofs.Facet.Nodes
import GeoFacet.Proofs.Json.Decoding
import GeoFacet.Proofs.Search.Store

/-!
# The entries of a rendered level

A level is rendered as an aggregation whose `aggs` hold its sub-aggregations by name. The names of
one level begin with words of their own, so none takes the place of another, and what the assembler
looks up in a bucket is what was asked for under that name: a level *provides* what its buckets are
read for. What an entry asks for is read back from the words of the query language (`asked?`).

Main statement: `Search.provides_of_compile`.
-/

namespace GeoFacet

/-! ## Names -/

namespace FacetLevel

/-- The names of the sub-aggregations of a level, that of the next level last. -/
def entryNames (l : FacetLevel) (child : Option FacetLevel) : List String :=
  l.ownMetrics.map PlannedMetric.name ++ l.computedGeometries.map aggregatedGeometryName ++
    l.rawGeometries.map RawGeometryGroup.name ++ (l.fetch.map fun _ => fetchedHitsName).toList ++
    (child.map FacetLevel.name).toList

/-- The names that every bucket has. -/
def bucketKeys : List String := ["key", "key_as_string", "doc_count"]

/-- **No two names of a bucket meet**, and none is a key that every bucket has. -/
theorem nodup_bucketNames {l : FacetLevel} {depth : Nat} (h : l.Sound depth)
    (hgrouped : RawGeometryGroup.Grouped l.rawGeometries) {child : Option FacetLevel}
    (hchild : ∀ child' ∈ child, child'.Sound (depth + 1)) :
    (bucketKeys ++ l.entryNames child).Nodup := by
  have hnames : bucketKeys ++ l.entryNames child =
      [(bucketKeys, bucketKeys),
        (SubResult.beginnings.map Prod.fst, l.subResults.map SubResult.name),
        (["raw_geometries_"], l.rawGeometries.map RawGeometryGroup.name),
        ([fetchedHitsName], (l.fetch.map fun _ => fetchedHitsName).toList),
        (levelWords, (child.map FacetLevel.name).toList)].flatMap Prod.snd := by
    simp [entryNames, subResults, Function.comp_def]
  rw [hnames]
  -- None of the words that the blocks begin with is the beginning of another.
  have hapart : [bucketKeys, SubResult.beginnings.map Prod.fst, ["raw_geometries_"],
      [fetchedHitsName], levelWords].Pairwise fun vs ws => ∀ v ∈ vs, ∀ w ∈ ws, Text.Apart v w := by
    decide
  refine Text.nodup_blocks hapart ?_
  simp only [List.forall_mem_cons]
  refine ⟨.self (by decide), block_subResults h, ?_, .ofOption ?_, .ofOption ?_,
    fun _ hb => (by cases hb)⟩
  · rw [hgrouped.names]
    exact .numbered "raw_geometries_" _
  · intro s hs
    obtain ⟨f, -, rfl⟩ := Option.map_eq_some_iff.mp hs
    exact Text.beginsWith_self (List.mem_singleton.mpr rfl)
  · intro s hs
    obtain ⟨child', hchild', rfl⟩ := Option.map_eq_some_iff.mp hs
    exact beginsWith_name (hchild child' hchild')

end FacetLevel

namespace Search

/-! ## Renderings -/

/-- What a chain of members leads to. -/
def follow (v : Json) (path : List String) : Json := path.foldl Json.member v

/-- The chain to the aggregation of the last of some levels. -/
def levelPath (levels : List FacetLevel) : List String := levels.flatMap fun l => ["aggs", l.name]

/-- The aggregation at a depth in the request of a draft with the given facets. -/
def Draft.aggregationAt (d : Draft) (plan : FacetPlan) (depth : Nat) : Json :=
  follow ((d.setFacets plan).build.toJson.member "body")
    (levelPath (plan.levels.take (depth + 1)))

namespace Aggregation

theorem toJsonMembers_eq (centroidPath : String) (subs : List (String × Aggregation)) :
    toJsonMembers centroidPath subs = subs.map fun (name, a) => (name, toJson centroidPath a) := by
  induction subs with
  | nil => rfl
  | cons sub rest ih =>
    obtain ⟨name, a⟩ := sub
    rw [toJsonMembers, ih]
    rfl

/-- The sub-aggregations of a level above others. -/
def subs (c : Collection) (l : FacetLevel) (below : List FacetLevel) :
    List (String × Aggregation) := levelSubs c l ++ ofLevels c below

/-- The aggregation of the first of some levels, the others inside. -/
def levelJson (c : Collection) : List FacetLevel → Json
  | [] => .null
  | l :: below => (buckets l (subs c l below)).toJson c.centroidPath

theorem names_subs (c : Collection) (l : FacetLevel) (below : List FacetLevel) :
    (subs c l below).map Prod.fst = l.entryNames below.head? := by
  have hbelow : (ofLevels c below).map Prod.fst = (below.head?.map FacetLevel.name).toList := by
    cases below <;> rfl
  have hfetch : (l.fetch.map fun f => (fetchedHitsName, ofFetch f)).toList.map Prod.fst =
      (l.fetch.map fun _ => fetchedHitsName).toList := by
    cases l.fetch <;> rfl
  rw [subs, List.map_append, hbelow, FacetLevel.entryNames, levelSubs, List.map_append, hfetch]
  simp [Function.comp_def]

theorem names_toJsonMembers (c : Collection) (l : FacetLevel) (below : List FacetLevel) :
    (toJsonMembers c.centroidPath (subs c l below)).map Prod.fst = l.entryNames below.head? := by
  rw [toJsonMembers_eq, List.map_map]
  exact names_subs c l below

/-- The members of the aggregation of a level: what forms its buckets, and its sub-aggregations if
it has any. -/
def levelMembers (c : Collection) (l : FacetLevel) (below : List FacetLevel) :
    List (String × Option Json) :=
  [(kindName l.kind, some (bodyJson l)),
    ("aggs", if (subs c l below).isEmpty then none
      else some (.ofMembers (toJsonMembers c.centroidPath (subs c l below))))]

theorem levelJson_eq (c : Collection) (l : FacetLevel) (below : List FacetLevel) :
    levelJson c (l :: below) = .ofPresent (levelMembers c l below) := by
  rw [levelJson.eq_def]
  dsimp only
  rw [toJson, levelMembers]

theorem kindName_ne (k : FacetKind) : kindName k ≠ "aggs" := by cases k <;> simp [kindName]

theorem nodup_levelMembers (c : Collection) (l : FacetLevel) (below : List FacetLevel) :
    ((levelMembers c l below).map Prod.fst).Nodup :=
  List.nodup_cons.mpr ⟨by simpa using kindName_ne l.kind, List.nodup_singleton _⟩

theorem get?_levelJson (c : Collection) (l : FacetLevel) (below : List FacetLevel)
    (name : String) :
    (levelJson c (l :: below)).get? name = ((levelMembers c l below).lookup name).join := by
  rw [levelJson_eq, Json.get?_ofPresent (nodup_levelMembers c l below)]

/-- The aggregation of a level forms its buckets. -/
theorem get?_kindName (c : Collection) (l : FacetLevel) (below : List FacetLevel) :
    (levelJson c (l :: below)).get? (kindName l.kind) = some (bodyJson l) := by
  rw [get?_levelJson, levelMembers, List.lookup_cons_self, Option.join_some]

theorem aggs_eq (c : Collection) (l : FacetLevel) (below : List FacetLevel) :
    (levelJson c (l :: below)).member "aggs" = if (subs c l below).isEmpty then .null
      else .ofMembers (toJsonMembers c.centroidPath (subs c l below)) := by
  rw [Json.member, get?_levelJson, levelMembers, Json.lookup_cons_ite,
    if_neg (kindName_ne l.kind).symm,
    List.lookup_cons_self, Option.join_some]
  split <;> rfl

/-- The `aggs` of a level hold what is listed under its names, each once. -/
theorem perm_aggs {c : Collection} {l : FacetLevel} {below : List FacetLevel}
    (h : (l.entryNames below.head?).Nodup) :
    ((levelJson c (l :: below)).member "aggs").members.Perm
      (toJsonMembers c.centroidPath (subs c l below)) := by
  rw [aggs_eq]
  split
  · rename_i hempty
    rw [List.isEmpty_iff.mp hempty]
    exact .refl _
  · refine Json.perm_members ?_
    rwa [names_toJsonMembers]

/-- A sub-aggregation of a level is found under its name. -/
theorem get?_aggs {c : Collection} {l : FacetLevel} {below : List FacetLevel}
    (h : (l.entryNames below.head?).Nodup) {name : String} {a : Aggregation}
    (ha : (name, a) ∈ subs c l below) :
    ((levelJson c (l :: below)).member "aggs").get? name = some (a.toJson c.centroidPath) := by
  have hnames : ((toJsonMembers c.centroidPath (subs c l below)).map Prod.fst).Nodup := by
    rwa [names_toJsonMembers]
  have hmem : (name, a.toJson c.centroidPath) ∈ toJsonMembers c.centroidPath (subs c l below) := by
    rw [toJsonMembers_eq]
    exact List.mem_map.mpr ⟨_, ha, rfl⟩
  rw [aggs_eq, if_neg (by simpa using List.ne_nil_of_mem ha), Json.get?_ofMembers hnames,
    Json.lookup_of_mem hnames hmem]

end Aggregation

/-! ## What an entry asks for -/

/-- What an entry asks of the documents of a bucket, or of all documents. -/
inductive Asked where
  /-- a function over one field -/
  | value (function : CollectFunction) (field : String)
  /-- so many documents in an order, showing the given paths or all -/
  | documents (size : Nat) (paths : Option (List String)) (sort : List Json)
  /-- the buckets of a field -/
  | buckets (type : FacetType) (field : String)

/-- A clause sorts by a key: by a field, or in meters by the distance of the centroids from a point.
The path of the centroids says where they are, unless it is a word of the clause itself. -/
def SortsBy (centroidPath : String) : SortKey → Json → Prop
  | .field name order, clause => clause = .object [(name, .object [("order", .text (word order))])]
  | .distance lat lon order, clause => ∃ body, clause = .object [("_geo_distance", .object body)] ∧
      body.lookup "order" = some (.text (word order)) ∧ body.lookup "unit" = some (.text "m") ∧
      (centroidPath ∉ ["order", "unit"] → body.lookup centroidPath =
        some (.object [("lat", .ofFloat lat), ("lon", .ofFloat lon)]))
where
  /-- the direction as the query language writes it -/
  word : Order → String
    | .asc => "asc"
    | .desc => "desc"

theorem sortsBy_sortJson (centroidPath : String) (key : SortKey) :
    SortsBy centroidPath key (sortJson centroidPath key) := by
  cases key with
  | field name order => cases order <;> rfl
  | distance lat lon order =>
    refine ⟨_, rfl, ?_, ?_, fun hpath => ?_⟩
    · rw [Json.lookup_foldl_insertMember]
      cases order <;> rfl
    · rw [Json.lookup_foldl_insertMember]
      rfl
    · simp only [List.mem_cons, List.not_mem_nil, or_false, not_or] at hpath
      rw [Json.lookup_foldl_insertMember]
      show Option.or (List.lookup centroidPath [("unit", _), ("order", _), (centroidPath, _)]) _ = _
      rw [Json.lookup_cons_ite, if_neg hpath.2, Json.lookup_cons_ite, if_neg hpath.1,
        List.lookup_cons_self, Json.ofMembers_of_ascending]
      · rfl
      · exact List.pairwise_pair.mpr (show "lat" < "lon" by decide)

/-- The words of the query language for functions over one field. -/
def functionWords : List (String × CollectFunction) :=
  [("avg", .avg), ("cardinality", .cardinality), ("max", .max), ("min", .min), ("sum", .sum),
    ("geo_bounds", .geoBBox), ("geo_centroid", .geoCentroid)]

/-- The words of the query language for buckets. -/
def typeWords : List (String × FacetType) :=
  [("date_histogram", .dateHistogram), ("histogram", .histogram), ("terms", .term),
    ("geohash_grid", .geohash), ("geotile_grid", .geotile)]

/-- The documents that a body asks for. -/
def askedDocuments? (body : Json) : Option Asked := do
  let size ← (body.get? "size").bind Json.asNat?
  let sort := ((body.get? "sort").bind Json.asList?).getD []
  match body.get? "_source" with
  | none => some (.documents size none sort)
  | some source =>
    let paths ← (source.get? "includes").bind (Json.listOf? Json.asText?)
    some (.documents size (some paths) sort)

/-- What a word of the query language asks for with its body. The body of a function has the field
and nothing else. -/
def askedBy? (word : String) (body : Json) : Option Asked :=
  if word = "top_hits" then askedDocuments? body
  else match functionWords.lookup word, body.members with
    | some function, [("field", .text field)] => some (.value function field)
    | some _, _ => none
    | none, _ => do
      let type ← typeWords.lookup word
      let field ← (body.get? "field").bind Json.asText?
      some (.buckets type field)

/-- What an entry asks for: the one member beside its own entries says it. -/
def asked? (entry : Json) : Option Asked :=
  match entry.members.filter fun m => m.1 ≠ "aggs" with
  | [(word, body)] => askedBy? word body
  | _ => none

namespace Aggregation

theorem asked?_metric (centroidPath : String) (function : CollectFunction) (field : String) :
    asked? ((metric function field).toJson centroidPath) = some (.value function field) := by
  cases function <;> rfl

theorem asked?_topHits (centroidPath : String) (size : Nat) (paths : Option (List String))
    (sort : List SortKey) :
    asked? ((topHits size paths sort).toJson centroidPath) =
      some (.documents size paths (sort.map (sortJson centroidPath))) := by
  let members : List (String × Option Json) :=
    [("size", some (.ofNat size)),
      ("_source", paths.map fun ps => single "includes" (.list (ps.map Json.text))),
      ("sort", if sort.isEmpty then none else some (.list (sort.map (sortJson centroidPath))))]
  have hget (key : String) : (Json.ofPresent members).get? key = (members.lookup key).join :=
    Json.get?_ofPresent (by simp [members]) key
  have hsize : (((members.lookup "size").join).bind Json.asNat?) = some size := rfl
  have hsort : (((members.lookup "sort").join.bind Json.asList?).getD []) =
      sort.map (sortJson centroidPath) := by
    cases sort <;> rfl
  have hsource : (members.lookup "_source").join =
      paths.map fun ps => single "includes" (.list (ps.map Json.text)) := rfl
  show askedDocuments? (.ofPresent members) = _
  rw [askedDocuments?, hget, hget, hget, hsize, hsort, hsource]
  cases paths with
  | none => rfl
  | some paths =>
    have hpaths : Json.listOf? Json.asText? (.list (paths.map Json.text)) = some paths :=
      Json.listOf?_list fun _ _ => rfl
    show ((Json.listOf? Json.asText? (.list (paths.map Json.text))).bind fun ps => _) = _
    rw [hpaths]
    rfl

theorem get?_bodyJson (l : FacetLevel) :
    (bodyJson l).get? "field" = some (.text l.field) := by
  have hnodup : (([("field", some (Json.text l.field))] ++ kindMembers l.pattern l.kind ++
      [("size", l.size.map Json.ofNat), ("order", l.order.map orderJson)]).map Prod.fst).Nodup := by
    cases l.kind with
    | dateHistogram unit multiplier =>
      cases hcalendar : unit.isCalendar <;> simp [kindMembers, hcalendar]
    | histogram | term | geohash | geotile => simp [kindMembers]
  rw [bodyJson, Json.get?_ofPresent hnodup]
  rfl

/-- The aggregation of a level asks for buckets of its type over its field. -/
theorem asked?_levelJson (c : Collection) (l : FacetLevel) (below : List FacetLevel) :
    asked? (levelJson c (l :: below)) = some (.buckets l.type l.field) := by
  have hword : ((levelJson c (l :: below)).members.filter fun m => m.1 ≠ "aggs").Perm
      [(kindName l.kind, bodyJson l)] := by
    have hperm := Json.perm_members (Json.nodup_present (nodup_levelMembers c l below))
    rw [levelJson_eq]
    refine (hperm.filter _).trans ?_
    rw [levelMembers]
    cases (subs c l below).isEmpty <;> simp [Json.present, kindName_ne]
  rw [asked?, List.perm_singleton.mp hword]
  show askedBy? (kindName l.kind) (bodyJson l) = _
  rw [askedBy?, get?_bodyJson, FacetLevel.type]
  cases l.kind <;> rfl

end Aggregation

/-! ## What is read of a bucket -/

/-- Two buckets hold the same under the given names. -/
def Alike (names : List String) (v w : Json) : Prop := ∀ name ∈ names, v.get? name = w.get? name

section Reading

variable {c : Collection} {l : FacetLevel} {depth : Nat} {child : Option FacetLevel} {v w : Json}

theorem mem_names_of_subResult (child : Option FacetLevel) {s : SubResult}
    (hs : s ∈ l.subResults) : s.name ∈ l.entryNames child := by
  have hname : s.name ∈ l.subResults.map SubResult.name := List.mem_map_of_mem hs
  rw [FacetLevel.subResults, List.map_append, List.map_map, List.map_map] at hname
  simp only [FacetLevel.entryNames, List.append_assoc]
  exact (List.append_assoc _ _ _).symm ▸ List.mem_append_left _ hname

theorem mem_names_of_rawGeometry (child : Option FacetLevel) {g : RawGeometryGroup}
    (hg : g ∈ l.rawGeometries) : g.name ∈ l.entryNames child := by
  simp only [FacetLevel.entryNames, List.mem_append, List.mem_map]
  exact .inl (.inl (.inr ⟨g, hg, rfl⟩))

theorem member_congr {name : String} (h : v.get? name = w.get? name) :
    v.member name = w.member name := by
  rw [Json.member, Json.member, h]

theorem metricOf_congr {m : PlannedMetric} (h : v.get? m.sourceName = w.get? m.sourceName) :
    metricOf v m = metricOf w m := by
  rw [metricOf, metricOf, member_congr h]

theorem computedShape?_congr {g : AggregatedGeometry}
    (h : v.get? (aggregatedGeometryName g) = w.get? (aggregatedGeometryName g)) :
    computedShape? v g = computedShape? w g := by
  simp only [computedShape?, member_congr h]

theorem rawGeometries_congr {g : RawGeometryGroup} (h : v.get? g.name = w.get? g.name) :
    rawGeometries c v g = rawGeometries c w g := by
  rw [rawGeometries, rawGeometries, member_congr h]

/-- **A bucket is read under the names of its level only.** -/
theorem bucketAlone_congr (hsound : l.Sound depth)
    (h : Alike (FacetLevel.bucketKeys ++ l.entryNames child) v w) :
    bucketAlone c l v = bucketAlone c l w := by
  have hkeys : ∀ name ∈ FacetLevel.bucketKeys, v.member name = w.member name :=
    fun name hname => member_congr (h name (List.mem_append_left _ hname))
  have hentry : ∀ name ∈ l.entryNames child, v.get? name = w.get? name :=
    fun name hname => h name (List.mem_append_right _ hname)
  have hhits : l.fetch.isSome → v.member fetchedHitsName = w.member fetchedHitsName := by
    intro hfetch
    obtain ⟨f, hf⟩ := Option.isSome_iff_exists.mp hfetch
    exact member_congr (hentry _ (by simp [FacetLevel.entryNames, hf]))
  rw [bucketAlone, bucketAlone, hkeys "key" (by decide), hkeys "key_as_string" (by decide),
    hkeys "doc_count" (by decide),
    l.geometriesOf_congr _ fun g hg hcell => computedShape?_congr (hentry _
      (mem_names_of_subResult child (FacetLevel.mem_subResults_of_geometry hg hcell))),
    List.map_congr_left fun m hm => metricOf_congr (hentry _
      (mem_names_of_subResult child (FacetLevel.mem_subResults_of_metric hsound hm))),
    List.flatMap_congr fun g hg => rawGeometries_congr (hentry _
      (mem_names_of_rawGeometry child hg))]
  cases hfetch : l.fetch.isSome with
  | false => rfl
  | true => rw [hhits hfetch]

/-- **The buckets of a level are read under its names only.** -/
theorem buckets_congr (hsound : l.Sound depth) {below : List FacetLevel} {items items' : List Json}
    (h : List.Forall₂ (Alike (FacetLevel.bucketKeys ++ l.entryNames below.head?)) items items') :
    buckets c (l :: below) (container items) = buckets c (l :: below) (container items') := by
  show items.mapM _ = items'.mapM _
  refine Outcome.mapM_congr_of_forall₂ (h.imp fun v w hvw => ?_)
  rw [bucketAlone_congr hsound hvw]
  cases below with
  | nil => rfl
  | cons child rest =>
    have hchild : v.get? child.name = w.get? child.name :=
      hvw child.name (by simp [FacetLevel.entryNames])
    simp only [List.head?_cons, hchild]

end Reading

/-! ## What is shown of a bucket -/

section Showing

variable {c : Collection} {l : FacetLevel} {below : List FacetLevel} {item item' : Json}
  {b b' : Bucket}

/-- What a bucket shows of its item: the metrics, the geometries, the documents and the buckets
inside, each from what the item holds under the name of the part. -/
structure Shows (c : Collection) (l : FacetLevel) (below : List FacetLevel) (item : Json)
    (b : Bucket) : Prop where
  metrics : b.metrics = l.metrics.map (metricOf item)
  geometries : ∃ aggregated,
    l.geometriesOf (item.member "key") (computedShape? item) = .ok aggregated ∧
      b.geometries = aggregated ++ l.rawGeometries.flatMap (rawGeometries c item)
  hits : b.hits = if l.fetch.isSome then
    (documents (item.member fetchedHitsName)).map (·.member "_source") else []
  children : ∀ child ∈ below.head?, ∃ inside, item.get? child.name = some inside ∧
    buckets c below inside = .ok b.children

theorem shows_of_buckets (h : buckets c (l :: below) (container [item]) = .ok [b]) :
    Shows c l below item b := by
  obtain ⟨items, hitems, h⟩ := Outcome.bind_eq_ok.mp h
  cases hitems
  obtain ⟨_, hitem, h⟩ := Outcome.exists_of_mem_mapM h (List.mem_singleton_self b)
  cases List.mem_singleton.mp hitem
  obtain ⟨alone, halone, hbuilt⟩ := Outcome.bind_eq_ok.mp h
  obtain ⟨keyText, -, halone⟩ := Outcome.bind_eq_ok.mp halone
  obtain ⟨aggregated, haggregated, halone⟩ := Outcome.bind_eq_ok.mp halone
  cases halone
  cases below with
  | nil =>
    cases hbuilt
    exact ⟨rfl, ⟨aggregated, haggregated, rfl⟩, rfl, fun _ h => (by cases h)⟩
  | cons child rest =>
    obtain ⟨inside, hinside, hbuilt⟩ := Outcome.bind_eq_ok.mp hbuilt
    obtain ⟨children, hchildren, hbuilt⟩ := Outcome.bind_eq_ok.mp hbuilt
    cases hbuilt
    refine ⟨rfl, ⟨aggregated, haggregated, rfl⟩, rfl, fun _ h => ?_⟩
    cases h
    exact ⟨inside, Outcome.orRefuse_eq_ok.mp hinside, hchildren⟩

theorem Shows.metric_congr (h : Shows c l below item b) (h' : Shows c l below item' b') {i : Nat}
    {m : PlannedMetric} (hm : l.metrics[i]? = some m)
    (hname : item.get? m.sourceName = item'.get? m.sourceName) :
    b.metrics[i]? = b'.metrics[i]? := by
  rw [h.metrics, h'.metrics, List.getElem?_map, List.getElem?_map, hm, Option.map_some,
    Option.map_some, metricOf_congr hname]

theorem isRaw_rawGeometries {g : RawGeometryGroup} {s : BucketGeometry}
    (hs : s ∈ rawGeometries c item g) : s.isRaw = true ∧ s.sort = g.sort := by
  obtain ⟨document, -, hs⟩ := List.mem_flatMap.mp hs
  obtain ⟨path, -, hs⟩ := List.mem_filterMap.mp hs
  obtain ⟨json, -, rfl⟩ := Option.map_eq_some_iff.mp hs
  exact ⟨rfl, rfl⟩

theorem Shows.geometry_congr (h : Shows c l below item b) (h' : Shows c l below item' b')
    {g : AggregatedGeometry} (hcell : g.isCell = false)
    (hname : item.get? (aggregatedGeometryName g) = item'.get? (aggregatedGeometryName g)) :
    b.geometries.filter (·.isOf g) = b'.geometries.filter (·.isOf g) := by
  have hraw (item : Json) :
      (l.rawGeometries.flatMap (rawGeometries c item)).filter (·.isOf g) = [] := by
    refine List.filter_eq_nil_iff.mpr fun s hs => ?_
    obtain ⟨group, -, hs⟩ := List.mem_flatMap.mp hs
    simp [BucketGeometry.isOf, (isRaw_rawGeometries hs).1]
  obtain ⟨aggregated, haggregated, hgeometries⟩ := h.geometries
  obtain ⟨aggregated', haggregated', hgeometries'⟩ := h'.geometries
  rw [hgeometries, hgeometries', List.filter_append, List.filter_append, hraw, hraw,
    FacetLevel.filter_isOf_geometriesOf haggregated haggregated' hcell (computedShape?_congr hname)]

/-- The raw geometries of one sort are those of its group. -/
theorem Shows.raw_congr (h : Shows c l below item b) (h' : Shows c l below item' b')
    (hsorts : (l.rawGeometries.map RawGeometryGroup.sort).Nodup) {g : RawGeometryGroup}
    (hg : g ∈ l.rawGeometries) (hname : item.get? g.name = item'.get? g.name) :
    b.geometries.filter (fun s => s.isRaw && s.sort = g.sort) =
      b'.geometries.filter (fun s => s.isRaw && s.sort = g.sort) := by
  have hflat {key : Json} {computed : AggregatedGeometry → Option Json} {gs : List BucketGeometry}
      (h : l.geometriesOf key computed = .ok gs) :
      gs.filter (fun s => s.isRaw && s.sort = g.sort) = [] := by
    refine List.filter_eq_nil_iff.mpr fun s hs => ?_
    simp [FacetLevel.isRaw_of_mem_geometriesOf h hs]
  have hgroup : ∀ g' ∈ l.rawGeometries,
      (rawGeometries c item g').filter (fun s => s.isRaw && s.sort = g.sort) =
        (rawGeometries c item' g').filter fun s => s.isRaw && s.sort = g.sort := by
    intro g' hg'
    by_cases hsort : g'.sort = g.sort
    · -- No other group has the sort of `g`.
      obtain rfl := List.inj_on_of_nodup_map hsorts hg' hg hsort
      rw [rawGeometries_congr hname]
    · have hnone (item : Json) :
          (rawGeometries c item g').filter (fun s => s.isRaw && s.sort = g.sort) = [] := by
        refine List.filter_eq_nil_iff.mpr fun s hs => ?_
        simp [(isRaw_rawGeometries hs).2, hsort]
      rw [hnone, hnone]
  obtain ⟨aggregated, haggregated, hgeometries⟩ := h.geometries
  obtain ⟨aggregated', haggregated', hgeometries'⟩ := h'.geometries
  rw [hgeometries, hgeometries', List.filter_append, List.filter_append, hflat haggregated,
    hflat haggregated', List.filter_flatMap, List.filter_flatMap, List.flatMap_congr hgroup]

theorem Shows.hits_congr (h : Shows c l below item b) (h' : Shows c l below item' b')
    (hname : item.get? fetchedHitsName = item'.get? fetchedHitsName) : b.hits = b'.hits := by
  rw [h.hits, h'.hits, member_congr hname]

theorem Shows.children_congr (h : Shows c l below item b) (h' : Shows c l below item' b')
    {child : FacetLevel} (hchild : child ∈ below.head?)
    (hname : item.get? child.name = item'.get? child.name) : b.children = b'.children := by
  obtain ⟨inside, hinside, hchildren⟩ := h.children child hchild
  obtain ⟨inside', hinside', hchildren'⟩ := h'.children child hchild
  rw [hinside, hinside', Option.some.injEq] at hname
  rw [hname] at hchildren
  exact Except.ok.inj (hchildren.symm.trans hchildren')

end Showing

/-! ## Levels that provide what is read -/

/-- What the entry of an aggregation under a name asks for. -/
def askedUnder? (aggregation : Json) (name : String) : Option Asked :=
  ((aggregation.member "aggs").get? name).bind asked?

/-- The aggregation and the assembler agree on a name: the entry under it asks for what was
requested, and what a bucket shows of that part is read from what its item holds under it. -/
structure Agrees {α : Type} (c : Collection) (aggregation : Json) (levels : List FacetLevel)
    (name : String) (asked : Asked) (part : Bucket → α) : Prop where
  asks : askedUnder? aggregation name = some asked
  reads : ∀ item item' b b', buckets c levels (container [item]) = .ok [b] →
    buckets c levels (container [item']) = .ok [b'] → item.get? name = item'.get? name →
      part b = part b'

/-- The aggregation of a level provides what is read of its buckets: its sub-aggregations are those
of the level and nothing else, each under its own name. What is looked up for a part of a bucket was
asked for under the same name, as the function that was requested over its field, and nothing is
read under any other name. -/
structure Provides (c : Collection) (aggregation : Json) (l : FacetLevel)
    (below : List FacetLevel) : Prop where
  asks : asked? aggregation = some (.buckets l.type l.field)
  distinct : (FacetLevel.bucketKeys ++ l.entryNames below.head?).Nodup
  entries : ((aggregation.member "aggs").members.map Prod.fst).Perm (l.entryNames below.head?)
  metric : ∀ (i : Nat) (m : PlannedMetric), l.metrics[i]? = some m →
    Agrees c aggregation (l :: below) m.sourceName (.value m.function m.field) (·.metrics[i]?)
  box : .bbox ∈ l.aggregatedGeometries →
    Agrees c aggregation (l :: below) (aggregatedGeometryName .bbox)
      (.value .geoBBox c.centroidPath) fun b => b.geometries.filter (·.isOf .bbox)
  centroid : .centroid ∈ l.aggregatedGeometries →
    Agrees c aggregation (l :: below) (aggregatedGeometryName .centroid)
      (.value .geoCentroid c.centroidPath) fun b => b.geometries.filter (·.isOf .centroid)
  rawGeometry : ∀ g ∈ l.rawGeometries, ∃ paths clauses,
    Agrees c aggregation (l :: below) g.name (.documents 1 (some paths) clauses)
      (fun b => b.geometries.filter fun s => s.isRaw && s.sort = g.sort) ∧
    List.Forall₂ (SortsBy c.centroidPath) g.sortKeys clauses ∧
    ∀ path, path ∈ paths ↔ path ∈ g.paths ∨ path = c.centroidPath
  fetch : ∀ f ∈ l.fetch, ∃ clauses, Agrees c aggregation (l :: below) fetchedHitsName
      (.documents f.size (if f.paths = [] then none else some f.paths) clauses) Bucket.hits ∧
    List.Forall₂ (SortsBy c.centroidPath) f.sortKeys clauses
  child : ∀ child ∈ below.head?, Agrees c aggregation (l :: below) child.name
    (.buckets child.type child.field) Bucket.children
  reads : ∀ items items' : List Json,
    List.Forall₂ (Alike (FacetLevel.bucketKeys ++ l.entryNames below.head?)) items items' →
      buckets c (l :: below) (container items) = buckets c (l :: below) (container items')

section Subs

variable {c : Collection} {l : FacetLevel} {depth : Nat} (below : List FacetLevel)

theorem mem_subs_of_geometry {g : AggregatedGeometry} (hg : g ∈ l.aggregatedGeometries)
    (hcell : g.isCell = false) :
    (aggregatedGeometryName g, .metric (Aggregation.geometryFunction g) c.centroidPath) ∈
      Aggregation.subs c l below := by
  have hcomputed := FacetLevel.mem_computedGeometries hg hcell
  simp only [Aggregation.subs, Aggregation.levelSubs, List.mem_append]
  exact .inl (.inl (.inl (.inr (List.mem_map_of_mem hcomputed))))

/-- What a metric is read from computes its function over its field, in an aggregated geometry
too. -/
theorem mem_subs_of_metric (hwell : l.WellFormed c depth) {m : PlannedMetric}
    (hm : m ∈ l.metrics) :
    (m.sourceName, .metric m.function m.field) ∈ Aggregation.subs c l below := by
  rw [PlannedMetric.sourceName]
  cases hsource : m.source with
  | own =>
    have hown : m ∈ l.ownMetrics := List.mem_filter.mpr ⟨hm, decide_eq_true hsource⟩
    simp only [Aggregation.subs, Aggregation.levelSubs, List.mem_append]
    exact .inl (.inl (.inl (.inl (List.mem_map_of_mem hown))))
  | geometry g =>
    obtain ⟨hgeometry, hfield, hg⟩ := (hwell.shared m hm g).mp hsource
    obtain ⟨hcell, hfunction⟩ := FacetLevel.function_of_geometryOf? hgeometry
    rw [hfield, ← hfunction]
    exact mem_subs_of_geometry below hg hcell

theorem mem_subs_of_rawGeometry {g : RawGeometryGroup} (hg : g ∈ l.rawGeometries) :
    (g.name, Aggregation.ofRawGroup c g) ∈ Aggregation.subs c l below := by
  simp only [Aggregation.subs, Aggregation.levelSubs, List.mem_append]
  exact .inl (.inl (.inr (List.mem_map_of_mem hg)))

theorem mem_subs_of_fetch {f : FetchPlan} (hf : f ∈ l.fetch) :
    (fetchedHitsName, Aggregation.ofFetch f) ∈ Aggregation.subs c l below := by
  simp only [Aggregation.subs, Aggregation.levelSubs, List.mem_append]
  exact .inl (.inr (Option.mem_toList.mpr (Option.mem_map_of_mem _ hf)))

end Subs

/-- The next level is found under its name. -/
theorem get?_child {c : Collection} {l child : FacetLevel} {below : List FacetLevel}
    (h : (l.entryNames below.head?).Nodup) (hchild : child ∈ below.head?) :
    ((Aggregation.levelJson c (l :: below)).member "aggs").get? child.name =
      some (Aggregation.levelJson c below) := by
  cases below with
  | nil => cases hchild
  | cons child' rest =>
    cases hchild
    exact Aggregation.get?_aggs h (List.mem_append_right _ List.mem_cons_self)

/-- **A well-formed level provides what is read of its buckets.** -/
theorem provides_levelJson {c : Collection} {l : FacetLevel} {depth : Nat} (hsound : l.Sound depth)
    (hwell : l.WellFormed c depth) {below : List FacetLevel}
    (hbelow : FacetLevel.SoundFrom (depth + 1) below) :
    Provides c (Aggregation.levelJson c (l :: below)) l below := by
  have hchild : ∀ child ∈ below.head?, child.Sound (depth + 1) := by
    cases below with
    | nil => exact fun _ h => (by cases h)
    | cons child rest => exact fun _ h => (by cases h; exact hbelow.1)
  have hdistinct := FacetLevel.nodup_bucketNames hsound hwell.grouped hchild
  have hentries := hdistinct.of_append_right
  have hasked : ∀ {name a}, (name, a) ∈ Aggregation.subs c l below →
      askedUnder? (Aggregation.levelJson c (l :: below)) name =
        asked? (a.toJson c.centroidPath) := by
    intro name a ha
    rw [askedUnder?, Aggregation.get?_aggs hentries ha, Option.bind_some]
  have hshows : ∀ {item b}, buckets c (l :: below) (container [item]) = .ok [b] →
      Shows c l below item b := shows_of_buckets
  have hsorts (keys : List SortKey) :
      List.Forall₂ (SortsBy c.centroidPath) keys (keys.map (sortJson c.centroidPath)) :=
    List.forall₂_map_right_iff.mpr (List.forall₂_same.mpr fun key _ => sortsBy_sortJson _ key)
  have hgeometry {g : AggregatedGeometry} (hg : g ∈ l.aggregatedGeometries)
      (hcell : g.isCell = false) : Agrees c (Aggregation.levelJson c (l :: below)) (l :: below)
        (aggregatedGeometryName g) (.value (Aggregation.geometryFunction g) c.centroidPath)
        fun b => b.geometries.filter (·.isOf g) := {
    asks := (hasked (mem_subs_of_geometry below hg hcell)).trans (Aggregation.asked?_metric _ _ _)
    reads := fun _ _ _ _ h h' => (hshows h).geometry_congr (hshows h') hcell }
  exact {
    asks := Aggregation.asked?_levelJson c l below
    distinct := hdistinct
    entries := by
      rw [← Aggregation.names_toJsonMembers c]
      exact (Aggregation.perm_aggs hentries).map Prod.fst
    metric := fun i m hm => {
      asks := (hasked (mem_subs_of_metric below hwell (List.mem_of_getElem? hm))).trans
        (Aggregation.asked?_metric _ _ _)
      reads := fun _ _ _ _ h h' => (hshows h).metric_congr (hshows h') hm }
    box := fun hg => hgeometry hg rfl
    centroid := fun hg => hgeometry hg rfl
    rawGeometry := fun g hg => by
      refine ⟨_, _, ⟨(hasked (mem_subs_of_rawGeometry below hg)).trans
        (Aggregation.asked?_topHits _ _ _ _), fun _ _ _ _ h h' =>
          (hshows h).raw_congr (hshows h') hwell.grouped.sorts hg⟩, hsorts _, fun path => ?_⟩
      split <;> rename_i hcentroid
      · rw [List.contains_iff_mem] at hcentroid
        exact ⟨.inl, Or.rec id fun h => h ▸ hcentroid⟩
      · rw [List.mem_append, List.mem_singleton]
    fetch := fun f hf => by
      refine ⟨_, ⟨?_, fun _ _ _ _ h h' => (hshows h).hits_congr (hshows h')⟩, hsorts _⟩
      rw [hasked (mem_subs_of_fetch below hf), Aggregation.ofFetch, Aggregation.asked?_topHits]
      cases f.paths <;> rfl
    child := fun child hchild => {
      asks := by
        rw [askedUnder?, get?_child hentries hchild, Option.bind_some]
        cases below with
        | nil => cases hchild
        | cons child' rest =>
          cases hchild
          exact Aggregation.asked?_levelJson c child rest
      reads := fun _ _ _ _ h h' => (hshows h).children_congr (hshows h') hchild }
    reads := fun items items' => buckets_congr hsound }

/-- **The chain of names leads to the aggregation of each level.** -/
theorem follow_levelPath {c : Collection} {levels : List FacetLevel} {v : Json}
    (hfirst : ∀ first ∈ levels.head?,
      (v.member "aggs").member first.name = Aggregation.levelJson c levels)
    (hentries : ∀ (i : Nat) (l : FacetLevel), levels[i]? = some l →
      (l.entryNames levels[i + 1]?).Nodup)
    {depth : Nat} {l : FacetLevel} (hl : levels[depth]? = some l) :
    follow v (levelPath (levels.take (depth + 1))) =
      Aggregation.levelJson c (levels.drop depth) := by
  induction levels generalizing v depth with
  | nil => cases hl
  | cons first below ih =>
    cases depth with
    | zero => exact hfirst first rfl
    | succ depth =>
      show follow ((v.member "aggs").member first.name) (levelPath (below.take (depth + 1))) = _
      rw [hfirst first rfl]
      refine ih (fun child hchild => ?_) (fun i l' hl' => hentries (i + 1) l' hl') hl
      refine member_of_get? (get?_child ?_ hchild)
      rw [List.head?_eq_getElem?]
      exact hentries 0 first rfl

section Compiled

variable {c : Collection} {geo : Bool} {specs : List FacetSpec} {plan : FacetPlan} {d : Draft}
  {depth : Nat} {l : FacetLevel}

/-- **Every level of an accepted plan is rendered where its name leads to.** -/
theorem aggregationAt_of_compile (h : FacetPlan.compile c geo specs = .ok plan)
    (hd : d.collection = c) (hl : plan.levels[depth]? = some l) :
    d.aggregationAt plan depth = Aggregation.levelJson c (plan.levels.drop depth) := by
  refine follow_levelPath (fun first hfirst => ?_) (fun i l' hl' => ?_) hl
  · -- The chain of names starts below the body, where the first level is the only entry.
    cases hplan : plan.levels with
    | nil =>
      rw [hplan] at hfirst
      cases hfirst
    | cons first' below =>
      rw [hplan] at hfirst
      cases hfirst
      have haggs : ((d.setFacets plan).build.toJson.member "body").member "aggs" =
          .ofMembers [(first.name, Aggregation.levelJson c (first :: below))] := by
        rw [Json.member, Plan.get?_body]
        show Json.ofMembers (Aggregation.toJsonMembers d.collection.centroidPath
          (Aggregation.ofLevels d.collection plan.levels)) = _
        rw [hd, hplan, Aggregation.toJsonMembers_eq]
        rfl
      rw [haggs, Json.member_ofMembers (by simp), List.lookup_cons_self]
      rfl
  · obtain ⟨s, ms, hassembled⟩ := FacetPlan.assembled_of_compile h hl'
    exact (FacetLevel.nodup_bucketNames hassembled.sound hassembled.wellFormed.grouped
      fun child hchild => (FacetPlan.soundFrom_of_compile h).sound hchild).of_append_right

/-- **Every level of an accepted plan provides what is read of its buckets.** -/
theorem provides_of_compile (h : FacetPlan.compile c geo specs = .ok plan)
    (hd : d.collection = c) (hl : plan.levels[depth]? = some l) :
    Provides c (d.aggregationAt plan depth) l (plan.levels.drop (depth + 1)) := by
  rw [aggregationAt_of_compile h hd hl]
  obtain ⟨s, ms, hassembled⟩ := FacetPlan.assembled_of_compile h hl
  have hbelow := (FacetPlan.soundFrom_of_compile h).drop (depth + 1)
  rw [Nat.zero_add] at hbelow
  obtain ⟨hdepth, rfl⟩ := List.getElem?_eq_some_iff.mp hl
  rw [List.drop_eq_getElem_cons hdepth]
  exact provides_levelJson hassembled.sound hassembled.wellFormed hbelow

end Compiled

end Search

end GeoFacet
