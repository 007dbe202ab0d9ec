import GeoFacet.Proofs.Facet.RawGroups
import GeoFacet.Proofs.Facet.Shape

/-!
# Raw geometries of buckets

A search takes from each document of a group one geometry for every path, the centroid where the
document has none at the path (`Search.yields_filterMap`). With the grouping of the requests this
says what becomes of every request, from the specification of a level to the nodes of a tree.

Main statement: `rawGeometries_of_compile`.
-/

namespace GeoFacet

/-! ## Documents of a search -/

namespace Search

/-- The geometry at a path of a document, if there is one. -/
def shapeAt? (source : Json) (path : String) : Option Json :=
  (lookup? source path).bind Shape.normalize?

/-- What a group takes from a document: one geometry for each of its paths in their order, unless
the document has none there and no centroid either. The centroid stands in for what is missing. -/
structure Yields (c : Collection) (source : Json) (g : RawGeometryGroup)
    (taken : List BucketGeometry) : Prop where
  references : taken.map BucketGeometry.reference = g.paths.filter fun path =>
    (shapeAt? source path).isSome || (shapeAt? source c.centroidPath).isSome
  geometries : ∀ shown ∈ taken, shown.isRaw = true ∧ shown.sort = g.sort ∧
    (shapeAt? source shown.reference = some shown.geometry ∨
      shapeAt? source shown.reference = none ∧
        shapeAt? source c.centroidPath = some shown.geometry)

/-- What groups take from an item: for each group, and for each document that the item holds under
the name of the group, what the group takes from the document. -/
def ItemYields (c : Collection) (item : Json) (groups : List RawGeometryGroup)
    (taken : List BucketGeometry) : Prop :=
  ∃ parts : List (List (List BucketGeometry)), taken = parts.flatten.flatten ∧
    List.Forall₂ (fun g part => List.Forall₂
      (fun document shown => Yields c (document.member "_source") g shown)
      (documents (item.member g.name)) part) groups parts

theorem rawShape?_eq (c : Collection) (source : Json) (path : String) :
    rawShape? c source path = (shapeAt? source path).or (shapeAt? source c.centroidPath) :=
  Option.orElse_eq_or ..

/-- What a group shows for a path of a document. -/
def shown? (c : Collection) (source : Json) (g : RawGeometryGroup) (path : String) :
    Option BucketGeometry :=
  (rawShape? c source path).map fun json => ⟨path, json, true, g.sort⟩

theorem isSome_shown? (c : Collection) (source : Json) (g : RawGeometryGroup) (path : String) :
    (shown? c source g path).isSome =
      ((shapeAt? source path).isSome || (shapeAt? source c.centroidPath).isSome) := by
  rw [shown?, Option.isSome_map, rawShape?_eq, Option.isSome_or]

theorem yields_filterMap (c : Collection) (source : Json) (g : RawGeometryGroup) :
    Yields c source g (g.paths.filterMap (shown? c source g)) where
  references := by
    induction g.paths with
    | nil => rfl
    | cons path paths ih =>
      rw [List.filter_cons, ← isSome_shown? c source g path]
      cases hshown : shown? c source g path with
      | none => simpa [hshown] using ih
      | some shown =>
        obtain ⟨json, -, rfl⟩ := Option.map_eq_some_iff.mp hshown
        simpa [hshown] using ih
  geometries := by
    intro shown hshown
    obtain ⟨path, -, hshown⟩ := List.mem_filterMap.mp hshown
    obtain ⟨json, hjson, rfl⟩ := Option.map_eq_some_iff.mp hshown
    rw [rawShape?_eq] at hjson
    exact ⟨rfl, rfl, Option.or_eq_some_iff.mp hjson⟩

/-- **What a bucket takes from its item.** -/
theorem itemYields_rawGeometries (c : Collection) (item : Json) (groups : List RawGeometryGroup) :
    ItemYields c item groups (groups.flatMap (rawGeometries c item)) := by
  refine ⟨groups.map fun g => (documents (item.member g.name)).map fun document =>
    g.paths.filterMap (shown? c (document.member "_source") g), ?_, ?_⟩
  · rw [List.flatten_flatten, List.map_map]
    rfl
  · rw [List.forall₂_map_right_iff, List.forall₂_same]
    intro g _
    rw [List.forall₂_map_right_iff, List.forall₂_same]
    intro document _
    exact yields_filterMap c (document.member "_source") g

end Search

/-- **Raw geometries are grouped without loss.** A level has one group for each sort that its
specification asks for, blank ones counting as none, and the groups are numbered in the order in
which their sorts are first asked for. The pairs of a path and a sort that they hold are the
requested ones, each once, and a group is sorted by the keys of its sort. In a tree that a search
assembles, the raw geometries of a node on this level come behind the aggregated ones: for each
group, and for each document that the result holds under its name, one geometry for every path at
which the document has one, and for every path if the document has a centroid. -/
theorem rawGeometries_of_compile {c : Collection} {geo : Bool} {specs : List FacetSpec}
    {plan : FacetPlan} (h : FacetPlan.compile c geo specs = .ok plan) {depth : Nat} {l : FacetLevel}
    (hl : plan.levels[depth]? = some l) :
    ∃ s, specs[depth]? = some s ∧
      l.rawGeometries.map RawGeometryGroup.name =
        (List.range l.rawGeometries.length).map (fun i => "raw_geometries_" ++ toString i) ∧
      (l.rawGeometries.map RawGeometryGroup.sort).Nodup ∧
      RawGeometryGroup.Gathers l.rawGeometries s.rawRequests ∧
      (l.rawGeometries.flatMap RawGeometryGroup.requests).Perm s.rawRequests.eraseDups ∧
      ∀ (result : Json) (tree : Bucket), Search.assembleFacets c plan result = .ok tree →
        ∀ (i : Nat) (address : List Nat) (node : Bucket), address.length = depth →
          tree.at? (i :: address) = some node →
          ∃ item aggregated taken, Search.partAt? plan result i address = some item ∧
            node.geometries = aggregated ++ taken ∧ (∀ g ∈ aggregated, g.isRaw = false) ∧
            Search.ItemYields c item l.rawGeometries taken := by
  obtain ⟨s, hs, hlevel⟩ := FacetSpec.toLevel_of_toLevels (FacetPlan.levels_of_compile h).1 hl
  obtain ⟨ms, hassembled⟩ := FacetSpec.exists_assembled hlevel
  have hgathers : RawGeometryGroup.Gathers l.rawGeometries s.rawRequests :=
    FacetSpec.gathers_groupRaw .nil hassembled.rawGeometries
  refine ⟨s, hs, hgathers.names, hgathers.nodup_sorts, hgathers,
    hgathers.perm_requests, ?_⟩
  intro result tree htree i address node hdepth hnode
  obtain ⟨⟨l', item, bucket, hl', hitem, hbuild, haround⟩, -, -⟩ :=
    (Search.grown_assembleFacets htree).1.at? hnode
  rw [hdepth, hl] at hl'
  cases hl'
  obtain ⟨keyText, -, hbuild⟩ := Outcome.bind_eq_ok.mp hbuild
  -- The geometries of a bucket are the aggregated ones, then those taken from the item.
  obtain ⟨aggregated, haggregated, hbuild⟩ := Outcome.bind_eq_ok.mp hbuild
  cases hbuild
  have hflat : ∀ g ∈ aggregated, g.isRaw = false := fun g hg =>
    ((FacetLevel.aggregates_geometriesOf hassembled.sound.distinctGeometries
      haggregated).aggregated g hg).1
  rw [haround]
  exact ⟨item, aggregated, _, hitem, rfl, hflat,
    Search.itemYields_rawGeometries c item l.rawGeometries⟩

/-- Kinds with their latest shape and place, asked for with blanks, and any place. -/
def latestShapes : List FacetSpec :=
  [{ (default : FacetSpec) with
      type := .term, field := some "kind",
      rawGeometries := [⟨" shape ", some "-seen"⟩, ⟨"place", some " "⟩, ⟨"place", some "-seen "⟩,
        ⟨"shape", some " -seen"⟩] }]

/-- Foxes: the latest survey has a place and no shape, and any other has neither. -/
def placedFoxes : Json :=
  .object [("aggregations", .object [("term_0", .object [("buckets", .list [.object [
    ("doc_count", .int 2),
    ("key", .text "fox"),
    ("raw_geometries_0", .object [("hits", .object [("hits", .list [.object [
      ("_source", .object [("place", .object [("type", .text "Point")])])]])])]),
    ("raw_geometries_1", .object [("hits", .object [("hits", .list [.object [
      ("_source", .object [])]])])])]])])])]

theorem rawGeometries_of_compile_foxes : ∃ plan l tree node,
    FacetPlan.compile surveys true latestShapes = .ok plan ∧ plan.levels[0]? = some l ∧
      l.rawGeometries.map RawGeometryGroup.sort = [some "-seen", none] ∧
      (l.rawGeometries.flatMap RawGeometryGroup.requests).Perm
        [("shape", some "-seen"), ("place", none), ("place", some "-seen")] ∧
      Search.assembleFacets surveys plan placedFoxes = .ok tree ∧ tree.at? [0] = some node ∧
      ∃ item aggregated taken, Search.partAt? plan placedFoxes 0 [] = some item ∧
        node.geometries = aggregated ++ taken ∧ (∀ g ∈ aggregated, g.isRaw = false) ∧
        Search.ItemYields surveys item l.rawGeometries taken ∧
        node.geometries.map BucketGeometry.reference = ["shape", "place"] := by
  obtain ⟨plan, hplan, hrest⟩ := Outcome.exists_of_any
    (o := FacetPlan.compile surveys true latestShapes)
    (p := fun plan => plan.levels[0]?.isSome &&
      (Search.assembleFacets surveys plan placedFoxes).toOption.any fun tree =>
        (tree.at? [0]).any fun node =>
          node.geometries.map BucketGeometry.reference = ["shape", "place"])
    (by decide +kernel)
  obtain ⟨hlevel, htree⟩ := Bool.and_eq_true_iff.mp hrest
  obtain ⟨l, hl⟩ := Option.isSome_iff_exists.mp hlevel
  obtain ⟨tree, htree, hnode⟩ := Outcome.exists_of_any htree
  obtain ⟨node, hnode, hreferences⟩ := (Option.any_eq_true _ _).mp hnode
  obtain ⟨s, hs, -, -, hgathers, hperm, hsearch⟩ := rawGeometries_of_compile hplan hl
  obtain ⟨item, aggregated, taken, hparts⟩ :=
    hsearch placedFoxes tree htree 0 [] node rfl hnode
  cases hs
  refine ⟨plan, l, tree, node, hplan, hl, ?_, ?_, htree, hnode, item, aggregated, taken,
    hparts.1, hparts.2.1, hparts.2.2.1, hparts.2.2.2, of_decide_eq_true hreferences⟩
  · rw [hgathers.sorts]
    decide +kernel
  · have hrequests : (FacetSpec.rawRequests latestShapes[0]).eraseDups =
        [("shape", some "-seen"), ("place", none), ("place", some "-seen")] := by decide +kernel
    rw [← hrequests]
    exact hperm

end GeoFacet
