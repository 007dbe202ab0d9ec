import GeoFacet.Proofs.Facet.Agreement
import GeoFacet.Proofs.Json.Equality

/-!
# Both backends assemble the same tree

Nested buckets are assembled along the levels of the plan (`buckets_container`). In rows the nesting
is found again by the keys: siblings differ, so the groups of a level are told apart by the keys of
the buckets that they lie in (`pairwise_groupsAt`), and the rows below a bucket are exactly those of
its group (`filter_groupRows`). Either way the tree that was sent comes out.

Main statement: `assemblies_agree`.
-/

namespace GeoFacet

variable {plan : FacetPlan} {total : Nat} {tree : List FacetNode}

/-! ## Nested results -/

namespace Search

theorem namesLevel_inside {depth : Nat} {below : List FacetLevel}
    (h : FacetLevel.SoundFrom (depth + 1) below) (n : FacetNode) :
    NamesLevel depth (inside below n) := by
  cases below with
  | nil =>
    intro m hm
    cases hm
  | cons child rest =>
    intro m hm
    cases hm
    exact ⟨child, h.1, rfl⟩

/-- **Nested buckets are assembled to the tree they were sent for.** -/
theorem buckets_container (c : Collection) {levels : List FacetLevel} (depth : Nat)
    (hsound : FacetLevel.SoundFrom depth levels)
    (hbare : ∀ l ∈ levels, l.rawGeometries = [] ∧ l.fetch = none) (ns : List FacetNode) :
    buckets c levels (container (ns.map (item levels))) = FacetNode.buckets levels ns := by
  induction levels generalizing depth ns with
  | nil => rfl
  | cons l below ih =>
    obtain ⟨hl, hbelow⟩ := hsound
    show (ns.map (item (l :: below))).mapM _ = ns.mapM _
    rw [Outcome.mapM_map]
    refine Outcome.mapM_congr fun n _ => ?_
    have hinside := namesLevel_inside hbelow n
    rw [item_cons, bucketAlone_item c hl (hbare l List.mem_cons_self) hinside]
    -- Only a level with another one below it looks inside of the bucket.
    cases below with
    | nil => rfl
    | cons child rest =>
      have hget : (Json.ofMembers (itemMembers l n (inside (child :: rest) n))).get? child.name =
          some (container (n.children.map (item (child :: rest)))) :=
        get?_item hl hinside (List.mem_append_right _ List.mem_cons_self)
      cases n.bucketAlone l with
      | error e => rfl
      | ok bucket =>
        show (orRefuse _ ((Json.ofMembers _).get? child.name) >>= _) = _
        rw [hget]
        show (buckets c (child :: rest) _ >>= _) = _
        rw [ih (depth + 1) hbelow fun l' hl' => hbare l' (List.mem_cons_of_mem l hl')]
        rfl

end Search

/-! ## Groups of siblings -/

namespace Sql

/-- A group at a depth of a tree that is shaped by some levels. -/
structure Placed (levels : List FacetLevel) (depth : Nat) (g : Group) : Prop where
  length : g.1.length = depth
  self : (g.1 == g.1) = true
  admits : ∀ (i : Nat) (l : FacetLevel) (k : Json), levels[i]? = some l → g.1[i]? = some k →
    l.Admits k
  shaped : Shaped (levels.drop depth) g.2

/-- The group below a bucket. -/
def below (g : Group) (n : FacetNode) : Group := (g.1 ++ [n.key], n.children)

variable {levels : List FacetLevel} {depth : Nat} {g : Group} {n : FacetNode}

/-- A group that is not empty has a level, and its members fit that level. -/
theorem Placed.exists_level (h : Placed levels depth g) (hn : n ∈ g.2) :
    ∃ l, levels[depth]? = some l ∧ g.2.Pairwise Differ ∧
      ∀ n ∈ g.2, l.Admits n.key ∧ Shaped (levels.drop (depth + 1)) n.children := by
  have hshaped := h.shaped
  cases hdrop : levels.drop depth with
  | nil =>
    rw [hdrop, Shaped] at hshaped
    rw [hshaped] at hn
    cases hn
  | cons l rest =>
    rw [hdrop, Shaped] at hshaped
    refine ⟨l, ?_, hshaped.1, ?_⟩
    · rw [← List.head?_drop, hdrop]
      rfl
    · rw [← List.tail_drop, hdrop]
      exact hshaped.2

theorem Placed.below (h : Placed levels depth g) (hn : n ∈ g.2) :
    Placed levels (depth + 1) (below g n) := by
  obtain ⟨l, hl, -, hmembers⟩ := h.exists_level hn
  obtain ⟨hadmits, hchildren⟩ := hmembers n hn
  refine ⟨?_, ?_, ?_, hchildren⟩
  · rw [Sql.below, List.length_append, h.length, List.length_singleton]
  · rw [Sql.below, append_beq_append rfl, h.self, hadmits.self]
    rfl
  · intro i l' k hl' hk
    rw [Sql.below, List.getElem?_append, h.length] at hk
    -- A key above is one of the group's, and the last one is that of the node.
    split at hk
    · exact h.admits i l' k hl' hk
    · rename_i hi
      cases hsub : i - depth with
      | zero =>
        have hi : i = depth := by omega
        rw [hsub] at hk
        cases hk
        rw [hi, hl] at hl'
        cases hl'
        exact hadmits
      | succ j =>
        rw [hsub] at hk
        cases hk

/-- **Every group of a shaped tree is placed at its depth.** -/
theorem placed_groupsAt (h : Shaped levels tree) (depth : Nat) :
    ∀ g ∈ groupsAt tree depth, Placed levels depth g := by
  induction depth with
  | zero =>
    intro g hg
    rw [List.mem_singleton.mp hg]
    exact ⟨rfl, rfl, fun i l k _ hk => (by cases hk), h⟩
  | succ depth ih =>
    intro g hg
    obtain ⟨g', hg', hg⟩ := List.mem_flatMap.mp hg
    obtain ⟨n, hn, rfl⟩ := List.mem_map.mp hg
    exact (ih g' hg').below hn

/-- Two groups lie below different buckets. -/
def Distinct (g g' : Group) : Prop := (g.1 == g'.1) = false ∧ (g'.1 == g.1) = false

theorem Distinct.symm {g g' : Group} (h : Distinct g g') : Distinct g' g := ⟨h.2, h.1⟩

/-- **The groups of a shaped tree are told apart by their keys.** -/
theorem pairwise_groupsAt (h : Shaped levels tree) (depth : Nat) :
    (groupsAt tree depth).Pairwise Distinct := by
  induction depth with
  | zero => exact List.pairwise_singleton _ _
  | succ depth ih =>
    rw [groupsAt, List.pairwise_flatMap]
    -- Groups below one node differ in the last key, those below different nodes in the keys above.
    constructor
    · intro g hg
      have hplaced := placed_groupsAt h depth g hg
      rw [List.pairwise_map]
      have hdiffer : g.2.Pairwise Differ := by
        cases hmembers : g.2 with
        | nil => exact List.Pairwise.nil
        | cons n ns =>
          rw [← hmembers]
          obtain ⟨-, -, hdiffer, -⟩ := hplaced.exists_level (hmembers ▸ List.mem_cons_self)
          exact hdiffer
      refine hdiffer.imp fun {m n} hmn => ⟨?_, ?_⟩
      · rw [append_beq_append rfl, hplaced.self, hmn.1]
        rfl
      · rw [append_beq_append rfl, hplaced.self, hmn.2]
        rfl
    · refine ih.imp_of_mem fun {g g'} hg hg' hdistinct => ?_
      have hlength := (placed_groupsAt h depth g hg).length
      have hlength' := (placed_groupsAt h depth g' hg').length
      intro x hx y hy
      obtain ⟨m, -, rfl⟩ := List.mem_map.mp hx
      obtain ⟨n, -, rfl⟩ := List.mem_map.mp hy
      constructor
      · rw [append_beq_append (hlength.trans hlength'.symm), hdistinct.1]
        rfl
      · rw [append_beq_append (hlength'.trans hlength.symm), hdistinct.2]
        rfl

/-! ## Rows below a bucket -/

/-- Of distinct groups the rows of one are picked by its keys. -/
theorem flatMap_select {α : Type} {groups : List Group} (hdistinct : groups.Pairwise Distinct)
    (hg : g ∈ groups) (hself : (g.1 == g.1) = true) (f : Group → List α) :
    (groups.flatMap fun g' => if g'.1 == g.1 then f g' else []) = f g := by
  induction groups with
  | nil => cases hg
  | cons first rest ih =>
    obtain ⟨hfirst, hrest⟩ := List.pairwise_cons.mp hdistinct
    rw [List.flatMap_cons]
    rcases List.mem_cons.mp hg with rfl | hg
    · have hempty : ∀ g' ∈ rest, (if g'.1 == g.1 then f g' else []) = [] := by
        intro g' hg'
        rw [(hfirst g' hg').2]
        rfl
      rw [if_pos hself, List.flatMap_eq_nil_iff.mpr hempty, List.append_nil]
    · have hskip : (first.1 == g.1) = false := (hfirst g hg).1
      rw [hskip, ih hrest hg]
      rfl

/-- The rows of a group have the keys of the buckets that it lies in. -/
theorem keys_facetRow {l : FacetLevel}
    (hsound : FacetLevel.SoundFrom 0 levels)
    (hl : levels[depth]? = some l) (hg : Placed levels depth g) (n : FacetNode) :
    (levels.take depth).map (facetRow l g.1 n).key = g.1 := by
  have hdepth : depth < levels.length := (List.getElem?_eq_some_iff.mp hl).1
  refine List.ext_getElem? fun i => ?_
  rw [List.getElem?_map]
  by_cases hi : i < depth
  · have hlevel : levels[i]? = some levels[i] := List.getElem?_eq_getElem (Nat.lt_trans hi hdepth)
    obtain ⟨k, hkey⟩ : ∃ k, g.1[i]? = some k :=
      ⟨_, List.getElem?_eq_getElem (by rw [hg.length]; exact hi)⟩
    rw [List.getElem?_take_of_lt hi, hlevel, hkey, Option.map_some]
    refine congrArg some (key_facetRow (hsound.sound hl) ?_ (hg.admits i _ _ hlevel hkey))
    rw [(hsound.sound hlevel).depth_eq,
      List.getElem?_append_left (by rw [hg.length]; exact hi), hkey]
  · rw [List.getElem?_take_eq_none (by omega), Option.map_none,
      List.getElem?_eq_none (by rw [hg.length]; omega)]

/-- **The rows that follow the keys of a group are its own**, in whatever order the groups come. -/
theorem filter_groupRows {l : FacetLevel} (h : Shaped levels tree)
    (hsound : FacetLevel.SoundFrom 0 levels)
    (hl : levels[depth]? = some l) {groups : List Group}
    (hgroups : groups.Perm (groupsAt tree depth)) (hg : g ∈ groupsAt tree depth) :
    ((groupRows l groups).filter fun row => (levels.take depth).map row.key == g.1) =
      g.2.map (facetRow l g.1) := by
  have hplaced := placed_groupsAt h depth
  have hblock : ∀ g' ∈ groups, (g'.2.map (facetRow l g'.1)).filter
      (fun row => (levels.take depth).map row.key == g.1) =
        if g'.1 == g.1 then g'.2.map (facetRow l g'.1) else [] := by
    intro g' hg'
    have hkeys := keys_facetRow hsound hl (hplaced g' (hgroups.mem_iff.mp hg'))
    rw [List.filter_map]
    cases hsame : g'.1 == g.1 with
    | true =>
      rw [List.filter_eq_self.mpr fun n _ => by rw [Function.comp_apply, hkeys n, hsame]]
      rfl
    | false =>
      rw [List.filter_eq_nil_iff.mpr fun n _ => by rw [Function.comp_apply, hkeys n, hsame]; simp]
      rfl
  -- Of the blocks of rows only that of the group is kept.
  rw [groupRows, List.filter_flatMap, List.flatMap_congr hblock]
  have hdistinct : groups.Pairwise Distinct :=
    (hgroups.pairwise_iff fun {g g'} => Distinct.symm).mpr (pairwise_groupsAt h depth)
  exact flatMap_select hdistinct (hgroups.mem_iff.mpr hg) (hplaced g hg).self _

/-! ## Assembled rows -/

variable {rows : Rows}

/-- **Rows are assembled to the tree that they tell.** -/
theorem buckets_of_tells (h : Shaped plan.levels tree)
    (hsound : FacetLevel.SoundFrom 0 plan.levels)
    (htells : Tells rows plan total tree) {above below : List FacetLevel}
    (hlevels : plan.levels = above ++ below) {g : Group} (hg : g ∈ groupsAt tree above.length) :
    buckets rows above g.1 below = FacetNode.buckets below g.2 := by
  induction below generalizing above g with
  | nil => rfl
  | cons l below ih =>
    have hl : plan.levels[above.length]? = some l := by
      rw [hlevels, List.getElem?_append_right (Nat.le_refl _), Nat.sub_self]
      rfl
    have htake : plan.levels.take above.length = above := by
      rw [hlevels, List.take_left]
    have hplaced := placed_groupsAt h above.length g hg
    obtain ⟨groups, hgroups, hsent⟩ := htells.level above.length l hl
    have hrows : rows.ofPurpose (.level l.depth) = .ok (groupRows l groups) := by
      rw [Rows.ofPurpose, (hsound.sound hl).depth_eq, hsent]
      rfl
    have hfilter := filter_groupRows h hsound hl hgroups hg
    rw [htake] at hfilter
    show (rows.ofPurpose (.level l.depth) >>= fun sent =>
      (sent.filter fun row => above.map row.key == g.1).mapM _) = _
    rw [hrows, Outcome.ok_bind, hfilter, Outcome.mapM_map, FacetNode.buckets]
    refine Outcome.mapM_congr fun n hn => ?_
    obtain ⟨l', hl', -, hmembers⟩ := hplaced.exists_level hn
    cases hl.symm.trans hl'
    have hadmits := (hmembers n hn).1
    have hkey : (facetRow l g.1 n).key l = n.key := by
      refine key_facetRow (hsound.sound hl) ?_ hadmits
      rw [(hsound.sound hl).depth_eq, ← hplaced.length]
      exact List.getElem?_concat_length
    rw [bucketAlone_facetRow (hsound.sound hl) hplaced.length hadmits, hkey]
    -- The node is a group of the next depth, which the induction hypothesis is about.
    have hinner : buckets rows (above ++ [l]) (g.1 ++ [n.key]) below =
        FacetNode.buckets below n.children := by
      refine ih (g := Sql.below g n) (by rw [hlevels, List.append_assoc]; rfl) ?_
      rw [List.length_append, List.length_singleton, groupsAt]
      exact List.mem_flatMap.mpr ⟨g, hg, List.mem_map.mpr ⟨n, hn, rfl⟩⟩
    exact hinner ▸ rfl

theorem assembleFacets_of_tells (h : Shaped plan.levels tree)
    (hsound : FacetLevel.SoundFrom 0 plan.levels)
    (htells : Tells rows plan total tree) :
    assembleFacets plan rows = FacetNode.response plan total tree := by
  have htotal : rows.total .count = .ok total := by
    rw [Rows.total, Rows.ofPurpose, htells.total]
    rfl
  have hroot : (([], tree) : Group) ∈ groupsAt tree ([] : List FacetLevel).length :=
    List.mem_singleton.mpr rfl
  have hbuckets : buckets rows [] [] plan.levels = FacetNode.buckets plan.levels tree :=
    buckets_of_tells h hsound htells rfl hroot
  rw [assembleFacets, FacetNode.response, htotal, hbuckets]
  rfl

theorem nodup_facetRows (plan : FacetPlan) (total : Nat) (tree : List FacetNode) :
    ((facetRows plan total tree).map Prod.fst).Nodup := by
  have hnames : (facetRows plan total tree).map Prod.fst =
      "count" :: (List.range plan.levels.length).map fun depth => "level_" ++ toString depth := by
    rw [facetRows, List.map_cons, List.map_map, List.range_eq_range', ← List.zipIdx_map_snd,
      List.map_map]
    rfl
  rw [hnames]
  refine List.nodup_cons.mpr ⟨fun hcount => ?_, ?_⟩
  · obtain ⟨depth, -, hname⟩ := List.mem_map.mp hcount
    have hapart : Text.Apart "level_" "count" := by decide
    exact hapart.append_ne_right hname
  · exact List.nodup_range.map fun i j h => Text.numbered_injective "level_" h

/-- The rows of a tree tell the tree. -/
theorem tells_facetRows (plan : FacetPlan) (total : Nat) (tree : List FacetNode) :
    Tells (facetRows plan total tree) plan total tree where
  total := rfl
  level depth l hl := by
    refine ⟨groupsAt tree depth, List.Perm.refl _, Json.lookup_of_mem (nodup_facetRows _ _ _) ?_⟩
    exact List.mem_cons_of_mem _ (List.mem_map.mpr
      ⟨(l, depth), List.mem_zipIdx_iff_getElem?.mpr hl, rfl⟩)

end Sql

namespace Search

theorem totalHits_facetResult (plan : FacetPlan) (total : Nat) (tree : List FacetNode) :
    totalHits (facetResult plan total tree) = total := by
  rw [totalHits, facetResult, Json.member_ofMembers (by simp)]
  rfl

theorem assembleFacets_facetResult (c : Collection) (hne : plan.levels ≠ [])
    (hsound : FacetLevel.SoundFrom 0 plan.levels)
    (hbare : ∀ l ∈ plan.levels, l.rawGeometries = [] ∧ l.fetch = none) :
    assembleFacets c plan (facetResult plan total tree) = FacetNode.response plan total tree := by
  have hbuckets := buckets_container c 0 hsound hbare tree
  obtain ⟨first, hfirst⟩ : ∃ first, plan.levels.head? = some first := by
    cases hlevels : plan.levels with
    | nil => exact absurd hlevels hne
    | cons first rest => exact ⟨first, rfl⟩
  have hget : ((facetResult plan total tree).member "aggregations").get? first.name =
      some (container (tree.map (item plan.levels))) := by
    rw [facetResult, Json.member_ofMembers (by simp), hfirst]
    show (Json.ofMembers [(first.name, container (tree.map (item plan.levels)))]).get? _ = _
    rw [Json.get?_ofMembers (by simp), List.lookup_cons_self]
  rw [assembleFacets, FacetNode.response, hfirst, totalHits_facetResult]
  show (orRefuse _ (Json.get? _ first.name) >>= _) = _
  rw [hget]
  show (buckets c plan.levels (container _) >>= _) = _
  rw [hbuckets]
  rfl

end Search

/-! ## Agreement -/

/-- **Both backends assemble the same tree.** Let a compiled plan ask for no documents, and let a
tree be shaped by it. The nested buckets of the tree come to the same response or the same fault as
its rows, one list for each level, in whatever order the rows of different parents come. -/
theorem assemblies_agree {c : Collection} {geo : Bool} {specs : List FacetSpec} {plan : FacetPlan}
    (hplan : FacetPlan.compile c geo specs = .ok plan)
    (hbare : ∀ l ∈ plan.levels, l.rawGeometries = [] ∧ l.fetch = none) {tree : List FacetNode}
    (hshape : Shaped plan.levels tree) (total : Nat) :
    Sql.assembleFacets plan (Sql.facetRows plan total tree) =
        Search.assembleFacets c plan (Search.facetResult plan total tree) ∧
      ∀ rows, Sql.Tells rows plan total tree →
        Sql.assembleFacets plan rows =
          Search.assembleFacets c plan (Search.facetResult plan total tree) := by
  have hsound := FacetPlan.soundFrom_of_compile hplan
  have hsearch : Search.assembleFacets c plan (Search.facetResult plan total tree) =
      FacetNode.response plan total tree :=
    Search.assembleFacets_facetResult c (FacetPlan.levels_of_compile hplan).2 hsound hbare
  have hrows : ∀ rows, Sql.Tells rows plan total tree →
      Sql.assembleFacets plan rows = FacetNode.response plan total tree :=
    fun rows htells => Sql.assembleFacets_of_tells hshape hsound htells
  rw [hsearch]
  exact ⟨hrows _ (Sql.tells_facetRows plan total tree), hrows⟩

/-! ### Sightings by kind and cell

Two kinds of birds were sighted, one of them in a cell of the globe. -/

def sightings : Collection :=
  ⟨"sightings", "sightings", "id", "place", "place", "seen", "epoch_millis", [],
    [("kind", .keyword), ("wingspan", .integer), ("place", .point)]⟩

/-- Kinds with their mean wingspan, and in each the cells with the box of their sightings. -/
def byKindAndCell : List FacetSpec :=
  [{ (default : FacetSpec) with
      type := .term, field := some "kind", metrics := [⟨some "wingspan", some .avg⟩] },
    { (default : FacetSpec) with
      type := .geohash, interval := some "3", aggregatedGeometries := [.bbox, .cell] }]

def finchesAndOwls : List FacetNode :=
  let unknown : Measures := ⟨fun _ => none, fun _ => none, fun _ => none⟩
  [⟨.text "finch", 2, { unknown with number := fun _ => some (.whole 25) },
      [⟨.text "u09", 2, { unknown with
        box := fun _ => some ⟨.whole 2, .whole 48, .whole 3, .whole 49⟩ }, []⟩]⟩,
    ⟨.text "owl", 1, unknown, []⟩]

theorem assemblies_agree_sightings : ∃ plan,
    FacetPlan.compile sightings false byKindAndCell = .ok plan ∧
    (∀ l ∈ plan.levels, l.rawGeometries = [] ∧ l.fetch = none) ∧
    Shaped plan.levels finchesAndOwls ∧
    Sql.assembleFacets plan (Sql.facetRows plan 3 finchesAndOwls) =
      Search.assembleFacets sightings plan (Search.facetResult plan 3 finchesAndOwls) := by
  obtain ⟨kinds, cells, hplan, hbare, hkinds, hcells⟩ : ∃ kinds cells : FacetLevel,
      FacetPlan.compile sightings false byKindAndCell = .ok ⟨[kinds, cells], false⟩ ∧
        (∀ l ∈ [kinds, cells], l.rawGeometries = [] ∧ l.fetch = none) ∧
        kinds.kind.hasNumbers = false ∧ cells.kind.hasNumbers = false := by
    refine ⟨_, _, rfl, ?_, rfl, rfl⟩
    intro l hl
    rcases List.mem_cons.mp hl with rfl | hl
    · exact ⟨rfl, rfl⟩
    · rw [List.mem_singleton.mp hl]
      exact ⟨rfl, rfl⟩
  have hadmits : ∀ (l : FacetLevel) (word : String), l.kind.hasNumbers = false →
      l.Admits (.text word) := fun l word h =>
    ⟨beq_self_eq_true word, fun hnumbers => absurd hnumbers (by rw [h]; decide)⟩
  have hshape : Shaped [kinds, cells] finchesAndOwls := by
    refine ⟨List.pairwise_pair.mpr ⟨by decide, by decide⟩, ?_⟩
    intro n hn
    rcases List.mem_cons.mp hn with rfl | hn
    · refine ⟨hadmits kinds _ hkinds, List.pairwise_singleton _ _, fun cell hcell => ?_⟩
      rw [List.mem_singleton.mp hcell]
      exact ⟨hadmits cells _ hcells, rfl⟩
    · rw [List.mem_singleton.mp hn]
      exact ⟨hadmits kinds _ hkinds, List.Pairwise.nil, fun cell hcell => (by cases hcell)⟩
  exact ⟨_, hplan, hbare, hshape, (assemblies_agree hplan hbare hshape 3).1⟩

end GeoFacet
