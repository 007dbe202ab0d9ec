import GeoFacet.Proofs.Facet.Shape
import GeoFacet.Proofs.Json.Members

/-!
# Rows of flattened trees

Flattening makes one row for each leaf of a tree, and the row holds the columns of all nodes on the
way to the leaf. A column that is there already would be replaced, so nothing is lost only because
no two columns have the same name. Every column of a node begins with the name of its level and an
underscore: the names of levels differ in their depths, and the underscore ends the digits of the
depth. What follows tells the key, the count and the metrics of one node apart.

Main statement: `flatten_of_compile`.
-/

namespace GeoFacet

namespace Bucket

/-! ## Ways to the leaves -/

/-- The nodes on the way to an address. The node that the address starts from is not one of them. -/
def path : Bucket → List Nat → List Bucket
  | _, [] => []
  | b, i :: address =>
    match b.children[i]? with
    | some child => child :: child.path address
    | none => []

theorem path_cons {b child : Bucket} {i : Nat} (h : b.children[i]? = some child)
    (address : List Nat) : b.path (i :: address) = child :: child.path address := by
  rw [path, h]

/-- What stands on a way at a depth is the node at the beginning of the address. -/
theorem at?_of_getElem?_path {b node : Bucket} {address : List Nat} {depth : Nat}
    (h : (b.path address)[depth]? = some node) :
    b.at? (address.take (depth + 1)) = some node ∧ depth < address.length := by
  induction address generalizing b depth with
  | nil => cases h
  | cons i address ih =>
    cases hchild : b.children[i]? with
    | none => simp [path, hchild] at h
    | some child =>
      rw [path_cons hchild] at h
      rw [List.take_succ_cons, at?, hchild]
      cases depth with
      | zero =>
        cases h
        exact ⟨rfl, Nat.succ_pos _⟩
      | succ depth =>
        obtain ⟨hnode, hdepth⟩ := ih h
        exact ⟨hnode, Nat.succ_lt_succ hdepth⟩

mutual

/-- The addresses of the leaves of a node, depth first; a leaf has itself as its only one. -/
def leaves : Bucket → List (List Nat)
  | ⟨_, _, _, _, _, _, _, _, _, _, children⟩ =>
    if children.isEmpty then [[]] else leavesFrom 0 children

/-- The addresses of the leaves of siblings, the first of which is at position `i`. -/
def leavesFrom (i : Nat) : List Bucket → List (List Nat)
  | [] => []
  | b :: rest => b.leaves.map (i :: ·) ++ leavesFrom (i + 1) rest

end

theorem leaves_eq (b : Bucket) :
    b.leaves = if b.children.isEmpty then [[]] else leavesFrom 0 b.children := by
  cases b
  rw [leaves]

theorem mem_leavesFrom {i : Nat} {bs : List Bucket} {address : List Nat} :
    address ∈ leavesFrom i bs ↔
      ∃ j child below, bs[j]? = some child ∧ below ∈ child.leaves ∧
        address = (i + j) :: below := by
  induction bs generalizing i with
  | nil => simp [leavesFrom]
  | cons b rest ih =>
    have hshift (j : Nat) : i + 1 + j = i + (j + 1) := by omega
    simp only [leavesFrom, List.mem_append, List.mem_map, ih, hshift]
    constructor
    · rintro (⟨below, hbelow, rfl⟩ | ⟨j, child, below, hchild, hbelow, rfl⟩)
      · exact ⟨0, b, below, rfl, hbelow, rfl⟩
      · exact ⟨j + 1, child, below, hchild, hbelow, rfl⟩
    · rintro ⟨j, child, below, hchild, hbelow, rfl⟩
      cases j with
      | zero =>
        cases hchild
        exact .inl ⟨below, hbelow, rfl⟩
      | succ j => exact .inr ⟨j, child, below, hchild, hbelow, rfl⟩

theorem nil_notMem_leavesFrom (i : Nat) (bs : List Bucket) : [] ∉ leavesFrom i bs := by
  simp [mem_leavesFrom]

theorem cons_mem_leavesFrom {bs : List Bucket} {i : Nat} {address : List Nat} :
    i :: address ∈ leavesFrom 0 bs ↔ ∃ child, bs[i]? = some child ∧ address ∈ child.leaves := by
  rw [mem_leavesFrom]
  constructor
  · rintro ⟨j, child, below, hchild, hbelow, heq⟩
    obtain ⟨rfl, rfl⟩ := List.cons.inj heq
    exact ⟨child, by rwa [Nat.zero_add], hbelow⟩
  · rintro ⟨child, hchild, hbelow⟩
    exact ⟨i, child, address, hchild, hbelow, by rw [Nat.zero_add]⟩

/-- The address is that of a leaf. -/
def IsLeaf (tree : Bucket) (address : List Nat) : Prop :=
  ∃ leaf, tree.at? address = some leaf ∧ leaf.children = []

theorem isLeaf_nil {b : Bucket} : b.IsLeaf [] ↔ b.children = [] := by
  simp [IsLeaf, at?]

theorem isLeaf_cons {b : Bucket} {i : Nat} {address : List Nat} :
    b.IsLeaf (i :: address) ↔ ∃ child, b.children[i]? = some child ∧ child.IsLeaf address := by
  simp only [IsLeaf, at?, Option.bind_eq_some_iff]
  constructor
  · rintro ⟨leaf, ⟨child, hchild, hleaf⟩, hempty⟩
    exact ⟨child, hchild, leaf, hleaf, hempty⟩
  · rintro ⟨child, hchild, leaf, hleaf, hempty⟩
    exact ⟨leaf, ⟨child, hchild, hleaf⟩, hempty⟩

theorem mem_leaves {b : Bucket} {address : List Nat} :
    address ∈ b.leaves ↔ b.IsLeaf address := by
  induction address generalizing b with
  | nil =>
    rw [leaves_eq, isLeaf_nil]
    split
    · rename_i hempty
      simp [List.isEmpty_iff.mp hempty]
    · rename_i hchildren
      exact iff_of_false (nil_notMem_leavesFrom 0 _) (by simpa using hchildren)
  | cons i address ih =>
    rw [leaves_eq, isLeaf_cons]
    split
    · rename_i hempty
      simp [List.isEmpty_iff.mp hempty]
    · simp only [cons_mem_leavesFrom, ih]

/-- The leaves below the root: the root is none, also where nothing is below it. -/
theorem mem_leavesFrom_children {tree : Bucket} {address : List Nat} :
    address ∈ leavesFrom 0 tree.children ↔ address ≠ [] ∧ tree.IsLeaf address := by
  cases address with
  | nil => simp [nil_notMem_leavesFrom]
  | cons i address => simp [cons_mem_leavesFrom, isLeaf_cons, mem_leaves]

mutual

/-- Depth first is the lexicographic order of addresses. -/
theorem pairwise_leaves : ∀ b : Bucket, b.leaves.Pairwise (· < ·)
  | ⟨_, _, _, _, _, _, _, _, _, _, children⟩ => by
    rw [leaves]
    split
    · exact List.pairwise_singleton _ _
    · exact pairwise_leavesFrom 0 children

theorem pairwise_leavesFrom (i : Nat) : ∀ bs : List Bucket, (leavesFrom i bs).Pairwise (· < ·)
  | [] => .nil
  | b :: rest => by
    rw [leavesFrom, List.pairwise_append]
    refine ⟨?_, pairwise_leavesFrom (i + 1) rest, fun first hfirst later hlater => ?_⟩
    · exact List.pairwise_map.mpr ((pairwise_leaves b).imp List.Lex.cons)
    · obtain ⟨below, -, rfl⟩ := List.mem_map.mp hfirst
      obtain ⟨j, child, below', -, -, rfl⟩ := mem_leavesFrom.mp hlater
      exact List.Lex.rel (by omega)

end

mutual

/-- The rows of a node: each has what was there, and the columns of the nodes on its way. -/
theorem rowsFrom_eq (row : List (String × Json)) : ∀ b : Bucket,
    rowsFrom row b = b.leaves.map fun address =>
      extend row ((b :: b.path address).flatMap columns)
  | ⟨name, key, keyText, count, otherCount, total, queryTime, metrics, geometries, hits,
      children⟩ => by
    rw [rowsFrom, leaves]
    split
    · simp [path, columns]
    · rw [rowsFromList_eq _ ⟨name, key, keyText, count, otherCount, total, queryTime, metrics,
        geometries, hits, children⟩ 0 children rfl]
      refine List.map_congr_left fun address _ => ?_
      rw [List.flatMap_cons, extend, extend, extend, List.foldl_append]
      rfl

/-- The rows of the last children of a node, from position `i` on. -/
theorem rowsFromList_eq (row : List (String × Json)) (b : Bucket) (i : Nat) :
    ∀ bs : List Bucket, b.children.drop i = bs →
      rowsFromList row bs = (leavesFrom i bs).map fun address =>
        extend row ((b.path address).flatMap columns)
  | [], _ => rfl
  | child :: rest, h => by
    have hchild : b.children[i]? = some child := by rw [← List.head?_drop, h, List.head?_cons]
    have hrest : b.children.drop (i + 1) = rest := by rw [← List.tail_drop, h, List.tail_cons]
    rw [rowsFromList, leavesFrom, List.map_append, List.map_map, rowsFrom_eq row child,
      rowsFromList_eq row b (i + 1) rest hrest]
    congr 1
    exact List.map_congr_left fun address _ => by rw [Function.comp_apply, path_cons hchild]

end

theorem flatten_eq (tree : Bucket) :
    tree.flatten = (leavesFrom 0 tree.children).map fun address =>
      extend [] ((tree.path address).flatMap columns) :=
  rowsFromList_eq [] tree 0 tree.children List.drop_zero

/-! ## Columns that stay apart -/

/-- What keeps the columns of a node apart: it is named after its depth, it has a key and a count,
and its metrics have columns of their own. -/
structure Labelled (depth : Nat) (node : Bucket) : Prop where
  name : ∃ word ∈ FacetLevel.levelWords, node.name = some (word ++ toString depth)
  key : node.key.isSome = true
  count : node.count.isSome = true
  metrics : (node.metrics.map MetricValue.column).Nodup

/-- The columns that a row shows of a node: its key, its count, and the values of its metrics, each
under the name of its function and its field. -/
def Shows (node : Bucket) (shown : List (String × Json)) : Prop :=
  ∃ name key count, node.name = some name ∧ node.key = some key ∧ node.count = some count ∧
    shown = (name ++ "_key", key) :: (name ++ "_count", .ofNat count) ::
      node.metrics.map fun m => (name ++ "_" ++ metricName m.function m.field, m.value)

/-- A row holds what is to be shown of each node on a way, every column under a name of its own. -/
structure Gathers (path : List Bucket) (row : List (String × Json)) : Prop where
  columns : ∃ shown, List.Forall₂ Shows path shown ∧ row.Perm shown.flatten
  distinct : (row.map Prod.fst).Nodup
  length_eq : row.length = (path.map fun node => 2 + node.metrics.length).sum

/-- What the columns of a node begin with. -/
def columnPrefix (node : Bucket) : String := node.name.getD "bucket" ++ "_"

namespace Labelled

variable {depth : Nat} {node : Bucket}

theorem shows (h : Labelled depth node) : Shows node node.columns := by
  obtain ⟨word, -, hname⟩ := h.name
  obtain ⟨key, hkey⟩ := Option.isSome_iff_exists.mp h.key
  obtain ⟨count, hcount⟩ := Option.isSome_iff_exists.mp h.count
  refine ⟨_, key, count, hname, hkey, hcount, ?_⟩
  rw [columns, hname, hkey, hcount]
  rfl

theorem names_columns (h : Labelled depth node) :
    node.columns.map Prod.fst = ("key" :: "count" :: node.metrics.map MetricValue.column).map
      (node.columnPrefix ++ ·) := by
  obtain ⟨name, key, count, hname, -, -, hcolumns⟩ := h.shows
  rw [hcolumns, columnPrefix, hname]
  simp [String.append_assoc, MetricValue.column, metricName]

/-- What follows the prefix tells the columns of a node apart. -/
theorem nodup_endings (h : Labelled depth node) :
    ("key" :: "count" :: node.metrics.map MetricValue.column).Nodup := by
  have hmetrics : Text.Block (SubResult.beginnings.map Prod.fst)
      (node.metrics.map MetricValue.column) := by
    refine ⟨h.metrics, fun column hcolumn => ?_⟩
    obtain ⟨m, -, rfl⟩ := List.mem_map.mp hcolumn
    exact (SubResult.named_metric m.function m.field).beginsWith
  have hapart : [["key"], ["count"], SubResult.beginnings.map Prod.fst].Pairwise
      fun vs ws => ∀ v ∈ vs, ∀ w ∈ ws, Text.Apart v w := by decide
  have hnames : "key" :: "count" :: node.metrics.map MetricValue.column =
      [(["key"], ["key"]), (["count"], ["count"]),
        (SubResult.beginnings.map Prod.fst, node.metrics.map MetricValue.column)].flatMap
        Prod.snd := by
    simp
  rw [hnames]
  refine Text.nodup_blocks hapart ?_
  simp only [List.forall_mem_cons]
  exact ⟨.self (List.nodup_singleton _), .self (List.nodup_singleton _), hmetrics,
    fun _ hb => (by cases hb)⟩

/-- The columns of a node are told by its prefix. -/
theorem block_columns (h : Labelled depth node) :
    Text.Block [node.columnPrefix] (node.columns.map Prod.fst) where
  distinct := by
    rw [h.names_columns]
    exact h.nodup_endings.map fun v w heq => (String.append_right_inj _).mp heq
  begins := by
    intro name hname
    rw [h.names_columns] at hname
    obtain ⟨ending, -, rfl⟩ := List.mem_map.mp hname
    exact ⟨_, List.mem_singleton.mpr rfl, ending, rfl⟩

theorem length_columns (h : Labelled depth node) :
    node.columns.length = 2 + node.metrics.length := by
  obtain ⟨name, key, count, -, -, -, hcolumns⟩ := h.shows
  rw [hcolumns, List.length_cons, List.length_cons, List.length_map, Nat.add_comm 2]

/-- The prefixes of nodes at different depths are apart. -/
theorem apart_columnPrefix {depth' : Nat} {node' : Bucket} (h : Labelled depth node)
    (h' : Labelled depth' node') (hne : depth ≠ depth') :
    Text.Apart node.columnPrefix node'.columnPrefix := by
  obtain ⟨word, hword, hname⟩ := h.name
  obtain ⟨word', hword', hname'⟩ := h'.name
  rw [columnPrefix, columnPrefix, hname, hname', Option.getD_some, Option.getD_some]
  rcases FacetLevel.apart_levelWords word hword word' hword' with rfl | hapart
  · exact Text.apart_numbered word hne
  · rw [String.append_assoc, String.append_assoc]
    exact hapart.append

end Labelled

/-- The nodes on a way, each of which is labelled with its depth. -/
def LabelledPath (path : List Bucket) : Prop :=
  ∀ depth node, path[depth]? = some node → Labelled depth node

namespace LabelledPath

variable {path : List Bucket}

theorem exists_labelled (h : LabelledPath path) {node : Bucket} (hnode : node ∈ path) :
    ∃ depth, Labelled depth node := by
  obtain ⟨depth, hdepth⟩ := List.mem_iff_getElem?.mp hnode
  exact ⟨depth, h depth node hdepth⟩

/-- No column of a node on a way has the name of another. -/
theorem nodup_columns (h : LabelledPath path) : ((path.flatMap columns).map Prod.fst).Nodup := by
  -- each node has a block of columns, told by its prefix
  let blocks := path.map fun node => ([node.columnPrefix], node.columns.map Prod.fst)
  have hapart : (blocks.map Prod.fst).Pairwise fun vs ws => ∀ v ∈ vs, ∀ w ∈ ws, Text.Apart v w := by
    rw [List.map_map, List.pairwise_map, List.pairwise_iff_getElem]
    intro i j hi hj hlt
    simp only [Function.comp_apply, List.mem_singleton, forall_eq]
    exact (h i _ (List.getElem?_eq_getElem hi)).apart_columnPrefix
      (h j _ (List.getElem?_eq_getElem hj)) (Nat.ne_of_lt hlt)
  have hblocks : ∀ b ∈ blocks, Text.Block b.1 b.2 := by
    intro b hb
    obtain ⟨node, hnode, rfl⟩ := List.mem_map.mp hb
    obtain ⟨depth, hlabelled⟩ := h.exists_labelled hnode
    exact hlabelled.block_columns
  have hnodup := Text.nodup_blocks hapart hblocks
  rw [List.flatMap_map] at hnodup
  rwa [List.map_flatMap]

/-- A row that the nodes on a way put their columns into keeps all of them. -/
theorem gathers (h : LabelledPath path) : Gathers path (extend [] (path.flatMap columns)) := by
  have hperm : (extend [] (path.flatMap columns)).Perm (path.flatMap columns) :=
    Json.perm_members h.nodup_columns
  refine ⟨⟨path.map columns, ?_, by rwa [← List.flatMap_def]⟩,
    (hperm.map Prod.fst).nodup_iff.mpr h.nodup_columns, ?_⟩
  · refine List.forall₂_map_right_iff.mpr (List.forall₂_same.mpr fun node hnode => ?_)
    obtain ⟨depth, hlabelled⟩ := h.exists_labelled hnode
    exact hlabelled.shows
  · rw [hperm.length_eq, List.length_flatMap]
    refine congrArg List.sum (List.map_congr_left fun node hnode => ?_)
    obtain ⟨depth, hlabelled⟩ := h.exists_labelled hnode
    exact hlabelled.length_columns

end LabelledPath

end Bucket

/-! ## Assembled trees -/

/-- A node that has what a sound level asks for is labelled with the depth of the level. -/
theorem FacetLevel.Fits.labelled {kind : BackendKind} {l : FacetLevel}
    {value? : PlannedMetric → Option Json} {node : Bucket} (h : l.Fits kind value? node)
    {depth : Nat} (hsound : l.Sound depth) : node.Labelled depth where
  name := by
    obtain ⟨word, hword, hname⟩ := FacetLevel.exists_levelWord hsound
    exact ⟨word, hword, by rw [h.name, hname]⟩
  key := h.key
  count := h.count
  metrics := by
    have hnames : node.metrics.map MetricValue.column = l.metrics.map PlannedMetric.name := by
      rw [h.metrics, List.map_map]
      exact List.map_congr_left fun m hm => (hsound.metricNames m hm).symm
    rw [hnames]
    exact hsound.distinctMetrics

/-- **Flattening an assembled tree loses nothing**, whichever backend built it and whatever the
result holds. There is one row for each leaf, a node without children at whatever depth, and the
rows come in the order of the addresses of the leaves, which is depth first. The row of a leaf holds
the key, the count and the value of each metric of every node on the way to it, each in a column of
its own, so there are as many columns as there are such values. -/
theorem flatten_of_compile {c : Collection} {geo : Bool} {specs : List FacetSpec} {plan : FacetPlan}
    (h : FacetPlan.compile c geo specs = .ok plan) {kind : BackendKind}
    {native : (Backend.ofKind kind).Native} {tree : Bucket}
    (htree : (Backend.ofKind kind).assembleFacets c plan native = .ok tree) :
    ∃ addresses : List (List Nat), addresses.Pairwise (· < ·) ∧
      (∀ address, address ∈ addresses ↔ address ≠ [] ∧ tree.IsLeaf address) ∧
      List.Forall₂ (fun address row => Bucket.Gathers (tree.path address) row)
        addresses tree.flatten := by
  refine ⟨_, Bucket.pairwise_leavesFrom 0 tree.children, fun _ => Bucket.mem_leavesFrom_children,
    ?_⟩
  rw [Bucket.flatten_eq]
  refine List.forall₂_map_right_iff.mpr (List.forall₂_same.mpr fun address hleaf => ?_)
  refine Bucket.LabelledPath.gathers fun depth node hnode => ?_
  have hsound := FacetPlan.soundFrom_of_compile h
  obtain ⟨i, address, rfl⟩ :=
    List.exists_cons_of_ne_nil (Bucket.mem_leavesFrom_children.mp hleaf).1
  -- Every node of the path is a node of the tree, so it fits the level of its depth.
  obtain ⟨hat, hdepth⟩ := Bucket.at?_of_getElem?_path hnode
  rw [List.take_succ_cons] at hat
  obtain ⟨⟨l, hl, hfits⟩, -⟩ := Backend.fits_at? hsound.distinctGeometries htree hat
  rw [List.length_take_of_le (Nat.le_of_lt_succ hdepth)] at hl
  exact hfits.labelled (hsound.sound hl)

/-- The surveys of foxes, without months, and of otters in two months. -/
def foxesAndOtters : Json :=
  .object [("aggregations", .object [("term_0", .object [("buckets", .list [
    .object [
      ("datehistogram_1", .object [("buckets", .list [])]),
      ("doc_count", .int 2),
      ("key", .text "fox")],
    .object [
      ("datehistogram_1", .object [("buckets", .list [
        .object [("doc_count", .int 1), ("key", .int 0)],
        .object [("doc_count", .int 2), ("key", .int 2678400000)]])]),
      ("doc_count", .int 3),
      ("key", .text "otter")]])])])]

theorem flatten_of_compile_foxesAndOtters : ∃ plan tree addresses,
    FacetPlan.compile surveys true byWeightAndMonth = .ok plan ∧
      (Backend.ofKind .search).assembleFacets surveys plan foxesAndOtters = .ok tree ∧
      tree.flatten.map List.length = [4, 6, 6] ∧
      (∀ address, address ∈ addresses ↔ address ≠ [] ∧ tree.IsLeaf address) ∧
      List.Forall₂ (fun address row => Bucket.Gathers (tree.path address) row)
        addresses tree.flatten := by
  obtain ⟨plan, hplan, htree⟩ := Outcome.exists_of_any
    (o := FacetPlan.compile surveys true byWeightAndMonth)
    (p := fun plan => (Search.assembleFacets surveys plan foxesAndOtters).toOption.any
      fun tree => tree.flatten.map List.length = [4, 6, 6]) (by decide +kernel)
  obtain ⟨tree, htree, hlengths⟩ := Outcome.exists_of_any htree
  replace htree : (Backend.ofKind .search).assembleFacets surveys plan foxesAndOtters = .ok tree :=
    htree
  obtain ⟨addresses, -, hleaves, hrows⟩ := flatten_of_compile hplan htree
  exact ⟨plan, tree, addresses, hplan, htree, of_decide_eq_true hlengths, hleaves, hrows⟩

end GeoFacet
