import GeoFacet.Proofs.Facet.Names
import GeoFacet.Search.Assembly
import GeoFacet.Sql.Assembly

/-!
# Trees of buckets as either backend sends them

The buckets of a request form a tree with one level for each level of the plan. A search sends it
nested: every bucket holds the list of the buckets inside it. The relational backend sends one list
of rows for each level; a row repeats the keys of all the buckets that its own one lies in, and the
rows below different buckets may come in any order.
-/

namespace GeoFacet

/-! ## Trees -/

/-- A number of a document. -/
inductive Number where
  | whole (n : Int)
  | double (x : Float)

def Number.toJson : Number → Json
  | whole n => .int n
  | double x => .float x

/-- The number as a double. -/
def Number.toFloat : Number → Float
  | whole n => Float.ofInt n
  | double x => x

/-- The borders of a box. -/
structure Borders where
  west : Number
  south : Number
  east : Number
  north : Number

structure Place where
  lat : Number
  lon : Number

/-- What was computed in a bucket, by the names of sub-results. -/
structure Measures where
  number : String → Option Number
  box : String → Option Borders
  point : String → Option Place

/-- A bucket with the buckets inside it. -/
structure FacetNode where
  key : Json
  count : Nat
  measures : Measures
  children : List FacetNode

namespace FacetKind

/-- Whether the keys of the buckets are numbers. -/
def hasNumbers : FacetKind → Bool
  | .dateHistogram .. | .histogram _ => true
  | _ => false

end FacetKind

/-- The key is a value of a document, a number where the level asks for one. -/
structure FacetLevel.Admits (l : FacetLevel) (key : Json) : Prop where
  self : (key == key) = true
  number : l.kind.hasNumbers → ∃ x : Number, key = x.toJson

/-- Two keys differ. -/
def Differ (a b : FacetNode) : Prop := (a.key == b.key) = false ∧ (b.key == a.key) = false

/-- The trees have one level for each of the plan, and siblings differ in their keys. -/
def Shaped : List FacetLevel → List FacetNode → Prop
  | [], ns => ns = []
  | l :: below, ns =>
    ns.Pairwise Differ ∧ ∀ n ∈ ns, l.Admits n.key ∧ Shaped below n.children

/-! ## The buckets of a tree -/

/-- The value of a sub-result: a geometry if it was computed, or else a number or null. -/
def Measures.value? (measures : Measures) (s : SubResult) : Option Json :=
  match s.function with
  | .geoBBox => (measures.box s.name).map fun b => BoundingBox.polygonJson
      ⟨b.west.toFloat, b.south.toFloat, b.east.toFloat, b.north.toFloat⟩
  | .geoCentroid => (measures.point s.name).map fun p => pointJson p.lat.toFloat p.lon.toFloat
  | _ => some (.ofOption Number.toJson (measures.number s.name))

namespace FacetNode

/-- A bucket without what is inside it. -/
def bucketAlone (l : FacetLevel) (n : FacetNode) : Outcome Bucket := do
  let keyText ← l.keyText n.key
  let geometries ← l.geometriesOf n.key fun g => n.measures.value?
    ⟨Search.Aggregation.geometryFunction g, aggregatedGeometryName g⟩
  .ok {
    name := some l.name
    key := some n.key
    keyText := keyText
    count := some n.count
    metrics := l.metrics.map fun m =>
      FacetLevel.metricValue m ((n.measures.value? ⟨m.function, m.sourceName⟩).getD .null)
    geometries := geometries }

/-- The buckets of some levels. -/
def buckets : List FacetLevel → List FacetNode → Outcome (List Bucket)
  | [], _ => .ok []
  | l :: below, ns => ns.mapM fun n => do
    let bucket ← n.bucketAlone l
    match below.head? with
    | none => .ok bucket
    | some child =>
      let children ← buckets below n.children
      .ok { bucket with otherCount := child.otherCount none, children := children }

/-- The tree of a response. -/
def response (plan : FacetPlan) (total : Nat) (tree : List FacetNode) : Outcome Bucket := do
  let first ← orRefuse .noFacet plan.levels.head?
  let children ← buckets plan.levels tree
  .ok {
    name := some first.name
    total := some total
    otherCount := first.otherCount none
    children := children }

end FacetNode

/-! ## Nested buckets -/

namespace Search

/-- The sub-result of a function; a value that is missing is null, or its member is left out. -/
def subResult (measures : Measures) (s : SubResult) : Json :=
  match s.function with
  | .geoBBox => .ofPresent [("bounds", (measures.box s.name).map fun b => .ofMembers [
      ("top_left", .ofMembers [("lat", b.north.toJson), ("lon", b.west.toJson)]),
      ("bottom_right", .ofMembers [("lat", b.south.toJson), ("lon", b.east.toJson)])])]
  | .geoCentroid => .ofPresent [("location", (measures.point s.name).map fun p =>
      .ofMembers [("lat", p.lat.toJson), ("lon", p.lon.toJson)])]
  | _ => .ofMembers [("value", .ofOption Number.toJson (measures.number s.name))]

/-- The list of the buckets of a level. -/
def container (items : List Json) : Json := .ofMembers [("buckets", .list items)]

/-- The members of a bucket; the next level comes last. -/
def itemMembers (l : FacetLevel) (n : FacetNode) (inside : Option (String × Json)) :
    List (String × Json) :=
  ("key", n.key) :: ("doc_count", .ofNat n.count) ::
    l.subResults.map (fun s => (s.name, subResult n.measures s)) ++ inside.toList

/-- The bucket of the first of some levels, with those of the others inside. -/
def item : List FacetLevel → FacetNode → Json
  | [], _ => .null
  | l :: below, n => .ofMembers (itemMembers l n
    (below.head?.map fun child => (child.name, container (n.children.map (item below)))))

/-- The member of a bucket that holds the next level. -/
def inside (below : List FacetLevel) (n : FacetNode) : Option (String × Json) :=
  below.head?.map fun child => (child.name, container (n.children.map (item below)))

theorem item_cons (l : FacetLevel) (below : List FacetLevel) (n : FacetNode) :
    item (l :: below) n = .ofMembers (itemMembers l n (inside below n)) := rfl

/-- The result of a facet request. -/
def facetResult (plan : FacetPlan) (total : Nat) (tree : List FacetNode) : Json :=
  .ofMembers [
    ("hits", .ofMembers [("total", .ofMembers [("value", .ofNat total)])]),
    ("aggregations", .ofMembers (plan.levels.head?.map fun first =>
      (first.name, container (tree.map (item plan.levels)))).toList)]

end Search

/-! ## Rows -/

namespace Sql

/-- The columns of a sub-result; missing values are null. -/
def subColumns (measures : Measures) (s : SubResult) : List (String × Json) :=
  let number (x : Option Number) : Json := .ofOption Number.toJson x
  match s.function with
  | .geoBBox =>
    let b := measures.box s.name
    [(Column.westName s.name, number (b.map Borders.west)),
      (Column.southName s.name, number (b.map Borders.south)),
      (Column.eastName s.name, number (b.map Borders.east)),
      (Column.northName s.name, number (b.map Borders.north))]
  | .geoCentroid =>
    let p := measures.point s.name
    [(Column.lonName s.name, number (p.map Place.lon)),
      (Column.latName s.name, number (p.map Place.lat))]
  | _ => [(s.name, number (measures.number s.name))]

/-- The columns of the keys, the outermost first. -/
def keyColumns (keys : List Json) : List (String × Json) :=
  keys.zipIdx.map fun (k, depth) => (keyName depth, k)

/-- The columns of a bucket below the buckets with the given keys. -/
def rowColumns (l : FacetLevel) (above : List Json) (n : FacetNode) : List (String × Json) :=
  keyColumns (above ++ [n.key]) ++ (countName, .ofNat n.count) ::
    l.subResults.flatMap (subColumns n.measures)

def facetRow (l : FacetLevel) (above : List Json) (n : FacetNode) : Row :=
  (Json.ofMembers (rowColumns l above n)).members

/-- Sibling buckets, with the keys of the buckets that they lie in. -/
abbrev Group := List Json × List FacetNode

/-- The siblings at a depth of some trees. -/
def groupsAt (tree : List FacetNode) : Nat → List Group
  | 0 => [([], tree)]
  | depth + 1 => (groupsAt tree depth).flatMap fun (above, ns) =>
      ns.map fun n => (above ++ [n.key], n.children)

/-- The rows of groups. -/
def groupRows (l : FacetLevel) (groups : List Group) : List Row :=
  groups.flatMap fun (above, ns) => ns.map (facetRow l above)

/-- The rows tell the tree: for each level one list, in which the groups come in any order. -/
structure Tells (rows : Rows) (plan : FacetPlan) (total : Nat) (tree : List FacetNode) : Prop where
  total : rows.lookup Purpose.count.name = some [[(totalName, .ofNat total)]]
  level : ∀ (depth : Nat) (l : FacetLevel), plan.levels[depth]? = some l →
    ∃ groups, groups.Perm (groupsAt tree depth) ∧
      rows.lookup (Purpose.level depth).name = some (groupRows l groups)

/-- The rows of a tree, the groups of every level in the order of the level above. -/
def facetRows (plan : FacetPlan) (total : Nat) (tree : List FacetNode) : Rows :=
  (Purpose.count.name, [[(totalName, .ofNat total)]]) ::
    plan.levels.zipIdx.map fun (l, depth) =>
      ((Purpose.level depth).name, groupRows l (groupsAt tree depth))

end Sql

end GeoFacet
