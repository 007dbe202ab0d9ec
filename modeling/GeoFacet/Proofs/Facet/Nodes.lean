import GeoFacet.Backend
import GeoFacet.Proofs.Outcome
import GeoFacet.Search.Backend
import GeoFacet.Sql.Backend
import Mathlib.Data.Set.Basic

/-!
# The nodes of an assembled tree

A node is found at its address: the positions, among their siblings, of the nodes on the way to it.
What holds of every bucket of a level holds of every node at its depth (`Formed.at?`).
-/

namespace GeoFacet

namespace Bucket

/-- The node at an address. -/
def at? : Bucket → List Nat → Option Bucket
  | b, [] => some b
  | b, i :: address => b.children[i]?.bind fun child => child.at? address

/-- The addresses of the nodes at a depth; the children of the root are at depth zero. -/
def addresses (tree : Bucket) (depth : Nat) : Set (List Nat) :=
  {address | address.length = depth + 1 ∧ (tree.at? address).isSome}

theorem at?_concat (tree : Bucket) (address : List Nat) (i : Nat) :
    tree.at? (address ++ [i]) = (tree.at? address).bind fun node => node.children[i]? := by
  induction address generalizing tree with
  | nil => simp [at?]
  | cons j address ih =>
    rw [List.cons_append, at?, at?]
    cases tree.children[j]? with
    | none => rfl
    | some child => exact ih child

theorem at?_concat_eq_some {tree node : Bucket} {address : List Nat} {i : Nat} :
    tree.at? (address ++ [i]) = some node ↔
      ∃ parent, tree.at? address = some parent ∧ parent.children[i]? = some node := by
  rw [at?_concat, Option.bind_eq_some_iff]

/-- Every node of some trees is as its level asks, and none is below the last level. -/
def Formed (P : FacetLevel → Bucket → Prop) : List FacetLevel → List Bucket → Prop
  | [], bs => bs = []
  | l :: below, bs => ∀ b ∈ bs, P l b ∧ Formed P below b.children

/-- A node at a depth is as the level of that depth asks. -/
theorem Formed.at? {P : FacetLevel → Bucket → Prop} {levels : List FacetLevel} {tree node : Bucket}
    (h : Formed P levels tree.children) {address : List Nat} {depth : Nat}
    (hlength : address.length = depth + 1) (hnode : tree.at? address = some node) :
    ∃ l, levels[depth]? = some l ∧ P l node := by
  induction address generalizing levels tree depth with
  | nil => cases hlength
  | cons i address ih =>
    obtain ⟨child, hchild, hnode⟩ := Option.bind_eq_some_iff.mp hnode
    have hmem := List.mem_of_getElem? hchild
    cases levels with
    | nil =>
      rw [Formed] at h
      rw [h] at hmem
      cases hmem
    | cons l below =>
      obtain ⟨hl, hbelow⟩ := h child hmem
      cases address with
      | nil =>
        cases hlength
        cases hnode
        exact ⟨l, rfl, hl⟩
      | cons j address =>
        cases depth with
        | zero => cases hlength
        | succ depth => exact ih hbelow (Nat.succ.inj hlength) hnode

end Bucket

/-! ## Nested buckets -/

namespace Search

/-- What a bucket takes from its item. -/
structure Alone (l : FacetLevel) (item : Json) (b : Bucket) : Prop where
  metrics : b.metrics = l.metrics.map (metricOf item)
  children : b.children = []

theorem alone_bucketAlone {c : Collection} {l : FacetLevel} {item : Json} {b : Bucket}
    (h : bucketAlone c l item = .ok b) : Alone l item b := by
  obtain ⟨keyText, -, h⟩ := Outcome.bind_eq_ok.mp h
  obtain ⟨geometries, -, h⟩ := Outcome.bind_eq_ok.mp h
  cases h
  exact ⟨rfl, rfl⟩

end Search

/-! ## Rows -/

namespace Sql

/-- What a bucket takes from its row. -/
structure Alone (l : FacetLevel) (row : Row) (b : Bucket) : Prop where
  name : b.name = some l.name
  key : b.key = some (row.key l)
  count : b.count = some (((row.lookup countName).bind asCount?).getD 0)
  metrics : b.metrics = l.metrics.map row.metricOf
  children : b.children = []

theorem alone_bucketAlone {l : FacetLevel} {row : Row} {b : Bucket}
    (h : bucketAlone l row = .ok b) : Alone l row b := by
  obtain ⟨keyText, -, h⟩ := Outcome.bind_eq_ok.mp h
  obtain ⟨geometries, -, h⟩ := Outcome.bind_eq_ok.mp h
  cases h
  exact ⟨rfl, rfl, rfl, rfl, rfl⟩

end Sql

end GeoFacet
