import GeoFacet.Proofs.Facet.Nodes

/-!
# How a tree grows from a result

Both backends build a bucket from a part of the native result, put the buckets of the next level
into it, and note how many documents were left out of those. A search nests the parts, and the
relational backend finds them by their keys. Seen from the tree this is the same: there is a part of
the result at every address, and the node at the address is the bucket of that part with something
inside (`Grown.at?`).
-/

namespace GeoFacet

/-- The count of left-out documents above the buckets of a level. Only levels of terms have one, and
the relational backend leaves nothing out. -/
structure LeftOut (kind : BackendKind) (child : Option FacetLevel) (count : Option Nat) : Prop where
  isSome_iff : count.isSome = true ↔ ∃ l, child = some l ∧ l.type = .term
  eq_zero : kind = .sql → ∀ n, count = some n → n = 0

theorem leftOut_none (kind : BackendKind) : LeftOut kind none none := ⟨by simp, by simp⟩

theorem leftOut_otherCount {kind : BackendKind} (child : FacetLevel) {tracked : Option Nat}
    (h : kind = .sql → tracked = none) : LeftOut kind (some child) (child.otherCount tracked) where
  isSome_iff := by
    rw [FacetLevel.otherCount]
    split <;> simp_all
  eq_zero := by
    intro hkind n hn
    rw [FacetLevel.otherCount, h hkind] at hn
    split at hn <;> cases hn
    rfl

namespace Bucket

/-- The node is a bucket with something inside. -/
def Around (bucket node : Bucket) : Prop :=
  node = { bucket with otherCount := node.otherCount, children := node.children }

theorem around_refl (b : Bucket) : b.Around b := by
  cases b
  rfl

variable {σ : Type} {kind : BackendKind} {build : FacetLevel → σ → Outcome Bucket}

/-- Trees grow from the parts at their addresses: a node is built from its part, and what is inside
it grows from the parts below. An address is given by its first position and the others. -/
def Grown (kind : BackendKind) (build : FacetLevel → σ → Outcome Bucket) :
    List FacetLevel → (Nat → List Nat → Option σ) → List Bucket → Prop
  | [], _, bs => bs = []
  | l :: below, part, bs => ∀ i b, bs[i]? = some b →
      (∃ p bucket, part i [] = some p ∧ build l p = .ok bucket ∧ bucket.Around b) ∧
        LeftOut kind below.head? b.otherCount ∧
        Grown kind build below (fun j address => part i (j :: address)) b.children

/-- **A node is built from the part at its address.** It has a count of left-out documents and
children as the next level asks. -/
theorem Grown.at? {levels : List FacetLevel} {part : Nat → List Nat → Option σ}
    {tree node : Bucket} (h : Grown kind build levels part tree.children) {i : Nat}
    {address : List Nat} (hnode : tree.at? (i :: address) = some node) :
    (∃ l p bucket, levels[address.length]? = some l ∧ part i address = some p ∧
        build l p = .ok bucket ∧ bucket.Around node) ∧
      LeftOut kind levels[address.length + 1]? node.otherCount ∧
      (node.children ≠ [] → address.length + 1 < levels.length) := by
  induction address generalizing levels part tree i with
  | nil =>
    obtain ⟨child, hchild, hnode⟩ := Option.bind_eq_some_iff.mp hnode
    cases hnode
    cases levels with
    | nil =>
      rw [Grown] at h
      simp [h] at hchild
    | cons l below =>
      obtain ⟨⟨p, bucket, hp, hbuild, haround⟩, hleft, hbelow⟩ := h i node hchild
      refine ⟨⟨l, p, bucket, rfl, hp, hbuild, haround⟩, ?_, fun hne => ?_⟩
      · rwa [List.length_nil, List.getElem?_cons_succ, ← List.head?_eq_getElem?]
      · cases below with
        | nil => exact absurd hbelow hne
        | cons next rest => simp
  | cons j address ih =>
    obtain ⟨child, hchild, hnode⟩ := Option.bind_eq_some_iff.mp hnode
    cases levels with
    | nil =>
      rw [Grown] at h
      simp [h] at hchild
    | cons l below =>
      obtain ⟨-, -, hbelow⟩ := h i child hchild
      obtain ⟨hbuilt, hleft, hinside⟩ := ih hbelow hnode
      exact ⟨hbuilt, hleft, fun hne => Nat.succ_lt_succ (hinside hne)⟩

/-- What is built for a level holds of all its nodes. -/
theorem Grown.formed {P : FacetLevel → Bucket → Prop}
    (hP : ∀ l p bucket node, build l p = .ok bucket → bucket.Around node → P l node)
    {levels : List FacetLevel} {part : Nat → List Nat → Option σ} {bs : List Bucket}
    (h : Grown kind build levels part bs) : Formed P levels bs := by
  induction levels generalizing part bs with
  | nil => exact h
  | cons l below ih =>
    intro b hb
    obtain ⟨i, hi⟩ := List.mem_iff_getElem?.mp hb
    obtain ⟨⟨p, bucket, -, hbuild, haround⟩, -, hbelow⟩ := h i b hi
    exact ⟨hP l p bucket b hbuild haround, ih hbelow⟩

end Bucket

theorem Outcome.exists_of_getElem?_mapM {α β : Type} {f : α → Outcome β} {xs : List α}
    {ys : List β} (h : xs.mapM f = .ok ys) {i : Nat} {y : β} (hy : ys[i]? = some y) :
    ∃ x, xs[i]? = some x ∧ f x = .ok y := by
  obtain ⟨hlength, hitems⟩ := List.forall₂_iff_get.mp (mapM_eq_ok.mp h)
  obtain ⟨hi, rfl⟩ := List.getElem?_eq_some_iff.mp hy
  exact ⟨_, List.getElem?_eq_getElem (hlength ▸ hi), hitems i (hlength ▸ hi) hi⟩

/-! ## Nested buckets -/

namespace Search

/-- The item at an address: buckets stand in containers, and an item holds the container of the next
level under its name. -/
def itemAt? : List FacetLevel → Json → Nat → List Nat → Option Json
  | [], _, _, _ => none
  | _ :: below, container, i, address => do
    let item ← (← (container.member "buckets").asList?)[i]?
    match address, below.head? with
    | [], _ => some item
    | j :: address, some child => itemAt? below (← item.get? child.name) j address
    | _ :: _, none => none

/-- The container of the first level. -/
def container? (plan : FacetPlan) (result : Json) : Option Json :=
  plan.levels.head?.bind fun first => (result.member "aggregations").get? first.name

/-- The item of a result that the node at an address is built from. -/
def partAt? (plan : FacetPlan) (result : Json) (i : Nat) (address : List Nat) : Option Json :=
  (container? plan result).bind fun container => itemAt? plan.levels container i address

theorem otherCount_bucketAlone {c : Collection} {l : FacetLevel} {item : Json} {b : Bucket}
    (h : bucketAlone c l item = .ok b) : b.otherCount = none := by
  obtain ⟨keyText, -, h⟩ := Outcome.bind_eq_ok.mp h
  obtain ⟨geometries, -, h⟩ := Outcome.bind_eq_ok.mp h
  cases h
  rfl

theorem grown_buckets {c : Collection} {levels : List FacetLevel} {container : Json}
    {bs : List Bucket} (h : buckets c levels container = .ok bs) :
    Bucket.Grown .search (bucketAlone c) levels (itemAt? levels container) bs := by
  induction levels generalizing container bs with
  | nil =>
    cases h
    rfl
  | cons l below ih =>
    obtain ⟨items, hitems, h⟩ := Outcome.bind_eq_ok.mp h
    rw [Outcome.orRefuse_eq_ok] at hitems
    intro i b hb
    obtain ⟨item, hitem, hbuild⟩ := Outcome.exists_of_getElem?_mapM h hb
    obtain ⟨alone, halone, hbuild⟩ := Outcome.bind_eq_ok.mp hbuild
    have hpart : itemAt? (l :: below) container i [] = some item := by
      simp [itemAt?, hitems, hitem]
    cases below with
    | nil =>
      cases hbuild
      have hcount := otherCount_bucketAlone halone
      exact ⟨⟨item, b, hpart, halone, Bucket.around_refl b⟩, hcount ▸ leftOut_none _,
        (alone_bucketAlone halone).children⟩
    | cons child rest =>
      obtain ⟨inside, hinside, hbuild⟩ := Outcome.bind_eq_ok.mp hbuild
      obtain ⟨children, hchildren, hbuild⟩ := Outcome.bind_eq_ok.mp hbuild
      rw [Outcome.orRefuse_eq_ok] at hinside
      cases hbuild
      -- What an address leads to inside of the item is what it leads to from the child container.
      have hbelow : (fun j address => itemAt? (l :: child :: rest) container i (j :: address)) =
          itemAt? (child :: rest) inside := by
        funext j address
        rw [itemAt?]
        simp [hitems, hitem, hinside]
      refine ⟨⟨item, alone, hpart, halone, rfl⟩, leftOut_otherCount child (by simp), ?_⟩
      rw [hbelow]
      exact ih hchildren

theorem grown_assembleFacets {c : Collection} {plan : FacetPlan} {result : Json} {tree : Bucket}
    (h : assembleFacets c plan result = .ok tree) :
    Bucket.Grown .search (bucketAlone c) plan.levels (partAt? plan result) tree.children ∧
      LeftOut .search plan.levels.head? tree.otherCount := by
  obtain ⟨first, hfirst, h⟩ := Outcome.bind_eq_ok.mp h
  obtain ⟨container, hcontainer, h⟩ := Outcome.bind_eq_ok.mp h
  obtain ⟨children, hchildren, h⟩ := Outcome.bind_eq_ok.mp h
  rw [Outcome.orRefuse_eq_ok] at hfirst hcontainer
  cases h
  have hpart : partAt? plan result = itemAt? plan.levels container := by
    funext i address
    simp [partAt?, container?, hfirst, hcontainer]
  rw [hpart, hfirst]
  exact ⟨grown_buckets hchildren, leftOut_otherCount first (by simp)⟩

end Search

/-! ## Rows -/

namespace Sql

/-- The row at an address: the rows of a level below some keys are those that begin with them. -/
def rowAt? (rows : Rows) (above : List FacetLevel) (keys : List Json) :
    List FacetLevel → Nat → List Nat → Option Row
  | [], _, _ => none
  | l :: below, i, address => do
    let sent ← rows.lookup (Purpose.level l.depth).name
    let row ← (sent.filter fun row => above.map row.key == keys)[i]?
    match address with
    | [] => some row
    | j :: address => rowAt? rows (above ++ [l]) (keys ++ [row.key l]) below j address

/-- The row that the node at an address is built from. -/
def partAt? (plan : FacetPlan) (rows : Rows) : Nat → List Nat → Option Row :=
  rowAt? rows [] [] plan.levels

theorem otherCount_bucketAlone {l : FacetLevel} {row : Row} {b : Bucket}
    (h : bucketAlone l row = .ok b) : b.otherCount = none := by
  obtain ⟨keyText, -, h⟩ := Outcome.bind_eq_ok.mp h
  obtain ⟨geometries, -, h⟩ := Outcome.bind_eq_ok.mp h
  cases h
  rfl

theorem grown_buckets {rows : Rows} {levels above : List FacetLevel} {keys : List Json}
    {bs : List Bucket} (h : buckets rows above keys levels = .ok bs) :
    Bucket.Grown .sql bucketAlone levels (rowAt? rows above keys levels) bs := by
  induction levels generalizing above keys bs with
  | nil =>
    cases h
    rfl
  | cons l below ih =>
    obtain ⟨sent, hsent, h⟩ := Outcome.bind_eq_ok.mp h
    rw [Rows.ofPurpose, Outcome.orRefuse_eq_ok] at hsent
    intro i b hb
    obtain ⟨row, hrow, hbuild⟩ := Outcome.exists_of_getElem?_mapM h hb
    obtain ⟨alone, halone, hbuild⟩ := Outcome.bind_eq_ok.mp hbuild
    have hpart : rowAt? rows above keys (l :: below) i [] = some row := by
      simp [rowAt?, hsent, hrow]
    -- Below a node the keys on the way to it are one longer.
    have hbelow : (fun j address => rowAt? rows above keys (l :: below) i (j :: address)) =
        rowAt? rows (above ++ [l]) (keys ++ [row.key l]) below := by
      funext j address
      rw [rowAt?]
      simp [hsent, hrow]
    cases below with
    | nil =>
      cases hbuild
      have hcount := otherCount_bucketAlone halone
      exact ⟨⟨row, b, hpart, halone, Bucket.around_refl b⟩, hcount ▸ leftOut_none _,
        (alone_bucketAlone halone).children⟩
    | cons child rest =>
      obtain ⟨children, hchildren, hbuild⟩ := Outcome.bind_eq_ok.mp hbuild
      cases hbuild
      refine ⟨⟨row, alone, hpart, halone, rfl⟩, leftOut_otherCount child (fun _ => rfl), ?_⟩
      rw [hbelow]
      exact ih hchildren

theorem grown_assembleFacets {plan : FacetPlan} {rows : Rows} {tree : Bucket}
    (h : assembleFacets plan rows = .ok tree) :
    Bucket.Grown .sql bucketAlone plan.levels (partAt? plan rows) tree.children ∧
      LeftOut .sql plan.levels.head? tree.otherCount := by
  obtain ⟨first, hfirst, h⟩ := Outcome.bind_eq_ok.mp h
  obtain ⟨total, -, h⟩ := Outcome.bind_eq_ok.mp h
  obtain ⟨children, hchildren, h⟩ := Outcome.bind_eq_ok.mp h
  rw [Outcome.orRefuse_eq_ok] at hfirst
  cases h
  rw [hfirst]
  exact ⟨grown_buckets hchildren, leftOut_otherCount first (fun _ => rfl)⟩

end Sql

end GeoFacet
