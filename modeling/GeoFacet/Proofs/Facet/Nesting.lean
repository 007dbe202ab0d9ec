import GeoFacet.Proofs.Facet.Levels
import GeoFacet.Proofs.Facet.Nodes
import GeoFacet.Proofs.Json.Equality
import GeoFacet.Proofs.Text.Split
import GeoFacet.Proofs.Text.WholeNumber
import Mathlib.Data.List.Induction
import Mathlib.Data.Set.Function

/-!
# Nesting rows

The rows of a level come in one list, whatever buckets they lie in. The assembler finds below a node
the rows whose keys begin with the keys on the way to the node, its *trail*. If no two rows of a
level have the same keys, this loses nothing and repeats nothing: the nodes at a depth are one to
one with the rows that have all the buckets they lie in, and a row that lacks one appears nowhere.

Keys are compared as document values, so a key need not equal itself. What equals the trail of a
node is what equals the keys of its row (`Source.beq_trail_iff`), and this is all that the induction
over the depth asks for. At a level of numbers a number and its text are one key (`KeysRead`).

Main statement: `rows_nested`.
-/

namespace GeoFacet

/-- The keys on the way to an address. -/
def Bucket.trail : Bucket → List Nat → List Json
  | _, [] => []
  | b, i :: address =>
    match b.children[i]? with
    | some child => child.key.toList ++ child.trail address
    | none => []

theorem Bucket.trail_concat {tree parent node : Bucket} {address : List Nat} {i : Nat}
    (hparent : tree.at? address = some parent) (hnode : parent.children[i]? = some node) :
    tree.trail (address ++ [i]) = tree.trail address ++ node.key.toList := by
  induction address generalizing tree with
  | nil =>
    cases hparent
    simp [trail, hnode]
  | cons j address ih =>
    obtain ⟨child, hchild, hparent⟩ := Option.bind_eq_some_iff.mp hparent
    rw [List.cons_append, trail, trail, hchild]
    simp only
    rw [ih hparent, List.append_assoc]

namespace Sql

/-! ## Rows and the buckets they lie in -/

/-- The rows of the level at a depth; none where they were not sent. -/
def Rows.sent (rows : Rows) (depth : Nat) : List Row :=
  (rows.lookup (Purpose.level depth).name).getD []

namespace Row

/-- The keys of a row at the first `n` levels. -/
def keys (levels : List FacetLevel) (n : Nat) (row : Row) : List Json :=
  (levels.take n).map row.key

def count (row : Row) : Nat := ((row.lookup countName).bind asCount?).getD 0

/-- The buckets that a row lies in were sent: whatever its keys begin with is the keys of a row of
the level above. -/
def Rooted (levels : List FacetLevel) (rows : Rows) (depth : Nat) (row : Row) : Prop :=
  ∀ n < depth, ∃ above ∈ rows.sent n, (row.keys levels (n + 1) == above.keys levels (n + 1)) = true

theorem length_keys (levels : List FacetLevel) (n : Nat) (row row' : Row) :
    (row.keys levels n).length = (row'.keys levels n).length := by
  simp [keys]

theorem keys_succ {levels : List FacetLevel} {n : Nat} {l : FacetLevel} (hl : levels[n]? = some l)
    (row : Row) : row.keys levels (n + 1) = row.keys levels n ++ [row.key l] := by
  simp [keys, List.take_add_one, hl]

theorem take_keys (levels : List FacetLevel) {m n : Nat} (h : m ≤ n) (row : Row) :
    (row.keys levels n).take m = row.keys levels m := by
  simp [keys, ← List.map_take, List.take_take, Nat.min_eq_left h]

/-- Rows with the same keys have the same keys at the levels above. -/
theorem keys_beq_of_le {levels : List FacetLevel} {m n : Nat} (hle : m ≤ n) {row row' : Row}
    (h : (row.keys levels n == row'.keys levels n) = true) :
    (row.keys levels m == row'.keys levels m) = true := by
  have htake := take_beq_take h m
  rwa [take_keys levels hle, take_keys levels hle] at htake

end Row

/-! ## Keys as they were sent -/

/-- What was sent for the key of a row at a depth. -/
def Row.sentKey (row : Row) (depth : Nat) : Json :=
  (row.lookup ("key_" ++ toString depth)).getD .null

/-- The key that a sent value stands for at a level of numbers. The text of a whole number or of a
finite double stands for its number, whatever white space is around it; any other value stands for
itself. -/
inductive StandsAs : Json → Json → Prop
  | whole {s : String} {n : Int} (h : readInt64? (Text.trim s) = some n) :
      StandsAs (.text s) (.int n)
  | double {s : String} {x : Float} (hwhole : readInt64? (Text.trim s) = none)
      (h : readFloat? (Text.trim s) = some x) (hfinite : x.isFinite = true) :
      StandsAs (.text s) (.float x)
  | text {s : String} (hwhole : readInt64? (Text.trim s) = none)
      (hfinite : ∀ x, readFloat? (Text.trim s) = some x → x.isFinite = false) :
      StandsAs (.text s) (.text s)
  | other {v : Json} (h : v.asText? = none) : StandsAs v v

/-- The levels whose keys are numbers. -/
def IsNumeric (l : FacetLevel) : Prop := l.type = .histogram ∨ l.type = .dateHistogram

/-- How the keys of rows are read at each depth: numbers and their texts are one key where keys are
numbers, and elsewhere keys are as they were sent. -/
structure KeysRead (levels : List FacetLevel) : Prop where
  numeric : ∀ depth l, levels[depth]? = some l → IsNumeric l → ∀ row : Row,
    StandsAs (row.sentKey depth) (row.key l)
  whole : ∀ depth l, levels[depth]? = some l → IsNumeric l → ∀ (row : Row) (n : Int),
    Int64.minValue.toInt ≤ n ∧ n ≤ Int64.maxValue.toInt →
      (row.sentKey depth = .int n ∨
        ∃ s, row.sentKey depth = .text s ∧ Text.trim s = toString n) → row.key l = .int n
  other : ∀ depth l, levels[depth]? = some l → ¬IsNumeric l → ∀ row : Row,
    row.key l = row.sentKey depth

theorem standsAs_normalizeNumber (v : Json) : StandsAs v (normalizeNumber v) := by
  cases v with
  | text s =>
    rw [normalizeNumber]
    cases hwhole : readInt64? (Text.trim s) with
    | some n => exact .whole hwhole
    | none =>
      cases hfloat : (readFloat? (Text.trim s)).filter Float.isFinite with
      | some x =>
        obtain ⟨h, hfinite⟩ := Option.filter_eq_some_iff.mp hfloat
        exact .double hwhole h hfinite
      | none =>
        refine .text hwhole fun x hx => Bool.eq_false_iff.mpr fun hfinite => ?_
        rw [hx, Option.filter_some_pos hfinite] at hfloat
        cases hfloat
  | _ => exact .other rfl

/-- Nothing stands for two keys. -/
theorem StandsAs.unique {v key key' : Json} (h : StandsAs v key) (h' : StandsAs v key') :
    key = key' := by
  cases h with
  | whole hn =>
    cases h' with
    | whole hn' => rw [Option.some.inj (hn.symm.trans hn')]
    | double hwhole | text hwhole => cases hn.symm.trans hwhole
    | other hv => cases hv
  | double hwhole hx hfinite =>
    cases h' with
    | whole hn' => cases hwhole.symm.trans hn'
    | double _ hx' _ => rw [Option.some.inj (hx.symm.trans hx')]
    | text _ hnot => rw [hnot _ hx] at hfinite; cases hfinite
    | other hv => cases hv
  | text hwhole hnot =>
    cases h' with
    | whole hn' => cases hwhole.symm.trans hn'
    | double _ hx' hfinite => rw [hnot _ hx'] at hfinite; cases hfinite
    | text | other => rfl
  | other hv =>
    cases h' with
    | other => rfl
    | _ => cases hv

/-- **The keys of a plan are read as they were sent**, numbers in place of their texts. -/
theorem keysRead_of_soundFrom {levels : List FacetLevel}
    (hsound : FacetLevel.SoundFrom 0 levels) : KeysRead levels := by
  have hsent {depth : Nat} {l : FacetLevel} (hl : levels[depth]? = some l) (row : Row) :
      (row.lookup (keyName l.depth)).getD .null = row.sentKey depth := by
    rw [(hsound.sound hl).depth_eq]
    rfl
  have hnumeric : ∀ depth l, levels[depth]? = some l → IsNumeric l → ∀ row : Row,
      StandsAs (row.sentKey depth) (row.key l) := by
    intro depth l hl htype row
    rw [Row.key, hsent hl]
    rw [IsNumeric, FacetLevel.type] at htype
    cases hkind : l.kind with
    | histogram | dateHistogram => exact standsAs_normalizeNumber _
    | term | geohash | geotile => simp [hkind, FacetKind.type] at htype
  refine ⟨hnumeric, fun depth l hl htype row n hn hrow => ?_, fun depth l hl htype row => ?_⟩
  · -- The number and its text both stand for it, and nothing stands for two keys.
    refine (hnumeric depth l hl htype row).unique ?_
    rcases hrow with hrow | ⟨s, hrow, htrim⟩
    · rw [hrow]
      exact .other rfl
    · rw [hrow]
      exact .whole (htrim ▸ readInt64?_toString hn)
  · rw [Row.key, hsent hl]
    rw [IsNumeric, FacetLevel.type] at htype
    cases hkind : l.kind with
    | histogram | dateHistogram => simp [hkind, FacetKind.type] at htype
    | term | geohash | geotile => rfl

/-- The positions of the rows of a level that have all the buckets they lie in. -/
def rooted (levels : List FacetLevel) (rows : Rows) (depth : Nat) : Set Nat :=
  {pos | depth < levels.length ∧
    ∃ row, (rows.sent depth)[pos]? = some row ∧ row.Rooted levels rows depth}

/-- A node shows the name of its level, and the key and the count of a row. -/
structure StandsFor (l : FacetLevel) (row : Row) (node : Bucket) : Prop where
  name : node.name = some l.name
  key : node.key = some (row.key l)
  count : node.count = some row.count

/-- How the nodes of a tree stand for the rows of its levels. -/
structure Nested (levels : List FacetLevel) (rows : Rows) (tree : Bucket)
    (rowOf : List Nat → Nat) : Prop where
  /-- each row that has its buckets gives one node, and every other row none -/
  bijective : ∀ depth, Set.BijOn rowOf (tree.addresses depth) (rooted levels rows depth)
  carries : ∀ depth, ∀ address ∈ tree.addresses depth, ∃ node l row,
    tree.at? address = some node ∧ levels[depth]? = some l ∧
      (rows.sent depth)[rowOf address]? = some row ∧ StandsFor l row node
  /-- a node sits in the node whose row has the keys that its own row begins with -/
  below : ∀ depth, ∀ address ∈ tree.addresses depth, ∀ i,
    address ++ [i] ∈ tree.addresses (depth + 1) → ∃ above row,
      (rows.sent depth)[rowOf address]? = some above ∧
      (rows.sent (depth + 1))[rowOf (address ++ [i])]? = some row ∧
      (row.keys levels (depth + 1) == above.keys levels (depth + 1)) = true
  /-- siblings come in the order of their rows -/
  ordered : ∀ (address : List Nat) (i j : Nat), i < j →
    (tree.at? (address ++ [j])).isSome → rowOf (address ++ [i]) < rowOf (address ++ [j])

/-! ## The rows below a node -/

/-- The positions of the rows of a level that are found below a trail. -/
def found (levels : List FacetLevel) (rows : Rows) (depth : Nat) (trail : List Json) : List Nat :=
  (rows.sent depth).findIdxs fun row => row.keys levels depth == trail

/-- The position of the row that the node at an address is built from. -/
def rowAt (levels : List FacetLevel) (rows : Rows) (tree : Bucket) (address : List Nat) : Nat :=
  (found levels rows address.dropLast.length (tree.trail address.dropLast)).getD
    (address.getLast?.getD 0) 0

/-- The children of a node are the buckets of the next levels below a trail. -/
def Filled (levels : List FacetLevel) (rows : Rows) (depth : Nat) (trail : List Json)
    (node : Bucket) : Prop :=
  buckets rows (levels.take depth) trail (levels.drop depth) = .ok node.children

theorem rowAt_concat (levels : List FacetLevel) (rows : Rows) (tree : Bucket) (address : List Nat)
    (i : Nat) : rowAt levels rows tree (address ++ [i]) =
      (found levels rows address.length (tree.trail address)).getD i 0 := by
  simp [rowAt]

/-- The item of a filtered list at its place in the list itself. -/
theorem getElem?_findIdxs {α : Type} {p : α → Bool} {xs : List α} {i : Nat} {x : α}
    (h : (xs.filter p)[i]? = some x) :
    ∃ pos, (xs.findIdxs p)[i]? = some pos ∧ xs[pos]? = some x ∧ p x = true := by
  obtain ⟨hi, rfl⟩ := List.getElem?_eq_some_iff.mp h
  have hlength : i < (xs.findIdxs p).length := by
    rwa [List.length_findIdxs, List.countP_eq_length_filter]
  refine ⟨(xs.findIdxs p)[i], List.getElem?_eq_getElem hlength, ?_, ?_⟩
  · rw [List.getElem_filter_eq_getElem_getElem_findIdxs hi]
    exact List.getElem?_eq_getElem _
  · exact (List.mem_filter.mp (List.getElem_mem hi)).2

section Filled

variable {levels : List FacetLevel} {rows : Rows} {depth : Nat} {trail : List Json}
  {node child : Bucket} {i : Nat}

theorem sent_of_ofPurpose {l : FacetLevel} {sent : List Row} (hdepth : l.depth = depth)
    (h : rows.ofPurpose (.level l.depth) = .ok sent) : rows.sent depth = sent := by
  rw [Rows.ofPurpose, Outcome.orRefuse_eq_ok, hdepth] at h
  rw [Rows.sent, h]
  rfl

/-- A node that stands for a row, and what is inside it. -/
theorem buckets_cons_eq_ok {above below : List FacetLevel} {l : FacetLevel} {nodes : List Bucket}
    (hdepth : l.depth = depth) (h : buckets rows above trail (l :: below) = .ok nodes) :
    List.Forall₂ (fun row node => StandsFor l row node ∧
        buckets rows (above ++ [l]) (trail ++ [row.key l]) below = .ok node.children)
      ((rows.sent depth).filter fun row => above.map row.key == trail) nodes := by
  obtain ⟨sent, hsent, h⟩ := Outcome.bind_eq_ok.mp h
  obtain rfl := sent_of_ofPurpose hdepth hsent
  refine (Outcome.mapM_eq_ok.mp h).imp fun row node hnode => ?_
  obtain ⟨alone, halone, hnode⟩ := Outcome.bind_eq_ok.mp hnode
  have hfields := alone_bucketAlone halone
  cases below with
  | nil =>
    cases hnode
    rw [hfields.children]
    exact ⟨⟨hfields.name, hfields.key, hfields.count⟩, rfl⟩
  | cons child rest =>
    obtain ⟨children, hchildren, hnode⟩ := Outcome.bind_eq_ok.mp hnode
    cases hnode
    exact ⟨⟨hfields.name, hfields.key, hfields.count⟩, hchildren⟩

/-- The children of a node stand for the rows that are found below its trail, one for each and in
their order, and are filled in their turn. -/
theorem Filled.forall₂ (hsound : FacetLevel.SoundFrom 0 levels)
    (h : Filled levels rows depth trail node) {l : FacetLevel} (hl : levels[depth]? = some l) :
    List.Forall₂ (fun row child => StandsFor l row child ∧
        Filled levels rows (depth + 1) (trail ++ [row.key l]) child)
      ((rows.sent depth).filter fun row => row.keys levels depth == trail) node.children := by
  have hdrop : levels.drop depth = l :: levels.drop (depth + 1) := by
    obtain ⟨hdepth, rfl⟩ := List.getElem?_eq_some_iff.mp hl
    exact List.drop_eq_getElem_cons hdepth
  have habove : levels.take (depth + 1) = levels.take depth ++ [l] := by
    simp [List.take_add_one, hl]
  rw [Filled, hdrop] at h
  simp only [Filled, habove]
  exact buckets_cons_eq_ok (hsound.sound hl).depth_eq h

/-- A node that has a child is filled from a level. -/
theorem Filled.level_of_child (h : Filled levels rows depth trail node)
    (hchild : node.children[i]? = some child) : ∃ l, levels[depth]? = some l := by
  by_cases hdepth : depth < levels.length
  · exact ⟨_, List.getElem?_eq_getElem hdepth⟩
  · rw [Filled, List.drop_eq_nil_of_le (Nat.not_lt.mp hdepth)] at h
    have hempty : node.children = [] := (Except.ok.inj h).symm
    simp [hempty] at hchild

/-- **One step down.** A child is built from the row that is found at its place, and is filled in
its turn. -/
theorem Filled.step (hsound : FacetLevel.SoundFrom 0 levels)
    (h : Filled levels rows depth trail node) (hchild : node.children[i]? = some child) :
    ∃ l pos row, levels[depth]? = some l ∧ (found levels rows depth trail)[i]? = some pos ∧
      (rows.sent depth)[pos]? = some row ∧ (row.keys levels depth == trail) = true ∧
      StandsFor l row child ∧ Filled levels rows (depth + 1) (trail ++ [row.key l]) child := by
  obtain ⟨l, hl⟩ := h.level_of_child hchild
  obtain ⟨hlength, hitems⟩ := List.forall₂_iff_get.mp (h.forall₂ hsound hl)
  obtain ⟨hi, rfl⟩ := List.getElem?_eq_some_iff.mp hchild
  obtain ⟨pos, hpos, hrow, hkeys⟩ := getElem?_findIdxs (List.getElem?_eq_getElem (hlength ▸ hi))
  exact ⟨l, pos, _, hl, hpos, hrow, hkeys, hitems i (hlength ▸ hi) hi⟩

/-- Every row that is found below a node has a child. -/
theorem Filled.exists_child (hsound : FacetLevel.SoundFrom 0 levels)
    (h : Filled levels rows depth trail node) (hdepth : depth < levels.length) {pos : Nat}
    (hpos : (found levels rows depth trail)[i]? = some pos) :
    ∃ child, node.children[i]? = some child := by
  have hlength := (h.forall₂ hsound (List.getElem?_eq_getElem hdepth)).length_eq
  have hi := (List.getElem?_eq_some_iff.mp hpos).1
  rw [found, List.length_findIdxs, List.countP_eq_length_filter, hlength] at hi
  exact ⟨_, List.getElem?_eq_getElem hi⟩

end Filled

/-! ## What a node is built from -/

/-- What the node at a position below an address is built from. -/
structure Source (levels : List FacetLevel) (rows : Rows) (tree : Bucket) (address : List Nat)
    (i : Nat) (node : Bucket) (l : FacetLevel) (row : Row) : Prop where
  level : levels[address.length]? = some l
  found_eq : (found levels rows address.length (tree.trail address))[i]? =
    some (rowAt levels rows tree (address ++ [i]))
  sent_eq : (rows.sent address.length)[rowAt levels rows tree (address ++ [i])]? = some row
  keys_beq : (row.keys levels address.length == tree.trail address) = true
  trail_eq : tree.trail (address ++ [i]) = tree.trail address ++ [row.key l]
  stands : StandsFor l row node

section Source

variable {levels : List FacetLevel} {rows : Rows} {tree node : Bucket} {address : List Nat}
  {i : Nat} {l : FacetLevel} {row : Row}

/-- **Every node is filled from the rows below its trail.** -/
theorem filled_at (hsound : FacetLevel.SoundFrom 0 levels) (hroot : Filled levels rows 0 [] tree)
    (hnode : tree.at? address = some node) :
    Filled levels rows address.length (tree.trail address) node := by
  induction address using List.reverseRecOn generalizing node with
  | nil =>
    cases hnode
    exact hroot
  | append_singleton address i ih =>
    obtain ⟨parent, hparent, hchild⟩ := Bucket.at?_concat_eq_some.mp hnode
    obtain ⟨l, pos, row, -, -, -, -, hstands, hfilled⟩ := (ih hparent).step hsound hchild
    rw [List.length_append, List.length_singleton, Bucket.trail_concat hparent hchild, hstands.key]
    exact hfilled

theorem exists_source (hsound : FacetLevel.SoundFrom 0 levels)
    (hroot : Filled levels rows 0 [] tree) (hnode : tree.at? (address ++ [i]) = some node) :
    ∃ l row, Source levels rows tree address i node l row := by
  obtain ⟨parent, hparent, hchild⟩ := Bucket.at?_concat_eq_some.mp hnode
  obtain ⟨l, pos, row, hl, hpos, hrow, hkeys, hstands, -⟩ :=
    (filled_at hsound hroot hparent).step hsound hchild
  have hat : rowAt levels rows tree (address ++ [i]) = pos := by
    rw [rowAt_concat, List.getD_eq_getElem?_getD, hpos, Option.getD_some]
  refine ⟨l, row, hl, hat ▸ hpos, hat ▸ hrow, hkeys, ?_, hstands⟩
  rw [Bucket.trail_concat hparent hchild, hstands.key]
  rfl

/-- **The rows below a node are those whose keys begin with the keys of its row.** -/
theorem Source.beq_trail_iff (h : Source levels rows tree address i node l row) (row' : Row) :
    (row'.keys levels (address.length + 1) == tree.trail (address ++ [i])) = true ↔
      (row'.keys levels (address.length + 1) == row.keys levels (address.length + 1)) = true := by
  have hlength : (row'.keys levels address.length).length = (tree.trail address).length := by
    rw [Row.length_keys levels address.length row' row]
    exact List.length_eq_of_beq h.keys_beq
  rw [h.trail_eq, Row.keys_succ h.level, Row.keys_succ h.level, append_beq_append hlength,
    append_beq_append (Row.length_keys levels address.length row' row), Bool.and_eq_true,
    Bool.and_eq_true]
  refine and_congr_left fun _ => ⟨fun hbeq => ?_, fun hbeq => ?_⟩
  · exact BEq.trans hbeq (BEq.symm h.keys_beq)
  · exact BEq.trans hbeq h.keys_beq

end Source

/-! ## Nodes and rows, one to one -/

section Nested

variable {levels : List FacetLevel} {rows : Rows} {tree node : Bucket} {address : List Nat}
  {i pos : Nat} {l : FacetLevel} {row : Row}

theorem mem_addresses_concat {depth : Nat} (h : address ∈ tree.addresses depth) :
    ∃ above i node, address = above ++ [i] ∧ above.length = depth ∧
      tree.at? (above ++ [i]) = some node := by
  obtain ⟨hlength, hsome⟩ := h
  obtain ⟨node, hnode⟩ := Option.isSome_iff_exists.mp hsome
  have hne : address ≠ [] := List.ne_nil_of_length_eq_add_one hlength
  refine ⟨address.dropLast, address.getLast hne, node, ?_, ?_, ?_⟩
  · exact (List.dropLast_append_getLast hne).symm
  · rw [List.length_dropLast, hlength, Nat.add_sub_cancel]
  · rwa [List.dropLast_append_getLast hne]

/-- The row of a child begins with the keys of the row of its parent. -/
theorem Source.keys_beq_above (hsound : FacetLevel.SoundFrom 0 levels)
    (hroot : Filled levels rows 0 [] tree) {j : Nat}
    (h : Source levels rows tree (address ++ [j]) i node l row) {parent : Bucket}
    (hparent : tree.at? (address ++ [j]) = some parent) :
    ∃ l' above, Source levels rows tree address j parent l' above ∧
      (row.keys levels (address.length + 1) == above.keys levels (address.length + 1)) = true := by
  obtain ⟨l', above, habove⟩ := exists_source hsound hroot hparent
  have hkeys := h.keys_beq
  rw [List.length_append, List.length_singleton] at hkeys
  exact ⟨l', above, habove, (habove.beq_trail_iff row).mp hkeys⟩

/-- **The row of a node has all the buckets it lies in.** -/
theorem Source.rooted (hsound : FacetLevel.SoundFrom 0 levels)
    (hroot : Filled levels rows 0 [] tree) (hnode : tree.at? (address ++ [i]) = some node)
    (h : Source levels rows tree address i node l row) : row.Rooted levels rows address.length := by
  induction address using List.reverseRecOn generalizing i node l row with
  | nil => exact fun n hn => absurd hn (Nat.not_lt_zero n)
  | append_singleton address j ih =>
    obtain ⟨parent, hparent, -⟩ := Bucket.at?_concat_eq_some.mp hnode
    obtain ⟨l', above, habove, hkeys⟩ := h.keys_beq_above hsound hroot hparent
    intro n hn
    rw [List.length_append, List.length_singleton] at hn
    -- The bucket just above is the parent's row; the others are those of the parent.
    by_cases hlast : n = address.length
    · subst hlast
      exact ⟨above, List.mem_of_getElem? habove.sent_eq, hkeys⟩
    · obtain ⟨top, htop, htopkeys⟩ := ih hparent habove n (by omega)
      exact ⟨top, htop, BEq.trans (Row.keys_beq_of_le (by omega) hkeys) htopkeys⟩

/-- Every row that is found below the trail of a node gives a child of it. -/
theorem exists_node_of_beq (hsound : FacetLevel.SoundFrom 0 levels)
    (hroot : Filled levels rows 0 [] tree) {parent : Bucket}
    (hparent : tree.at? address = some parent)
    (hdepth : address.length < levels.length) (hrow : (rows.sent address.length)[pos]? = some row)
    (hkeys : (row.keys levels address.length == tree.trail address) = true) :
    ∃ i node, tree.at? (address ++ [i]) = some node ∧
      rowAt levels rows tree (address ++ [i]) = pos := by
  have hmem : pos ∈ found levels rows address.length (tree.trail address) := by
    obtain ⟨hpos, rfl⟩ := List.getElem?_eq_some_iff.mp hrow
    exact (List.mem_findIdxs_iff_pos_getElem hpos).mpr hkeys
  obtain ⟨i, hi⟩ := List.mem_iff_getElem?.mp hmem
  obtain ⟨child, hchild⟩ := (filled_at hsound hroot hparent).exists_child hsound hdepth hi
  refine ⟨i, child, Bucket.at?_concat_eq_some.mpr ⟨parent, hparent, hchild⟩, ?_⟩
  rw [rowAt_concat, List.getD_eq_getElem?_getD, hi, Option.getD_some]

/-- **Every row that has its buckets gives a node.** -/
theorem exists_node_of_rooted (hsound : FacetLevel.SoundFrom 0 levels)
    (hroot : Filled levels rows 0 [] tree) {depth : Nat} (hdepth : depth < levels.length)
    (hrow : (rows.sent depth)[pos]? = some row) (hrooted : row.Rooted levels rows depth) :
    ∃ above i node, above.length = depth ∧ tree.at? (above ++ [i]) = some node ∧
      rowAt levels rows tree (above ++ [i]) = pos := by
  induction depth generalizing pos row with
  | zero =>
    have hkeys : (row.keys levels 0 == tree.trail []) = true := rfl
    have htop : tree.at? [] = some tree := rfl
    obtain ⟨i, node, hnode, hat⟩ := exists_node_of_beq hsound hroot htop hdepth hrow hkeys
    exact ⟨[], i, node, rfl, hnode, hat⟩
  | succ depth ih =>
    obtain ⟨above, habove, hkeys⟩ := hrooted depth (Nat.lt_succ_self depth)
    obtain ⟨pos', hpos'⟩ := List.mem_iff_getElem?.mp habove
    -- The row above has its own buckets, since they are those of this row.
    have haboveRooted : above.Rooted levels rows depth := by
      intro n hn
      obtain ⟨top, htop, htopkeys⟩ := hrooted n (by omega)
      exact ⟨top, htop, BEq.trans (BEq.symm (Row.keys_beq_of_le (by omega) hkeys)) htopkeys⟩
    obtain ⟨address, j, parent, rfl, hparent, hat⟩ := ih (by omega) hpos' haboveRooted
    obtain ⟨l', above', hsource⟩ := exists_source hsound hroot hparent
    have hsame : above' = above := by
      have hsent := hsource.sent_eq
      rw [hat, hpos'] at hsent
      exact (Option.some.inj hsent).symm
    subst hsame
    have hlength : (address ++ [j]).length = address.length + 1 := by simp
    obtain ⟨i, node, hnode, hat⟩ := exists_node_of_beq hsound hroot hparent (hlength ▸ hdepth)
      (hlength ▸ hrow) (hlength ▸ (hsource.beq_trail_iff row).mpr hkeys)
    exact ⟨address ++ [j], i, node, hlength, hnode, hat⟩

/-- Two rows of a level never have the same keys. -/
def DistinctKeys (levels : List FacetLevel) (rows : Rows) : Prop :=
  ∀ depth < levels.length, (rows.sent depth).Pairwise fun row row' =>
    (row.keys levels (depth + 1) == row'.keys levels (depth + 1)) = false

instance (levels : List FacetLevel) (rows : Rows) : Decidable (DistinctKeys levels rows) := by
  unfold DistinctKeys
  infer_instance

theorem DistinctKeys.eq (hdistinct : DistinctKeys levels rows) {depth : Nat}
    (hdepth : depth < levels.length) {pos' : Nat} {row' : Row}
    (hrow : (rows.sent depth)[pos]? = some row) (hrow' : (rows.sent depth)[pos']? = some row')
    (hkeys : (row.keys levels (depth + 1) == row'.keys levels (depth + 1)) = true) : pos = pos' := by
  obtain ⟨hpos, rfl⟩ := List.getElem?_eq_some_iff.mp hrow
  obtain ⟨hpos', rfl⟩ := List.getElem?_eq_some_iff.mp hrow'
  have hpairwise := List.pairwise_iff_getElem.mp (hdistinct depth hdepth)
  by_contra hne
  rcases Nat.lt_or_gt_of_ne hne with hlt | hlt
  · exact absurd hkeys (by simp [hpairwise pos pos' hpos hpos' hlt])
  · exact absurd (BEq.symm hkeys) (by simp [hpairwise pos' pos hpos' hpos hlt])

/-- Siblings are built from different rows. -/
theorem position_eq_of_rowAt_eq (hsound : FacetLevel.SoundFrom 0 levels)
    (hroot : Filled levels rows 0 [] tree) {i' : Nat} {node' : Bucket}
    (hnode : tree.at? (address ++ [i]) = some node)
    (hnode' : tree.at? (address ++ [i']) = some node')
    (hat : rowAt levels rows tree (address ++ [i]) = rowAt levels rows tree (address ++ [i'])) :
    i = i' := by
  obtain ⟨l, row, hsource⟩ := exists_source hsound hroot hnode
  obtain ⟨l', row', hsource'⟩ := exists_source hsound hroot hnode'
  have hi := (List.getElem?_eq_some_iff.mp hsource.found_eq).1
  exact (List.getElem?_inj hi List.nodup_findIdxs).mp
    (hsource.found_eq.trans (hat ▸ hsource'.found_eq.symm))

/-- **Two nodes at a depth are built from different rows.** -/
theorem eq_of_rowAt_eq (hsound : FacetLevel.SoundFrom 0 levels)
    (hroot : Filled levels rows 0 [] tree) (hdistinct : DistinctKeys levels rows)
    {address' : List Nat} {i' : Nat} {node' : Bucket} (hlength : address.length = address'.length)
    (hnode : tree.at? (address ++ [i]) = some node)
    (hnode' : tree.at? (address' ++ [i']) = some node')
    (hat : rowAt levels rows tree (address ++ [i]) = rowAt levels rows tree (address' ++ [i'])) :
    address ++ [i] = address' ++ [i'] := by
  induction address using List.reverseRecOn generalizing i node address' i' node' with
  | nil =>
    obtain rfl : address' = [] := List.length_eq_zero_iff.mp hlength.symm
    rw [position_eq_of_rowAt_eq hsound hroot hnode hnode' hat]
  | append_singleton address j ih =>
    obtain ⟨above, j', rfl⟩ : ∃ above j', address' = above ++ [j'] := by
      have hne : address' ≠ [] := by
        rintro rfl
        simp at hlength
      exact ⟨_, _, (List.dropLast_append_getLast hne).symm⟩
    replace hlength : address.length = above.length := by simpa using hlength
    obtain ⟨l, row, hsource⟩ := exists_source hsound hroot hnode
    obtain ⟨l', row', hsource'⟩ := exists_source hsound hroot hnode'
    obtain ⟨parent, hparent, -⟩ := Bucket.at?_concat_eq_some.mp hnode
    obtain ⟨parent', hparent', -⟩ := Bucket.at?_concat_eq_some.mp hnode'
    -- The rows of the parents both have the keys that the common row begins with.
    have hdepths : (address ++ [j]).length = (above ++ [j']).length := by simp [hlength]
    have hrow : row' = row := by
      have hsent := hsource.sent_eq
      rw [hat, hdepths, hsource'.sent_eq] at hsent
      exact Option.some.inj hsent
    subst hrow
    obtain ⟨m, top, htop, hkeys⟩ := hsource.keys_beq_above hsound hroot hparent
    obtain ⟨m', top', htop', hkeys'⟩ := hsource'.keys_beq_above hsound hroot hparent'
    rw [← hlength] at hkeys'
    have hdepth : address.length < levels.length := (List.getElem?_eq_some_iff.mp htop.level).1
    have hparents : address ++ [j] = above ++ [j'] :=
      ih hlength hparent hparent' (hdistinct.eq hdepth htop.sent_eq (hlength ▸ htop'.sent_eq)
        (BEq.trans (BEq.symm hkeys) hkeys'))
    rw [← hparents] at hnode' hat ⊢
    rw [position_eq_of_rowAt_eq hsound hroot hnode hnode' hat]

/-- **The nodes of a filled tree stand for its rows.** -/
theorem nested_of_filled (hsound : FacetLevel.SoundFrom 0 levels)
    (hroot : Filled levels rows 0 [] tree) (hdistinct : DistinctKeys levels rows) :
    Nested levels rows tree (rowAt levels rows tree) where
  bijective := by
    intro depth
    refine ⟨?_, ?_, ?_⟩
    · intro address haddress
      obtain ⟨above, i, node, rfl, rfl, hnode⟩ := mem_addresses_concat haddress
      obtain ⟨l, row, hsource⟩ := exists_source hsound hroot hnode
      exact ⟨(List.getElem?_eq_some_iff.mp hsource.level).1, row, hsource.sent_eq,
        hsource.rooted hsound hroot hnode⟩
    · intro address haddress address' haddress' hat
      obtain ⟨above, i, node, rfl, hlength, hnode⟩ := mem_addresses_concat haddress
      obtain ⟨above', i', node', rfl, hlength', hnode'⟩ := mem_addresses_concat haddress'
      exact eq_of_rowAt_eq hsound hroot hdistinct (hlength.trans hlength'.symm) hnode hnode' hat
    · rintro pos ⟨hdepth, row, hrow, hrooted⟩
      obtain ⟨above, i, node, hlength, hnode, hat⟩ :=
        exists_node_of_rooted hsound hroot hdepth hrow hrooted
      exact ⟨above ++ [i], ⟨by simp [hlength], by simp [hnode]⟩, hat⟩
  carries := by
    intro depth address haddress
    obtain ⟨above, i, node, rfl, rfl, hnode⟩ := mem_addresses_concat haddress
    obtain ⟨l, row, hsource⟩ := exists_source hsound hroot hnode
    exact ⟨node, l, row, hnode, hsource.level, hsource.sent_eq, hsource.stands⟩
  below := by
    intro depth address haddress i hchild
    obtain ⟨above, j, parent, rfl, rfl, hparent⟩ := mem_addresses_concat haddress
    obtain ⟨node, hnode⟩ := Option.isSome_iff_exists.mp hchild.2
    obtain ⟨l, row, hsource⟩ := exists_source hsound hroot hnode
    obtain ⟨l', top, htop, hkeys⟩ := hsource.keys_beq_above hsound hroot hparent
    have hsent := hsource.sent_eq
    rw [List.length_append, List.length_singleton] at hsent
    exact ⟨top, row, htop.sent_eq, hsent, hkeys⟩
  ordered := by
    intro address i j hlt hsome
    obtain ⟨node, hnode⟩ := Option.isSome_iff_exists.mp hsome
    obtain ⟨l, row, hsource⟩ := exists_source hsound hroot hnode
    obtain ⟨hj, hjth⟩ := List.getElem?_eq_some_iff.mp hsource.found_eq
    have hordered := List.pairwise_iff_getElem.mp (List.pairwise_findIdxs (s := 0)) i j
      (Nat.lt_trans hlt hj) hj hlt
    rw [rowAt_concat, List.getD_eq_getElem?_getD, List.getElem?_eq_getElem (Nat.lt_trans hlt hj),
      Option.getD_some, ← hjth]
    exact hordered

end Nested

/-- **Rows are nested without loss or repetition.** Their keys are those that were sent, and where
keys are numbers a number and its text are one key. -/
theorem rows_nested {c : Collection} {geo : Bool} {specs : List FacetSpec} {plan : FacetPlan}
    (hplan : FacetPlan.compile c geo specs = .ok plan) {rows : Rows}
    (hdistinct : DistinctKeys plan.levels rows) {tree : Bucket}
    (h : assembleFacets plan rows = .ok tree) :
    KeysRead plan.levels ∧ ∃ rowOf, Nested plan.levels rows tree rowOf := by
  have hsound := FacetPlan.soundFrom_of_compile hplan
  obtain ⟨first, -, h⟩ := Outcome.bind_eq_ok.mp h
  obtain ⟨total, -, h⟩ := Outcome.bind_eq_ok.mp h
  obtain ⟨children, hchildren, h⟩ := Outcome.bind_eq_ok.mp h
  cases h
  exact ⟨keysRead_of_soundFrom hsound, _, nested_of_filled hsound hchildren hdistinct⟩

/-! ### Roosts by height and kind

The rows of the kinds alternate between the heights, and a height is sent as text in one level and
as a number in the other. There is a kind of a height that was cut off. -/

def roosts : Collection :=
  ⟨"roosts", "roosts", "id", "shape", "place", "seen", "epoch_millis", [],
    [("kind", .keyword), ("height", .double), ("place", .geoPoint), ("shape", .geoShape),
      ("seen", .date)]⟩

def heightsByKind : List FacetSpec :=
  [{ (default : FacetSpec) with
      type := .histogram, field := some "height", interval := some "10" },
    { (default : FacetSpec) with type := .term, field := some "kind" }]

def roostRows : Rows :=
  [("count", [[("totalnb", .int 12)]]),
    ("level_0", [[("count", .int 3), ("key_0", .text " 0")],
      [("count", .text "2"), ("key_0", .int 10)]]),
    ("level_1", [[("count", .int 1), ("key_0", .int 0), ("key_1", .text "heron")],
      [("count", .int 2), ("key_0", .text "10"), ("key_1", .text "crane")],
      [("count", .int 7), ("key_0", .int 20), ("key_1", .text "owl")],
      [("count", .int 2), ("key_0", .text "0"), ("key_1", .text "crane")]])]

theorem rows_nested_roosts : ∃ plan tree rowOf,
    FacetPlan.compile roosts false heightsByKind = .ok plan ∧
      DistinctKeys plan.levels roostRows ∧ assembleFacets plan roostRows = .ok tree ∧
      tree.children.map (fun b => b.key.bind Json.asInt64?) = [some 0, some 10] ∧
      tree.children.map (fun b => b.children.map Bucket.count) = [[some 1, some 2], [some 2]] ∧
      KeysRead plan.levels ∧ Nested plan.levels roostRows tree rowOf := by
  obtain ⟨plan, hplan, hassembled⟩ := Outcome.exists_of_any
    (o := FacetPlan.compile roosts false heightsByKind)
    (p := fun plan => decide (DistinctKeys plan.levels roostRows) &&
      (assembleFacets plan roostRows).toOption.any fun tree =>
        tree.children.map (fun b => b.key.bind Json.asInt64?) = [some 0, some 10] &&
        tree.children.map (fun b => b.children.map Bucket.count) = [[some 1, some 2], [some 2]])
    (by decide +kernel)
  obtain ⟨hdistinct, hassembled⟩ := Bool.and_eq_true_iff.mp hassembled
  obtain ⟨tree, htree, hnodes⟩ := Outcome.exists_of_any hassembled
  obtain ⟨hkeys, hcounts⟩ := Bool.and_eq_true_iff.mp hnodes
  replace hdistinct : DistinctKeys plan.levels roostRows := of_decide_eq_true hdistinct
  obtain ⟨hread, rowOf, hnested⟩ := rows_nested hplan hdistinct htree
  exact ⟨plan, tree, rowOf, hplan, hdistinct, htree, of_decide_eq_true hkeys,
    of_decide_eq_true hcounts, hread, hnested⟩

end Sql

end GeoFacet
