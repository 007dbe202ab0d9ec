import GeoFacet.Proofs.Gathering
import GeoFacet.Proofs.Sorting.Inversion
import GeoFacet.Proofs.Sorting.Ranking
import GeoFacet.Proofs.Sql.PageText

/-!
# Keysets and the order of a page

The statement of a page after a cursor keeps the rows that come after the cursor in its own order.
Its keyset predicate is a choice among branches, one for each key; `truthAny_keysetBranches` shows
by induction on the keys that the choice is the key by key comparison. The same holds of its text:
of the keyset and the order that are read from it.

Main statement: `keyset_agrees_with_order`.
-/

namespace GeoFacet

/-- Whether a comparison holds of values in that order. -/
def Comparison.admits : Comparison → Ordering → Bool
  | .gte, c => c.isGE
  | .gt, c => c.isGT
  | .lte, c => c.isLE
  | .lt, c => c.isLT

namespace Sql

/-- The tests of two values are those of a total order that puts them in the order `c`. -/
structure Tests.Follows {V : Type} (tests : Tests V) (x : V) (v : Scalar) (c : Ordering) :
    Prop where
  equal : tests.equal x v = c.isEq
  compare : ∀ op, tests.compare x op v = op.admits c

section Comparing

variable {E V : Type}

/-- The comparison of a sort key in its direction. -/
def compareKey (cmp : E → V → Scalar → Ordering) (key : E × Order) (x : V) (v : Scalar) :
    Ordering :=
  key.2.direct (cmp key.1 x v)

/-- The row has the values `xs` for the sort keys, each comparable with the value of a cursor. -/
def Comparable (tests : Tests V) (row : E → Option V) (cmp : E → V → Scalar → Ordering)
    (order : List (E × Order)) (xs : List V) (values : List Scalar) : Prop :=
  List.Forall₂ (fun k x => row k.1.1 = some x ∧ tests.Follows x k.2 (cmp k.1.1 x k.2))
    (order.zip values) xs

/-- Values for the texts of expressions are values for the expressions. -/
theorem comparable_map {F : Type} (f : E → F) (tests : Tests V) (row : F → Option V)
    (cmp : F → V → Scalar → Ordering) (order : List (E × Order)) (xs : List V)
    (values : List Scalar) :
    Comparable tests row cmp (order.map fun key => (f key.1, key.2)) xs values ↔
      Comparable tests (fun e => row (f e)) (fun e => cmp (f e)) order xs values := by
  rw [Comparable, Comparable, List.zip_map_left, List.forall₂_map_left_iff]
  rfl

theorem compareTuples_map {F : Type} (f : E → F) (cmp : F → V → Scalar → Ordering)
    (order : List (E × Order)) (xs : List V) (values : List Scalar) :
    Sorting.compareTuples (compareKey cmp) (order.map fun key => (f key.1, key.2)) xs values =
      Sorting.compareTuples (compareKey fun e => cmp (f e)) order xs values := by
  induction order generalizing xs values with
  | nil => rfl
  | cons key order ih =>
    cases xs with
    | nil => rfl
    | cons x xs =>
      cases values with
      | nil => rfl
      | cons v values =>
        rw [List.map_cons, Sorting.compareTuples, ih]
        rfl

end Comparing

/-! ## The branches -/

namespace Predicate

variable {V : Type} {tests : Tests V} {row : RowValues V} {cmp : Expr → V → Scalar → Ordering}

/-- The order that a sort key stands for in a statement. -/
def orderOf (centroidPath : String) (key : SortKey) : Expr × Order :=
  (.ofSortKey centroidPath key, key.order)

/-- A value after another one in the direction of a key. -/
theorem admits_afterOp (key : SortKey) (c : Ordering) :
    (afterOp key).admits c = (key.order.direct c).isGT := by
  rw [afterOp, SortKey.isDescending]
  cases key.order <;> cases c <;> rfl

theorem direct_isEq (o : Order) (c : Ordering) : (o.direct c).isEq = c.isEq := by
  cases o <;> cases c <;> rfl

/-- **The branches compare key by key.** Where the row agrees in the keys passed so far, one of the
branches holds exactly if it comes after the cursor in the remaining keys. -/
theorem truthAny_keysetBranches (centroidPath : String) {keys : List SortKey}
    {values : List Scalar} (hlength : values.length = keys.length) {xs : List V}
    (hrow : Comparable tests row cmp (keys.map (orderOf centroidPath)) xs values)
    {equals : List (Predicate Scalar)} {b : Bool} (hequals : truthAll tests row equals = some b) :
    truthAny tests row (keysetBranches centroidPath equals (keys.zip values)) =
      some (b && (Sorting.compareTuples (compareKey cmp) (keys.map (orderOf centroidPath)) xs
        values).isGT) := by
  induction keys generalizing values xs equals b with
  | nil =>
    cases b <;> rfl
  | cons key keys ih =>
    obtain _ | ⟨v, values⟩ := values
    · cases hlength
    obtain _ | ⟨x, xs⟩ := xs
    · cases hrow
    obtain ⟨⟨hx, hfollows⟩, hrest⟩ := List.forall₂_cons.mp hrow
    have hx : row (Expr.ofSortKey centroidPath key) = some x := hx
    let c := cmp (Expr.ofSortKey centroidPath key) x v
    have hafter : truthAll tests row
        (equals ++ [.compare (Expr.ofSortKey centroidPath key) (afterOp key) v]) =
          some (b && (key.order.direct c).isGT) := by
      rw [truthAll_append, hequals, truthAll, truth, truthAll, hx, Option.map_some,
        hfollows.compare, admits_afterOp]
      simp [c, orderOf]
    have hequal : truthAll tests row (equals ++ [.equal (Expr.ofSortKey centroidPath key) v]) =
        some (b && c.isEq) := by
      rw [truthAll_append, hequals, truthAll, truth, truthAll, hx, Option.map_some, hfollows.equal]
      simp [c, orderOf]
    -- The later branches carry one more equality, that of this key.
    have hih := ih (Nat.succ.inj hlength) hrest hequal
    show Truth.or (truthAll tests row _)
      (truthAny tests row (keysetBranches _ _ (keys.zip values))) = _
    rw [hafter, hih, Truth.or_some, ← direct_isEq key.order c]
    show _ = some (b && ((key.order.direct c).then _).isGT)
    generalize Sorting.compareTuples (compareKey cmp) _ xs values = rest
    cases b <;> cases key.order.direct c <;> cases rest <;> rfl

theorem truth_keyset (centroidPath : String) {keys : List SortKey} {values : List Scalar}
    (hlength : values.length = keys.length) {xs : List V}
    (hrow : Comparable tests row cmp (keys.map (orderOf centroidPath)) xs values) :
    truth tests row (keyset centroidPath (keys.zip values)) =
      some (Sorting.compareTuples (compareKey cmp) (keys.map (orderOf centroidPath)) xs
        values).isGT := by
  have h := @truthAny_keysetBranches V tests row cmp centroidPath keys values hlength xs hrow []
    true rfl
  rwa [Bool.true_and] at h

end Predicate

/-! ## The statement of a page -/

/-- The specification that a page is scanned in: the sort, or the inverted one before a cursor. -/
def Scans (sort spec : String) : CursorDirection → Prop
  | .after => spec = sort
  | .before => Sorting.invert sort = .ok spec

/-- The keys that a cursor goes with. -/
def CursorKeys (r : SearchRequest) (direction : CursorDirection) (keys : List SortKey) : Prop :=
  ∃ sort spec, r.page.sortSpec? = some sort ∧ Sorting.parse spec = .ok keys ∧
    Scans sort spec direction

/-- A page with a cursor has a sort. -/
theorem exists_sortSpec?_of_cursor {page : Page} {direction : CursorDirection} {cursor : String}
    (h : page.cursor = .ok (some (direction, cursor))) : ∃ sort, page.sortSpec? = some sort := by
  cases hsort : page.sortSpec? with
  | some sort => exact ⟨sort, rfl⟩
  | none =>
    obtain ⟨size, offset, sort, after, before⟩ := page
    unfold Page.cursor at h
    rw [hsort] at h
    cases after <;> cases before <;> cases h

/-- The scan of a page with a cursor. -/
theorem cursorKeys_of_ofPage {r : SearchRequest} {direction : CursorDirection}
    {idPath cursor : String} {scan : Scan}
    (hcursor : r.page.cursor = .ok (some (direction, cursor)))
    (h : Scan.ofPage idPath r.page (some (direction, cursor)) = .ok scan) :
    ∃ values, CursorKeys r direction scan.keys ∧
      Cursor.parse scan.keys cursor idPath = .ok values ∧ scan.values = some values := by
  have hread : ∀ {spec : String}, Scan.ofCursor idPath spec cursor = .ok scan →
      ∃ values, Sorting.parse spec = .ok scan.keys ∧
        Cursor.parse scan.keys cursor idPath = .ok values ∧ scan.values = some values := by
    intro spec h
    obtain ⟨keys, hkeys, h⟩ := Outcome.bind_eq_ok.mp h
    obtain ⟨values, hvalues, rfl⟩ := Outcome.map_eq_ok.mp h
    exact ⟨values, hkeys, hvalues, rfl⟩
  obtain ⟨sort, hsort⟩ := exists_sortSpec?_of_cursor hcursor
  unfold Scan.ofPage at h
  rw [hsort] at h
  cases direction with
  | after =>
    obtain ⟨values, hkeys, hvalues, hscan⟩ := hread h
    exact ⟨values, ⟨sort, sort, hsort, hkeys, rfl⟩, hvalues, hscan⟩
  | before =>
    obtain ⟨spec, hspec, h⟩ := Outcome.bind_eq_ok.mp h
    obtain ⟨values, hkeys, hvalues, hscan⟩ := hread h
    exact ⟨values, ⟨sort, spec, hsort, hkeys, hspec⟩, hvalues, hscan⟩

/-- The statements of an accepted request with a cursor. -/
theorem statements_of_explain {s : Service backend} {r : SearchRequest} {plan : Plan}
    {direction : CursorDirection} {cursor : String} (hplan : s.explainSearch r = .ok plan)
    (hcursor : r.page.cursor = .ok (some (direction, cursor))) :
    ∃ keys values filter, ∃ d : Draft, CursorKeys r direction keys ∧
      Cursor.parse keys cursor s.collection.idPath = .ok values ∧
      d.collection = s.collection ∧ d.sort = keys ∧ d.after = some (keys.zip values) ∧
      (∀ p ∈ filter, p.Legible) ∧
      plan.statements = [Draft.countStatement s.collection filter, d.hitsStatement filter] := by
  obtain ⟨q, hq, hbuild⟩ := (Service.explainSearch_eq_ok (drafts s.collection r.page)).mp hplan
  obtain ⟨-, hc, ⟨groups, hgroups, hgather⟩, hscan⟩ := SearchRequest.compiled_eq_ok.mp hq
  rw [hcursor, Except.ok.injEq] at hc
  rw [← hc] at hscan
  obtain ⟨values, hkeys, hvalues, hscan⟩ := cursorKeys_of_ofPage hcursor hscan
  obtain ⟨filter, hfilter, hbuild⟩ := Outcome.bind_eq_ok.mp hbuild
  cases hbuild
  replace hfilter : Predicate.ofFilter q.filter = .ok filter := hfilter
  rw [hgather] at hfilter
  -- Conditions of an accepted request are sound, so their predicates can be read.
  have hlegible : ∀ p ∈ filter, p.Legible := Predicate.legible_ofFilter
    (fun group hgroup => (Filter.mem_of_mem_gather hgroup).2)
    (fun group hgroup => FilterRequest.sound_of_groups hgroups group
      (Filter.mem_of_mem_gather hgroup).1) hfilter
  refine ⟨q.scan.keys, values, filter, draftOf s.collection r.page q.filter q.scan, hkeys, hvalues,
    rfl, rfl, ?_, hlegible, rfl⟩
  show q.scan.values.map q.scan.keys.zip = _
  rw [hscan, Option.map_some]

/-- Keys that were read are not empty. -/
theorem pageOrder_of_parse (c : Collection) {spec : String} {keys : List SortKey}
    (h : Sorting.parse spec = .ok keys) :
    Draft.pageOrder c keys = keys.map (Predicate.orderOf c.centroidPath) := by
  have hne := Sorting.ne_nil_of_parse h
  rw [Draft.pageOrder, if_neg (by simpa using hne)]
  rfl

/-- The order of the rows after a cursor, as the text of their statement says it. The text is ordered
by expressions with their directions, and the last member of its row clause, with the parameters for
its placeholders, is true of a row exactly if the row comes after the values of the cursor in that
order. -/
def Statement.KeepsAfter (s : Statement) (order : List (List Lexeme × Order))
    (values : List Scalar) : Prop :=
  ∃ page keyset, pageClauses? s.sql = some page ∧ page.order = order ∧
    page.conditions.getLast? = some keyset ∧
    ∀ (V : Type) (tests : Tests V) (row : List Lexeme → Option V)
      (cmp : List Lexeme → V → Scalar → Ordering) (xs : List V),
      Comparable tests row cmp page.order xs values →
        (Clause.clause? (Clause.compared? tests row s.params) keyset = some (some true) ↔
          Sorting.compareTuples (compareKey cmp) page.order xs values = .gt)

/-- **A keyset agrees with the order of its statement.** An accepted request with a cursor has one
statement of hits. Its last predicate, with the parameters of the statement for its placeholders, is
true of a row exactly if the row comes after the values of the cursor in the order of the statement,
whatever the filter before it. The text of the statement says the same. -/
theorem keyset_agrees_with_order (s : Service backend) (r : SearchRequest) {plan : Plan}
    {direction : CursorDirection} {cursor : String} (hplan : s.explainSearch r = .ok plan)
    (hcursor : r.page.cursor = .ok (some (direction, cursor))) :
    ∃ statement q keyset filled keys values,
      plan.statements.filter (·.purpose = .hits) = [statement] ∧ statement.query = .rows q ∧
      q.selection.numbered.getLast? = some keyset ∧
      keyset.fill? statement.params = some filled ∧
      CursorKeys r direction keys ∧
      Cursor.parse keys cursor s.collection.idPath = .ok values ∧
      q.order = keys.map (Predicate.orderOf s.collection.centroidPath) ∧
      (∀ (V : Type) (tests : Tests V) (row : RowValues V) (cmp : Expr → V → Scalar → Ordering)
        (xs : List V), Comparable tests row cmp q.order xs values →
          (filled.truth tests row = some true ↔
            Sorting.compareTuples (compareKey cmp) q.order xs values = .gt)) ∧
      statement.KeepsAfter (q.order.map fun key => (key.1.lexemes, key.2)) values := by
  obtain ⟨keys, values, filter, d, hkeys, hvalues, hcollection, hsort, hafter, hlegible,
    hstatements⟩ := statements_of_explain hplan hcursor
  obtain ⟨sort, spec, -, hparse, -⟩ := id hkeys
  have hlength := Cursor.length_of_parse hvalues
  let keyset := Predicate.keyset s.collection.centroidPath (keys.zip values)
  have horder : Draft.pageOrder d.collection d.sort =
      keys.map (Predicate.orderOf s.collection.centroidPath) := by
    rw [hcollection, hsort]
    exact pageOrder_of_parse s.collection hparse
  have hselection : (d.hitsStatement filter).query.selection = ⟨filter, [keyset]⟩ := by
    show Selection.mk filter (d.after.map (Predicate.keyset d.collection.centroidPath)).toList = _
    rw [hafter, hcollection]
    rfl
  have hlast : (d.hitsStatement filter).query.selection.numbered.getLast? =
      some (keyset.number 1) := by
    rw [hselection, Selection.numbered]
    exact List.getLast?_concat
  -- The parameters of the keyset come first, so those of the filter are behind them.
  have hfill : (keyset.number 1).fill? (d.hitsStatement filter).params = some keyset := by
    have hfill := Predicate.fill?_number [] (Predicate.valuesList filter) keyset
    rw [Statement.params, hselection]
    show Predicate.fill? ((keyset.values ++ []) ++ Predicate.valuesList filter) _ = _
    rw [List.append_nil]
    exact hfill
  have htruth : ∀ (V : Type) (tests : Tests V) (row : RowValues V)
      (cmp : Expr → V → Scalar → Ordering) (xs : List V),
      Comparable tests row cmp (Draft.pageOrder d.collection d.sort) xs values →
        (keyset.truth tests row = some true ↔
          Sorting.compareTuples (compareKey cmp) (Draft.pageOrder d.collection d.sort) xs values =
            .gt) := by
    intro V tests row cmp xs hrow
    rw [horder] at hrow ⊢
    rw [Predicate.truth_keyset _ hlength hrow, Option.some_inj, Ordering.isGT_iff_eq_gt]
  have hzip : keys.zip values ≠ [] := by
    have hne := Sorting.ne_nil_of_parse hparse
    rw [ne_eq, ← List.length_eq_zero_iff, List.length_zip, hlength, Nat.min_self,
      List.length_eq_zero_iff]
    exact hne
  refine ⟨d.hitsStatement filter, _, keyset.number 1, keyset, keys, values, ?_, rfl, hlast, hfill,
    hkeys, hvalues, horder, htruth, _, (keyset.number 1).lexemes,
    d.pageClauses?_hitsStatement hlegible hafter hzip, rfl, ?_, ?_⟩
  · rw [hstatements]
    rfl
  · rw [List.getLast?_map, hlast]
    rfl
  · -- A row with values for the texts of expressions has them for the expressions.
    intro V tests row cmp xs hrow
    have hranked : keyset.Ranked s.collection.centroidPath := Predicate.ranked_keyset hzip
    rw [Clause.clause?_keyset (hranked.number 1) hfill, Option.some_inj, compareTuples_map]
    exact htruth V tests _ _ xs ((comparable_map _ _ _ _ _ _ _).mp hrow)

/-! ### A page of people

Of two people of one age the second one comes after the first. -/

/-- The whole number of a value. -/
def wholeOf : Scalar → Int
  | .integer n => n
  | _ => 0

def wholeTests : Tests Int where
  equal x v := (Ord.compare x (wholeOf v)).isEq
  compare x op v := op.admits (Ord.compare x (wholeOf v))
  like _ _ := false
  likeAnyCase _ _ := false
  relates _ _ _ := false

def personRow (age id : Int) : RowValues Int
  | .column "age" => some age
  | .column "id" => some id
  | _ => none

def peopleService : Service backend :=
  ⟨⟨"people", "people", "id", "shape", "center", "seen", "epoch_millis", [],
    [("age", .integer), ("id", .integer)]⟩, 100⟩

/-- The page of adults after the first person of thirty years. -/
def adultsPage : SearchRequest :=
  ⟨⟨[[⟨"age", .gte, "18"⟩]], [], none⟩, ⟨10, 0, some "-age,id", some "30,1", none⟩⟩

/-- The same values by the lexemes of expressions. -/
def personText (age id : Int) : List Lexeme → Option Int
  | [.name "age"] => some age
  | [.name "id"] => some id
  | _ => none

theorem keyset_adultsPage : ∃ plan statement q keyset filled page text,
    peopleService.explainSearch adultsPage = .ok plan ∧
    plan.statements.filter (·.purpose = .hits) = [statement] ∧ statement.query = .rows q ∧
    q.selection.numbered.getLast? = some keyset ∧ keyset.fill? statement.params = some filled ∧
    filled.truth wholeTests (personRow 30 2) = some true ∧
    pageClauses? statement.sql = some page ∧
    page.order = [([.name "age"], .desc), ([.name "id"], .asc)] ∧
    page.conditions.getLast? = some text ∧
    Clause.clause? (Clause.compared? wholeTests (personText 30 2) statement.params) text =
      some (some true) := by
  obtain ⟨plan, hplan⟩ : ∃ plan, peopleService.explainSearch adultsPage = .ok plan := ⟨_, rfl⟩
  obtain ⟨statement, q, keyset, filled, keys, values, hstatement, hq, hkeyset, hfilled, hkeys,
    hvalues, horder, htruth, page, text, hpage, hpageOrder, htext, hreads⟩ :=
      @keyset_agrees_with_order peopleService adultsPage plan .after "30,1" hplan rfl
  obtain ⟨sort, spec, hsort, hparse, rfl⟩ := hkeys
  cases hsort
  have hread : Sorting.parse "-age,id" = .ok [.field "age" .desc, .field "id" .asc] := rfl
  cases hread.symm.trans hparse
  have hcursor : Cursor.parse [.field "age" .desc, .field "id" .asc] "30,1" "id" =
      .ok [.integer 30, .integer 1] := rfl
  cases hcursor.symm.trans hvalues
  rw [horder] at htruth hpageOrder
  replace hpageOrder : page.order = [([.name "age"], .desc), ([.name "id"], .asc)] := hpageOrder
  refine ⟨plan, statement, q, keyset, filled, page, text, hplan, hstatement, hq, hkeyset, hfilled,
    ?_, hpage, hpageOrder, htext, ?_⟩
  · refine (htruth Int wholeTests (personRow 30 2) (fun _ x v => Ord.compare x (wholeOf v)) [30, 2]
      ?_).mpr rfl
    exact .cons ⟨rfl, rfl, fun _ => rfl⟩ (.cons ⟨rfl, rfl, fun _ => rfl⟩ .nil)
  · rw [hpageOrder] at hreads
    refine (hreads Int wholeTests (personText 30 2) (fun _ x v => Ord.compare x (wholeOf v)) [30, 2]
      ?_).mpr rfl
    exact .cons ⟨rfl, rfl, fun _ => rfl⟩ (.cons ⟨rfl, rfl, fun _ => rfl⟩ .nil)

end Sql

end GeoFacet
