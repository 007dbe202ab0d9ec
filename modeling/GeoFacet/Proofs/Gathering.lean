import GeoFacet.Proofs.Outcome
import GeoFacet.Search.Backend
import GeoFacet.Service
import GeoFacet.Sql.Backend

/-!
# Gathering a request

A filter request is checked group by group while it is added to a draft. What is gathered depends on
the request, the collection and the search for unscoped text alone: `addFilter_eq` makes the same
groups for every backend, and adding them changes nothing but the filter of a draft. A sort is set
before its cursor, turned round where the cursor leads back.
-/

namespace GeoFacet

namespace Outcome

variable {α δ γ : Type}

/-- A walk that checks each item and adds what it comes to. -/
theorem foldlM_add (check : α → Outcome γ) (add : γ → δ → δ) (xs : List α) (d : δ) :
    xs.foldlM (fun d x => (check x).map (add · d)) d =
      (xs.mapM check).map fun ys => ys.foldl (fun d y => add y d) d := by
  induction xs generalizing d with
  | nil => rfl
  | cons x xs ih =>
    rw [List.foldlM_cons, mapM_cons]
    cases check x with
    | error e => rfl
    | ok y =>
      show xs.foldlM _ (add y d) = _
      rw [ih, ok_bind]
      cases xs.mapM check with
      | error e => rfl
      | ok ys => rfl

end Outcome

namespace FilterRequest

/-- The checked groups of a request, the expressions first. -/
def groups (r : FilterRequest) (c : Collection) (allowUnscoped : Bool) :
    Outcome (List (List Condition)) := do
  let expressions ← r.expressions.mapM (Condition.ofExpressions c r.dateFormat)
  let searches ← r.searches.mapM (Condition.ofSearches c allowUnscoped)
  .ok (expressions ++ searches)

end FilterRequest

namespace Backend

/-- **Every backend gathers the same groups.** -/
theorem addFilter_eq (b : Backend) (c : Collection) (r : FilterRequest) (d : b.Draft) :
    b.addFilter c r d = (r.groups c b.capabilities.unscopedText).map fun groups =>
      groups.foldl (fun d group => b.addGroup group d) d := by
  have hexpressions : r.expressions.foldlM (fun d g => b.addExpressions c r.dateFormat g d) d = _ :=
    Outcome.foldlM_add (Condition.ofExpressions c r.dateFormat) b.addGroup r.expressions d
  have hsearches : ∀ d, r.searches.foldlM (fun d g => b.addSearches c g d) d = _ :=
    Outcome.foldlM_add (Condition.ofSearches c b.capabilities.unscopedText) b.addGroup r.searches
  rw [addFilter, hexpressions, FilterRequest.groups]
  cases r.expressions.mapM (Condition.ofExpressions c r.dateFormat) with
  | error e => rfl
  | ok expressions =>
    show r.searches.foldlM (fun d g => b.addSearches c g d) _ = _
    rw [hsearches, Outcome.ok_bind]
    cases r.searches.mapM (Condition.ofSearches c b.capabilities.unscopedText) with
    | error e => rfl
    | ok searches =>
      exact congrArg Except.ok List.foldl_append.symm

end Backend

/-! ## Filters that were gathered -/

namespace Filter

/-- The groups that a filter keeps. -/
def gather (groups : List (List Condition)) : Filter := groups.foldl add []

end Filter

theorem Search.foldl_addGroup (groups : List (List Condition)) (d : Search.Draft) :
    groups.foldl (fun d group => Search.Draft.addGroup group d) d =
      { d with filter := groups.foldl Filter.add d.filter } := by
  induction groups generalizing d with
  | nil => rfl
  | cons group rest ih => rw [List.foldl_cons, ih]; rfl

theorem Sql.foldl_addGroup (groups : List (List Condition)) (d : Sql.Draft) :
    groups.foldl (fun d group => Sql.Draft.addGroup group d) d =
      { d with filter := groups.foldl Filter.add d.filter } := by
  induction groups generalizing d with
  | nil => rfl
  | cons group rest ih => rw [List.foldl_cons, ih]; rfl

theorem Search.addFilter_start (c : Collection) (r : FilterRequest) :
    Search.backend.addFilter c r (Search.Draft.start c) =
      (r.groups c true).map fun groups =>
        { Search.Draft.start c with filter := Filter.gather groups } := by
  refine (Backend.addFilter_eq Search.backend c r (Search.Draft.start c)).trans ?_
  exact congrArg (Except.map · _) (funext fun groups => Search.foldl_addGroup groups _)

theorem Sql.addFilter_start (c : Collection) (r : FilterRequest) :
    Sql.backend.addFilter c r (Sql.Draft.start c) =
      (r.groups c false).map fun groups =>
        { Sql.Draft.start c with filter := Filter.gather groups } := by
  refine (Backend.addFilter_eq Sql.backend c r (Sql.Draft.start c)).trans ?_
  exact congrArg (Except.map · _) (funext fun groups => Sql.foldl_addGroup groups _)

/-! ## Sorts and cursors -/

/-- The order of a scan, and the values that it comes after. -/
structure Scan where
  keys : List SortKey
  values : Option (List Scalar)

namespace Scan

/-- The scan of all rows in the order of a specification. -/
def ofSort (spec : String) : Outcome Scan := (Sorting.parse spec).map fun keys => ⟨keys, none⟩

/-- The scan of the rows after a cursor. -/
def ofCursor (idPath spec cursor : String) : Outcome Scan := do
  let keys ← Sorting.parse spec
  (Cursor.parse keys cursor idPath).map fun values => ⟨keys, some values⟩

/-- The scan that a page asks for. The rows before a cursor are scanned in the inverted order. -/
def ofPage (idPath : String) (page : Page) (cursor : Option (CursorDirection × String)) :
    Outcome Scan :=
  match page.sortSpec?, cursor with
  | none, _ => .ok ⟨[], none⟩
  | some sort, none => ofSort sort
  | some sort, some (.after, cursor) => ofCursor idPath sort cursor
  | some sort, some (.before, cursor) => do ofCursor idPath (← Sorting.invert sort) cursor

end Scan

namespace Backend

variable {b : Backend}

/-- What a backend keeps of a scan, in drafts that are otherwise the same. -/
structure Scans (b : Backend) (idPath : String) (put : Scan → b.Draft) : Prop where
  setSort : ∀ spec, b.setSort spec (put ⟨[], none⟩) = (Scan.ofSort spec).map put
  setCursor : ∀ spec cursor keys, Sorting.parse spec = .ok keys →
    b.setCursor spec cursor (put ⟨keys, none⟩) =
      (Cursor.parse keys cursor idPath).map fun values => put ⟨keys, some values⟩

variable {idPath : String} {put : Scan → b.Draft}

theorem Scans.setCursor_setSort (h : b.Scans idPath put) (spec cursor : String) :
    (b.setSort spec (put ⟨[], none⟩) >>= b.setCursor spec cursor) =
      (Scan.ofCursor idPath spec cursor).map put := by
  rw [h.setSort, Scan.ofSort, Scan.ofCursor]
  cases hparse : Sorting.parse spec with
  | error e => rfl
  | ok keys =>
    show b.setCursor spec cursor (put ⟨keys, none⟩) = _
    rw [h.setCursor spec cursor keys hparse, Outcome.ok_bind]
    cases Cursor.parse keys cursor idPath <;> rfl

/-- **A page adds its scan to a draft, and nothing else.** -/
theorem Scans.addSort_eq (h : b.Scans idPath put) (page : Page)
    (cursor : Option (CursorDirection × String)) :
    b.addSort page cursor (put ⟨[], none⟩) = (Scan.ofPage idPath page cursor).map put := by
  unfold addSort Scan.ofPage
  cases page.sortSpec? with
  | none => rfl
  | some sort =>
    match cursor with
    | none => exact h.setSort sort
    | some (.after, cursor) => exact h.setCursor_setSort sort cursor
    | some (.before, cursor) =>
      cases hinvert : Sorting.invert sort with
      | error e => simp only [hinvert]; rfl
      | ok inverted =>
        simp only [hinvert]
        exact h.setCursor_setSort inverted cursor

end Backend

theorem Search.scans (d : Search.Draft) : Search.backend.Scans d.collection.idPath fun scan =>
    { d with sort := scan.keys, searchAfter := scan.values } where
  setSort spec := by
    show (Search.Draft.setSort spec _) = _
    rw [Search.Draft.setSort, Scan.ofSort]
    cases Sorting.parse spec <;> rfl
  setCursor spec cursor keys hparse := by
    show (Search.Draft.setCursor spec cursor _) = _
    rw [Search.Draft.setCursor, hparse, Outcome.ok_bind]
    show (Cursor.parse keys cursor d.collection.idPath >>= _ : Outcome Search.Draft) = _
    cases Cursor.parse keys cursor d.collection.idPath <;> rfl

theorem Sql.scans (d : Sql.Draft) : Sql.backend.Scans d.collection.idPath fun scan =>
    { d with sort := scan.keys, after := scan.values.map scan.keys.zip } where
  setSort spec := by
    show (Sql.Draft.setSort spec _) = _
    rw [Sql.Draft.setSort, Scan.ofSort]
    cases Sorting.parse spec <;> rfl
  setCursor spec cursor keys hparse := by
    show (Sql.Draft.setCursor spec cursor _) = _
    rw [Sql.Draft.setCursor, hparse, Outcome.ok_bind]
    show (Cursor.parse keys cursor d.collection.idPath >>= _ : Outcome Sql.Draft) = _
    cases Cursor.parse keys cursor d.collection.idPath <;> rfl

/-! ## Compiled searches -/

/-- What a search request comes to: its direction, its filter and its scan. -/
structure Compiled where
  cursor : Option (CursorDirection × String)
  filter : Filter
  scan : Scan

namespace SearchRequest

/-- The checks of a search request, in their order. -/
def compiled (r : SearchRequest) (c : Collection) (limit : Nat) (allowUnscoped : Bool) :
    Outcome Compiled := do
  r.page.check limit
  let cursor ← r.page.cursor
  let groups ← r.filter.groups c allowUnscoped
  let scan ← Scan.ofPage c.idPath r.page cursor
  .ok ⟨cursor, Filter.gather groups, scan⟩

theorem compiled_eq_ok {r : SearchRequest} {c : Collection} {limit : Nat} {allowUnscoped : Bool}
    {q : Compiled} :
    r.compiled c limit allowUnscoped = .ok q ↔
      r.page.check limit = .ok () ∧ r.page.cursor = .ok q.cursor ∧
        (∃ groups, r.filter.groups c allowUnscoped = .ok groups ∧ q.filter = Filter.gather groups) ∧
        Scan.ofPage c.idPath r.page q.cursor = .ok q.scan := by
  constructor
  · intro h
    obtain ⟨_, hcheck, h⟩ := Outcome.bind_eq_ok.mp h
    obtain ⟨cursor, hcursor, h⟩ := Outcome.bind_eq_ok.mp h
    obtain ⟨groups, hgroups, h⟩ := Outcome.bind_eq_ok.mp h
    obtain ⟨scan, hscan, h⟩ := Outcome.bind_eq_ok.mp h
    cases h
    exact ⟨hcheck, hcursor, ⟨groups, hgroups, rfl⟩, hscan⟩
  · rintro ⟨hcheck, hcursor, ⟨groups, hgroups, hfilter⟩, hscan⟩
    rw [compiled, hcheck, Outcome.ok_bind, hcursor, Outcome.ok_bind, hgroups, Outcome.ok_bind,
      hscan, Outcome.ok_bind, ← hfilter]

end SearchRequest

/-- How a backend drafts a search of a collection. -/
structure Backend.Drafts (b : Backend) (c : Collection) (page : Page)
    (draft : Filter → Scan → b.Draft) : Prop where
  gather : ∀ groups : List (List Condition), b.setPage page.size page.offset
    (groups.foldl (fun d group => b.addGroup group d) (b.start c)) =
      draft (Filter.gather groups) ⟨[], none⟩
  scans : ∀ filter, b.Scans c.idPath (draft filter)

/-- **A search is compiled in the same steps for every backend.** -/
theorem Service.compileSearch_eq {b : Backend} (s : Service b) (r : SearchRequest)
    {draft : Filter → Scan → b.Draft} (h : b.Drafts s.collection r.page draft) :
    s.compileSearch r =
      (r.compiled s.collection s.maxPageSize b.capabilities.unscopedText >>= fun q =>
        (b.build (draft q.filter q.scan)).map fun plan => (plan, Service.isReversed q.cursor)) := by
  unfold compileSearch SearchRequest.compiled
  -- Each step fails on both sides with its own error, so the steps are compared one by one.
  cases r.page.check s.maxPageSize with
  | error e => rfl
  | ok _ =>
    cases r.page.cursor with
    | error e => rfl
    | ok cursor =>
      simp only [Outcome.ok_bind, Backend.addFilter_eq]
      cases r.filter.groups s.collection b.capabilities.unscopedText with
      | error e => rfl
      | ok groups =>
        show (b.addSort r.page cursor (b.setPage r.page.size r.page.offset _) >>= _) = _
        rw [h.gather, (h.scans _).addSort_eq, Outcome.ok_bind]
        cases Scan.ofPage s.collection.idPath r.page cursor with
        | error e => rfl
        | ok scan =>
          show (b.build _ >>= _) = (b.build _).map _
          cases b.build (draft (Filter.gather groups) scan) <;> rfl

theorem Service.explainSearch_eq_ok {b : Backend} {s : Service b} {r : SearchRequest}
    {plan : b.Plan} {draft : Filter → Scan → b.Draft} (h : b.Drafts s.collection r.page draft) :
    s.explainSearch r = .ok plan ↔
      ∃ q, r.compiled s.collection s.maxPageSize b.capabilities.unscopedText = .ok q ∧
        b.build (draft q.filter q.scan) = .ok plan := by
  rw [explainSearch, s.compileSearch_eq r h, Outcome.bind_eq_ok]
  constructor
  · rintro ⟨_, hcompile, hplan⟩
    obtain ⟨q, hq, hcompile⟩ := Outcome.bind_eq_ok.mp hcompile
    obtain ⟨plan', hbuild, rfl⟩ := Outcome.map_eq_ok.mp hcompile
    cases hplan
    exact ⟨q, hq, hbuild⟩
  · rintro ⟨q, hq, hbuild⟩
    exact ⟨(plan, isReversed q.cursor),
      Outcome.bind_eq_ok.mpr ⟨q, hq, Outcome.map_eq_ok.mpr ⟨plan, hbuild, rfl⟩⟩, rfl⟩

/-- The draft of a search. -/
def Search.draftOf (c : Collection) (page : Page) (filter : Filter) (scan : Scan) :
    Search.Draft :=
  { Search.Draft.start c with
    filter := filter
    size := some page.size
    offset := some page.offset
    sort := scan.keys
    searchAfter := scan.values }

theorem Search.drafts (c : Collection) (page : Page) :
    Search.backend.Drafts c page (Search.draftOf c page) where
  gather groups := by
    show Search.Draft.setPage page.size page.offset
      (groups.foldl (fun d group => Search.Draft.addGroup group d) (Search.Draft.start c)) = _
    rw [Search.foldl_addGroup]
    rfl
  scans filter := Search.scans (Search.draftOf c page filter ⟨[], none⟩)

/-- The draft of a search. -/
def Sql.draftOf (c : Collection) (page : Page) (filter : Filter) (scan : Scan) : Sql.Draft :=
  { Sql.Draft.start c with
    filter := filter
    size := page.size
    offset := page.offset
    sort := scan.keys
    after := scan.values.map scan.keys.zip }

theorem Sql.drafts (c : Collection) (page : Page) :
    Sql.backend.Drafts c page (Sql.draftOf c page) where
  gather groups := by
    show Sql.Draft.setPage page.size page.offset
      (groups.foldl (fun d group => Sql.Draft.addGroup group d) (Sql.Draft.start c)) = _
    rw [Sql.foldl_addGroup]
    rfl
  scans filter := Sql.scans (Sql.draftOf c page filter ⟨[], none⟩)

end GeoFacet
