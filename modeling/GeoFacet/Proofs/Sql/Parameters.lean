import GeoFacet.Proofs.Filter.Agreement
import GeoFacet.Proofs.Sorting.Inversion
import GeoFacet.Proofs.Sql.Forms

/-!
# Values of requests are parameters

A request is compiled to a draft; its values are those of its conditions and of its cursor. Each
statement binds them, and two requests that are alike but for these values are compiled to drafts
that are alike.

Main statement: `values_are_bound`.
-/

namespace GeoFacet

/-! ## Requests -/

/-- The keys of the scan that a page asks for, with a cursor in a direction or without one. -/
def Page.scanKeys (page : Page) (direction : Option CursorDirection) : Outcome (List SortKey) :=
  match page.sortSpec?, direction with
  | none, _ => .ok []
  | some sort, some .before => Sorting.invert sort >>= Sorting.parse
  | some sort, _ => Sorting.parse sort

/-- What the scan of a page is made of: its keys depend on the sort and the direction, and there is
a value for each of them if there is a cursor. -/
theorem Scan.parts_of_ofPage {idPath : String} {page : Page}
    {cursor : Option (CursorDirection × String)} {scan : Scan}
    (h : ofPage idPath page cursor = .ok scan) :
    page.scanKeys (cursor.map Prod.fst) = .ok scan.keys ∧
      scan.values.isSome = (page.sortSpec?.isSome && cursor.isSome) ∧
      ∀ values ∈ scan.values, values.length = scan.keys.length := by
  -- A cursor has as many values as the sort has keys.
  have hcursor {spec text : String} (h : ofCursor idPath spec text = .ok scan) :
      Sorting.parse spec = .ok scan.keys ∧ scan.values.isSome = true ∧
        ∀ values ∈ scan.values, values.length = scan.keys.length := by
    obtain ⟨keys, hkeys, h⟩ := Outcome.bind_eq_ok.mp h
    obtain ⟨values, hvalues, rfl⟩ := Outcome.map_eq_ok.mp h
    refine ⟨hkeys, rfl, fun values' hvalues' => ?_⟩
    cases hvalues'
    exact Cursor.length_of_parse hvalues
  unfold ofPage at h
  unfold Page.scanKeys
  cases hsort : page.sortSpec? with
  | none =>
    rw [hsort] at h
    cases h
    exact ⟨rfl, rfl, by simp⟩
  | some sort =>
    rw [hsort] at h
    match cursor with
    | none =>
      obtain ⟨keys, hkeys, rfl⟩ := Outcome.map_eq_ok.mp h
      exact ⟨hkeys, rfl, by simp⟩
    | some (.after, text) => exact hcursor h
    | some (.before, text) =>
      obtain ⟨spec, hspec, h⟩ := Outcome.bind_eq_ok.mp h
      obtain ⟨hkeys, hparts⟩ := hcursor h
      exact ⟨Outcome.bind_eq_ok.mpr ⟨spec, hspec, hkeys⟩, hparts⟩

/-- Pages that differ in their cursors alone, which lead the same way. -/
structure Page.Alike (page page' : Page) : Prop where
  size : page.size = page'.size
  offset : page.offset = page'.offset
  sort : page.sort = page'.sort
  after : page.after.isSome = page'.after.isSome
  before : page.before.isSome = page'.before.isSome

theorem Page.Alike.sortSpec?_eq {page page' : Page} (h : page.Alike page') :
    page.sortSpec? = page'.sortSpec? := by
  rw [sortSpec?, sortSpec?, h.sort]

theorem Page.Alike.scanKeys_eq {page page' : Page} (h : page.Alike page')
    (direction : Option CursorDirection) : page.scanKeys direction = page'.scanKeys direction := by
  unfold scanKeys
  rw [h.sortSpec?_eq]

/-- The direction of a cursor depends on which of the two there is. -/
theorem Page.direction_of_cursor {page : Page} {cursor : Option (CursorDirection × String)}
    (h : page.cursor = .ok cursor) : cursor.map Prod.fst =
      if page.after.isSome then some .after else if page.before.isSome then some .before
      else none := by
  -- Both checks refuse the page, so a cursor that is found has passed them.
  have hsome {found : CursorDirection × String} (h : (if page.sortSpec?.isNone then
      refuse .cursorWithoutSort else if 0 < page.offset then refuse .cursorWithOffset
      else Except.ok (some found)) = .ok cursor) : cursor = some found := by
    split at h
    · cases h
    · split at h
      · cases h
      · cases h
        rfl
  unfold Page.cursor at h
  cases hafter : page.after with
  | none =>
    cases hbefore : page.before with
    | none =>
      rw [hafter, hbefore] at h
      cases h
      rfl
    | some text =>
      rw [hafter, hbefore] at h
      rw [hsome h]
      rfl
  | some text =>
    cases hbefore : page.before with
    | none =>
      rw [hafter, hbefore] at h
      rw [hsome h]
      rfl
    | some text' =>
      rw [hafter, hbefore] at h
      cases h

namespace Request

/-- Requests that differ in the values of their filters and cursors alone. What their filters have
in common is compared after they are compiled. -/
inductive Alike : Request → Request → Prop
  | search {f f' : FilterRequest} {page page' : Page} (h : page.Alike page') :
    Alike (.search ⟨f, page⟩) (.search ⟨f', page'⟩)
  | facets (f f' : FilterRequest) (facets : List FacetSpec) (geo : Bool) :
    Alike (.facets ⟨f, facets, geo⟩) (.facets ⟨f', facets, geo⟩)
  | compute (f f' : FilterRequest) (field : String) (metric : ComputationMetric) :
    Alike (.compute ⟨f, field, metric⟩) (.compute ⟨f', field, metric⟩)

/-- The conditions that a request is compiled to, where every search names its field. -/
def conditions (c : Collection) (r : Request) : Outcome Filter :=
  (r.filter.groups c false).map Filter.gather

/-- The values of the cursor of a request, none without a cursor. -/
def cursorValues (c : Collection) : Request → Outcome (List Scalar)
  | .search r => do
    let scan ← Scan.ofPage c.idPath r.page (← r.page.cursor)
    .ok (scan.values.getD [])
  | _ => .ok []

end Request

namespace Sql

/-- The draft that a request is compiled to. -/
inductive Drafted (c : Collection) : Request → Draft → Prop
  | search {r : SearchRequest} {filter : Filter} {cursor : Option (CursorDirection × String)}
    {scan : Scan} (hfilter : Request.conditions c (.search r) = .ok filter)
    (hcursor : r.page.cursor = .ok cursor) (hscan : Scan.ofPage c.idPath r.page cursor = .ok scan) :
    Drafted c (.search r) (draftOf c r.page filter scan)
  | facets {r : FacetRequest} {filter : Filter} {levels : FacetPlan}
    (hfilter : Request.conditions c (.facets r) = .ok filter)
    (hlevels : FacetPlan.compile c r.geo r.facets = .ok levels) :
    Drafted c (.facets r) { Draft.start c with filter := filter, aim := .facets levels }
  | compute {r : ComputationRequest} {filter : Filter}
    (hfilter : Request.conditions c (.compute r) = .ok filter) :
    Drafted c (.compute r)
      { Draft.start c with filter := filter, aim := .computation (Text.trim r.field) r.metric }

theorem drafted_of_explain {s : Service backend} {r : Request} {plan : Plan}
    (h : s.explain r = .ok plan) : ∃ d, Drafted s.collection r d ∧ d.build = .ok plan := by
  cases r with
  | search r =>
    obtain ⟨q, hq, hbuild⟩ := (Service.explainSearch_eq_ok (drafts s.collection r.page)).mp h
    obtain ⟨-, hcursor, ⟨groups, hgroups, hfilter⟩, hscan⟩ := SearchRequest.compiled_eq_ok.mp hq
    exact ⟨_, .search (Outcome.map_eq_ok.mpr ⟨groups, hgroups, hfilter.symm⟩) hcursor hscan, hbuild⟩
  | facets r =>
    obtain ⟨levels, d, hlevels, hd, hbuild⟩ := Service.explainFacets_eq_ok.mp h
    obtain ⟨groups, hgroups, rfl⟩ :=
      Outcome.map_eq_ok.mp ((addFilter_start s.collection r.filter).symm.trans hd)
    exact ⟨_, .facets (Outcome.map_eq_ok.mpr ⟨groups, hgroups, rfl⟩) hlevels, hbuild⟩
  | compute r =>
    obtain ⟨d, hd, h⟩ := Outcome.bind_eq_ok.mp h
    obtain ⟨groups, hgroups, rfl⟩ :=
      Outcome.map_eq_ok.mp ((addFilter_start s.collection r.filter).symm.trans hd)
    obtain ⟨d', hd', hbuild⟩ := Outcome.bind_eq_ok.mp h
    obtain ⟨type, -, hd'⟩ := Outcome.bind_eq_ok.mp hd'
    cases hd'
    exact ⟨_, .compute (Outcome.map_eq_ok.mpr ⟨groups, hgroups, rfl⟩), hbuild⟩

namespace Drafted

variable {c : Collection} {r r' : Request} {d d' : Draft}

theorem conditions_eq (h : Drafted c r d) : r.conditions c = .ok d.filter := by
  cases h with
  | search hfilter _ _ => exact hfilter
  | facets hfilter _ => exact hfilter
  | compute hfilter => exact hfilter

theorem cursorValues_eq (h : Drafted c r d) :
    r.cursorValues c = .ok ((d.after.getD []).map Prod.snd) := by
  cases h with
  | @search r filter cursor scan _ hcursor hscan =>
    obtain ⟨-, -, hlength⟩ := Scan.parts_of_ofPage hscan
    rw [Request.cursorValues, hcursor, Outcome.ok_bind, hscan, Outcome.ok_bind]
    show Except.ok _ = Except.ok (((scan.values.map scan.keys.zip).getD []).map Prod.snd)
    cases hvalues : scan.values with
    | none => rfl
    | some values =>
      rw [Option.map_some, Option.getD_some, Option.getD_some,
        List.map_snd_zip (Nat.le_of_eq (hlength values hvalues))]
  | facets _ _ => rfl
  | compute _ => rfl

/-- The scans of pages that are alike have the same keys, and values for them or none. -/
theorem scans_alike {idPath : String} {page page' : Page} (hpage : page.Alike page')
    {cursor cursor' : Option (CursorDirection × String)} (hcursor : page.cursor = .ok cursor)
    (hcursor' : page'.cursor = .ok cursor') {scan scan' : Scan}
    (hscan : Scan.ofPage idPath page cursor = .ok scan)
    (hscan' : Scan.ofPage idPath page' cursor' = .ok scan') :
    scan.keys = scan'.keys ∧ (scan.values.map scan.keys.zip).map (·.map Prod.fst) =
      (scan'.values.map scan'.keys.zip).map (·.map Prod.fst) := by
  have hdirection : cursor.map Prod.fst = cursor'.map Prod.fst := by
    rw [Page.direction_of_cursor hcursor, Page.direction_of_cursor hcursor', hpage.after,
      hpage.before]
  obtain ⟨hkeys, hsome, hlength⟩ := Scan.parts_of_ofPage hscan
  obtain ⟨hkeys', hsome', hlength'⟩ := Scan.parts_of_ofPage hscan'
  have hsort : scan.keys = scan'.keys := by
    rw [hpage.scanKeys_eq, hdirection] at hkeys
    exact Except.ok.inj (hkeys.symm.trans hkeys')
  -- Both pages have a cursor and a sort, or neither has.
  have hvalues : scan.values.isSome = scan'.values.isSome := by
    have hcursors := congrArg Option.isSome hdirection
    rw [Option.isSome_map, Option.isSome_map] at hcursors
    rw [hsome, hsome', hcursors, hpage.sortSpec?_eq]
  refine ⟨hsort, ?_⟩
  cases hv : scan.values with
  | none =>
    cases hv' : scan'.values with
    | none => rfl
    | some values' => simp [hv, hv'] at hvalues
  | some values =>
    cases hv' : scan'.values with
    | none => simp [hv, hv'] at hvalues
    | some values' =>
      rw [Option.map_some, Option.map_some, Option.map_some, Option.map_some,
        List.map_fst_zip (Nat.le_of_eq (hlength values hv).symm),
        List.map_fst_zip (Nat.le_of_eq (hlength' values' hv').symm), hsort]

/-- Requests that are alike are compiled to drafts that are alike, if their conditions have the same
forms. -/
theorem alike (h : Drafted c r d) (h' : Drafted c r' d') (halike : r.Alike r')
    (hforms : d.filter.forms = d'.filter.forms) : d.Alike d' := by
  cases halike with
  | @search f f' page page' hpage =>
    cases h with
    | @search _ filter cursor scan _ hcursor hscan =>
      cases h' with
      | @search _ filter' cursor' scan' _ hcursor' hscan' =>
        obtain ⟨hsort, hafter⟩ := scans_alike hpage hcursor hcursor' hscan hscan'
        exact ⟨rfl, hforms, hpage.size, hpage.offset, hsort, hafter, rfl⟩
  | facets f f' facets geo =>
    cases h with
    | facets _ hlevels =>
      cases h' with
      | facets _ hlevels' =>
        cases hlevels.symm.trans hlevels'
        exact ⟨rfl, hforms, rfl, rfl, rfl, rfl, rfl⟩
  | compute f f' field metric =>
    cases h with
    | compute _ =>
      cases h' with
      | compute _ => exact ⟨rfl, hforms, rfl, rfl, rfl, rfl, rfl⟩

end Drafted

/-- The values that a statement of a request binds: those of its conditions, and for the hits those
of the keyset of its cursor. -/
def boundValues (conditions : Filter) (cursor : List Scalar) (purpose : Purpose) : List Scalar :=
  (conditions.flatMap fun group => group.flatMap Condition.bound) ++
    if purpose = .hits then keysetValues cursor else []

/-- **Values are bound, never written.** Each statement of an accepted request has one placeholder
for each parameter, numbered from one, and what stands there are the values of the conditions and of
the cursor. Two accepted requests that are alike and whose conditions have the same forms have the
same statements up to their parameters. -/
theorem values_are_bound (s : Service backend) :
    (∀ r plan, s.explain r = .ok plan →
      ∃ conditions cursor filter, r.conditions s.collection = .ok conditions ∧
        r.cursorValues s.collection = .ok cursor ∧ Predicate.ofFilter conditions = .ok filter ∧
        ∀ statement ∈ plan.statements,
          statement.Binds (boundValues conditions cursor statement.purpose) filter) ∧
    ∀ r r' plan plan' conditions conditions', r.Alike r' →
      s.explain r = .ok plan → s.explain r' = .ok plan' →
      r.conditions s.collection = .ok conditions → r'.conditions s.collection = .ok conditions' →
      conditions.forms = conditions'.forms →
      plan.table = plan'.table ∧ List.Forall₂ Statement.Alike plan.statements plan'.statements := by
  constructor
  · intro r plan hplan
    obtain ⟨d, hd, hbuild⟩ := drafted_of_explain hplan
    obtain ⟨filter, hfilter, hbinds⟩ := Draft.binds_of_build hbuild
    exact ⟨d.filter, _, filter, hd.conditions_eq, hd.cursorValues_eq, hfilter, hbinds⟩
  · intro r r' plan plan' conditions conditions' halike hplan hplan' hconditions hconditions' hforms
    obtain ⟨d, hd, hbuild⟩ := drafted_of_explain hplan
    obtain ⟨d', hd', hbuild'⟩ := drafted_of_explain hplan'
    cases hconditions.symm.trans hd.conditions_eq
    cases hconditions'.symm.trans hd'.conditions_eq
    exact (hd.alike hd' halike hforms).build hbuild hbuild'

/-! ### Notes by title

The name of the column holds a dollar sign and the second title a quote. -/

def notesService : Service backend :=
  ⟨⟨"notes", "notes", "id", "shape", "place", "seen", "epoch_millis", [],
    [("id", .integer), ("title $1", .keyword)]⟩, 100⟩

/-- The notes with one of two titles behind a note. -/
def notesPage (titles after : String) : Request :=
  .search ⟨⟨[[⟨"title $1", .eq, titles⟩]], [], none⟩, ⟨10, 0, some "id", some after, none⟩⟩

theorem values_are_bound_notes : ∃ plan plan' filter,
    notesService.explain (notesPage "a,b" "3") = .ok plan ∧
    notesService.explain (notesPage "$2,\"" "4") = .ok plan' ∧
    List.Forall₂ Statement.Alike plan.statements plan'.statements ∧
    plan'.statements.map Statement.params =
      [[.text "$2", .text "\""], [.integer 4, .text "$2", .text "\""]] ∧
    ∀ statement ∈ plan.statements, statement.Binds (.text "a" :: .text "b" ::
      if statement.purpose = .hits then [.integer 3] else []) filter := by
  obtain ⟨plan, hplan⟩ : ∃ plan, notesService.explain (notesPage "a,b" "3") = .ok plan := ⟨_, rfl⟩
  obtain ⟨plan', hplan', hparams⟩ : ∃ plan', notesService.explain (notesPage "$2,\"" "4") =
      .ok plan' ∧ plan'.statements.map Statement.params =
        [[.text "$2", .text "\""], [.integer 4, .text "$2", .text "\""]] := ⟨_, rfl, rfl⟩
  obtain ⟨hbinds, halike⟩ := values_are_bound notesService
  obtain ⟨conditions, cursor, filter, hconditions, hcursor, -, hstatements⟩ := hbinds _ _ hplan
  have hforms : conditions = [[.oneOf "title $1" [.text "a", .text "b"]]] :=
    (Except.ok.inj hconditions).symm
  have hcursor : cursor = [.integer 3] := (Except.ok.inj hcursor).symm
  rw [hforms, hcursor] at hstatements
  have hpages : (notesPage "a,b" "3").Alike (notesPage "$2,\"" "4") :=
    .search ⟨rfl, rfl, rfl, rfl, rfl⟩
  refine ⟨plan, plan', filter, hplan, hplan', ?_, hparams, hstatements⟩
  exact (halike _ _ _ _ conditions [[.oneOf "title $1" [.text "$2", .text "\""]]] hpages hplan
    hplan' hconditions rfl (by rw [hforms]; rfl)).2

end Sql

end GeoFacet
