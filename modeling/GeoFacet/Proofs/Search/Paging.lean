import GeoFacet.Proofs.Gathering
import GeoFacet.Proofs.Search.Store
import Mathlib.Data.List.DropRight

/-!
# Paging with cursors

A listing shows the documents that a filter selects page by page in a sort order. Over an ideal
store every page is exact: the page after a cursor is the beginning of the rows that follow, the
page before it is the end of the rows that precede, and a walk from page to page lists every row
once. A key without a name is the one exception, since no page before a cursor can be asked for.
-/

namespace GeoFacet

theorem Page.check_first {limit : Nat} {p : Page} (hpos : 0 < p.size) (hle : p.size ≤ limit)
    (hoffset : p.offset = 0) : p.check limit = .ok () := by
  rw [check, if_neg (by omega), if_neg (by omega), if_neg (by omega)]

namespace Search

open SortKey (ofField turned Unsigned)

/-- A sorted listing of the documents that a filter selects. -/
structure Listing where
  service : Service backend
  store : Store
  filter : FilterRequest
  /-- what the filter is gathered to -/
  draft : Draft
  sort : String
  /-- the fields that the sort names, with their directions -/
  fields : List (String × Order)
  size : Nat

namespace Listing

variable (l : Listing)

def idPath : String := l.service.collection.idPath

/-- The documents that the filter selects. -/
def rows : List Json := l.store.selected (Query.ofFilter l.draft.filter).toJson

/-- The requested order of documents. -/
def compare : Json → Json → Ordering := l.store.compareDocuments l.fields

/-- The documents in the requested order. -/
def ranked : List Json := Sorting.ranking l.compare l.rows

/-- A document as a hit. -/
def hit (d : Json) : Hit := Search.hit l.service.collection (l.store.rawHit l.fields d)

def request (after before : Option String) : SearchRequest :=
  ⟨l.filter, ⟨l.size, 0, some l.sort, after, before⟩⟩

/-- The page after or before a cursor, as the service answers for it. -/
def page (after before : Option String) : Outcome Hits :=
  (l.service.search l.store.client (l.request after before)).run

/-- The cursor of a document is read back as its sort values. -/
def Readable (d : Json) (cursor : String) : Prop :=
  (l.hit d).cursor = some cursor ∧
    ∃ values, Cursor.parse (l.fields.map ofField) cursor l.idPath = .ok values ∧
      values.map Scalar.toJson = l.store.sortValues l.fields d

/-- The listing is accepted, and its sort leaves no tie. -/
structure Sound : Prop where
  accepted : backend.addFilter l.service.collection l.filter (Draft.start l.service.collection) =
    .ok l.draft
  parsed : Sorting.parse l.sort = .ok (l.fields.map ofField)
  unsigned : ∀ f ∈ l.fields, Unsigned f.1
  holdsId : l.idPath ∈ l.fields.map Prod.fst
  size_pos : 0 < l.size
  size_le : l.size ≤ l.service.maxPageSize
  distinct : l.rows.Pairwise fun d e =>
    l.store.compare l.idPath (l.store.valueAt l.idPath d) (l.store.valueAt l.idPath e) ≠ .eq

/-! ## Plans -/

/-- The plan of a page. -/
def plan (fields : List (String × Order)) (values : Option (List Scalar)) : Plan :=
  Draft.build (draftOf l.service.collection (l.request none none).page l.draft.filter
    ⟨fields.map ofField, values⟩)

variable {l} {cursor : String} {values : List Scalar}

/-- The filter is gathered from the groups of the request. -/
theorem gathered (h : l.Sound) : ∃ groups,
    l.filter.groups l.service.collection true = .ok groups ∧
      l.draft.filter = Filter.gather groups := by
  have haccepted := h.accepted
  rw [addFilter_start] at haccepted
  obtain ⟨groups, hgroups, hdraft⟩ := Outcome.map_eq_ok.mp haccepted
  exact ⟨groups, hgroups, by rw [← hdraft]⟩

theorem sortSpec?_request (h : l.Sound) (after before : Option String) :
    (l.request after before).page.sortSpec? = some l.sort := by
  have hblank := Sorting.not_isBlank_of_parse h.parsed
  simp [request, Page.sortSpec?, hblank]

/-- How a page is compiled once its cursor is known. -/
theorem compileSearch_request (h : l.Sound) {after before : Option String}
    {c : Option (CursorDirection × String)} (hc : (l.request after before).page.cursor = .ok c) :
    l.service.compileSearch (l.request after before) =
      (Scan.ofPage l.idPath (l.request after before).page c).map fun scan =>
        ((draftOf l.service.collection (l.request after before).page l.draft.filter scan).build,
          Service.isReversed c) := by
  have hcheck := Page.check_first (p := (l.request after before).page) h.size_pos h.size_le rfl
  obtain ⟨groups, hgroups, hfilter⟩ := gathered h
  rw [l.service.compileSearch_eq _ (drafts l.service.collection _), SearchRequest.compiled, hcheck,
    hc]
  show ((l.filter.groups l.service.collection true >>= _) >>= _) = _
  rw [hgroups, hfilter]
  show ((Scan.ofPage l.idPath _ c >>= _) >>= _) = _
  cases Scan.ofPage l.idPath (l.request after before).page c <;> rfl

theorem ofPage_first (h : l.Sound) :
    Scan.ofPage l.idPath (l.request none none).page none = Scan.ofSort l.sort := by
  unfold Scan.ofPage
  rw [sortSpec?_request h]

theorem ofPage_after (h : l.Sound) (cursor : String) :
    Scan.ofPage l.idPath (l.request (some cursor) none).page (some (.after, cursor)) =
      Scan.ofCursor l.idPath l.sort cursor := by
  unfold Scan.ofPage
  rw [sortSpec?_request h]

theorem ofPage_before (h : l.Sound) (cursor : String) :
    Scan.ofPage l.idPath (l.request none (some cursor)).page (some (.before, cursor)) =
      (Sorting.invert l.sort >>= fun spec => Scan.ofCursor l.idPath spec cursor) := by
  unfold Scan.ofPage
  rw [sortSpec?_request h]

/-- The plan of the first page. -/
theorem compile_first (h : l.Sound) :
    l.service.compileSearch (l.request none none) = .ok (l.plan l.fields none, false) := by
  rw [compileSearch_request h rfl, ofPage_first h, Scan.ofSort, h.parsed]
  rfl

theorem cursor_after (h : l.Sound) (cursor : String) :
    (l.request (some cursor) none).page.cursor = .ok (some (.after, cursor)) := by
  show (if (l.request (some cursor) none).page.sortSpec?.isNone then _ else _ : Outcome _) = _
  rw [sortSpec?_request h]
  rfl

theorem cursor_before (h : l.Sound) (cursor : String) :
    (l.request none (some cursor)).page.cursor = .ok (some (.before, cursor)) := by
  show (if (l.request none (some cursor)).page.sortSpec?.isNone then _ else _ : Outcome _) = _
  rw [sortSpec?_request h]
  rfl

/-- The plan of the page after a cursor. -/
theorem compile_after (h : l.Sound)
    (hcursor : Cursor.parse (l.fields.map ofField) cursor l.idPath = .ok values) :
    l.service.compileSearch (l.request (some cursor) none) =
      .ok (l.plan l.fields (some values), false) := by
  rw [compileSearch_request h (cursor_after h cursor), ofPage_after h, Scan.ofCursor, h.parsed,
    Outcome.ok_bind, hcursor]
  rfl

/-- The plan of the page before a cursor scans the other way. -/
theorem compile_before (h : l.Sound) (hne : "" ∉ l.fields.map Prod.fst)
    (hcursor : Cursor.parse (l.fields.map ofField) cursor l.idPath = .ok values) :
    l.service.compileSearch (l.request none (some cursor)) =
      .ok (l.plan (l.fields.map turned) (some values), true) := by
  obtain ⟨inverted, hinvert, hparse⟩ := Sorting.parse_invert h.parsed h.unsigned hne
  rw [← Cursor.parse_turned h.holdsId] at hcursor
  rw [compileSearch_request h (cursor_before h cursor), ofPage_before h, hinvert, Outcome.ok_bind,
    Scan.ofCursor, hparse, Outcome.ok_bind, hcursor]
  rfl

/-- A key without a name leaves no plan for the page before a cursor. -/
theorem compile_before_empty (h : l.Sound) (hempty : "" ∈ l.fields.map Prod.fst) (cursor : String) :
    l.service.compileSearch (l.request none (some cursor)) = refuse (.malformedSortToken "-") := by
  obtain ⟨inverted, hinvert, hparse⟩ := Sorting.parse_invert_of_empty h.parsed h.unsigned hempty
  rw [compileSearch_request h (cursor_before h cursor), ofPage_before h, hinvert, Outcome.ok_bind,
    Scan.ofCursor, hparse]
  rfl

/-! ## Pages -/

/-- The page of a plan: the hits of the first documents that the store keeps, turned round after a
scan the other way. -/
theorem page_of_compile {after before : Option String} {fields : List (String × Order)}
    {vs : Option (List Scalar)} {reverse : Bool} {kept : List Json}
    (hcompile : l.service.compileSearch (l.request after before) = .ok (l.plan fields vs, reverse))
    (hraw : l.store.rawHit fields = l.store.rawHit l.fields)
    (hkept : l.store.cut fields (vs.map fun vs => vs.map Scalar.toJson)
      (Sorting.ranking (l.store.compareDocuments fields) l.rows) = kept) :
    l.page after before = .ok ⟨l.rows.length,
      (if reverse then (kept.take l.size).reverse else kept.take l.size).map l.hit⟩ := by
  have hpage : l.page after before =
      assembleHits l.service.collection reverse (l.store.answer (l.plan fields vs).toJson) := by
    rw [page, Service.search, hcompile]
    rfl
  have hanswer : l.store.answer (l.plan fields vs).toJson =
      Store.result l.rows.length ((kept.take l.size).map (l.store.rawHit l.fields)) := by
    rw [← hkept, ← hraw]
    exact l.store.answer_toJson (l.plan fields vs) rfl rfl rfl
  rw [hpage, hanswer, Store.assembleHits_result, ← List.map_reverse, ← apply_ite, List.map_map]
  rfl

/-! ## The order of the rows -/

theorem distinct_rows (h : l.Sound) : l.rows.Pairwise fun d e => l.compare d e ≠ .eq := by
  obtain ⟨f, hf, hid⟩ := List.mem_map.mp h.holdsId
  refine h.distinct.imp fun {d e} hde => Sorting.compareRows_ne_eq hf ?_
  show f.2.direct (l.store.compare f.1 (l.store.valueAt f.1 d) (l.store.valueAt f.1 e)) ≠ .eq
  rw [hid]
  exact mt Order.direct_eq_eq.mp hde

theorem transCmp_compare : Std.TransCmp l.compare := l.store.transCmp_compareDocuments l.fields

theorem pairwise_ranked (h : l.Sound) : l.ranked.Pairwise fun d e => l.compare d e = .lt :=
  Sorting.pairwise_ranking transCmp_compare (distinct_rows h)

/-- The scan in the inverted order. -/
theorem ranking_turned (h : l.Sound) :
    Sorting.ranking (l.store.compareDocuments (l.fields.map turned)) l.rows = l.ranked.reverse :=
  Sorting.ranking_turned transCmp_compare (l.store.compareDocuments_turned l.fields)
    (distinct_rows h)

/-- The cut at the sort values of a document. -/
theorem cut_sortValues (r : Json) (fields : List (String × Order)) (documents : List Json) :
    l.store.cut fields (some (l.store.sortValues fields r)) documents =
      documents.filter fun d => l.store.compareDocuments fields d r = .gt :=
  rfl

/-! ## Each page is exact -/

theorem page_first (h : l.Sound) :
    l.page none none = .ok ⟨l.rows.length, (l.ranked.take l.size).map l.hit⟩ :=
  page_of_compile (compile_first h) rfl rfl

variable {r : Json}

theorem page_after (h : l.Sound) (hr : l.Readable r cursor) :
    l.page (some cursor) none = .ok ⟨l.rows.length,
      ((l.ranked.filter fun d => l.compare d r = .gt).take l.size).map l.hit⟩ := by
  obtain ⟨-, values, hcursor, hvalues⟩ := hr
  refine page_of_compile (compile_after h hcursor) rfl ?_
  rw [Option.map_some, hvalues]
  rfl

theorem page_before (h : l.Sound) (hne : "" ∉ l.fields.map Prod.fst) (hr : l.Readable r cursor) :
    l.page none (some cursor) = .ok ⟨l.rows.length,
      ((l.ranked.filter fun d => l.compare d r = .lt).rtake l.size).map l.hit⟩ := by
  obtain ⟨-, values, hcursor, hvalues⟩ := hr
  rw [List.rtake_eq_reverse_take_reverse]
  refine page_of_compile (compile_before h hne hcursor)
    (funext (l.store.rawHit_turned l.fields)) ?_
  rw [Option.map_some, hvalues, ← l.store.sortValues_turned, cut_sortValues, ranking_turned h,
    List.filter_reverse]
  simp only [l.store.compareDocuments_turned, Ordering.swap_eq_gt]
  rfl

theorem page_before_empty (h : l.Sound) (hempty : "" ∈ l.fields.map Prod.fst) (cursor : String) :
    l.page none (some cursor) = refuse (.malformedSortToken "-") := by
  rw [page, Service.search, compile_before_empty h hempty cursor]
  rfl

end Listing

end Search

end GeoFacet
