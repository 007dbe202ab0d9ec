import GeoFacet.Proofs.Search.Paging

/-!
# Walking from page to page

A walk follows the cursor of each page to the next one until a page leads nowhere. Every step of a
walk shows the next rows of the order it goes in, so the pages together show all of them:
`walk_chunks`. The main statement is `paging_exact`.
-/

namespace GeoFacet.Search

/-- The pages that a walk visits within a number of steps. -/
def walk (ask : Option String → Outcome Hits) (next : Hits → Option String) :
    Nat → Option String → Outcome (List Hits)
  | 0, _ => .ok []
  | steps + 1, cursor => do
    let page ← ask cursor
    match next page with
    | none => .ok [page]
    | some cursor =>
      let pages ← walk ask next steps (some cursor)
      .ok (page :: pages)

theorem walk_last {ask : Option String → Outcome Hits} {next : Hits → Option String} {page : Hits}
    {cursor : Option String} (hask : ask cursor = .ok page) (hnext : next page = none)
    (steps : Nat) : walk ask next (steps + 1) cursor = .ok [page] := by
  rw [walk, hask, Outcome.ok_bind, hnext]

theorem walk_step {ask : Option String → Outcome Hits} {next : Hits → Option String} {page : Hits}
    {cursor : Option String} {c : String} {pages : List Hits} {steps : Nat}
    (hask : ask cursor = .ok page) (hnext : next page = some c)
    (hrest : walk ask next steps (some c) = .ok pages) :
    walk ask next (steps + 1) cursor = .ok (page :: pages) := by
  rw [walk, hask, Outcome.ok_bind, hnext]
  show (walk ask next steps (some c) >>= _) = _
  rw [hrest]
  rfl

namespace Listing

variable {l : Listing}

/-- A page that shows the first rows of some others and leads on from the last row shown. -/
def Shows (l : Listing) (next : Hits → Option String) (shown : List Json → List Hit)
    (rest : List Json) (page : Hits) : Prop :=
  page.hits = shown (rest.take l.size) ∧
    next page = (rest.take l.size).getLast?.bind fun d => (l.hit d).cursor

/-- **A walk shows the rest of its order.** Wherever each page shows the rows after its cursor, the
pages of the walk show all of them, each once. -/
theorem walk_chunks (h : l.Sound) {ask : Option String → Outcome Hits}
    {next : Hits → Option String} {shown : List Json → List Hit} {order : List Json}
    (hread : ∀ d ∈ order, ∃ cursor, l.Readable d cursor)
    (hask : ∀ seen r rest cursor, order = seen ++ r :: rest → l.Readable r cursor →
      ∃ page, ask (some cursor) = .ok page ∧ l.Shows next shown rest page)
    {steps : Nat} {seen rest : List Json} {start : Option String} {page : Hits}
    (horder : order = seen ++ rest) (hstart : ask start = .ok page)
    (hshows : l.Shows next shown rest page) (hsteps : rest.length < steps) :
    ∃ (pages : List Hits) (chunks : List (List Json)), walk ask next steps start = .ok pages ∧
      pages.map Hits.hits = chunks.map shown ∧ chunks.flatten = rest := by
  induction steps generalizing seen rest start page with
  | zero => omega
  | succ steps ih =>
    obtain ⟨hhits, hnext⟩ := hshows
    rcases List.eq_nil_or_concat (rest.take l.size) with hnil | ⟨init, r, hchunk⟩
    · -- Nothing is left, since a page has room for a row.
      have hrest : rest = [] :=
        (List.take_eq_nil_iff.mp hnil).resolve_left (by have := h.size_pos; omega)
      rw [hnil] at hnext
      refine ⟨[page], [rest], walk_last hstart hnext steps, ?_, by simp⟩
      rw [List.map_singleton, List.map_singleton, hhits, hnil, hrest]
    · have hsplit : rest = init ++ r :: rest.drop l.size := by
        conv_lhs => rw [← List.take_append_drop l.size rest, hchunk, List.concat_eq_append]
        rw [List.append_assoc, List.singleton_append]
      have hmem : r ∈ order := by
        rw [horder, hsplit]
        simp
      -- The cursor of the last row shown asks for the rows after it, which are those left.
      obtain ⟨cursor, hcursor⟩ := hread r hmem
      have horder' : order = (seen ++ init) ++ r :: rest.drop l.size := by
        rw [List.append_assoc, ← hsplit, horder]
      obtain ⟨page', hpage', hshows'⟩ := hask _ r _ cursor horder' hcursor
      have hlength : (rest.drop l.size).length < steps := by
        have := congrArg List.length hsplit
        simp only [List.length_append, List.length_cons] at this
        omega
      have horder'' : order = (seen ++ init ++ [r]) ++ rest.drop l.size := by
        rw [horder', List.append_assoc _ [r], List.singleton_append]
      obtain ⟨pages, chunks, hwalk, hpages, hchunks⟩ := ih horder'' hpage' hshows' hlength
      have hlead : next page = some cursor := by
        rw [hnext, hchunk, List.concat_eq_append, List.getLast?_concat]
        exact hcursor.1
      refine ⟨page :: pages, rest.take l.size :: chunks, walk_step hstart hlead hwalk, ?_, ?_⟩
      · rw [List.map_cons, List.map_cons, hhits, hpages]
      · rw [List.flatten_cons, hchunks, List.take_append_drop]

/-! ## Both directions -/

/-- The pages from the first one on. -/
def walkAfter (l : Listing) (steps : Nat) (start : Option String) : Outcome (List Hits) :=
  walk (fun cursor => l.page cursor none) Hits.after steps start

/-- The pages before a cursor, the nearest one first. -/
def walkBefore (l : Listing) (steps : Nat) (start : Option String) : Outcome (List Hits) :=
  walk (fun cursor => l.page none cursor) Hits.before steps start

/-- The hits of some rows, turned round. -/
def reversedHits (l : Listing) (rows : List Json) : List Hit := (rows.map l.hit).reverse

theorem after_mk (l : Listing) (total : Nat) (rows : List Json) :
    Hits.after ⟨total, rows.map l.hit⟩ = rows.getLast?.bind fun d => (l.hit d).cursor := by
  rw [Hits.after, List.getLast?_map, Option.bind_map]
  rfl

theorem before_mk (l : Listing) (total : Nat) (rows : List Json) :
    Hits.before ⟨total, l.reversedHits rows⟩ = rows.getLast?.bind fun d => (l.hit d).cursor := by
  rw [Hits.before, reversedHits, List.head?_reverse, List.getLast?_map, Option.bind_map]
  rfl

theorem shows_after (h : l.Sound) {seen rest : List Json} {r : Json} {cursor : String}
    (horder : l.ranked = seen ++ r :: rest) (hr : l.Readable r cursor) :
    ∃ page, l.page (some cursor) none = .ok page ∧
      l.Shows Hits.after (List.map l.hit) rest page := by
  refine ⟨_, page_after h hr, ?_, ?_⟩
  · rw [horder, Sorting.filter_after transCmp_compare (horder ▸ pairwise_ranked h)]
  · rw [after_mk, horder, Sorting.filter_after transCmp_compare (horder ▸ pairwise_ranked h)]

theorem shows_before (h : l.Sound) (hne : "" ∉ l.fields.map Prod.fst) {seen rest : List Json}
    {r : Json} {cursor : String} (horder : l.ranked.reverse = seen ++ r :: rest)
    (hr : l.Readable r cursor) :
    ∃ page, l.page none (some cursor) = .ok page ∧
      l.Shows Hits.before l.reversedHits rest page := by
  have hranked : l.ranked = rest.reverse ++ r :: seen.reverse := by
    rw [← List.reverse_reverse l.ranked, horder]
    simp
  have hbefore : l.ranked.filter (fun d => l.compare d r = .lt) = rest.reverse := by
    rw [hranked, Sorting.filter_before transCmp_compare (hranked ▸ pairwise_ranked h)]
  have hpage := page_before h hne hr
  rw [hbefore, List.rtake_eq_reverse_take_reverse, List.reverse_reverse, List.map_reverse] at hpage
  exact ⟨_, hpage, rfl, l.before_mk _ _⟩

/-- Following the cursors after from the first page shows every row once, in order. -/
theorem walkAfter_all (h : l.Sound) (hread : ∀ d ∈ l.ranked, ∃ cursor, l.Readable d cursor)
    {steps : Nat} (hsteps : l.ranked.length < steps) :
    ∃ pages, l.walkAfter steps none = .ok pages ∧
      pages.flatMap Hits.hits = l.ranked.map l.hit := by
  have hshows : l.Shows Hits.after (List.map l.hit) l.ranked
      ⟨l.rows.length, (l.ranked.take l.size).map l.hit⟩ := ⟨rfl, l.after_mk _ _⟩
  obtain ⟨pages, chunks, hwalk, hpages, hchunks⟩ :=
    @walk_chunks l h (fun cursor => l.page cursor none) Hits.after (List.map l.hit) l.ranked hread
      (fun _ _ _ _ horder hr => shows_after h horder hr) steps [] l.ranked none _ rfl
      (page_first h) hshows hsteps
  refine ⟨pages, hwalk, ?_⟩
  rw [List.flatMap_def, hpages, ← hchunks, List.map_flatten]

/-- Following the cursors before from the last row shows every other row once; the pages come in
reverse. -/
theorem walkBefore_all (h : l.Sound) (hne : "" ∉ l.fields.map Prod.fst)
    (hread : ∀ d ∈ l.ranked, ∃ cursor, l.Readable d cursor) {r : Json}
    (hlast : l.ranked.getLast? = some r) {cursor : String} (hr : l.Readable r cursor)
    {steps : Nat} (hsteps : l.ranked.length ≤ steps) :
    ∃ pages, l.walkBefore steps (some cursor) = .ok pages ∧
      pages.reverse.flatMap Hits.hits = l.ranked.dropLast.map l.hit := by
  have hranked : l.ranked = l.ranked.dropLast ++ [r] :=
    (List.dropLast_append_getLast? r hlast).symm
  have horder : l.ranked.reverse = [] ++ r :: l.ranked.dropLast.reverse := by
    conv_lhs => rw [hranked]
    rw [List.reverse_append]
    rfl
  obtain ⟨page, hpage, hshows⟩ := shows_before h hne horder hr
  have hlength : l.ranked.dropLast.reverse.length < steps := by
    have hpos : l.ranked ≠ [] := by
      rintro hnil
      rw [hnil] at hlast
      cases hlast
    have := List.length_pos_iff.mpr hpos
    rw [List.length_reverse, List.length_dropLast]
    omega
  -- Walking backwards is walking through the rows turned around, from behind the last one.
  obtain ⟨pages, chunks, hwalk, hpages, hchunks⟩ :=
    @walk_chunks l h (fun cursor => l.page none cursor) Hits.before l.reversedHits l.ranked.reverse
      (fun d hd => hread d (List.mem_reverse.mp hd))
      (fun _ _ _ _ horder hr => shows_before h hne horder hr) steps [r] l.ranked.dropLast.reverse
      (some cursor) page horder hpage hshows hlength
  refine ⟨pages, hwalk, ?_⟩
  have hdropLast : l.ranked.dropLast = chunks.flatten.reverse := by
    rw [hchunks, List.reverse_reverse]
  have hreversed : l.reversedHits = List.reverse ∘ List.map l.hit := rfl
  rw [List.flatMap_def, List.map_reverse, hpages, hdropLast, List.map_reverse, List.map_flatten,
    List.reverse_flatten, List.map_map, hreversed]

/-! ## Paging -/

/-- **Paging is exact.** The ranked rows are the rows, strictly in the requested order. The page
after a row that can be read back holds the first rows that follow it, and the page before it the
last rows that precede it, both in that order; so a walk after the first page shows every row once,
and a walk before the last row every other row once. A key without a name is all that stands against
it: then the inverted sort has a bare sign for a key, and every page before a cursor is refused. -/
theorem paging_exact (l : Listing) (h : l.Sound) :
    (l.ranked.Perm l.rows ∧ l.ranked.Pairwise fun d e => l.compare d e = .lt) ∧
    (∀ r cursor, l.Readable r cursor →
      l.page (some cursor) none = .ok ⟨l.rows.length,
        ((l.ranked.filter fun d => l.compare d r = .gt).take l.size).map l.hit⟩ ∧
      l.page none (some cursor) =
        if "" ∈ l.fields.map Prod.fst then refuse (.malformedSortToken "-")
        else .ok ⟨l.rows.length,
          ((l.ranked.filter fun d => l.compare d r = .lt).rtake l.size).map l.hit⟩) ∧
    ((∀ d ∈ l.rows, ∃ cursor, l.Readable d cursor) → ∀ steps, l.rows.length < steps →
      (∃ pages, l.walkAfter steps none = .ok pages ∧
        pages.flatMap Hits.hits = l.ranked.map l.hit) ∧
      ∀ r cursor, l.ranked.getLast? = some r → l.Readable r cursor →
        if "" ∈ l.fields.map Prod.fst then
          l.walkBefore steps (some cursor) = refuse (.malformedSortToken "-")
        else ∃ pages, l.walkBefore steps (some cursor) = .ok pages ∧
          pages.reverse.flatMap Hits.hits = l.ranked.dropLast.map l.hit) := by
  have hperm : l.ranked.Perm l.rows := Sorting.ranking_perm l.compare l.rows
  refine ⟨⟨hperm, pairwise_ranked h⟩, ?_, ?_⟩
  · intro r cursor hr
    refine ⟨page_after h hr, ?_⟩
    split
    · rename_i hempty
      exact page_before_empty h hempty cursor
    · rename_i hne
      exact page_before h hne hr
  · intro hread steps hsteps
    have hread' : ∀ d ∈ l.ranked, ∃ cursor, l.Readable d cursor :=
      fun d hd => hread d (hperm.mem_iff.mp hd)
    rw [← hperm.length_eq] at hsteps
    refine ⟨walkAfter_all h hread' hsteps, fun r cursor hlast hr => ?_⟩
    split
    · rename_i hempty
      -- The first page already asks with the turned specification.
      obtain ⟨steps, rfl⟩ : ∃ n, steps = n + 1 := ⟨steps - 1, by omega⟩
      rw [walkBefore, walk, page_before_empty h hempty cursor]
      rfl
    · rename_i hne
      exact walkBefore_all h hne hread' hlast hr (by omega)

/-! ### A listing of people

Two of three people share an age. One sort turns their ages round; the other begins with a bare plus
sign. -/

/-- The number that a value is ranked by. -/
def rankOf : Json → Int
  | .int n => n
  | _ => 0

def person (id age : Int) : Json := .object [("", .text "x"), ("age", .int age), ("id", .int id)]

def people : Listing where
  service := ⟨⟨"people", "people", "id", "shape", "center", "seen", "epoch_millis", [], []⟩, 100⟩
  store := {
    documents := [person 1 30, person 2 30, person 3 25]
    selects := fun _ _ => true
    valueAt := fun field d => d.member field
    compare := fun _ a b => Ord.compare (rankOf a) (rankOf b)
    total := fun _ => inferInstanceAs (Std.TransCmp (compareOn rankOf)) }
  filter := ⟨[], [], none⟩
  draft := Draft.start
    ⟨"people", "people", "id", "shape", "center", "seen", "epoch_millis", [], []⟩
  sort := "-age,id"
  fields := [("age", .desc), ("id", .asc)]
  size := 2

theorem sound_people : people.Sound where
  accepted := rfl
  parsed := rfl
  unsigned := by decide
  holdsId := by decide
  size_pos := by decide
  size_le := by decide
  distinct := by decide

theorem readable_people : ∀ d ∈ people.rows, ∃ cursor, people.Readable d cursor := by
  intro d hd
  have hd : d ∈ [person 1 30, person 2 30, person 3 25] := hd
  simp only [List.mem_cons, List.not_mem_nil, or_false] at hd
  rcases hd with rfl | rfl | rfl
  · exact ⟨"30,1", rfl, [.integer 30, .integer 1], rfl, rfl⟩
  · exact ⟨"30,2", rfl, [.integer 30, .integer 2], rfl, rfl⟩
  · exact ⟨"25,3", rfl, [.integer 25, .integer 3], rfl, rfl⟩

/-- The same people by a key without a name and their numbers. -/
def unnamedPeople : Listing := { people with
  sort := "+,id"
  fields := [("", .asc), ("id", .asc)] }

theorem sound_unnamedPeople : unnamedPeople.Sound where
  accepted := rfl
  parsed := rfl
  unsigned := by decide
  holdsId := by decide
  size_pos := by decide
  size_le := by decide
  distinct := by decide

/-- All people are shown going on from the first page, and without a name for a key there is no
going back. -/
theorem paging_people :
    (∃ pages, people.walkAfter 4 none = .ok pages ∧
      pages.flatMap Hits.hits = people.ranked.map people.hit) ∧
    unnamedPeople.page none (some "x,2") = refuse (.malformedSortToken "-") := by
  obtain ⟨-, -, hwalk⟩ := paging_exact people sound_people
  obtain ⟨-, hpages, -⟩ := paging_exact unnamedPeople sound_unnamedPeople
  have hread : unnamedPeople.Readable (person 2 30) "x,2" :=
    ⟨rfl, [.text "x", .integer 2], rfl, rfl⟩
  exact ⟨(hwalk readable_people 4 (by decide)).1, (hpages (person 2 30) "x,2" hread).2⟩

end Listing

end GeoFacet.Search
