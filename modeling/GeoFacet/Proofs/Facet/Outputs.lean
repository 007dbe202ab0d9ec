import GeoFacet.Proofs.Facet.Entries
import GeoFacet.Proofs.Sql.Lexeme
import GeoFacet.Sql.Backend

/-!
# The output columns of facet statements

The statement of a level gives the keys of the levels above it and its own, the number of rows, the
columns of its sub-results and a rank. Their names never meet, so a column that the ranking or the
assembler names is the one that was asked for. The rows of a plan are read under the purposes and
the output columns of its statements only.

Main statement: `names_agree`.
-/

namespace GeoFacet

namespace Sql

/-! ## Columns of a level -/

/-- The columns of the buckets of a level before they are ranked. -/
def LevelQuery.grouped (q : LevelQuery) : List Column := q.parents ++ q.key :: q.columns

theorem LevelQuery.groupedTokens_eq (q : LevelQuery) : ∃ rest, q.groupedTokens =
    .word "SELECT " ::
      (Token.join ", " (q.grouped.map Column.tokens) ++ .word " FROM " :: rest) := by
  refine ⟨.name q.table :: (q.selection.tokens ++ .word " GROUP BY " ::
    Token.join ", " ((List.range' 1 (q.parents ++ [q.key]).length).map fun i =>
      [.word (toString i)])), ?_⟩
  simp [groupedTokens, grouped]

theorem LevelQuery.tokens_eq (q : LevelQuery) : ∃ ranked rest, q.tokens =
    .word "SELECT * FROM (" :: .word "SELECT grouped.*, ROW_NUMBER() OVER (" ::
      (ranked ++ .word " FROM (" :: (q.groupedTokens ++ rest)) := by
  let names := q.parents.map Column.name
  let partition :=
    if names.isEmpty then [] else Token.between "PARTITION BY " " " (nameTokens names)
  let ranks := orderTokens (q.rank.map fun rank => ([.name rank.1], rank.2))
  let limit (n : Nat) : List Token :=
    [.word " WHERE ", .name rankName, .word (" <= " ++ toString n)]
  refine ⟨partition ++ .word "ORDER BY " :: (ranks ++ [.word ") AS ", .name rankName]),
    .word ") AS grouped" :: (.word ") AS ranked" ::
      ((q.size.map limit).getD [] ++ .word " ORDER BY " :: nameTokens (names ++ [rankName]))), ?_⟩
  cases hsize : q.size <;>
    simp [tokens, rankedTokens, Token.between, names, partition, ranks, limit, hsize]

/-- The innermost query of a level selects its columns. -/
theorem LevelQuery.textOf_tokens (q : LevelQuery) : ∃ ranked rest, Token.textOf q.tokens =
    "SELECT * FROM (SELECT grouped.*, ROW_NUMBER() OVER (" ++ ranked ++ " FROM (SELECT " ++
      ", ".intercalate (q.grouped.map fun column => Token.textOf column.tokens) ++ " FROM " ++
        rest := by
  obtain ⟨ranked, rest, htokens⟩ := q.tokens_eq
  obtain ⟨more, hgrouped⟩ := q.groupedTokens_eq
  refine ⟨Token.textOf ranked, Token.textOf more ++ Token.textOf rest, ?_⟩
  rw [htokens, hgrouped]
  have hopen (s : String) : "SELECT * FROM (" ++ ("SELECT grouped.*, ROW_NUMBER() OVER (" ++ s) =
      "SELECT * FROM (SELECT grouped.*, ROW_NUMBER() OVER (" ++ s := by
    rw [← String.append_assoc]
    rfl
  have hselect (s : String) : " FROM (" ++ ("SELECT " ++ s) = " FROM (SELECT " ++ s := by
    rw [← String.append_assoc]
    rfl
  simp only [Token.textOf, Token.textOf_append, Token.textOf_join, Token.text, List.map_map,
    List.cons_append, List.append_assoc, String.append_assoc, hopen, hselect]
  rfl

/-- The expressions that compute a function over a column, each with what is added to the name that
it is selected under. -/
def expressions (column : String) : CollectFunction → List (String × String)
  | .avg => [("AVG(" ++ column ++ ")", "")]
  | .cardinality => [("COUNT(DISTINCT " ++ column ++ ")", "")]
  | .max => [("MAX(" ++ column ++ ")", "")]
  | .min => [("MIN(" ++ column ++ ")", "")]
  | .sum => [("SUM(" ++ column ++ ")", "")]
  | .geoBBox =>
    [("ST_XMin(ST_Extent(" ++ column ++ "))", "_west"),
      ("ST_YMin(ST_Extent(" ++ column ++ "))", "_south"),
      ("ST_XMax(ST_Extent(" ++ column ++ "))", "_east"),
      ("ST_YMax(ST_Extent(" ++ column ++ "))", "_north")]
  | .geoCentroid =>
    [("AVG(ST_X(" ++ column ++ "))", "_lon"), ("AVG(ST_Y(" ++ column ++ "))", "_lat")]

/-- The level selects the expression of that text under the name. -/
def LevelQuery.Selects (q : LevelQuery) (expression name : String) : Prop :=
  ∃ column ∈ q.grouped, column.name = name ∧
    Token.textOf column.tokens = expression ++ " AS " ++ quote name

theorem Column.textOf_tokens (c : Column) :
    Token.textOf c.tokens = Token.textOf c.value.tokens ++ " AS " ++ quote c.name := by
  rw [Column.tokens, Token.textOf_append, String.append_assoc]
  simp [Token.textOf, Token.text]

/-- The columns of a metric are selected by the expressions of its function. -/
theorem Column.selected_metric (function : CollectFunction) (field name : String) :
    (Column.metric function field name).map (fun column =>
      (Token.textOf column.value.tokens, column.name)) =
      (expressions (quote field) function).map fun e => (e.1, name ++ e.2) := by
  cases function <;>
    simp [Column.metric, expressions, box, centroid, Expr.tokens, Expr.tokensList, Token.between,
      Token.join, Token.textOf, Token.text, westName, southName, eastName, northName, lonName,
      latName, String.append_assoc] <;>
    simp [← String.append_assoc]

theorem LevelQuery.selects_metric {q : LevelQuery} {function : CollectFunction}
    {field name : String} (h : ∀ column ∈ Column.metric function field name, column ∈ q.grouped) :
    ∀ e ∈ expressions (quote field) function, q.Selects e.1 (name ++ e.2) := by
  intro e he
  have hselected : (e.1, name ++ e.2) ∈ (Column.metric function field name).map fun column =>
      (Token.textOf column.value.tokens, column.name) := by
    rw [Column.selected_metric]
    exact List.mem_map_of_mem he
  obtain ⟨column, hcolumn, heq⟩ := List.mem_map.mp hselected
  obtain ⟨hvalue, hname⟩ := Prod.mk.inj heq
  exact ⟨column, h column hcolumn, hname, by rw [Column.textOf_tokens, hvalue, hname]⟩

/-- The names of the columns that a query selects. -/
def Query.outputNames : Query → List String
  | .rows q => q.columns.map Column.name
  | .level q => q.grouped.map Column.name ++ [rankName]

variable {c : Collection} {filter : List (Predicate Scalar)} {levels above : List FacetLevel}
  {depth : Nat} {l : FacetLevel}

/-- The keys of the levels above a depth are numbered. -/
theorem names_keys (h : FacetLevel.SoundFrom 0 levels) (hdepth : depth ≤ levels.length) :
    ((levels.take depth).map keyColumn).map Column.name = (List.range depth).map keyName := by
  have hdepths : (levels.take depth).map FacetLevel.depth = List.range depth := by
    rw [List.map_take, h.depths, ← List.range_eq_range', List.take_range, Nat.min_eq_left hdepth]
  rw [← hdepths, List.map_map, List.map_map]
  rfl

theorem outputNames_levelQuery (h : FacetLevel.SoundFrom 0 levels) (hl : levels[depth]? = some l) :
    (Query.level (levelQuery c filter (levels.take depth) l)).outputNames = levelNames l depth := by
  have hparents := names_keys h (Nat.le_of_lt (List.getElem?_eq_some_iff.mp hl).1)
  have hkey : (keyColumn l).name = keyName depth := congrArg keyName (h.sound hl).depth_eq
  have hcolumns := FacetLevel.columnNames_subResults c.centroidPath l
  rw [Query.outputNames, LevelQuery.grouped, levelNames, List.range_succ, hcolumns]
  simp [levelQuery, ← hparents, hkey, countColumn]

/-! ## Statements of a plan -/

/-- The statement of each level of a plan. -/
theorem getElem?_levelStatements (c : Collection) (filter : List (Predicate Scalar))
    (above levels : List FacetLevel) (i : Nat) :
    (levelStatements c filter above levels)[i]? = levels[i]?.map fun l =>
      ⟨.level l.depth, .level (levelQuery c filter (above ++ levels.take i) l)⟩ := by
  induction levels generalizing above i with
  | nil => rfl
  | cons first below ih =>
    cases i with
    | zero => simp [levelStatements]
    | succ i =>
      rw [levelStatements, List.getElem?_cons_succ, ih]
      simp

/-- The statements of levels are for their depths, in their order. -/
theorem purposes_levelStatements {depth : Nat} (h : FacetLevel.SoundFrom depth levels) :
    (levelStatements c filter above levels).map Statement.purpose =
      (List.range' depth levels.length).map Purpose.level := by
  induction levels generalizing above depth with
  | nil => rfl
  | cons first below ih =>
    rw [levelStatements, List.map_cons, ih h.2, h.1.depth_eq]
    rfl

/-! ## What is read of rows -/

/-- The columns of a function are those that its value is read from. -/
theorem columnNames_expressions (column name : String) (function : CollectFunction) :
    (expressions column function).map (fun e => name ++ e.2) =
      SubResult.columnNames ⟨function, name⟩ := by
  cases function <;> rfl

/-- Two rows hold the same in the given columns. -/
def AlikeRows (names : List String) (row row' : Row) : Prop :=
  ∀ name ∈ names, row.lookup name = row'.lookup name

section Reading

variable {row row' : Row}

theorem AlikeRows.subResult (h : AlikeRows (levelNames l depth) row row') {s : SubResult}
    (hs : s ∈ l.subResults) : AlikeRows s.columnNames row row' := by
  intro column hcolumn
  refine h column ?_
  rw [levelNames]
  exact List.mem_append_left _ (List.mem_append_right _ (List.mem_cons_of_mem _
    (List.mem_flatMap.mpr ⟨s, hs, hcolumn⟩)))

theorem number?_congr {names : List String} (h : AlikeRows names row row') {column : String}
    (hcolumn : column ∈ names) : row.number? column = row'.number? column := by
  rw [Row.number?, Row.number?, h column hcolumn]

theorem boxPolygon?_congr {name : String}
    (h : AlikeRows (SubResult.columnNames ⟨.geoBBox, name⟩) row row') :
    row.boxPolygon? name = row'.boxPolygon? name := by
  have hnumber : ∀ column ∈ SubResult.columnNames ⟨.geoBBox, name⟩,
      row.number? column = row'.number? column := fun _ => number?_congr h
  simp only [SubResult.columnNames, SubResult.endings, List.map_cons, List.forall_mem_cons]
    at hnumber
  obtain ⟨hwest, hsouth, heast, hnorth, -⟩ := hnumber
  simp only [Row.boxPolygon?, Column.westName, Column.southName, Column.eastName, Column.northName,
    hwest, hsouth, heast, hnorth]

theorem centroidPoint?_congr {name : String}
    (h : AlikeRows (SubResult.columnNames ⟨.geoCentroid, name⟩) row row') :
    row.centroidPoint? name = row'.centroidPoint? name := by
  have hnumber : ∀ column ∈ SubResult.columnNames ⟨.geoCentroid, name⟩,
      row.number? column = row'.number? column := fun _ => number?_congr h
  simp only [SubResult.columnNames, SubResult.endings, List.map_cons, List.forall_mem_cons]
    at hnumber
  obtain ⟨hlon, hlat, -⟩ := hnumber
  simp only [Row.centroidPoint?, Column.lonName, Column.latName, hlon, hlat]

theorem metricOf_congr {m : PlannedMetric}
    (h : AlikeRows (SubResult.columnNames ⟨m.function, m.sourceName⟩) row row') :
    row.metricOf m = row'.metricOf m := by
  rw [Row.metricOf, Row.metricOf]
  cases hfunction : m.function with
  | geoBBox =>
    rw [hfunction] at h
    simp only [boxPolygon?_congr h]
  | geoCentroid =>
    rw [hfunction] at h
    simp only [centroidPoint?_congr h]
  | avg | cardinality | max | min | sum =>
    have hcolumn : m.sourceName ∈ SubResult.columnNames ⟨m.function, m.sourceName⟩ := by
      simp [SubResult.columnNames, SubResult.endings, hfunction]
    simp only [h _ hcolumn]

theorem computedShape?_congr {g : AggregatedGeometry} (hcell : g.isCell = false)
    (h : AlikeRows (SubResult.columnNames
      ⟨Search.Aggregation.geometryFunction g, aggregatedGeometryName g⟩) row row') :
    row.computedShape? g = row'.computedShape? g := by
  cases g with
  | bbox => exact boxPolygon?_congr h
  | centroid => exact centroidPoint?_congr h
  | cell => cases hcell
  | cellCenter => cases hcell

theorem key_congr (h : row.lookup (keyName l.depth) = row'.lookup (keyName l.depth)) :
    row.key l = row'.key l := by
  rw [Row.key, Row.key, h]

/-- The keys of a level and of those above it are read from output columns. -/
theorem AlikeRows.key_eq (h : AlikeRows (levelNames l depth) row row') {l' : FacetLevel}
    (hdepth : l'.depth ≤ depth) : row.key l' = row'.key l' := by
  refine key_congr (h _ ?_)
  rw [levelNames]
  exact List.mem_append_left _ (List.mem_append_left _
    (List.mem_map_of_mem (List.mem_range.mpr (Nat.lt_succ_of_le hdepth))))

/-- **A row is read in the output columns of its level only.** -/
theorem bucketAlone_congr (hsound : l.Sound depth)
    (h : AlikeRows (levelNames l depth) row row') : bucketAlone l row = bucketAlone l row' := by
  have hcount : row.lookup countName = row'.lookup countName := by
    refine h countName ?_
    simp [levelNames]
  rw [bucketAlone, bucketAlone, h.key_eq hsound.depth_eq.le, hcount,
    l.geometriesOf_congr _ fun g hg hcell => computedShape?_congr hcell
      (h.subResult (FacetLevel.mem_subResults_of_geometry hg hcell)),
    List.map_congr_left fun m hm => metricOf_congr
      (h.subResult (FacetLevel.mem_subResults_of_metric hsound hm))]

end Reading

theorem geometriesOf_bucketAlone {row : Row} {b : Bucket} (h : bucketAlone l row = .ok b) :
    l.geometriesOf (row.key l) row.computedShape? = .ok b.geometries := by
  obtain ⟨keyText, -, h⟩ := Outcome.bind_eq_ok.mp h
  obtain ⟨geometries, hgeometries, h⟩ := Outcome.bind_eq_ok.mp h
  cases h
  exact hgeometries

/-- The same rows were sent for a level, up to columns that are not its own. -/
def AlikeLevels (l : FacetLevel) (depth : Nat) (rows rows' : Rows) : Prop :=
  Option.Rel (List.Forall₂ (AlikeRows (levelNames l depth)))
    (rows.lookup (Purpose.level depth).name) (rows'.lookup (Purpose.level depth).name)

/-- **The rows of each level are read in its output columns only.** -/
theorem buckets_congr {rows rows' : Rows} (hsound : FacetLevel.SoundFrom 0 levels)
    (halike : ∀ depth l, levels[depth]? = some l → AlikeLevels l depth rows rows')
    {above below : List FacetLevel} (hlevels : levels = above ++ below) (keys : List Json) :
    buckets rows above keys below = buckets rows' above keys below := by
  induction below generalizing above keys with
  | nil => rfl
  | cons l below ih =>
    have hl : levels[above.length]? = some l := by
      rw [hlevels, List.getElem?_append_right (Nat.le_refl _), Nat.sub_self]
      rfl
    have hlevel := hsound.sound hl
    have hdepths : ∀ l' ∈ above, l'.depth ≤ above.length := by
      intro l' hl'
      obtain ⟨i, hi, rfl⟩ := List.mem_iff_getElem.mp hl'
      have hl'' : levels[i]? = some above[i] := by
        rw [hlevels, List.getElem?_append_left hi, List.getElem?_eq_getElem hi]
      rw [(hsound.sound hl'').depth_eq]
      exact hi.le
    have hkeys : ∀ {row row' : Row}, AlikeRows (levelNames l above.length) row row' →
        above.map row.key = above.map row'.key := fun hrow =>
      List.map_congr_left fun l' hl' => hrow.key_eq (hdepths l' hl')
    have hsent := halike _ _ hl
    rw [AlikeLevels] at hsent
    rw [buckets, buckets, Rows.ofPurpose, Rows.ofPurpose, hlevel.depth_eq]
    generalize rows.lookup (Purpose.level above.length).name = sent at hsent ⊢
    generalize rows'.lookup (Purpose.level above.length).name = sent' at hsent ⊢
    cases hsent with
    | none => rfl
    | @some sent sent' hsent =>
      -- The rows below the keys are picked alike, since keys are read from output columns.
      have hpicked : List.Forall₂ (AlikeRows (levelNames l above.length))
          (sent.filter fun row => above.map row.key == keys)
          (sent'.filter fun row => above.map row.key == keys) :=
        List.rel_filter (fun row row' hrow => by simp only [hkeys hrow]) hsent
      show (sent.filter fun row => above.map row.key == keys).mapM _ =
        (sent'.filter fun row => above.map row.key == keys).mapM _
      refine Outcome.mapM_congr_of_forall₂ (hpicked.imp fun row row' hrow => ?_)
      rw [bucketAlone_congr hlevel hrow, hrow.key_eq hlevel.depth_eq.le,
        ih (by rw [hlevels, List.append_assoc]; rfl)]

/-- The number of matching rows is read from the first row of the count. -/
theorem total_congr {rows rows' : Rows}
    (h : Option.Rel (List.Forall₂ (AlikeRows [totalName])) (rows.lookup Purpose.count.name)
      (rows'.lookup Purpose.count.name)) : rows.total .count = rows'.total .count := by
  rw [Rows.total, Rows.total, Rows.ofPurpose, Rows.ofPurpose]
  generalize rows.lookup Purpose.count.name = sent at h ⊢
  generalize rows'.lookup Purpose.count.name = sent' at h ⊢
  cases h with
  | none => rfl
  | some h =>
    cases h with
    | nil => rfl
    | @cons row row' _ _ hrow _ =>
      have htotal : row.lookup totalName = row'.lookup totalName :=
        hrow totalName List.mem_cons_self
      show Except.ok (((row.lookup totalName).bind asCount?).getD 0) = _
      rw [htotal]
      rfl

/-! ## Plans that supply what is read -/

/-- The rows of a statement hold the same in its output columns, if they were sent. -/
def AlikeRowSets (s : Statement) (rows rows' : Rows) : Prop :=
  Option.Rel (List.Forall₂ (AlikeRows s.query.outputNames)) (rows.lookup s.purpose.name)
    (rows'.lookup s.purpose.name)

/-- The statement and the assembler agree on a name: the text selects each of the expressions under
the name with its ending, and what a bucket shows of that part is read from these columns. -/
structure Agrees {α : Type} (q : LevelQuery) (l : FacetLevel) (selected : List (String × String))
    (name : String) (part : Bucket → α) : Prop where
  selects : ∀ e ∈ selected, q.Selects e.1 (name ++ e.2)
  reads : ∀ row row' b b', bucketAlone l row = .ok b → bucketAlone l row' = .ok b' →
    AlikeRows (selected.map fun e => name ++ e.2) row row' → part b = part b'

/-- The text of a level at a depth selects the columns that are read for it, each under its own
name: the keys down to its depth, the number of rows, and the expressions of the functions that were
requested, over their fields. Its own ranking names columns that it has. -/
structure Supplies (c : Collection) (levels : List FacetLevel) (depth : Nat) (l : FacetLevel)
    (q : LevelQuery) : Prop where
  selected : ∃ ranked rest, Token.textOf q.tokens =
    "SELECT * FROM (SELECT grouped.*, ROW_NUMBER() OVER (" ++ ranked ++ " FROM (SELECT " ++
      ", ".intercalate (q.grouped.map fun column => Token.textOf column.tokens) ++ " FROM " ++ rest
  distinct : (Query.level q).outputNames.Nodup
  key : ∀ i ≤ depth, ∀ l', levels[i]? = some l' →
    keyColumn l' ∈ q.grouped ∧ (keyColumn l').name = keyName i ∧
      ∀ row row' : Row, row.lookup (keyName i) = row'.lookup (keyName i) → row.key l' = row'.key l'
  count : Agrees q l [("COUNT(*)", "")] countName Bucket.count
  metric : ∀ (i : Nat) (m : PlannedMetric), l.metrics[i]? = some m →
    Agrees q l (expressions (quote m.field) m.function) m.sourceName (·.metrics[i]?)
  box : .bbox ∈ l.aggregatedGeometries →
    Agrees q l (expressions (quote c.centroidPath) .geoBBox) (aggregatedGeometryName .bbox)
      fun b => b.geometries.filter (·.isOf .bbox)
  centroid : .centroid ∈ l.aggregatedGeometries →
    Agrees q l (expressions (quote c.centroidPath) .geoCentroid) (aggregatedGeometryName .centroid)
      fun b => b.geometries.filter (·.isOf .centroid)
  ranked : ∀ name ∈ q.parents.map Column.name ++ q.rank.map Prod.fst,
    name ∈ q.grouped.map Column.name

theorem agrees_metric {q : LevelQuery} {i : Nat} {m : PlannedMetric} (hm : l.metrics[i]? = some m)
    (h : ∀ column ∈ Column.metric m.function m.field m.sourceName, column ∈ q.grouped) :
    Agrees q l (expressions (quote m.field) m.function) m.sourceName (·.metrics[i]?) where
  selects := LevelQuery.selects_metric h
  reads row row' b b' hb hb' halike := by
    rw [columnNames_expressions] at halike
    rw [(alone_bucketAlone hb).metrics, (alone_bucketAlone hb').metrics, List.getElem?_map,
      List.getElem?_map, hm, Option.map_some, Option.map_some, metricOf_congr halike]

theorem agrees_geometry {q : LevelQuery} {g : AggregatedGeometry} (hcell : g.isCell = false)
    (h : ∀ column ∈ geometryColumns c.centroidPath g, column ∈ q.grouped) :
    Agrees q l (expressions (quote c.centroidPath) (Search.Aggregation.geometryFunction g))
      (aggregatedGeometryName g) fun b => b.geometries.filter (·.isOf g) where
  selects := LevelQuery.selects_metric (FacetLevel.geometryColumns_eq hcell ▸ h)
  reads row row' b b' hb hb' halike := by
    rw [columnNames_expressions] at halike
    exact FacetLevel.filter_isOf_geometriesOf (geometriesOf_bucketAlone hb)
      (geometriesOf_bucketAlone hb') hcell (computedShape?_congr hcell halike)

/-- A computed geometry has columns of its own. -/
theorem mem_levelColumns_of_geometry {g : AggregatedGeometry} (hg : g ∈ l.aggregatedGeometries)
    (hcell : g.isCell = false) {column : Column}
    (hcolumn : column ∈ geometryColumns c.centroidPath g) :
    column ∈ levelColumns c.centroidPath l :=
  List.mem_append_right _ (List.mem_flatMap.mpr
    ⟨g, FacetLevel.mem_computedGeometries hg hcell, hcolumn⟩)

/-- What a metric is read from are columns of its function over its field, those of an aggregated
geometry too. -/
theorem mem_levelColumns_of_metric (hwell : l.WellFormed c depth) {m : PlannedMetric}
    (hm : m ∈ l.metrics) {column : Column}
    (hcolumn : column ∈ Column.metric m.function m.field m.sourceName) :
    column ∈ levelColumns c.centroidPath l := by
  rw [PlannedMetric.sourceName] at hcolumn
  cases hsource : m.source with
  | own =>
    rw [hsource] at hcolumn
    exact List.mem_append_left _ (List.mem_flatMap.mpr
      ⟨m, List.mem_filter.mpr ⟨hm, decide_eq_true hsource⟩, hcolumn⟩)
  | geometry g =>
    obtain ⟨hgeometry, hfield, hg⟩ := (hwell.shared m hm g).mp hsource
    obtain ⟨hcell, hfunction⟩ := FacetLevel.function_of_geometryOf? hgeometry
    rw [hsource, hfield, ← hfunction, ← FacetLevel.geometryColumns_eq hcell] at hcolumn
    exact mem_levelColumns_of_geometry hg hcell hcolumn

theorem keyColumn_mem_grouped : keyColumn l ∈ (levelQuery c filter above l).grouped :=
  List.mem_append_right _ List.mem_cons_self

theorem countColumn_mem_grouped :
    countColumn countName ∈ (levelQuery c filter above l).grouped :=
  List.mem_append_right _ (List.mem_cons_of_mem _ List.mem_cons_self)

theorem mem_grouped_of_mem_levelColumns {column : Column}
    (h : column ∈ levelColumns c.centroidPath l) :
    column ∈ (levelQuery c filter above l).grouped :=
  List.mem_append_right _ (List.mem_cons_of_mem _ (List.mem_cons_of_mem _ h))

/-- What the buckets of a level are ranked on. -/
theorem ranking_names {l : FacetLevel} {name : String} (h : name ∈ (ranking l).map Prod.fst) :
    name = keyName l.depth ∨ name = countName ∨ ∃ o, l.order = some (.metric name o) := by
  rw [ranking] at h
  split at h <;> simp only [List.map_cons, List.map_nil, List.mem_cons, List.not_mem_nil,
    or_false] at h
  · exact .inl h
  · exact h.symm.imp id .inl
  · rename_i name' o horder
    rcases h with rfl | rfl
    · exact .inr (.inr ⟨o, horder⟩)
    · exact .inl rfl
  · exact h.symm.imp id .inl

/-- A metric of its own that is no geometry has a column of its name. -/
theorem exists_column_of_own {m : PlannedMetric} (hown : m.source = .own)
    (hgeo : m.function.isGeo = false) :
    ∃ column ∈ Column.metric m.function m.field m.sourceName, column.name = m.name := by
  rw [PlannedMetric.sourceName, hown, ← List.mem_map, SubResult.columnNames_metric]
  revert hgeo
  cases m.function <;> simp [CollectFunction.isGeo, SubResult.columnNames, SubResult.endings]

theorem supplies_levelQuery (hsound : FacetLevel.SoundFrom 0 levels)
    (hl : levels[depth]? = some l) (hwell : l.WellFormed c depth) :
    Supplies c levels depth l (levelQuery c filter (levels.take depth) l) where
  selected := (levelQuery c filter (levels.take depth) l).textOf_tokens
  distinct := by
    rw [outputNames_levelQuery hsound hl]
    exact nodup_levelNames (hsound.sound hl) depth
  key := by
    intro i hi l' hl'
    have hdepth := (hsound.sound hl').depth_eq
    refine ⟨?_, congrArg keyName hdepth, fun row row' hkey => key_congr (hdepth ▸ hkey)⟩
    rcases Nat.lt_or_eq_of_le hi with hlt | rfl
    · have habove : (levels.take depth)[i]? = some l' := by
        rw [List.getElem?_take_of_lt hlt, hl']
      exact List.mem_append_left _ (List.mem_map_of_mem (List.mem_of_getElem? habove))
    · cases hl.symm.trans hl'
      exact keyColumn_mem_grouped
  count := {
    selects := by
      rintro e he
      rw [List.mem_singleton.mp he]
      exact ⟨_, countColumn_mem_grouped, rfl, rfl⟩
    reads := fun row row' b b' hb hb' halike => by
      rw [(alone_bucketAlone hb).count, (alone_bucketAlone hb').count,
        show row.lookup countName = row'.lookup countName from halike _ (.head _)] }
  metric := fun _ _ hm => agrees_metric hm fun _ hcolumn => mem_grouped_of_mem_levelColumns
    (mem_levelColumns_of_metric hwell (List.mem_of_getElem? hm) hcolumn)
  box := fun hg => agrees_geometry rfl fun _ hcolumn =>
    mem_grouped_of_mem_levelColumns (mem_levelColumns_of_geometry hg rfl hcolumn)
  centroid := fun hg => agrees_geometry rfl fun _ hcolumn =>
    mem_grouped_of_mem_levelColumns (mem_levelColumns_of_geometry hg rfl hcolumn)
  ranked := by
    intro name hname
    rcases List.mem_append.mp hname with hparent | hrank
    · rw [LevelQuery.grouped, List.map_append]
      exact List.mem_append_left _ hparent
    · rcases ranking_names hrank with rfl | rfl | ⟨o, horder⟩
      · exact List.mem_map_of_mem keyColumn_mem_grouped
      · exact List.mem_map_of_mem countColumn_mem_grouped
      · -- A ranking by a metric names a metric with a column of its own name.
        obtain ⟨m, hm, rfl, hgeo, hown⟩ := hwell.ordered name o horder
        obtain ⟨column, hcolumn, hname⟩ := exists_column_of_own hown hgeo
        rw [← hname]
        exact List.mem_map_of_mem
          (mem_grouped_of_mem_levelColumns (mem_levelColumns_of_metric hwell hm hcolumn))

/-- A plan of facets supplies what is read for the levels of a facet plan: its row sets are the
count and those of the levels, in their order; the assembler asks for each of them, and reads
nothing but the output columns of the rows in them. -/
structure PlanSupplies (c : Collection) (plan : FacetPlan) (p : Plan) : Prop where
  purposes : p.statements.map Statement.purpose =
    .count :: (List.range plan.levels.length).map Purpose.level
  names : p.statements.map (fun s => s.purpose.name) =
    "count" :: (List.range plan.levels.length).map fun depth => "level_" ++ toString depth
  level : ∀ depth l, plan.levels[depth]? = some l → ∃ q,
    p.statements[depth + 1]? = some ⟨.level depth, .level q⟩ ∧
      Supplies c plan.levels depth l q
  asksCount : ∀ rows : Rows, rows.lookup Purpose.count.name = none →
    assembleFacets plan rows = refuse (.noRows Purpose.count.name)
  asksLevel : ∀ (rows : Rows) depth, depth < plan.levels.length →
    rows.lookup (Purpose.level depth).name = none → ∀ above keys,
      buckets rows above keys (plan.levels.drop depth) =
        refuse (.noRows (Purpose.level depth).name)
  reads : ∀ rows rows' : Rows, (∀ s ∈ p.statements, AlikeRowSets s rows rows') →
    assembleFacets plan rows = assembleFacets plan rows'

/-- **The plan of accepted facets supplies what is read for them.** -/
theorem planSupplies_of_compile {geo : Bool} {specs : List FacetSpec} {plan : FacetPlan}
    (h : FacetPlan.compile c geo specs = .ok plan) {d : Draft} (hd : d.collection = c) {p : Plan}
    (hp : (d.setFacets plan).build = .ok p) : PlanSupplies c plan p := by
  have hsound := FacetPlan.soundFrom_of_compile h
  obtain ⟨filter, -, hp⟩ := Outcome.bind_eq_ok.mp hp
  have hstatements : p.statements =
      Draft.countStatement c filter :: levelStatements c filter [] plan.levels := by
    cases hp
    rw [← hd]
    rfl
  -- The count goes in front, so the statement of a level is one further on.
  have hlevel : ∀ depth l, plan.levels[depth]? = some l → p.statements[depth + 1]? =
      some ⟨.level depth, .level (levelQuery c filter (plan.levels.take depth) l)⟩ := by
    intro depth l hl
    rw [hstatements, List.getElem?_cons_succ, getElem?_levelStatements, hl, Option.map_some,
      (hsound.sound hl).depth_eq, List.nil_append]
  have hpurposes : p.statements.map Statement.purpose =
      .count :: (List.range plan.levels.length).map Purpose.level := by
    rw [hstatements, List.map_cons, purposes_levelStatements hsound, List.range_eq_range']
    rfl
  exact {
    purposes := hpurposes
    names := by
      have hnames := congrArg (List.map Purpose.name) hpurposes
      rw [List.map_map, List.map_cons, List.map_map] at hnames
      exact hnames
    level := fun depth l hl => by
      obtain ⟨s, ms, hassembled⟩ := FacetPlan.assembled_of_compile h hl
      exact ⟨_, hlevel depth l hl, supplies_levelQuery hsound hl hassembled.wellFormed⟩
    asksCount := fun rows hmissing => by
      obtain ⟨first, below, hlevels⟩ := List.exists_cons_of_ne_nil (FacetPlan.levels_of_compile h).2
      rw [assembleFacets, hlevels, Rows.total, Rows.ofPurpose, hmissing]
      rfl
    asksLevel := fun rows depth hdepth hmissing above keys => by
      have hl := List.getElem?_eq_getElem hdepth
      rw [List.drop_eq_getElem_cons hdepth, buckets, Rows.ofPurpose, (hsound.sound hl).depth_eq,
        hmissing]
      rfl
    reads := fun rows rows' halike => by
      have hcount : Draft.countStatement c filter ∈ p.statements :=
        hstatements ▸ List.mem_cons_self
      have hlevels : ∀ depth l, plan.levels[depth]? = some l → AlikeLevels l depth rows rows' := by
        intro depth l hl
        have hsent := halike _ (List.mem_of_getElem? (hlevel depth l hl))
        rwa [AlikeRowSets, outputNames_levelQuery hsound hl] at hsent
      rw [assembleFacets, assembleFacets, total_congr (halike _ hcount),
        buckets_congr hsound hlevels rfl] }

end Sql

/-! ## Names -/

/-- **Compilers and assemblers agree on every name.** In a search, each level of an accepted plan is
rendered with one entry for each of its sub-results and its next level, and each part of a bucket is
looked up under the name whose entry asks for the requested function over the requested field. In
rows, each level has columns of different names, among them all that its ranking names, each part of
a bucket is read from the columns that the text computes by the requested function, and the row sets
of a plan are those that the assembler asks for. -/
theorem names_agree {c : Collection} {geo : Bool} {specs : List FacetSpec} {plan : FacetPlan}
    (h : FacetPlan.compile c geo specs = .ok plan) :
    (∀ d : Search.Draft, d.collection = c → ∀ depth l, plan.levels[depth]? = some l →
      Search.Provides c (d.aggregationAt plan depth) l (plan.levels.drop (depth + 1))) ∧
    ∀ (d : Sql.Draft) (p : Sql.Plan), d.collection = c → (d.setFacets plan).build = .ok p →
      Sql.PlanSupplies c plan p :=
  ⟨fun _ hd _ _ hl => Search.provides_of_compile h hd hl,
    fun _ _ hd hp => Sql.planSupplies_of_compile h hd hp⟩

/-- The box of a kind is shared with a metric, and the shapes have names of their own. -/
theorem names_agree_byWeightAndMonth :
    ∃ (plan : FacetPlan) (kinds : FacetLevel) (entry : Json) (p : Sql.Plan) (q : Sql.LevelQuery),
    FacetPlan.compile surveys true byWeightAndMonth = .ok plan ∧
    plan.levels[0]? = some kinds ∧ kinds.metrics =
      [⟨.geoBBox, "place", "geobbox_place", .geometry .bbox⟩,
        ⟨.avg, "weight", "avg_weight", .own⟩] ∧
    (Search.Draft.start surveys).aggregationAt plan 0 = entry ∧
    Search.Provides surveys entry kinds (plan.levels.drop 1) ∧
    Search.asked? entry = some (.buckets .term "kind") ∧
    Search.askedUnder? entry "bbox_aggregated_geometry" = some (.value .geoBBox "place") ∧
    Search.askedUnder? entry "avg_weight" = some (.value .avg "weight") ∧
    ((Sql.Draft.start surveys).setFacets plan).build = .ok p ∧
    Sql.PlanSupplies surveys plan p ∧ p.statements[1]? = some ⟨.level 0, .level q⟩ ∧
    q.Selects "ST_XMin(ST_Extent(\"place\"))" "bbox_aggregated_geometry_west" ∧
    q.Selects "AVG(\"weight\")" "avg_weight" := by
  obtain ⟨plan, hplan, hlevels⟩ := Outcome.exists_of_any
    (o := FacetPlan.compile surveys true byWeightAndMonth)
    (p := fun plan => plan.levels[0]?.any fun kinds =>
      kinds.type = .term && kinds.field = "kind" && kinds.metrics =
        [⟨.geoBBox, "place", "geobbox_place", .geometry .bbox⟩,
          ⟨.avg, "weight", "avg_weight", .own⟩])
    (by decide +kernel)
  obtain ⟨kinds, hkinds, hparts⟩ := (Option.any_eq_true _ _).mp hlevels
  simp only [Bool.and_eq_true, decide_eq_true_eq] at hparts
  obtain ⟨⟨htype, hfield⟩, hmetrics⟩ := hparts
  obtain ⟨hsearch, hsql⟩ := names_agree hplan
  have hprovides := hsearch (Search.Draft.start surveys) rfl 0 kinds hkinds
  have hsupplies := hsql (Sql.Draft.start surveys) _ rfl rfl
  obtain ⟨q, hq, hlevel⟩ := hsupplies.level 0 kinds hkinds
  have hbox : kinds.metrics[0]? = some ⟨.geoBBox, "place", "geobbox_place", .geometry .bbox⟩ := by
    rw [hmetrics]
    rfl
  have hmean : kinds.metrics[1]? = some ⟨.avg, "weight", "avg_weight", .own⟩ := by
    rw [hmetrics]
    rfl
  refine ⟨plan, kinds, _, _, q, hplan, hkinds, hmetrics, rfl, hprovides, ?_,
    (hprovides.metric 0 _ hbox).asks, (hprovides.metric 1 _ hmean).asks, rfl, hsupplies, hq,
    (hlevel.metric 0 _ hbox).selects _ List.mem_cons_self,
    (hlevel.metric 1 _ hmean).selects _ List.mem_cons_self⟩
  rw [hprovides.asks, htype, hfield]

end GeoFacet
