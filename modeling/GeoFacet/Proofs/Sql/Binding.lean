import GeoFacet.Proofs.Gathering
import GeoFacet.Proofs.Sql.Placeholders
import Mathlib.Data.List.Infix

/-!
# The values that statements bind

Every statement of a draft binds the values of its conditions, group by group, and the statement of
hits binds those of a keyset behind them: for each key the values up to that key. Whatever the draft,
its text has one placeholder for each of them, and the placeholder stands where the value is compared
(`Draft.binds_of_build`).
-/

namespace GeoFacet

/-- The values that the row predicate of a condition compares with. -/
def Condition.bound : Condition → List Scalar
  | .oneOf _ vs | .noneOf _ vs => vs
  | .compare _ _ v _ => [v]
  | .like _ words | .text _ words => [Sql.Predicate.containing words]
  | .ranges _ rs _ => rs.flatMap fun r => [r.min, r.max]
  | .spatial _ _ _ shape => [.text (Wkt.write shape)]

namespace Sql

/-! ## Predicates of filters -/

namespace Predicate

section Lists

variable {α : Type}

theorem valuesList_eq (ps : List (Predicate α)) : valuesList ps = ps.flatMap values := by
  induction ps with
  | nil => rfl
  | cons p ps ih => rw [valuesList, ih, List.flatMap_cons]

theorem exprs_anyOf (ps : List (Predicate α)) : (anyOf ps).exprs = exprsList ps := by
  match ps with
  | [] => rfl
  | [p] => rw [anyOf, exprsList, exprsList, List.append_nil]
  | p :: q :: ps => rfl

theorem values_anyOf (ps : List (Predicate α)) : (anyOf ps).values = valuesList ps := by
  match ps with
  | [] => rfl
  | [p] => rw [anyOf, valuesList, valuesList, List.append_nil]
  | p :: q :: ps => rfl

end Lists

/-- The expressions of a condition are columns, cast or not. -/
theorem clean_exprs_ofCondition {c : Condition} {p : Predicate Scalar} (h : ofCondition c = .ok p) :
    ∀ e ∈ p.exprs, e.Clean := by
  intro e he
  cases c with
  | oneOf f vs =>
    obtain _ | ⟨v, _ | ⟨w, vs⟩⟩ := vs <;> cases h
    · cases he
    · rw [List.mem_singleton.mp he]
      trivial
    · cases he
  | noneOf f vs =>
    cases h
    cases he
  | compare f op v isDate =>
    cases h
    rw [List.mem_singleton.mp he]
    trivial
  | like f part =>
    cases h
    rw [List.mem_singleton.mp he]
    trivial
  | ranges f rs isDate =>
    cases h
    rw [exprs_anyOf, mem_exprsList] at he
    obtain ⟨p, hp, he⟩ := he
    obtain ⟨r, -, rfl⟩ := List.mem_map.mp hp
    simp only [ofRange, exprs, exprsList, List.append_nil, List.mem_append, List.mem_singleton,
      or_self] at he
    rw [he]
    trivial
  | spatial f relation negated shape =>
    cases h
    cases negated <;> cases he
  | text field words =>
    cases field with
    | none => cases h
    | some f =>
      cases h
      rw [List.mem_singleton.mp he]
      exact ⟨by decide, trivial⟩

/-- A predicate binds the values of its condition. -/
theorem values_ofCondition {c : Condition} {p : Predicate Scalar} (h : ofCondition c = .ok p) :
    p.values = c.bound := by
  cases c with
  | oneOf f vs =>
    obtain _ | ⟨v, _ | ⟨w, vs⟩⟩ := vs <;> cases h <;> rfl
  | noneOf f vs =>
    cases h
    exact List.append_nil vs
  | compare f op v isDate =>
    cases h
    rfl
  | like f part =>
    cases h
    rfl
  | ranges f rs isDate =>
    cases h
    rw [values_anyOf, valuesList_eq, List.flatMap_map]
    rfl
  | spatial f relation negated shape =>
    cases h
    cases negated <;> rfl
  | text field words =>
    cases field with
    | none => cases h
    | some f =>
      cases h
      rfl

/-- What holds of the parts of every condition holds of the predicates of a filter. -/
theorem forall₂_ofFilter {filter : Filter} {ps : List (Predicate Scalar)}
    (h : ofFilter filter = .ok ps) : List.Forall₂ (fun group p => ∃ qs, p = anyOf qs ∧
      List.Forall₂ (fun c q => ofCondition c = .ok q) group qs) filter ps := by
  refine (Outcome.mapM_eq_ok.mp h).imp fun group p hp => ?_
  obtain ⟨qs, hqs, hp⟩ := Outcome.bind_eq_ok.mp hp
  cases hp
  exact ⟨qs, rfl, Outcome.mapM_eq_ok.mp hqs⟩

theorem clean_exprs_ofFilter {filter : Filter} {ps : List (Predicate Scalar)}
    (h : ofFilter filter = .ok ps) : ∀ e ∈ exprsList ps, e.Clean := by
  intro e he
  obtain ⟨p, hp, he⟩ := mem_exprsList.mp he
  obtain ⟨group, -, hgroup⟩ := Outcome.exists_of_mem_mapM h hp
  obtain ⟨qs, hqs, hp⟩ := Outcome.bind_eq_ok.mp hgroup
  cases hp
  rw [exprs_anyOf, mem_exprsList] at he
  obtain ⟨q, hq, he⟩ := he
  obtain ⟨c, -, hc⟩ := Outcome.exists_of_mem_mapM hqs hq
  exact clean_exprs_ofCondition hc e he

/-- **A filter binds the values of its conditions**, group by group. -/
theorem values_ofFilter {filter : Filter} {ps : List (Predicate Scalar)}
    (h : ofFilter filter = .ok ps) :
    valuesList ps = filter.flatMap fun group => group.flatMap Condition.bound := by
  have hgroups := forall₂_ofFilter h
  clear h
  induction hgroups with
  | nil => rfl
  | cons hp _ ih =>
    obtain ⟨qs, rfl, hqs⟩ := hp
    rw [valuesList, ih, List.flatMap_cons, values_anyOf]
    congr 1
    clear ih
    induction hqs with
    | nil => rfl
    | cons hq _ ih => rw [valuesList, ih, List.flatMap_cons, values_ofCondition hq]

/-! ## Keysets -/

theorem clean_exprs_keysetBranches (centroidPath : String) {equals : List (Predicate Scalar)}
    (h : ∀ e ∈ exprsList equals, e.Clean) (keys : List (SortKey × Scalar)) :
    ∀ e ∈ exprsList (keysetBranches centroidPath equals keys), e.Clean := by
  induction keys generalizing equals with
  | nil => simp [keysetBranches, exprsList]
  | cons key keys ih =>
    obtain ⟨key, v⟩ := key
    have hkey := Expr.clean_ofSortKey centroidPath key
    have hadd {p : Predicate Scalar} (hp : p.exprs = [Expr.ofSortKey centroidPath key]) :
        ∀ e ∈ exprsList (equals ++ [p]), e.Clean := by
      intro e he
      rw [exprsList_append, exprsList, exprsList, hp] at he
      rcases List.mem_append.mp he with he | he
      · exact h e he
      · rw [List.mem_singleton.mp he]
        exact hkey
    intro e he
    rcases List.mem_append.mp he with he | he
    · exact hadd rfl e he
    · exact ih (hadd rfl) e he

/-- Each branch binds the values passed so far and one more. -/
theorem values_keysetBranches (centroidPath : String) (equals : List (Predicate Scalar))
    (keys : List (SortKey × Scalar)) :
    valuesList (keysetBranches centroidPath equals keys) =
      (keys.map Prod.snd).inits.tail.flatMap (valuesList equals ++ ·) := by
  induction keys generalizing equals with
  | nil => rfl
  | cons key keys ih =>
    obtain ⟨key, v⟩ := key
    obtain ⟨longer, hlonger⟩ : ∃ longer, (keys.map Prod.snd).inits = [] :: longer := by
      cases keys.map Prod.snd <;> simp
    rw [keysetBranches, valuesList, ih, values, values, valuesList_append, valuesList_append,
      List.map_cons, List.inits_cons, List.tail_cons, hlonger]
    simp [valuesList, values, List.flatMap_map]

end Predicate

/-- The values of a keyset: for each key those up to that key. -/
def keysetValues (values : List Scalar) : List Scalar := values.inits.tail.flatten

theorem Predicate.values_keyset (centroidPath : String) (keys : List (SortKey × Scalar)) :
    (keyset centroidPath keys).values = keysetValues (keys.map Prod.snd) := by
  rw [keyset, values, values, values_keysetBranches, keysetValues]
  simp [valuesList, List.flatMap_id']

/-! ## Statements of drafts -/

theorem Column.clean_metric (function : CollectFunction) (field name : String) :
    ∀ column ∈ Column.metric function field name, column.value.Clean := by
  cases function <;>
    simp only [metric, box, centroid, List.forall_mem_cons, List.not_mem_nil, false_implies,
      implies_true, and_true, Expr.Clean, Expr.CleanList] <;> decide

theorem clean_geometryColumns (centroidPath : String) (g : AggregatedGeometry) :
    ∀ column ∈ geometryColumns centroidPath g, column.value.Clean := by
  cases g <;>
    simp only [geometryColumns, Column.box, Column.centroid, List.forall_mem_cons, List.not_mem_nil,
      false_implies, implies_true, and_true, Expr.Clean, Expr.CleanList] <;> decide

theorem clean_keyColumn (l : FacetLevel) : (keyColumn l).value.Clean := by
  have hcolumn : (Expr.column l.field).Clean := trivial
  exact Expr.clean_bucketKey hcolumn l.kind

theorem clean_levelQuery (c : Collection) {filter : List (Predicate Scalar)}
    (hfilter : ∀ e ∈ Predicate.exprsList filter, e.Clean) (above : List FacetLevel)
    (l : FacetLevel) : (levelQuery c filter above l).Clean where
  columns := by
    intro column hcolumn
    rcases List.mem_append.mp hcolumn with hcolumn | hcolumn
    · rcases List.mem_append.mp hcolumn with hcolumn | hcolumn
      · obtain ⟨l', -, rfl⟩ := List.mem_map.mp hcolumn
        exact clean_keyColumn l'
      · rw [List.mem_singleton.mp hcolumn]
        exact clean_keyColumn l
    · rcases List.mem_cons.mp hcolumn with rfl | hcolumn
      · exact clean_countColumn countName
      · rcases List.mem_append.mp hcolumn with hcolumn | hcolumn
        · obtain ⟨m, -, hcolumn⟩ := List.mem_flatMap.mp hcolumn
          exact Column.clean_metric _ _ _ column hcolumn
        · obtain ⟨g, -, hcolumn⟩ := List.mem_flatMap.mp hcolumn
          exact clean_geometryColumns _ g column hcolumn
  selection := by
    intro e he
    rcases List.mem_append.mp he with he | he
    · exact hfilter e he
    · obtain ⟨p, hp, he⟩ := Predicate.mem_exprsList.mp he
      obtain ⟨l', -, rfl⟩ := List.mem_map.mp hp
      cases he

/-- A statement for a level binds the values of its filter and no others. -/
theorem mem_levelStatements {c : Collection} {filter : List (Predicate Scalar)}
    {above levels : List FacetLevel} {s : Statement}
    (h : s ∈ levelStatements c filter above levels) :
    ∃ above' l, s = ⟨.level l.depth, .level (levelQuery c filter above' l)⟩ := by
  induction levels generalizing above with
  | nil => cases h
  | cons l below ih =>
    rcases List.mem_cons.mp h with rfl | h
    · exact ⟨above, l, rfl⟩
    · exact ih h

namespace Draft

theorem clean_sortColumns (centroidPath : String) (i : Nat) (keys : List SortKey) :
    ∀ column ∈ sortColumns centroidPath i keys, column.value.Clean := by
  induction keys generalizing i with
  | nil => simp [sortColumns]
  | cons key keys ih =>
    rw [sortColumns, List.forall_mem_cons]
    exact ⟨Expr.clean_ofSortKey centroidPath key, ih (i + 1)⟩

theorem clean_pageOrder (c : Collection) (sort : List SortKey) :
    ∀ key ∈ pageOrder c sort, key.1.Clean := by
  rw [pageOrder]
  split
  · simp [Expr.Clean]
  · intro key hkey
    obtain ⟨sortKey, -, rfl⟩ := List.mem_map.mp hkey
    exact Expr.clean_ofSortKey c.centroidPath sortKey

theorem clean_hitsStatement (d : Draft) {filter : List (Predicate Scalar)}
    (hfilter : ∀ e ∈ Predicate.exprsList filter, e.Clean) :
    (d.hitsStatement filter).query.Clean where
  columns := by
    intro column hcolumn
    rcases List.mem_append.mp hcolumn with hcolumn | hcolumn
    · have hjson : Fixed "ST_AsGeoJSON" := by decide
      rcases List.mem_cons.mp hcolumn with rfl | hcolumn
      · exact ⟨hjson, trivial, trivial⟩
      · rw [List.mem_singleton.mp hcolumn]
        exact ⟨hjson, trivial, trivial⟩
    · exact clean_sortColumns _ _ _ column hcolumn
  selection := by
    intro e he
    rcases List.mem_append.mp he with he | he
    · exact hfilter e he
    · obtain ⟨p, hp, he⟩ := Predicate.mem_exprsList.mp he
      obtain ⟨keys, -, rfl⟩ := Option.map_eq_some_iff.mp (Option.mem_toList.mp hp)
      exact Predicate.clean_exprs_keysetBranches _ (by simp [Predicate.exprsList]) keys e he
  order := clean_pageOrder d.collection d.sort

/-- The values that a statement of a draft binds, in the order they are written in. -/
def bound (d : Draft) (purpose : Purpose) : List Scalar :=
  (d.filter.flatMap fun group => group.flatMap Condition.bound) ++
    if purpose = .hits then keysetValues ((d.after.getD []).map Prod.snd) else []

/-- A statement of a draft is about the rows of its filter. The hits come behind a cursor, and the
buckets of a level are about the rows that have its fields. -/
structure Writes (d : Draft) (filter : List (Predicate Scalar)) (s : Statement) : Prop where
  clean : s.query.Clean
  filter_eq : s.query.selection.filter = filter
  further_eq : (s.purpose = .hits ∧ s.query.selection.further =
      (d.after.map (Predicate.keyset d.collection.centroidPath)).toList) ∨
    s.purpose ≠ .hits ∧ ∃ fields : List String,
      s.query.selection.further = fields.map Predicate.notNull

/-- The values of a statement behind those of its filter. -/
theorem Writes.values_further {d : Draft} {filter : List (Predicate Scalar)} {s : Statement}
    (h : d.Writes filter s) : Predicate.valuesList s.query.selection.further =
      if s.purpose = .hits then keysetValues ((d.after.getD []).map Prod.snd) else [] := by
  rcases h.further_eq with ⟨hpurpose, hfurther⟩ | ⟨hpurpose, fields, hfurther⟩
  · rw [hfurther, if_pos hpurpose]
    cases d.after with
    | none => rfl
    | some keys =>
      rw [Option.map_some, Option.toList_some, Predicate.valuesList, Predicate.values_keyset]
      exact List.append_nil _
  · rw [hfurther, if_neg hpurpose, Predicate.valuesList_eq, List.flatMap_map,
      List.flatMap_eq_nil_iff]
    exact fun _ _ => rfl

/-- **What the statements of a plan are made of.** -/
theorem statements_of_build {d : Draft} {plan : Plan} (h : d.build = .ok plan) :
    ∃ filter, Predicate.ofFilter d.filter = .ok filter ∧
      ∀ s ∈ plan.statements, d.Writes filter s := by
  obtain ⟨filter, hfilter, h⟩ := Outcome.bind_eq_ok.mp h
  cases h
  have hclean := Predicate.clean_exprs_ofFilter hfilter
  refine ⟨filter, hfilter, fun s hs => ?_⟩
  -- The count is the first statement of a page and of facets alike.
  have hcount : d.Writes filter (countStatement d.collection filter) :=
    ⟨clean_totals d.collection hclean (by simp), rfl, .inr ⟨by simp [countStatement], [], rfl⟩⟩
  cases haim : d.aim with
  | hits =>
    rw [haim] at hs
    rcases List.mem_cons.mp hs with rfl | hs
    · exact hcount
    · rw [List.mem_singleton.mp hs]
      exact ⟨clean_hitsStatement d hclean, rfl, .inl ⟨rfl, rfl⟩⟩
  | facets plan =>
    rw [haim] at hs
    rcases List.mem_cons.mp hs with rfl | hs
    · exact hcount
    · obtain ⟨above, l, rfl⟩ := mem_levelStatements hs
      refine ⟨clean_levelQuery d.collection hclean above l, rfl, .inr ⟨by simp, ?_⟩⟩
      exact ⟨(above ++ [l]).map FacetLevel.field, List.map_map.symm⟩
  | computation field metric =>
    rw [haim] at hs
    rw [List.mem_singleton.mp hs]
    refine ⟨clean_totals d.collection hclean ?_, rfl, .inr ⟨by simp, [], rfl⟩⟩
    intro column hcolumn
    rw [computationColumns] at hcolumn
    split at hcolumn
    · exact Column.clean_metric _ _ _ column hcolumn
    · rw [List.mem_singleton.mp hcolumn]
      simp only [Expr.Clean, Expr.CleanList, and_true]
      decide

end Draft

/-- The text of a statement has one placeholder for each of its parameters, and the given values
stand at the placeholders as they are read; with the parameters in their places the row clause
begins with the given predicates. -/
structure Statement.Binds (s : Statement) (values : List Scalar)
    (predicates : List (Predicate Scalar)) : Prop where
  once : (Lexeme.placeholders (Lexeme.read s.sql)).Perm (List.range' 1 s.params.length)
  stands : (Lexeme.placeholders (Lexeme.read s.sql)).mapM (Predicate.param? s.params) = some values
  fills : ∃ further, Predicate.fillList? s.params s.query.selection.numbered =
    some (predicates ++ further)

/-- **Every statement of a draft binds its values.** -/
theorem Draft.binds_of_build {d : Draft} {plan : Plan} (h : d.build = .ok plan) :
    ∃ filter, Predicate.ofFilter d.filter = .ok filter ∧
      ∀ s ∈ plan.statements, s.Binds (d.bound s.purpose) filter := by
  obtain ⟨filter, hfilter, hstatements⟩ := Draft.statements_of_build h
  refine ⟨filter, hfilter, fun s hs => ?_⟩
  have hwrites := hstatements s hs
  have hread : Lexeme.placeholders (Lexeme.read s.sql) =
      Predicate.valuesList s.query.selection.numbered := Query.placeholders_read hwrites.clean
  refine ⟨?_, ?_, ?_⟩
  · rw [hread]
    exact s.query.selection.perm_values_numbered
  · rw [hread, Statement.params, s.query.selection.mapM_values_numbered, hwrites.filter_eq,
      hwrites.values_further, Predicate.values_ofFilter hfilter]
    rfl
  · rw [← hwrites.filter_eq]
    exact ⟨_, s.query.selection.fillList?_numbered⟩

end Sql

end GeoFacet
