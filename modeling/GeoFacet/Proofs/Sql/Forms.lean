import GeoFacet.Proofs.Sql.Binding

/-!
# The text of statements depends on forms alone

The form of a condition is what is left of it without its values: its kind, its field, its operator,
its brackets, and how many values there are. Predicates of one form are numbered alike, so two drafts
that are alike but for the values of their conditions and cursors have the same statements, and only
the parameters differ.

Main statement: `Draft.Alike.build`.
-/

namespace GeoFacet

/-! ## Forms of conditions -/

/-- A condition without its values. -/
inductive Condition.Form where
  | oneOf (field : String) (count : Nat)
  | noneOf (field : String) (count : Nat)
  | compare (field : String) (op : Comparison)
  | like (field : String)
  /-- which of the two bounds of each range belong to it -/
  | ranges (field : String) (brackets : List (Bool × Bool))
  | spatial (field : String) (relation : SpatialRelation) (negated : Bool)
  | text (field : Option String)
  deriving DecidableEq, Repr

def Condition.form : Condition → Form
  | .oneOf field values => .oneOf field values.length
  | .noneOf field values => .noneOf field values.length
  | .compare field op _ _ => .compare field op
  | .like field _ => .like field
  | .ranges field rs _ => .ranges field (rs.map fun r => (r.minInclusive, r.maxInclusive))
  | .spatial field relation negated _ => .spatial field relation negated
  | .text field _ => .text field

/-- The forms of the conditions of a filter. -/
def Filter.forms (f : Filter) : List (List Condition.Form) :=
  f.map fun group => group.map Condition.form

namespace Sql

/-! ## Predicates that are numbered alike -/

namespace Predicate

/-- Predicates that differ in their values alone. -/
def Alike (p q : Predicate Scalar) : Prop := ∀ n, p.number n = q.number n

theorem Alike.refl (p : Predicate Scalar) : Alike p p := fun _ => rfl

theorem Alike.length_values {p q : Predicate Scalar} (h : Alike p q) :
    p.values.length = q.values.length := by
  have hlength := congrArg (fun r => (values r).length) (h 1)
  simpa only [values_number, List.length_range'] using hlength

theorem numberList_congr {ps qs : List (Predicate Scalar)} (h : List.Forall₂ Alike ps qs)
    (n : Nat) : numberList n ps = numberList n qs := by
  induction h generalizing n with
  | nil => rfl
  | cons hpq _ ih => rw [numberList, numberList, hpq n, hpq.length_values, ih]

theorem length_valuesList_congr {ps qs : List (Predicate Scalar)} (h : List.Forall₂ Alike ps qs) :
    (valuesList ps).length = (valuesList qs).length := by
  have hlength := congrArg (fun rs => (valuesList rs).length) (numberList_congr h 1)
  simpa only [valuesList_numberList, List.length_range'] using hlength

theorem Alike.all {ps qs : List (Predicate Scalar)} (h : List.Forall₂ Alike ps qs) :
    Alike (.all ps) (.all qs) := fun n => congrArg Predicate.all (numberList_congr h n)

theorem Alike.any {ps qs : List (Predicate Scalar)} (h : List.Forall₂ Alike ps qs) :
    Alike (.any ps) (.any qs) := fun n => congrArg Predicate.any (numberList_congr h n)

theorem Alike.parens {p q : Predicate Scalar} (h : Alike p q) : Alike (.parens p) (.parens q) :=
  fun n => congrArg Predicate.parens (h n)

theorem Alike.anyOf {ps qs : List (Predicate Scalar)} (h : List.Forall₂ Alike ps qs) :
    Alike (anyOf ps) (anyOf qs) := by
  match h with
  | .nil => exact .refl _
  | .cons hpq .nil => exact hpq
  | .cons hpq (.cons hrs hrest) => exact (Alike.any (.cons hpq (.cons hrs hrest))).parens

theorem alike_ofRange (field : String) {r r' : ValueRange}
    (h : (r.minInclusive, r.maxInclusive) = (r'.minInclusive, r'.maxInclusive)) :
    Alike (ofRange field r) (ofRange field r') := by
  obtain ⟨hmin, hmax⟩ := Prod.mk.inj h
  intro n
  rw [ofRange, ofRange, hmin, hmax]
  rfl

/-- One value is compared on its own, and several as a list. -/
theorem alike_oneOf (field : String) {vs vs' : List Scalar} (hlength : vs.length = vs'.length)
    {p p' : Predicate Scalar} (h : ofCondition (.oneOf field vs) = .ok p)
    (h' : ofCondition (.oneOf field vs') = .ok p') : Alike p p' := by
  obtain _ | ⟨v, _ | ⟨w, vs⟩⟩ := vs
  · cases List.length_eq_zero_iff.mp hlength.symm
    cases h
    cases h'
    exact .refl _
  · obtain ⟨v', rfl⟩ := List.length_eq_one_iff.mp hlength.symm
    cases h
    cases h'
    exact fun _ => rfl
  · obtain _ | ⟨v', _ | ⟨w', vs'⟩⟩ := vs' <;> simp only [List.length_cons, List.length_nil] at hlength
    · omega
    · omega
    · cases h
      cases h'
      intro n
      simp only [number, List.length_cons, hlength]

/-- **Conditions of one form have predicates that are numbered alike.** -/
theorem alike_ofCondition {c c' : Condition} (hform : c.form = c'.form) {p p' : Predicate Scalar}
    (h : ofCondition c = .ok p) (h' : ofCondition c' = .ok p') : Alike p p' := by
  cases c with
  | oneOf field vs =>
    cases c' with
    | oneOf field' vs' =>
      obtain ⟨rfl, hlength⟩ := Condition.Form.oneOf.inj hform
      exact alike_oneOf field hlength h h'
    | _ => cases hform
  | noneOf field vs =>
    cases c' with
    | noneOf field' vs' =>
      obtain ⟨rfl, hlength⟩ := Condition.Form.noneOf.inj hform
      cases h
      cases h'
      intro n
      simp [number, numberList, hlength]
    | _ => cases hform
  | compare field op v isDate =>
    cases c' with
    | compare field' op' v' isDate' =>
      obtain ⟨rfl, rfl⟩ := Condition.Form.compare.inj hform
      cases h
      cases h'
      exact fun _ => rfl
    | _ => cases hform
  | like field words =>
    cases c' with
    | like field' words' =>
      cases Condition.Form.like.inj hform
      cases h
      cases h'
      intro n
      rw [number, number]
    | _ => cases hform
  | ranges field rs isDate =>
    cases c' with
    | ranges field' rs' isDate' =>
      obtain ⟨rfl, hbrackets⟩ := Condition.Form.ranges.inj hform
      cases h
      cases h'
      refine Alike.anyOf ?_
      rw [List.forall₂_map_left_iff, List.forall₂_map_right_iff]
      rw [← List.forall₂_eq_eq_eq, List.forall₂_map_left_iff, List.forall₂_map_right_iff]
        at hbrackets
      exact hbrackets.imp fun _ _ => alike_ofRange field
    | _ => cases hform
  | spatial field relation negated shape =>
    cases c' with
    | spatial field' relation' negated' shape' =>
      obtain ⟨rfl, rfl, rfl⟩ := Condition.Form.spatial.inj hform
      cases h
      cases h'
      intro n
      cases negated <;> simp [number, numberList]
    | _ => cases hform
  | text field words =>
    cases c' with
    | text field' words' =>
      cases Condition.Form.text.inj hform
      cases field with
      | none => cases h
      | some field =>
        cases h
        cases h'
        intro n
        rw [number, number]
    | _ => cases hform

/-- Filters of one form have predicates that are numbered alike. -/
theorem alike_ofFilter {f f' : Filter} (hforms : f.forms = f'.forms)
    {ps ps' : List (Predicate Scalar)} (h : ofFilter f = .ok ps) (h' : ofFilter f' = .ok ps') :
    List.Forall₂ Alike ps ps' := by
  have hgroup {g g' : List Condition} {qs qs' : List (Predicate Scalar)}
      (hg : g.map Condition.form = g'.map Condition.form)
      (h : List.Forall₂ (fun c q => ofCondition c = .ok q) g qs)
      (h' : List.Forall₂ (fun c q => ofCondition c = .ok q) g' qs') :
      List.Forall₂ Alike qs qs' := by
    induction h generalizing g' qs' with
    | nil =>
      cases h' with
      | nil => exact .nil
      | cons _ _ => cases hg
    | cons hq _ ih =>
      cases h' with
      | nil => cases hg
      | cons hq' hrest =>
        obtain ⟨hform, hg⟩ := List.cons.inj hg
        exact .cons (alike_ofCondition hform hq hq') (ih hg hrest)
  have hgroups := forall₂_ofFilter h
  have hgroups' := forall₂_ofFilter h'
  -- The induction varies both filters, so what they were built from is left behind.
  clear h h'
  induction hgroups generalizing f' ps' with
  | nil =>
    cases hgroups' with
    | nil => exact .nil
    | cons _ _ => cases hforms
  | cons hp _ ih =>
    cases hgroups' with
    | nil => cases hforms
    | cons hp' hrest =>
      obtain ⟨hform, hforms⟩ := List.cons.inj hforms
      obtain ⟨qs, rfl, hqs⟩ := hp
      obtain ⟨qs', rfl, hqs'⟩ := hp'
      exact .cons (Alike.anyOf (hgroup hform hqs hqs')) (ih hforms hrest)

/-- Keysets of the same keys are numbered alike. -/
theorem alike_keysetBranches (centroidPath : String) {equals equals' : List (Predicate Scalar)}
    (hequals : List.Forall₂ Alike equals equals') {keys keys' : List (SortKey × Scalar)}
    (hkeys : keys.map Prod.fst = keys'.map Prod.fst) :
    List.Forall₂ Alike (keysetBranches centroidPath equals keys)
      (keysetBranches centroidPath equals' keys') := by
  induction keys generalizing equals equals' keys' with
  | nil =>
    cases keys' with
    | nil => exact .nil
    | cons key' keys' => cases hkeys
  | cons key keys ih =>
    cases keys' with
    | nil => cases hkeys
    | cons key' keys' =>
      obtain ⟨hkey, hrest⟩ := List.cons.inj hkeys
      obtain ⟨key, v⟩ := key
      obtain ⟨key', v'⟩ := key'
      cases (hkey : key = key')
      -- Both grow their equalities by one on the same key.
      have hadd {p p' : Predicate Scalar} (hp : Alike p p') :
          List.Forall₂ Alike (equals ++ [p]) (equals' ++ [p']) :=
        List.rel_append hequals (.cons hp .nil)
      refine .cons (Alike.all (hadd ?_)).parens (ih (hadd ?_) hrest)
      · exact fun _ => rfl
      · exact fun _ => rfl

theorem alike_keyset (centroidPath : String) {keys keys' : List (SortKey × Scalar)}
    (hkeys : keys.map Prod.fst = keys'.map Prod.fst) :
    Alike (keyset centroidPath keys) (keyset centroidPath keys') :=
  (Alike.any (alike_keysetBranches centroidPath .nil hkeys)).parens

end Predicate

/-! ## Statements of one text -/

/-- Selections that differ in their values alone are written alike. -/
theorem Selection.tokens_congr {s s' : Selection}
    (hfilter : List.Forall₂ Predicate.Alike s.filter s'.filter)
    (hfurther : List.Forall₂ Predicate.Alike s.further s'.further) : s.tokens = s'.tokens ∧
      s.params.length = s'.params.length := by
  have hnumbered : s.numbered = s'.numbered := by
    rw [numbered, numbered, Predicate.length_valuesList_congr hfurther,
      Predicate.numberList_congr hfilter, Predicate.numberList_congr hfurther]
  rw [tokens, tokens, hnumbered, params, params, List.length_append, List.length_append,
    Predicate.length_valuesList_congr hfilter, Predicate.length_valuesList_congr hfurther]
  exact ⟨rfl, rfl⟩

/-- Statements with the same purpose, the same text and as many parameters. -/
structure Statement.Alike (s s' : Statement) : Prop where
  purpose : s.purpose = s'.purpose
  sql : s.sql = s'.sql
  params : s.params.length = s'.params.length

section Statements

variable {purpose : Purpose} {s s' : Selection}

theorem Statement.alike_rows (q : RowQuery)
    (hfilter : List.Forall₂ Predicate.Alike s.filter s'.filter)
    (hfurther : List.Forall₂ Predicate.Alike s.further s'.further) :
    Alike ⟨purpose, .rows { q with selection := s }⟩
      ⟨purpose, .rows { q with selection := s' }⟩ := by
  obtain ⟨htokens, hparams⟩ := Selection.tokens_congr hfilter hfurther
  refine ⟨rfl, congrArg Token.textOf ?_, hparams⟩
  simp only [Query.tokens, RowQuery.tokens, htokens]

theorem Statement.alike_level (q : LevelQuery)
    (hfilter : List.Forall₂ Predicate.Alike s.filter s'.filter)
    (hfurther : List.Forall₂ Predicate.Alike s.further s'.further) :
    Alike ⟨purpose, .level { q with selection := s }⟩
      ⟨purpose, .level { q with selection := s' }⟩ := by
  obtain ⟨htokens, hparams⟩ := Selection.tokens_congr hfilter hfurther
  refine ⟨rfl, congrArg Token.textOf ?_, hparams⟩
  simp only [Query.tokens, LevelQuery.tokens, LevelQuery.rankedTokens, LevelQuery.groupedTokens,
    htokens]

theorem alike_levelStatements (c : Collection) {filter filter' : List (Predicate Scalar)}
    (hfilter : List.Forall₂ Predicate.Alike filter filter') (above levels : List FacetLevel) :
    List.Forall₂ Statement.Alike (levelStatements c filter above levels)
      (levelStatements c filter' above levels) := by
  induction levels generalizing above with
  | nil => exact .nil
  | cons l below ih =>
    refine .cons (Statement.alike_level (levelQuery c filter above l) hfilter ?_)
      (ih (above ++ [l]))
    exact List.forall₂_same.mpr fun p _ => .refl p

end Statements

/-- Drafts that differ in the values of their conditions and cursors alone. -/
structure Draft.Alike (d d' : Draft) : Prop where
  collection : d.collection = d'.collection
  forms : d.filter.forms = d'.filter.forms
  size : d.size = d'.size
  offset : d.offset = d'.offset
  sort : d.sort = d'.sort
  keys : d.after.map (·.map Prod.fst) = d'.after.map (·.map Prod.fst)
  aim : d.aim = d'.aim

/-- **Drafts that are alike are built to statements that are alike.** -/
theorem Draft.Alike.build {d d' : Draft} (h : d.Alike d') {plan plan' : Plan}
    (hplan : d.build = .ok plan) (hplan' : d'.build = .ok plan') :
    plan.table = plan'.table ∧ List.Forall₂ Statement.Alike plan.statements plan'.statements := by
  obtain ⟨c, f, size, offset, sort, after, aim⟩ := d
  obtain ⟨c', f', size', offset', sort', after', aim'⟩ := d'
  obtain ⟨rfl, hforms, rfl, rfl, rfl, hkeys, rfl⟩ := h
  obtain ⟨filter, hfilter, hplan⟩ := Outcome.bind_eq_ok.mp hplan
  obtain ⟨filter', hfilter', hplan'⟩ := Outcome.bind_eq_ok.mp hplan'
  cases hplan
  cases hplan'
  have halike := Predicate.alike_ofFilter hforms hfilter hfilter'
  have htotals (purpose : Purpose) (columns : List Column) : Statement.Alike
      ⟨purpose, totals c filter columns⟩ ⟨purpose, totals c filter' columns⟩ :=
    Statement.alike_rows ⟨false, countColumn totalName :: columns, c.index, ⟨filter, []⟩, [], none,
      0⟩ halike .nil
  refine ⟨rfl, ?_⟩
  cases aim with
  | hits =>
    refine .cons (htotals .count []) (.cons (Statement.alike_rows ⟨true, _, _, default, _, _, _⟩
      halike ?_) .nil)
    cases after with
    | none =>
      cases after' with
      | none => exact .nil
      | some keys' => cases hkeys
    | some keys =>
      cases after' with
      | none => cases hkeys
      | some keys' =>
        exact .cons (Predicate.alike_keyset c.centroidPath (Option.some.inj hkeys)) .nil
  | facets levels =>
    exact .cons (htotals .count []) (alike_levelStatements c halike [] levels.levels)
  | computation field metric => exact .cons (htotals .computation _) .nil

end Sql

end GeoFacet
