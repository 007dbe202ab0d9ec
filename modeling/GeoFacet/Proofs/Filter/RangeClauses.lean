import GeoFacet.Proofs.Filter.RangeGrammar
import GeoFacet.Proofs.Sql.Parameters
import GeoFacet.Proofs.Sql.WellFormed

/-!
# The brackets of a range reach the plans

A left bracket says whether a range has its lower bound, a right bracket whether it has its upper
one. In the body of a search that is the difference between `gte` and `gt` and between `lte` and
`lt`; in a statement it is the comparison before the placeholder of the bound. Both are followed
from a range to the condition, the filter and the plan that it is a part of.

Main statement: `ValueRange.parse_exact`.
-/

namespace GeoFacet

namespace Comparison

theorem name_lower (inclusive : Bool) :
    (lower inclusive).name = if inclusive then "gte" else "gt" := by
  cases inclusive <;> rfl

theorem name_upper (inclusive : Bool) :
    (upper inclusive).name = if inclusive then "lte" else "lt" := by
  cases inclusive <;> rfl

theorem symbol_lower (inclusive : Bool) :
    (lower inclusive).symbol = if inclusive then ">=" else ">" := by
  cases inclusive <;> rfl

theorem symbol_upper (inclusive : Bool) :
    (upper inclusive).symbol = if inclusive then "<=" else "<" := by
  cases inclusive <;> rfl

end Comparison

/-! ## Parts of documents -/

/-- A document value stands in another one, as an item or a member at some depth. -/
inductive Json.Within (part : Json) : Json → Prop
  | self : Within part part
  | item {items : List Json} {v : Json} (hv : v ∈ items) (h : Within part v) :
    Within part (.list items)
  | member {ms : List (String × Json)} {key : String} {v : Json} (hv : (key, v) ∈ ms)
    (h : Within part v) : Within part (.object ms)

theorem Json.Within.trans {a b c : Json} (h : a.Within b) (h' : b.Within c) : a.Within c := by
  induction h' with
  | self => exact h
  | item hv _ ih => exact .item hv ih
  | member hv _ ih => exact .member hv ih

/-- What stands in a member of a document stands in the document. -/
theorem Json.Within.of_get? {part v w : Json} {key : String} (h : part.Within w)
    (hw : v.get? key = some w) : part.Within v := by
  cases v with
  | object ms =>
    obtain ⟨before, behind, hms, -⟩ := List.lookup_eq_some_iff.mp hw
    have hmem : (key, w) ∈ (object ms).members := by rw [hms]; simp
    exact .member hmem h
  | _ => cases hw

namespace Search

/-- The clause of a range. The lower bound stands under `gte` or `gt`, the upper one under `lte` or
`lt`, as the range has them. -/
def rangeClause (field : String) (isDate : Bool) (r : ValueRange) : Json :=
  single "range" (single field (.object ((if isDate then [("format", .text "epoch_millis")] else []) ++
    [(if r.minInclusive then "gte" else "gt", r.min.toJson),
      (if r.maxInclusive then "lte" else "lt", r.max.toJson)])))

namespace Query

theorem boundsJson_ofRange (isDate : Bool) (r : ValueRange) :
    boundsJson [(.lower r.minInclusive, r.min), (.upper r.maxInclusive, r.max)] isDate =
      .object ((if isDate then [("format", .text "epoch_millis")] else []) ++
        [(if r.minInclusive then "gte" else "gt", r.min.toJson),
          (if r.maxInclusive then "lte" else "lt", r.max.toJson)]) := by
  have hnames : ¬(Comparison.upper r.maxInclusive).name < (Comparison.lower r.minInclusive).name ∧
      (Comparison.upper r.maxInclusive).name ≠ (Comparison.lower r.minInclusive).name := by
    cases r.minInclusive <;> cases r.maxInclusive <;> decide
  have hbounds := Json.insertMember_of_not_lt hnames.1 hnames.2 r.max.toJson r.min.toJson []
  have hformat := Json.insertMember_of_lt (format_lt (.lower r.minInclusive))
    (.text "epoch_millis") r.min.toJson
    (Json.insertMember (Comparison.upper r.maxInclusive).name r.max.toJson [])
  rw [← Comparison.name_lower, ← Comparison.name_upper]
  cases isDate with
  | false => exact congrArg Json.object hbounds
  | true =>
    exact congrArg Json.object
      ((congrArg (Json.insertMember "format" (.text "epoch_millis")) hbounds).trans hformat)

theorem toJson_ofRange (field : String) (isDate : Bool) (r : ValueRange) :
    (ofRange field isDate r).toJson = rangeClause field isDate r := by
  rw [ofRange, toJson, boundsJson_ofRange, rangeClause]

theorem mem_toJsonList {q : Query} {qs : List Query} (h : q ∈ qs) : q.toJson ∈ toJsonList qs := by
  induction qs with
  | nil => cases h
  | cons q' qs ih =>
    rcases List.mem_cons.mp h with rfl | h
    · exact List.mem_cons_self
    · exact List.mem_cons_of_mem _ (ih h)

/-- The clause of one alternative stands in that of all. -/
theorem within_anyOf {q : Query} {qs : List Query} (h : q ∈ qs) :
    q.toJson.Within (anyOf qs).toJson := by
  have hshould : (Query.should qs).toJson = .object [("bool", .object
      [("minimum_should_match", .int 1), ("should", .list (toJsonList qs))])] := by
    rw [toJson]
    exact congrArg (single "bool") (Json.ofMembers_swap (by decide) _ _)
  rcases qs with _ | ⟨q', _ | ⟨q'', qs⟩⟩
  · cases h
  · rw [List.mem_singleton.mp h]
    exact .self
  · show q.toJson.Within (Query.should (q' :: q'' :: qs)).toJson
    rw [hshould]
    exact .member List.mem_cons_self
      (.member (List.mem_cons_of_mem _ List.mem_cons_self) (.item (mem_toJsonList h) .self))

theorem within_ofFilter {f : Filter} {group : List Condition} {cond : Condition}
    (hgroup : group ∈ f) (hcond : cond ∈ group) :
    (ofCondition cond).toJson.Within (ofFilter f).toJson := by
  have hne : f.isEmpty = false := List.isEmpty_eq_false_iff.mpr (List.ne_nil_of_mem hgroup)
  rw [ofFilter, hne]
  refine Json.Within.trans (within_anyOf (List.mem_map_of_mem hcond)) ?_
  refine .member List.mem_cons_self (.member List.mem_cons_self (.item (mem_toJsonList ?_) .self))
  exact List.mem_map_of_mem (f := fun group => anyOf (group.map ofCondition)) hgroup

end Query

end Search

/-! ## Parts of statements -/

namespace Sql

/-- The test of a range, its bounds at the placeholders `n` and `n + 1`. -/
def rangeText (field : String) (r : ValueRange) (n : Nat) : String :=
  "(" ++ quote field ++ " " ++ (if r.minInclusive then ">=" else ">") ++ " $" ++ toString n ++
    " AND " ++ quote field ++ " " ++ (if r.maxInclusive then "<=" else "<") ++ " $" ++
    toString (n + 1) ++ ")"

theorem Token.infix_join (separator : String) {ts : List Token} {tss : List (List Token)}
    (h : ts ∈ tss) : ts <:+: Token.join separator tss := by
  induction tss with
  | nil => cases h
  | cons us rest ih =>
    cases rest with
    | nil =>
      rw [List.mem_singleton.mp h]
      exact List.infix_refl _
    | cons vs rest =>
      show ts <:+: us ++ Token.word separator :: Token.join separator (vs :: rest)
      rcases List.mem_cons.mp h with rfl | h
      · exact (List.prefix_append _ _).isInfix
      · exact (List.infix_cons (ih h)).trans (List.suffix_append _ _).isInfix

namespace Predicate

/-- A predicate is a part of another one: its values are a run of the other's values, and numbered
as these it stands in the other's text. -/
def Within (p q : Predicate Scalar) : Prop :=
  ∃ before behind, q.values = before ++ p.values ++ behind ∧
    ∀ n, (p.number (n + before.length)).tokens <:+: (q.number n).tokens

variable {p q : Predicate Scalar} {ps : List (Predicate Scalar)}

theorem Within.trans {r : Predicate Scalar} (h : p.Within q) (h' : q.Within r) : p.Within r := by
  obtain ⟨before, behind, hvalues, htokens⟩ := h
  obtain ⟨before', behind', hvalues', htokens'⟩ := h'
  refine ⟨before' ++ before, behind ++ behind', by rw [hvalues', hvalues]; simp, fun n => ?_⟩
  rw [List.length_append, ← Nat.add_assoc]
  exact (htokens (n + before'.length)).trans (htokens' n)

/-- A member of a list is numbered behind the values of those before it. -/
theorem exists_number_mem (h : p ∈ ps) :
    ∃ before behind, valuesList ps = before ++ p.values ++ behind ∧
      ∀ n, p.number (n + before.length) ∈ numberList n ps := by
  induction ps with
  | nil => cases h
  | cons q rest ih =>
    rcases List.mem_cons.mp h with rfl | h
    · exact ⟨[], valuesList rest, rfl, fun n => List.mem_cons_self⟩
    · obtain ⟨before, behind, hvalues, hmem⟩ := ih h
      refine ⟨q.values ++ before, behind, by rw [valuesList, hvalues]; simp, fun n => ?_⟩
      rw [List.length_append, ← Nat.add_assoc]
      exact List.mem_cons_of_mem _ (hmem _)

theorem within_any (h : p ∈ ps) : p.Within (.any ps) := by
  obtain ⟨before, behind, hvalues, hmem⟩ := exists_number_mem h
  refine ⟨before, behind, hvalues, fun n => Token.infix_join " OR " ?_⟩
  rw [tokensList_eq]
  exact List.mem_map_of_mem (hmem n)

theorem within_parens (p : Predicate Scalar) : p.Within (.parens p) :=
  ⟨[], [], by simp [values], fun n => ⟨[.word "("], [.word ")"], rfl⟩⟩

theorem within_anyOf (h : p ∈ ps) : p.Within (anyOf ps) := by
  rcases ps with _ | ⟨q, _ | ⟨r, rest⟩⟩
  · cases h
  · rw [List.mem_singleton.mp h]
    exact ⟨[], [], by simp [anyOf], fun n => List.infix_refl _⟩
  · exact (within_any h).trans (within_parens _)

theorem textOf_ofRange (field : String) (r : ValueRange) (n : Nat) :
    Token.textOf ((ofRange field r).number n).tokens = rangeText field r n := by
  show Token.textOf [.word "(", .name field,
    .word (" " ++ (Comparison.lower r.minInclusive).symbol ++ " "), .placeholder n, .word " AND ",
    .name field, .word (" " ++ (Comparison.upper r.maxInclusive).symbol ++ " "),
    .placeholder (n + 1), .word ")"] = _
  have hdollar : " $" = " " ++ "$" := rfl
  delta rangeText
  simp only [Comparison.symbol_lower, Comparison.symbol_upper, hdollar, Token.textOf, Token.text,
    String.append_assoc, String.append_empty]

theorem within_ofGroup {group : List Condition} {cond : Condition} (hcond : cond ∈ group)
    {p q : Predicate Scalar} (hp : ofCondition cond = .ok p) (hq : ofGroup group = .ok q) :
    p.Within q := by
  obtain ⟨ps, hps, h⟩ := Outcome.bind_eq_ok.mp hq
  cases h
  exact within_anyOf (Outcome.mem_of_mapM hps hcond hp)

end Predicate

/-- The selection tests a predicate: its values are a run of the parameters, and numbered as these
it stands in the clause. -/
def Selection.Tests (s : Selection) (p : Predicate Scalar) : Prop :=
  ∃ before behind, s.params = before ++ p.values ++ behind ∧
    (p.number (before.length + 1)).tokens <:+: s.tokens

theorem Selection.tests_of_mem {s : Selection} {p : Predicate Scalar} (h : p ∈ s.filter) :
    s.Tests p := by
  obtain ⟨before, behind, hvalues, hmem⟩ := Predicate.exists_number_mem h
  refine ⟨Predicate.valuesList s.further ++ before, behind, by rw [params, hvalues]; simp, ?_⟩
  have hnumbered : p.number (1 + (Predicate.valuesList s.further).length + before.length) ∈
      s.numbered := List.mem_append_left _ (hmem _)
  rw [tokens, if_neg (by simpa using List.ne_nil_of_mem hnumbered), List.length_append,
    show ∀ a b : Nat, a + b + 1 = 1 + a + b by omega]
  refine List.infix_cons (Token.infix_join " AND " ?_)
  rw [Predicate.tokensList_eq]
  exact List.mem_map_of_mem hnumbered

theorem Selection.Tests.of_within {s : Selection} {p q : Predicate Scalar} (h : s.Tests q)
    (hp : p.Within q) : s.Tests p := by
  obtain ⟨before, behind, hparams, htokens⟩ := h
  obtain ⟨before', behind', hvalues, hinside⟩ := hp
  refine ⟨before ++ before', behind' ++ behind, by rw [hparams, hvalues]; simp, ?_⟩
  rw [List.length_append, Nat.add_right_comm]
  exact (hinside _).trans htokens

/-- A statement tests a range: the test stands in its text, and the bounds are the parameters of the
two placeholders. -/
def Statement.TestsRange (s : Statement) (field : String) (r : ValueRange) : Prop :=
  ∃ n before behind, s.sql = before ++ rangeText field r (n + 1) ++ behind ∧
    s.params[n]? = some r.min ∧ s.params[n + 1]? = some r.max

theorem Statement.testsRange {s : Statement} {field : String} {r : ValueRange}
    (h : s.query.selection.Tests (Predicate.ofRange field r)) : s.TestsRange field r := by
  obtain ⟨before, behind, hparams, htokens⟩ := h
  obtain ⟨tokensBefore, tokensBehind, htext⟩ := htokens.trans s.query.tokens_selection
  have hvalues : (Predicate.ofRange field r).values = [r.min, r.max] := rfl
  refine ⟨before.length, Token.textOf tokensBefore, Token.textOf tokensBehind, ?_, ?_, ?_⟩
  · rw [sql, ← htext, Token.textOf_append, Token.textOf_append, Predicate.textOf_ofRange]
  · rw [params, hparams, hvalues]
    simp
  · rw [params, hparams, hvalues]
    simp

/-- Every statement of a plan tests the ranges of its filter. -/
theorem testsRange_of_explain {s : Service backend} {r : Request} {plan : Plan}
    (h : s.explain r = .ok plan) {filter : Filter}
    (hfilter : r.conditions s.collection = .ok filter) {group : List Condition} {field : String}
    {rs : List ValueRange} {isDate : Bool} {x : ValueRange} (hgroup : group ∈ filter)
    (hcond : .ranges field rs isDate ∈ group) (hx : x ∈ rs) :
    ∀ statement ∈ plan.statements, statement.TestsRange field x := by
  intro statement hstatement
  obtain ⟨d, hd, hbuild⟩ := drafted_of_explain h
  cases hfilter.symm.trans hd.conditions_eq
  obtain ⟨ps, hps, hwrites⟩ := Draft.statements_of_build hbuild
  obtain ⟨p, hp⟩ := Outcome.exists_ok_of_mem_mapM hps hgroup
  have hmem : p ∈ statement.query.selection.filter := by
    rw [(hwrites statement hstatement).filter_eq]
    exact Outcome.mem_of_mapM hps hgroup hp
  have hranges : (Predicate.ofRange field x).Within p :=
    (Predicate.within_anyOf (List.mem_map_of_mem hx)).trans
      (Predicate.within_ofGroup hcond rfl hp)
  exact Statement.testsRange ((Selection.tests_of_mem hmem).of_within hranges)

end Sql

namespace Search

theorem Plan.within_body {p : Plan} {part : Json} (h : part.Within p.query.toJson) :
    part.Within (p.toJson.member "body") := by
  have hquery : (p.toJson.member "body").get? "query" = some p.query.toJson := by
    rw [p.get?_body]
    rfl
  exact h.of_get? hquery

/-- The body of a search has the clauses of the ranges of its filter. -/
theorem within_body_of_explain {s : Service backend} {r : Request} {plan : Plan}
    (h : s.explain r = .ok plan) {groups : List (List Condition)}
    (hgroups : r.filter.groups s.collection true = .ok groups) {group : List Condition}
    {field : String} {rs : List ValueRange} {isDate : Bool} {x : ValueRange}
    (hgroup : group ∈ Filter.gather groups) (hcond : .ranges field rs isDate ∈ group)
    (hx : x ∈ rs) : (rangeClause field isDate x).Within (plan.toJson.member "body") := by
  obtain ⟨groups', hgroups', hquery⟩ := filter_of_explain h
  cases hgroups.symm.trans hgroups'
  refine Plan.within_body ?_
  rw [hquery, ← Query.toJson_ofRange]
  exact (Query.within_anyOf (List.mem_map_of_mem hx)).trans (Query.within_ofFilter hgroup hcond)

end Search

/-! ## Expressions -/

/-- An accepted range without a date format asks for the ranges of its text. -/
theorem Condition.ofExpression_range {c : Collection} {field value : String} {cond : Condition}
    (h : ofExpression c none ⟨field, .range, value⟩ = .ok cond) :
    ∃ rs isDate, ValueRange.parse none value = .ok rs ∧
      cond = .ranges (Text.trim field) rs isDate := by
  obtain ⟨_, -, h⟩ := Outcome.bind_eq_ok.mp h
  obtain ⟨type, -, h⟩ := Outcome.bind_eq_ok.mp h
  unfold ofParts at h
  dsimp only at h
  split at h
  · cases h
  · split at h
    · cases h
    · obtain ⟨rs, hrs, h⟩ := Outcome.bind_eq_ok.mp h
      obtain ⟨_, -, h⟩ := Outcome.bind_eq_ok.mp h
      cases h
      rw [ite_self] at hrs
      exact ⟨rs, type.isDate, Outcome.mapError_eq_ok.mp hrs, rfl⟩

/-- **The ranges of a value are those it is written with.** A value is accepted exactly if it has
items and each is written as a range; its ranges are those of its items, with the brackets and
bounds of each. An accepted expression asks for the ranges of its value, and of every range in the
filter of an accepted request the brackets are in the body of the search and in each statement: the
lower bound stands under `gte` or behind `>=` exactly if it belongs to the range, and else under
`gt` or behind `>`; the upper one under `lte`, `<=`, `lt` or `<` likewise. -/
theorem ValueRange.parse_exact (value : String) :
    (∀ rs, parse none value = .ok rs ↔
      rs ≠ [] ∧ List.Forall₂ Written (Text.items value) rs) ∧
    ((∃ rs, parse none value = .ok rs) ↔
      Text.items value ≠ [] ∧ ∀ item ∈ Text.items value, ∃ r, Written item r) ∧
    (∀ c field cond, Condition.ofExpression c none ⟨field, .range, value⟩ = .ok cond →
      ∃ rs isDate, parse none value = .ok rs ∧ cond = .ranges (Text.trim field) rs isDate) ∧
    ∀ (c : Collection) (maxPageSize : Nat) (r : Request) (groups : List (List Condition)),
      ∀ group ∈ Filter.gather groups, ∀ field rs isDate, .ranges field rs isDate ∈ group →
        ∀ x ∈ rs,
          (∀ plan, (Service.mk (b := Search.backend) c maxPageSize).explain r = .ok plan →
            r.filter.groups c true = .ok groups →
            (Search.rangeClause field isDate x).Within ((Search.Plan.toJson plan).member "body")) ∧
          ∀ plan, (Service.mk (b := Sql.backend) c maxPageSize).explain r = .ok plan →
            r.filter.groups c false = .ok groups →
            ∀ statement ∈ (plan : Sql.Plan).statements, statement.TestsRange field x := by
  refine ⟨fun rs => parse_eq_ok_iff, exists_parse_eq_ok_iff,
    fun c field cond => Condition.ofExpression_range, ?_⟩
  intro c maxPageSize r groups group hgroup field rs isDate hcond x hx
  refine ⟨fun plan hplan hgroups => ?_, fun plan hplan hgroups => ?_⟩
  · exact Search.within_body_of_explain hplan hgroups hgroup hcond hx
  · exact Sql.testsRange_of_explain hplan (Outcome.map_eq_ok.mpr ⟨groups, hgroups, rfl⟩) hgroup
      hcond hx

/-! ### Ages in two ranges

The first one leaves its lower bound out, the second one its upper one. -/

def ages : List ValueRange :=
  [⟨.integer 1, .integer 2, false, true⟩, ⟨.integer 5, .integer 9, true, false⟩]

def agedWithin : Request :=
  .search ((Expression.mk "age" .range "]1<2], [5<9[").asked none Page.first)

theorem ValueRange.parse_exact_ages : parse none "]1<2], [5<9[" = .ok ages ∧ ∃ plan plan',
    (Service.mk (b := Search.backend) people 100).explain agedWithin = .ok plan ∧
    (Service.mk (b := Sql.backend) people 100).explain agedWithin = .ok plan' ∧
    ∀ x ∈ ages,
      (Search.rangeClause "age" false x).Within ((Search.Plan.toJson plan).member "body") ∧
      ∀ statement ∈ (plan' : Sql.Plan).statements, statement.TestsRange "age" x := by
  obtain ⟨hparse, -, -, hplans⟩ := parse_exact "]1<2], [5<9["
  have hages : parse none "]1<2], [5<9[" = .ok ages := by
    refine (hparse ages).mpr ⟨by decide, ?_⟩
    exact .cons ⟨"1", "2", rfl, by decide, by decide, rfl, rfl, rfl⟩
      (.cons ⟨"5", "9", rfl, by decide, by decide, rfl, rfl, rfl⟩ .nil)
  have hgroups : agedWithin.filter.groups people true = .ok [[.ranges "age" ages false]] := rfl
  have hgroups' : agedWithin.filter.groups people false = .ok [[.ranges "age" ages false]] := rfl
  obtain ⟨plan, hplan⟩ : ∃ plan,
      (Service.mk (b := Search.backend) people 100).explain agedWithin = .ok plan := ⟨_, rfl⟩
  obtain ⟨plan', hplan'⟩ : ∃ plan,
      (Service.mk (b := Sql.backend) people 100).explain agedWithin = .ok plan := ⟨_, rfl⟩
  have hgather : [.ranges "age" ages false] ∈ Filter.gather [[.ranges "age" ages false]] :=
    List.mem_cons_self
  refine ⟨hages, plan, plan', hplan, hplan', fun x hx => ?_⟩
  obtain ⟨hsearch, hsql⟩ := hplans people 100 agedWithin [[.ranges "age" ages false]] _ hgather
    "age" ages false List.mem_cons_self x hx
  exact ⟨hsearch plan hplan hgroups, hsql plan' hplan' hgroups'⟩

end GeoFacet
