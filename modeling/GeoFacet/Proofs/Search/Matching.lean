import GeoFacet.Proofs.Json.Members
import GeoFacet.Search.Query

/-!
# What a query matches

A query is read in its document form and matched against a document that gives each field one value
or none. The clause of a condition matches as the condition says (`matches?_ofCondition`), and the
query of a filter matches where each of its groups has a condition that holds (`matches?_ofFilter`).
-/

namespace GeoFacet

/-- How the value of a document on a field compares with the values of a query. -/
structure Search.Tests (D : Type) where
  equal : D → Json → Bool
  compare : D → Comparison → Json → Bool
  /-- a pattern with wildcards -/
  wildcard : D → String → Bool
  /-- all words of a text -/
  words : D → String → Bool
  /-- a relation by name to a shape -/
  relates : D → String → Json → Bool

/-- The value of a document on each field, if it has one. -/
abbrev Document (D : Type) := String → Option D

namespace Condition

variable {D : Type}

/-- Whether a condition holds of a document. A search without a field is about all its fields. -/
def holds (tests : Search.Tests D) (anyField : String → Bool) (doc : Document D) :
    Condition → Bool
  | .oneOf f vs => (doc f).any fun x => vs.any fun v => tests.equal x v.toJson
  | .noneOf f vs => !(doc f).any fun x => vs.any fun v => tests.equal x v.toJson
  | .compare f op v _ => (doc f).any (tests.compare · op v.toJson)
  | .like f part => (doc f).any (tests.wildcard · (Search.Query.containing part))
  | .ranges f rs _ => (doc f).any fun x => rs.any fun r =>
      tests.compare x (.lower r.minInclusive) r.min.toJson &&
        tests.compare x (.upper r.maxInclusive) r.max.toJson
  | .spatial f relation negated shape =>
    negated != (doc f).any (tests.relates · relation.name shape.toGeoJson)
  | .text (some f) words => (doc f).any (tests.words · words)
  | .text none words => anyField words

end Condition

namespace Search

section Matching

variable {D : Type} (tests : Tests D) (anyField : String → Bool) (doc : Document D)

/-- The bound of a range, and the way dates are written, which is no bound. -/
def bound? : String × Json → Option (D → Bool)
  | ("gte", v) => some (tests.compare · .gte v)
  | ("gt", v) => some (tests.compare · .gt v)
  | ("lte", v) => some (tests.compare · .lte v)
  | ("lt", v) => some (tests.compare · .lt v)
  | ("format", .text "epoch_millis") => some fun _ => true
  | _ => none

mutual

/-- Whether a document matches a query in its document form; none if the query is not known. -/
def matches? : Json → Option Bool
  | .object [("match_all", .object [])] => some true
  | .object [("bool", .object [("filter", .list qs)])] => allMatch? qs
  | .object [("bool", .object [("must_not", .list qs)])] => (anyMatch? qs).map (!·)
  | .object [("bool", .object [("minimum_should_match", .int 1), ("should", .list qs)])] =>
    anyMatch? qs
  | .object [("terms", .object [(f, .list vs)])] =>
    some ((doc f).any fun x => vs.any (tests.equal x))
  | .object [("range", .object [(f, .object bounds)])] =>
    (bounds.mapM (bound? tests)).map fun bs => (doc f).any fun x => bs.all (· x)
  | .object [("wildcard", .object [(f, .object [("value", .text pattern)])])] =>
    some ((doc f).any (tests.wildcard · pattern))
  | .object [("match",
      .object [(f, .object [("operator", .text "and"), ("query", .text text)])])] =>
    some ((doc f).any (tests.words · text))
  | .object [("query_string",
      .object [("default_operator", .text "and"), ("query", .text text)])] =>
    some (anyField text)
  | .object [("geo_shape",
      .object [(f, .object [("relation", .text relation), ("shape", shape)])])] =>
    some ((doc f).any (tests.relates · relation shape))
  | _ => none

/-- Whether a document matches every query. -/
def allMatch? : List Json → Option Bool
  | [] => some true
  | q :: qs => do
    let a ← matches? q
    let b ← allMatch? qs
    some (a && b)

/-- Whether a document matches at least one query. -/
def anyMatch? : List Json → Option Bool
  | [] => some false
  | q :: qs => do
    let a ← matches? q
    let b ← anyMatch? qs
    some (a || b)

end

end Matching

/-! ## Clauses -/

section Clauses

variable {D : Type} {tests : Tests D} {anyField : String → Bool} {doc : Document D}

open Query (ofCondition ofFilter ofRange anyOf boundsJson)

theorem format_lt (op : Comparison) : "format" < op.name := by
  cases op <;> decide

/-- The bounds of a range as they stand in its document form. -/
theorem boundsJson_compare (op : Comparison) (v : Scalar) (isDate : Bool) :
    ∃ bounds, boundsJson [(op, v)] isDate = .object bounds ∧
      (bounds.mapM (bound? tests)).map (fun bs x => bs.all (· x)) =
        some fun x => tests.compare x op v.toJson := by
  cases isDate with
  | false =>
    refine ⟨[(op.name, v.toJson)], rfl, ?_⟩
    cases op <;> simp [Comparison.name, bound?]
  | true =>
    refine ⟨[("format", .text "epoch_millis"), (op.name, v.toJson)],
      Json.ofMembers_swap (format_lt op) _ _, ?_⟩
    cases op <;> simp [Comparison.name, bound?]

theorem boundsJson_range (r : ValueRange) (isDate : Bool) :
    ∃ bounds, boundsJson [(.lower r.minInclusive, r.min), (.upper r.maxInclusive, r.max)] isDate =
        .object bounds ∧
      (bounds.mapM (bound? tests)).map (fun bs x => bs.all (· x)) =
        some fun x => tests.compare x (.lower r.minInclusive) r.min.toJson &&
          tests.compare x (.upper r.maxInclusive) r.max.toJson := by
  obtain ⟨min, max, minInclusive, maxInclusive⟩ := r
  -- Members are sorted by name: the lower bound before the upper one, a format before both.
  have hnames : ¬(Comparison.upper maxInclusive).name < (Comparison.lower minInclusive).name ∧
      (Comparison.upper maxInclusive).name ≠ (Comparison.lower minInclusive).name := by
    cases minInclusive <;> cases maxInclusive <;> decide
  have hbounds := Json.insertMember_of_not_lt hnames.1 hnames.2 max.toJson min.toJson []
  cases isDate with
  | false =>
    refine ⟨_, congrArg Json.object hbounds, ?_⟩
    cases minInclusive <;> cases maxInclusive <;>
      simp [Comparison.name, Comparison.lower, Comparison.upper, Json.insertMember, bound?]
  | true =>
    have hformat := Json.insertMember_of_lt (format_lt (.lower minInclusive))
      (.text "epoch_millis") min.toJson
      (Json.insertMember (Comparison.upper maxInclusive).name max.toJson [])
    refine ⟨_, congrArg Json.object
      ((congrArg (Json.insertMember "format" (.text "epoch_millis")) hbounds).trans hformat), ?_⟩
    cases minInclusive <;> cases maxInclusive <;>
      simp [Comparison.name, Comparison.lower, Comparison.upper, Json.insertMember, bound?]

variable {α : Type} {q : α → Query} {b : α → Bool} {xs : List α}

theorem anyMatch?_map (h : ∀ x ∈ xs, matches? tests anyField doc (q x).toJson = some (b x)) :
    anyMatch? tests anyField doc (Query.toJsonList (xs.map q)) = some (xs.any b) := by
  induction xs with
  | nil => rfl
  | cons x xs ih =>
    show (do
      let a ← matches? tests anyField doc (q x).toJson
      let b ← anyMatch? tests anyField doc (Query.toJsonList (xs.map q))
      some (a || b)) = _
    rw [h x List.mem_cons_self, ih fun y hy => h y (List.mem_cons_of_mem x hy)]
    rfl

theorem allMatch?_map (h : ∀ x ∈ xs, matches? tests anyField doc (q x).toJson = some (b x)) :
    allMatch? tests anyField doc (Query.toJsonList (xs.map q)) = some (xs.all b) := by
  induction xs with
  | nil => rfl
  | cons x xs ih =>
    show (do
      let a ← matches? tests anyField doc (q x).toJson
      let b ← allMatch? tests anyField doc (Query.toJsonList (xs.map q))
      some (a && b)) = _
    rw [h x List.mem_cons_self, ih fun y hy => h y (List.mem_cons_of_mem x hy)]
    rfl

/-- Alternatives match where one of them does. -/
theorem matches?_anyOf (h : ∀ x ∈ xs, matches? tests anyField doc (q x).toJson = some (b x)) :
    matches? tests anyField doc (anyOf (xs.map q)).toJson = some (xs.any b) := by
  have hshould : ∀ qs, (Query.should qs).toJson = .object [("bool", .object
      [("minimum_should_match", .int 1), ("should", .list (Query.toJsonList qs))])] := by
    intro qs
    rw [Query.toJson]
    exact congrArg (single "bool") (Json.ofMembers_swap (by decide) _ _)
  match xs with
  | [] =>
    show matches? tests anyField doc (Query.should []).toJson = _
    rw [hshould]
    rfl
  | [x] =>
    show matches? tests anyField doc (q x).toJson = _
    rw [h x List.mem_cons_self, List.any_cons, List.any_nil, Bool.or_false]
  | x :: y :: xs =>
    show matches? tests anyField doc (Query.should ((x :: y :: xs).map q)).toJson = _
    rw [hshould]
    exact anyMatch?_map h

theorem matches?_mustNot {q : Query} {b : Bool}
    (h : matches? tests anyField doc q.toJson = some b) :
    matches? tests anyField doc (Query.mustNot q).toJson = some !b := by
  show ((matches? tests anyField doc q.toJson).bind fun a => some (a || false)).map (!·) = _
  rw [h, Option.bind_some, Bool.or_false]
  rfl

theorem matches?_terms (f : String) (vs : List Scalar) :
    matches? tests anyField doc (Query.terms f vs).toJson =
      some ((doc f).any fun x => vs.any fun v => tests.equal x v.toJson) := by
  show some ((doc f).any fun x => (vs.map Scalar.toJson).any (tests.equal x)) = _
  simp only [List.any_map, Function.comp_def]

theorem matches?_range (f : String) {bounds : List (Comparison × Scalar)} {isDate : Bool}
    {inside : D → Bool}
    (h : ∃ bs, boundsJson bounds isDate = .object bs ∧
      (bs.mapM (bound? tests)).map (fun bs x => bs.all (· x)) = some inside) :
    matches? tests anyField doc (Query.range f bounds isDate).toJson =
      some ((doc f).any inside) := by
  obtain ⟨bs, hbs, hinside⟩ := h
  obtain ⟨inside', hinside', rfl⟩ := Option.map_eq_some_iff.mp hinside
  rw [Query.toJson, hbs]
  show (bs.mapM (bound? tests)).map _ = _
  rw [hinside']
  rfl

theorem matches?_geoShape (f : String) (relation : SpatialRelation) (shape : Geometry) :
    matches? tests anyField doc (Query.geoShape f relation shape).toJson =
      some ((doc f).any (tests.relates · relation.name shape.toGeoJson)) := by
  have hshape : Json.ofMembers [("shape", shape.toGeoJson), ("relation", .text relation.name)] =
      .object [("relation", .text relation.name), ("shape", shape.toGeoJson)] :=
    Json.ofMembers_swap (by decide) _ _
  rw [Query.toJson, hshape]
  rfl

/-- **The clause of a condition matches where the condition holds.** -/
theorem matches?_ofCondition (c : Condition) :
    matches? tests anyField doc (ofCondition c).toJson = some (c.holds tests anyField doc) := by
  cases c with
  | oneOf f vs => exact matches?_terms f vs
  | noneOf f vs => exact matches?_mustNot (matches?_terms f vs)
  | compare f op v isDate => exact matches?_range f (boundsJson_compare op v isDate)
  | like f part => rfl
  | ranges f rs isDate =>
    -- The ranges of a document without the field are tried on nothing and all fail.
    have h := @matches?_anyOf D tests anyField doc ValueRange (ofRange f isDate) _ rs fun r _ =>
      matches?_range f (boundsJson_range r isDate)
    rw [ofCondition, h, Condition.holds]
    cases doc f <;> simp
  | spatial f relation negated shape =>
    cases negated with
    | false =>
      show matches? tests anyField doc (Query.geoShape f relation shape).toJson = _
      rw [matches?_geoShape, Condition.holds, Bool.false_bne]
    | true =>
      show matches? tests anyField doc (Query.mustNot (Query.geoShape f relation shape)).toJson = _
      rw [matches?_mustNot (matches?_geoShape f relation shape), Condition.holds, Bool.true_bne]
  | text field words =>
    cases field with
    | some f =>
      rw [ofCondition, Query.toJson, Json.ofMembers_swap (by decide)]
      rfl
    | none =>
      rw [ofCondition, Query.toJson, Json.ofMembers_swap (by decide)]
      rfl

/-- **The query of a filter matches where the filter holds**: one condition of each group. -/
theorem matches?_ofFilter (f : Filter) :
    matches? tests anyField doc (ofFilter f).toJson =
      some (f.all fun group => group.any (Condition.holds tests anyField doc)) := by
  rw [ofFilter]
  by_cases hf : f.isEmpty
  · rw [if_pos hf, List.isEmpty_iff.mp hf]
    rfl
  · rw [if_neg hf]
    show allMatch? tests anyField doc (Query.toJsonList _) = _
    exact allMatch?_map fun group _ => matches?_anyOf fun c _ => matches?_ofCondition c

end Clauses

end Search

end GeoFacet
