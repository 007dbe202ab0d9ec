import GeoFacet.Proofs.Json.Members
import GeoFacet.Proofs.Sorting.Inversion
import GeoFacet.Proofs.Sorting.Ranking
import GeoFacet.Search.Backend
import GeoFacet.Service

/-!
# A store that performs search requests

An ideal store reads a request in its document form, as a search server would: it ranks the
documents that the query selects by the sort clauses, keeps those strictly after the given sort
values, and answers with the first of them and their sort values. `answer_toJson` says what it makes
of a plan.
-/

namespace GeoFacet.Search

/-! ## The parts of a request -/

/-- The field and the direction of a sort clause. -/
def sortClause? : Json → Option (String × Order)
  | .object [(field, spec)] => do
    let order ← Vocabulary.ofName? (← (spec.member "order").asText?)
    some (field, order)
  | _ => none

/-- The sort clauses in the body of a request. -/
def sortClauses (body : Json) : List (String × Order) :=
  ((body.member "sort").asList?.getD []).filterMap sortClause?

theorem sortClause?_sortJson (centroidPath : String) (f : String × Order) :
    sortClause? (sortJson centroidPath (SortKey.ofField f)) = some f := by
  obtain ⟨name, o⟩ := f
  cases o <;> rfl

/-- What the body of a plan has under a key. -/
theorem Plan.get?_body (p : Plan) (key : String) :
    (p.toJson.member "body").get? key = (List.lookup key ([
      ("query", some p.query.toJson),
      ("track_total_hits", some (.bool true)),
      ("size", p.size.map Json.ofNat),
      ("from", (p.offset.filter (0 < ·)).map Json.ofNat),
      ("sort",
        if p.sort.isEmpty then none else some (.list (p.sort.map (sortJson p.centroidPath)))),
      ("search_after", p.searchAfter.map fun vs => .list (vs.map Scalar.toJson)),
      ("aggs", p.aggregations.map fun as =>
        .ofMembers (Aggregation.toJsonMembers p.centroidPath as))] :
      List (String × Option Json))).join := by
  rw [Plan.toJson, Json.member_ofMembers (by simp)]
  exact Json.get?_ofPresent (by simp) key

theorem Plan.sortClauses_body {p : Plan} {fields : List (String × Order)}
    (h : p.sort = fields.map SortKey.ofField) :
    sortClauses (p.toJson.member "body") = fields := by
  have hsort : (((p.toJson.member "body").member "sort").asList?.getD []) =
      p.sort.map (sortJson p.centroidPath) := by
    rw [Json.member, p.get?_body]
    cases hp : p.sort with
    | nil => rfl
    | cons k ks => rfl
  rw [sortClauses, hsort, h, List.map_map, List.filterMap_map]
  have hread : ∀ f ∈ fields,
      (sortClause? ∘ (sortJson p.centroidPath ∘ SortKey.ofField)) f = some f :=
    fun f _ => sortClause?_sortJson p.centroidPath f
  exact (List.filterMap_congr hread).trans List.filterMap_some

/-! ## Stores -/

/-- Documents with the values that they sort by, and what selects and orders them. -/
structure Store where
  documents : List Json
  /-- whether a query selects a document -/
  selects : Json → Json → Bool
  /-- the value that a document sorts by on a field -/
  valueAt : String → Json → Json
  /-- the order of the values of a field -/
  compare : String → Json → Json → Ordering
  total : ∀ field, Std.TransCmp (compare field)

namespace Store

variable (s : Store)

/-- The documents that a query selects. -/
def selected (query : Json) : List Json := s.documents.filter (s.selects query)

/-- Compares two values of a sort clause in its direction. -/
def compareOn (clause : String × Order) (a b : Json) : Ordering :=
  clause.2.direct (s.compare clause.1 a b)

/-- The sort values of a document. -/
def sortValues (clauses : List (String × Order)) (document : Json) : List Json :=
  clauses.map fun f => s.valueAt f.1 document

/-- The order of documents. -/
def compareDocuments (clauses : List (String × Order)) : Json → Json → Ordering :=
  Sorting.compareRows s.compareOn (fun f => s.valueAt f.1) clauses

/-- A document as the store answers with it. -/
def rawHit (clauses : List (String × Order)) (document : Json) : Json :=
  .ofMembers [("_source", document), ("sort", .list (s.sortValues clauses document))]

/-- The documents strictly after some sort values, or all without such values. -/
def cut (clauses : List (String × Order)) (values : Option (List Json)) (documents : List Json) :
    List Json :=
  match values with
  | none => documents
  | some vs => documents.filter fun d =>
      Sorting.compareTuples s.compareOn clauses (s.sortValues clauses d) vs = .gt

/-- A result with a total and hits. -/
def result (total : Nat) (hits : List Json) : Json :=
  .ofMembers [("hits", .ofMembers [
    ("total", .ofMembers [("value", .ofNat total)]),
    ("hits", .list hits)])]

/-- The answer to a request. -/
def answer (request : Json) : Json :=
  let body := request.member "body"
  let clauses := sortClauses body
  let documents := s.selected (body.member "query")
  let kept := s.cut clauses (body.member "search_after").asList?
    (Sorting.ranking (s.compareDocuments clauses) documents)
  let page := (kept.drop ((body.member "from").asNat?.getD 0)).take
    ((body.member "size").asNat?.getD 10)
  result documents.length (page.map (s.rawHit clauses))

/-- The client of a service over the store. -/
def client : Service.Client Id backend := fun plan => pure (s.answer (Plan.toJson plan))

/-! ## Order -/

theorem transCmp_compareOn (clause : String × Order) : Std.TransCmp (s.compareOn clause) :=
  Order.transCmp_direct (s.total clause.1) clause.2

theorem transCmp_compareDocuments (clauses : List (String × Order)) :
    Std.TransCmp (s.compareDocuments clauses) :=
  Sorting.transCmp_compareRows s.transCmp_compareOn clauses

theorem compareDocuments_turned (clauses : List (String × Order)) (d e : Json) :
    s.compareDocuments (clauses.map SortKey.turned) d e = (s.compareDocuments clauses d e).swap :=
  @Sorting.compareRows_turned _ _ _ s.compareOn (fun f => s.valueAt f.1) SortKey.turned
    (fun f a b => Order.direct_flip f.2 (s.compare f.1 a b)) (fun _ => rfl) clauses d e

theorem sortValues_turned (clauses : List (String × Order)) (d : Json) :
    s.sortValues (clauses.map SortKey.turned) d = s.sortValues clauses d := by
  rw [sortValues, List.map_map]
  rfl

theorem rawHit_turned (clauses : List (String × Order)) (d : Json) :
    s.rawHit (clauses.map SortKey.turned) d = s.rawHit clauses d := by
  rw [rawHit, sortValues_turned, rawHit]

/-! ## Answers -/

theorem hits_result (total : Nat) (hits : List Json) :
    ((result total hits).member "hits").member "hits" = .list hits := by
  rw [result, Json.member_ofMembers (by simp), List.lookup_cons_self, Option.getD_some,
    Json.member_ofMembers (by simp)]
  rfl

theorem totalHits_result (total : Nat) (hits : List Json) :
    totalHits (result total hits) = total := by
  have htotal : ((result total hits).member "hits").member "total" =
      .ofMembers [("value", .ofNat total)] := by
    rw [result, Json.member_ofMembers (by simp), List.lookup_cons_self, Option.getD_some,
      Json.member_ofMembers (by simp)]
    rfl
  rw [totalHits, htotal, Json.member_ofMembers (by simp)]
  rfl

/-- The hits of a result, in the order that was asked for. -/
theorem assembleHits_result (c : Collection) (reverse : Bool) (total : Nat) (raws : List Json) :
    assembleHits c reverse (result total raws) =
      .ok ⟨total, (if reverse then raws.reverse else raws).map (hit c)⟩ := by
  rw [assembleHits, hits_result, totalHits_result]
  show Except.ok _ = Except.ok _
  cases reverse with
  | false => rfl
  | true => rw [if_pos rfl, if_pos rfl, List.map_reverse]

/-- **The answer to a plan.** Its hits are the first of the selected documents that come after the
sort values, in the order of the sort clauses. -/
theorem answer_toJson (p : Plan) {fields : List (String × Order)} {size : Nat}
    (hsort : p.sort = fields.map SortKey.ofField) (hsize : p.size = some size)
    (hoffset : p.offset = some 0) :
    s.answer p.toJson = result (s.selected p.query.toJson).length
      (((s.cut fields (p.searchAfter.map fun vs => vs.map Scalar.toJson)
        (Sorting.ranking (s.compareDocuments fields) (s.selected p.query.toJson))).take size).map
          (s.rawHit fields)) := by
  have hquery : (p.toJson.member "body").member "query" = p.query.toJson := by
    rw [Json.member, p.get?_body]
    rfl
  have hafter : ((p.toJson.member "body").member "search_after").asList? =
      p.searchAfter.map fun vs => vs.map Scalar.toJson := by
    rw [Json.member, p.get?_body]
    cases p.searchAfter <;> rfl
  have hfrom : ((p.toJson.member "body").member "from").asNat?.getD 0 = 0 := by
    rw [Json.member, p.get?_body, hoffset]
    rfl
  have hcount : ((p.toJson.member "body").member "size").asNat?.getD 10 = size := by
    rw [Json.member, p.get?_body, hsize]
    rfl
  rw [answer, Plan.sortClauses_body hsort, hquery, hafter, hfrom, hcount, List.drop_zero]

end Store

end GeoFacet.Search
