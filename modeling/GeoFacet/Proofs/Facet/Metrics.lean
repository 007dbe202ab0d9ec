import GeoFacet.CommandLine.Run
import GeoFacet.Proofs.Facet.Names
import GeoFacet.Proofs.Facet.Growth
import Mathlib

/-!
# Requested metrics

A level may ask for one metric several times, and each is collected once. A metric is recognised by
its name, in which the points of the field are replaced, so fields that differ in a point only have
one name. The metrics of a level are those that come first under their names
(`requests_of_planMetrics`): all requested ones, each once, exactly if no two of them share a name
(`forall_mem_eraseDupsBy_iff`). Every bucket holds a value for each metric of its level and for no
other (`answers_assembleFacets`).

Main statement: `metrics_of_compile`.
-/

namespace GeoFacet

/-! ## The first of each kind -/

section First

variable {α : Type} {r r' : α → α → Bool}

theorem mem_of_mem_eraseDupsBy {a : α} {as : List α} (h : a ∈ as.eraseDupsBy r) : a ∈ as := by
  match as with
  | [] => exact h
  | b :: as =>
    rw [List.eraseDupsBy_cons] at h
    rcases List.mem_cons.mp h with rfl | h
    · exact List.mem_cons_self
    · exact List.mem_cons_of_mem b (List.mem_filter.mp (mem_of_mem_eraseDupsBy h)).1
termination_by as.length
decreasing_by
  exact Nat.lt_succ_of_le (List.length_filter_le _ _)

theorem pairwise_eraseDupsBy (as : List α) :
    (as.eraseDupsBy r).Pairwise fun a b => r b a = false := by
  match as with
  | [] => exact List.Pairwise.nil
  | a :: as =>
    rw [List.eraseDupsBy_cons]
    refine List.Pairwise.cons (fun b hb => ?_) (pairwise_eraseDupsBy _)
    exact of_decide_eq_true (List.mem_filter.mp (mem_of_mem_eraseDupsBy hb)).2
termination_by as.length
decreasing_by
  exact Nat.lt_succ_of_le (List.length_filter_le _ _)

theorem eraseDupsBy_congr {as : List α} (h : ∀ a ∈ as, ∀ b ∈ as, r b a = r' b a) :
    as.eraseDupsBy r = as.eraseDupsBy r' := by
  match as with
  | [] => rfl
  | a :: as =>
    have hfilter : (as.filter fun b => r b a = false) = as.filter fun b => r' b a = false :=
      List.filter_congr fun b hb => by rw [h a List.mem_cons_self b (List.mem_cons_of_mem a hb)]
    rw [List.eraseDupsBy_cons, List.eraseDupsBy_cons, hfilter]
    refine congrArg (a :: ·) (eraseDupsBy_congr fun b hb b' hb' => ?_)
    exact h b (List.mem_cons_of_mem a (List.mem_filter.mp hb).1) b'
      (List.mem_cons_of_mem a (List.mem_filter.mp hb').1)
termination_by as.length
decreasing_by
  exact Nat.lt_succ_of_le (List.length_filter_le _ _)

/-- If no two of a kind differ, the first of each kind are all there are, each once. -/
theorem eraseDupsBy_eq_eraseDups [BEq α] [LawfulBEq α] (hrefl : ∀ a, r a a = true) {as : List α}
    (h : ∀ a ∈ as, ∀ b ∈ as, r a b = true → a = b) : as.eraseDupsBy r = as.eraseDups := by
  refine eraseDupsBy_congr fun a ha b hb => ?_
  by_cases heq : b = a
  · rw [heq, hrefl, beq_self_eq_true]
  · rw [beq_eq_false_iff_ne.mpr heq]
    exact Bool.eq_false_iff.mpr fun hr => heq (h b hb a ha hr)

/-- If the first of each kind are all there are, no two of a kind differ. -/
theorem eq_of_mem_eraseDupsBy (hsymm : ∀ a b, r a b = r b a) {as : List α} {a b : α}
    (ha : a ∈ as.eraseDupsBy r) (hb : b ∈ as.eraseDupsBy r) (hr : r a b = true) : a = b := by
  have hapart : Std.Symm fun a b => r b a = false := ⟨fun a b hr => (hsymm a b).trans hr⟩
  by_contra hne
  have hfalse := (pairwise_eraseDupsBy as).forall ha hb hne
  rw [hsymm, hr] at hfalse
  cases hfalse

end First

/-! ## Requests -/

/-- What a complete metric asks for: a function over a field. -/
def MetricSpec.request? (m : MetricSpec) : Option (CollectFunction × String) :=
  match m.function, m.field with
  | some function, some field => some (function, Text.trim field)
  | _, _ => none

/-- What the metrics of a level ask for, in their order. -/
def FacetSpec.requests (s : FacetSpec) : List (CollectFunction × String) :=
  s.metrics.filterMap MetricSpec.request?

def PlannedMetric.request (m : PlannedMetric) : CollectFunction × String := (m.function, m.field)

/-- The request that a value answers. -/
def MetricValue.request (v : MetricValue) : CollectFunction × String := (v.function, v.field)

/-- Requests that one name stands for. -/
def sameName (p q : CollectFunction × String) : Bool := metricName p.1 p.2 = metricName q.1 q.2

theorem metricName_eq_iff {f g : CollectFunction} {a b : String} : metricName f a = metricName g b ↔
    f = g ∧ Text.substitute '.' '_' a = Text.substitute '.' '_' b := by
  constructor
  · intro h
    have hnames : (SubResult.mk f (metricName f a)).name ++ "" =
        (SubResult.mk g (metricName g b)).name ++ "" := by rw [h]
    have hfunction : f = g :=
      (SubResult.named_metric f a).function_eq (SubResult.named_metric g b) hnames
    subst hfunction
    exact ⟨rfl, String.append_right_inj _ |>.mp h⟩
  · rintro ⟨rfl, h⟩
    rw [metricName, metricName, h]

theorem sameName_iff {p q : CollectFunction × String} : sameName p q = true ↔
    p.1 = q.1 ∧ Text.substitute '.' '_' p.2 = Text.substitute '.' '_' q.2 :=
  decide_eq_true_iff.trans metricName_eq_iff

theorem sameName_comm (p q : CollectFunction × String) : sameName p q = sameName q p := by
  simp [sameName, eq_comm]

/-- No two requests for one function are for fields that agree once points are replaced. -/
def Distinguishable (ps : List (CollectFunction × String)) : Prop :=
  ∀ p ∈ ps, ∀ q ∈ ps, p.1 = q.1 →
    Text.substitute '.' '_' p.2 = Text.substitute '.' '_' q.2 → p = q

theorem Distinguishable.eraseDupsBy_eq {ps : List (CollectFunction × String)}
    (h : Distinguishable ps) : ps.eraseDupsBy sameName = ps.eraseDups :=
  eraseDupsBy_eq_eraseDups (fun _ => sameName_iff.mpr ⟨rfl, rfl⟩) fun p hp q hq hname =>
    h p hp q hq (sameName_iff.mp hname).1 (sameName_iff.mp hname).2

/-- Requests keep apart under their names exactly if the first under each name are all of them. -/
theorem forall_mem_eraseDupsBy_iff {ps : List (CollectFunction × String)} :
    (∀ p ∈ ps, p ∈ ps.eraseDupsBy sameName) ↔ Distinguishable ps := by
  constructor
  · intro h p hp q hq hfunction hfield
    exact eq_of_mem_eraseDupsBy sameName_comm (h p hp) (h q hq)
      (sameName_iff.mpr ⟨hfunction, hfield⟩)
  · intro h p hp
    rw [h.eraseDupsBy_eq]
    exact List.mem_eraseDups.mpr hp

/-! ## Planning -/

namespace FacetSpec

theorem request?_of_metricParts {m : MetricSpec} {parts : Option (CollectFunction × String)}
    (h : metricParts m = .ok parts) : m.request? = parts := by
  obtain ⟨field, function⟩ := m
  cases function with
  | none =>
    cases field with
    | none => exact Except.ok.inj h
    | some field => cases h
  | some function =>
    unfold metricParts at h
    dsimp only at h
    split at h
    · rename_i text htext
      rw [← Except.ok.inj h, MetricSpec.request?, (Option.filter_eq_some_iff.mp htext).1]
    · cases h

/-- **Metrics are planned under their names**, each request after those whose name is taken. -/
theorem requests_of_planMetrics {c : Collection} {planned ms : List PlannedMetric}
    {specs : List MetricSpec} (h : planMetrics c planned specs = .ok ms) :
    ms.map PlannedMetric.request = planned.map PlannedMetric.request ++
      ((specs.filterMap MetricSpec.request?).filter fun p =>
        !planned.any (·.name = metricName p.1 p.2)).eraseDupsBy sameName := by
  induction specs generalizing planned with
  | nil =>
    cases h
    simp
  | cons spec rest ih =>
    obtain ⟨parts, hparts, h⟩ := Outcome.bind_eq_ok.mp h
    rw [List.filterMap_cons, request?_of_metricParts hparts]
    cases parts with
    | none => exact ih h
    | some p =>
      obtain ⟨function, field⟩ := p
      obtain ⟨type, -, h⟩ := Outcome.bind_eq_ok.mp h
      obtain ⟨_, -, h⟩ := Outcome.bind_eq_ok.mp h
      dsimp only at h
      by_cases htaken : planned.any (·.name = metricName function field) = true
      · rw [if_pos htaken] at h
        rw [List.filter_cons_of_neg (by simpa using htaken), ih h]
      · rw [if_neg htaken] at h
        -- what is left has another name than those planned before and than this one
        have hrest (q : CollectFunction × String) :
            (!(planned ++ [(⟨function, field, metricName function field, .own⟩ : PlannedMetric)]).any
              (·.name = metricName q.1 q.2)) =
            (decide (sameName q (function, field) = false) &&
              !planned.any (·.name = metricName q.1 q.2)) := by
          simp [sameName, eq_comm, Bool.and_comm]
        rw [List.filter_cons_of_pos (by simpa using htaken), List.eraseDupsBy_cons,
          List.filter_filter, ih h, List.map_append, List.append_assoc]
        simp only [hrest]
        rfl

/-- Every accepted specification has its level. -/
theorem exists_level {c : Collection} {depth i : Nat} {specs : List FacetSpec}
    {levels : List FacetLevel} {s : FacetSpec} (h : toLevels c depth specs = .ok levels)
    (hs : specs[i]? = some s) :
    ∃ l, levels[i]? = some l ∧ toLevel c (depth + i) s = .ok l := by
  induction specs generalizing depth i levels with
  | nil => cases hs
  | cons first rest ih =>
    obtain ⟨level, hlevel, h⟩ := Outcome.bind_eq_ok.mp h
    obtain ⟨below, hbelow, h⟩ := Outcome.bind_eq_ok.mp h
    cases h
    cases i with
    | zero =>
      cases hs
      exact ⟨level, rfl, Outcome.mapError_eq_ok.mp hlevel⟩
    | succ i =>
      obtain ⟨l, hl, hlevel'⟩ := ih hbelow hs
      rw [Nat.add_assoc, Nat.add_comm 1 i] at hlevel'
      exact ⟨l, hl, hlevel'⟩

/-- **A level has the first of its requests under each name.** -/
theorem Assembled.requests_eq {c : Collection} {depth : Nat} {s : FacetSpec}
    {ms : List PlannedMetric} {l : FacetLevel} (h : Assembled c depth s ms l) :
    l.metrics.map PlannedMetric.request = s.requests.eraseDupsBy sameName := by
  have hshared : PlannedMetric.request ∘ shareGeometry c l.aggregatedGeometries =
      PlannedMetric.request := by
    funext m
    simp [PlannedMetric.request]
  rw [h.metrics, List.map_map, hshared, requests_of_planMetrics h.planned]
  simp [requests]

end FacetSpec

/-! ## Buckets -/

/-- The values of a bucket answer the metrics of its level. -/
def Answers (l : FacetLevel) (b : Bucket) : Prop :=
  b.metrics.map MetricValue.request = l.metrics.map PlannedMetric.request

theorem answers_of_map {l : FacetLevel} {b : Bucket} {value : PlannedMetric → MetricValue}
    (hvalue : ∀ m, (value m).request = m.request) (h : b.metrics = l.metrics.map value) :
    Answers l b := by
  rw [Answers, h, List.map_map]
  exact List.map_congr_left fun m _ => hvalue m

namespace Backend

variable {kind : BackendKind} {c : Collection} {plan : FacetPlan} {tree : Bucket}

theorem answers_assembleFacets {native : (ofKind kind).Native}
    (h : (ofKind kind).assembleFacets c plan native = .ok tree) :
    Bucket.Formed Answers plan.levels tree.children := by
  cases kind with
  | search =>
    refine (Search.grown_assembleFacets h).1.formed fun l item bucket node hb haround => ?_
    rw [haround]
    exact answers_of_map (fun _ => rfl) (Search.alone_bucketAlone hb).metrics
  | sql =>
    refine (Sql.grown_assembleFacets h).1.formed fun l row bucket node hb haround => ?_
    rw [haround]
    exact answers_of_map (fun _ => rfl) (Sql.alone_bucketAlone hb).metrics

end Backend

/-- **A level collects the first of its requests under each name**, and every bucket of the level
answers these. They are the requests, each once, exactly if the requests are distinguishable; if
they are not, a bucket leaves one of them unanswered. -/
theorem metrics_of_compile {c : Collection} {geo : Bool} {specs : List FacetSpec} {plan : FacetPlan}
    (h : FacetPlan.compile c geo specs = .ok plan) {depth : Nat} {s : FacetSpec}
    (hs : specs[depth]? = some s) : ∃ l, plan.levels[depth]? = some l ∧
      l.metrics.map PlannedMetric.request = s.requests.eraseDupsBy sameName ∧
      (l.metrics.map PlannedMetric.request = s.requests.eraseDups ↔ Distinguishable s.requests) ∧
      ∀ (kind : BackendKind) (native : (Backend.ofKind kind).Native) (tree : Bucket),
        (Backend.ofKind kind).assembleFacets c plan native = .ok tree →
        ∀ address ∈ tree.addresses depth, ∃ node, tree.at? address = some node ∧
          node.metrics.map MetricValue.request = l.metrics.map PlannedMetric.request ∧
          ((∀ p ∈ s.requests, p ∈ node.metrics.map MetricValue.request) ↔
            Distinguishable s.requests) := by
  obtain ⟨l, hl, hlevel⟩ := FacetSpec.exists_level (FacetPlan.levels_of_compile h).1 hs
  obtain ⟨ms, hassembled⟩ := FacetSpec.exists_assembled hlevel
  have hrequests := hassembled.requests_eq
  refine ⟨l, hl, hrequests, ⟨fun heq => ?_, fun hd => ?_⟩, fun kind native tree htree => ?_⟩
  · refine forall_mem_eraseDupsBy_iff.mp fun p hp => ?_
    rw [← hrequests, heq]
    exact List.mem_eraseDups.mpr hp
  · rw [hrequests, hd.eraseDupsBy_eq]
  · rintro address ⟨hlength, hsome⟩
    obtain ⟨node, hnode⟩ := Option.isSome_iff_exists.mp hsome
    obtain ⟨l', hl', hanswers⟩ := (Backend.answers_assembleFacets htree).at? hlength hnode
    obtain rfl := Option.some.inj (hl.symm.trans hl')
    refine ⟨node, hnode, hanswers, ?_⟩
    rw [hanswers, hrequests]
    exact forall_mem_eraseDupsBy_iff

def broods : Collection :=
  ⟨"broods", "broods", "id", "shape", "place", "seen", "epoch_millis", [],
    [("kind", .keyword), ("wing.span", .double), ("wing_span", .double), ("place", .geoPoint),
      ("shape", .geoShape), ("seen", .date)]⟩

def spansByKind : FacetSpec :=
  { (default : FacetSpec) with
    type := .term, field := some "kind",
    metrics := [⟨some "wing.span", some .avg⟩, ⟨some " wing_span", some .avg⟩,
      ⟨some "wing_span", some .max⟩, ⟨some "wing.span", some .avg⟩] }

def broodRows : Sql.Rows :=
  [("count", [[("totalnb", .int 3)]]), ("level_0", [[("count", .int 3), ("key_0", .text "heron")]])]

theorem metrics_of_compile_broods : ∃ plan tree node,
    FacetPlan.compile broods false [spansByKind] = .ok plan ∧
      spansByKind.requests.eraseDups =
        [(.avg, "wing.span"), (.avg, "wing_span"), (.max, "wing_span")] ∧
      ¬Distinguishable spansByKind.requests ∧
      (Backend.ofKind .sql).assembleFacets broods plan broodRows = .ok tree ∧
      tree.at? [0] = some node ∧
      node.metrics.map MetricValue.request = [(.avg, "wing.span"), (.max, "wing_span")] := by
  obtain ⟨plan, hplan, htree⟩ := Outcome.exists_of_any
    (o := FacetPlan.compile broods false [spansByKind])
    (p := fun plan => (Sql.assembleFacets plan broodRows).toOption.any fun tree =>
      (tree.at? [0]).isSome)
    (by cbv)
  obtain ⟨tree, htree, hsome⟩ := Outcome.exists_of_any htree
  have hs : [spansByKind][0]? = some spansByKind := rfl
  obtain ⟨l, -, hrequests, hexact, hbuckets⟩ := metrics_of_compile hplan hs
  obtain ⟨node, hnode, hanswers, -⟩ := hbuckets .sql broodRows tree htree [0] ⟨rfl, hsome⟩
  have hasked : spansByKind.requests.eraseDups =
      [(.avg, "wing.span"), (.avg, "wing_span"), (.max, "wing_span")] := by decide +kernel
  have hplanned : l.metrics.map PlannedMetric.request =
      [(.avg, "wing.span"), (.max, "wing_span")] := by
    rw [hrequests]
    cbv
  refine ⟨plan, tree, node, hplan, hasked, fun hdistinguishable => ?_, htree, hnode, ?_⟩
  · have heq := hexact.mpr hdistinguishable
    rw [hplanned, hasked] at heq
    cases heq
  · rw [hanswers, hplanned]

end GeoFacet
