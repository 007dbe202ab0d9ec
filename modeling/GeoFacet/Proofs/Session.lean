import GeoFacet.Service
import GeoFacet.Proofs.Filter.Agreement
import GeoFacet.Proofs.Outcome

/-!
# Live requests and their offline halves

A live request compiles, asks the client and assembles. The two halves are also there without a
client: the one shows the plan, the other makes the answer of a native result, and each computes
anew what the live request hands from the first half to the second (the direction of a scan, the
checked levels of facets).

**Theorem (`live_agrees_with_offline`).** A request that does not compile fails live as it does
offline, and no client sees it. Any other request is one call of the client, with the plan shown
offline; the answer is the one assembled offline from the client's result, and a fault of the
client is passed on with the name of the collection in front. In a session the client is called
once for each live request that compiles.

The client may run in any lawful monad, so it may keep a state, fail or choose. Calls are counted by
a client that also lists the plans it is given (`Service.recorded`): the list after a request is
known exactly, and listing changes no answer. The proof takes one request apart (`Call.run_ask`) and
goes by induction over the steps of a session (`Session.run_recorded`).
-/

namespace GeoFacet

variable {b : Backend} {m : Type → Type} [Monad m]

/-! ## Requests, live and offline -/

/-- A live request. -/
inductive Call where
  | search (r : SearchRequest)
  | facets (r : FacetRequest)
  /-- facets on the globe, shown as features -/
  | geoFacets (r : FacetRequest)
  | compute (r : ComputationRequest)

namespace Call

/-- What a request is answered with. -/
abbrev Answer : Call → Type
  | search _ => Hits
  | facets _ => Bucket
  | geoFacets _ => Json
  | compute _ => Computation

/-- Asks live. -/
def ask (s : Service b) (client : Service.Client m b) : (q : Call) → ExceptT Fault m q.Answer
  | search r => s.search client r
  | facets r => s.facets client r
  | geoFacets r => s.geoFacets client r
  | compute r => s.compute client r

/-- The plan, shown without a client. -/
def explained (s : Service b) : Call → Outcome b.Plan
  | search r => s.explainSearch r
  | facets r => s.explainFacets r
  | geoFacets r => s.explainFacets { r with geo := true }
  | compute r => s.explainComputation r

/-- The answer to a native result, assembled without a client. -/
def assembled (s : Service b) (native : b.Native) : (q : Call) → Outcome q.Answer
  | search r => s.assembleSearch r native
  | facets r => s.assembleFacets r native
  | geoFacets r => (s.assembleFacets { r with geo := true } native).map Bucket.featureCollection
  | compute r => s.assembleComputation r native

/-- An answer with the time it took. Only a tree of facets shows it. -/
def timed : (q : Call) → q.Answer → q.Answer
  | search _, hits => hits
  | facets _, tree => { tree with queryTime := some 0 }
  | geoFacets _, features => features
  | compute _, value => value

/-- What a live request makes of the client's reply. -/
def response (s : Service b) (q : Call) : Outcome b.Native → Outcome q.Answer
  | .error e => .error (e.withContext s.collection.name)
  | .ok native => (q.assembled s native).map q.timed

/-- The request as a document states it. -/
def request : Call → Request
  | search r => .search r
  | facets r => .facets r
  | geoFacets r => .facets { r with geo := true }
  | compute r => .compute r

/-- The document of an answer. -/
def document : (q : Call) → q.Answer → Json
  | search _, hits => hits.toJson
  | facets r, tree => if r.geo then tree.featureCollection else tree.toJson
  | geoFacets _, features => features
  | compute _, value => value.toJson

theorem explain_request (s : Service b) (q : Call) : s.explain q.request = q.explained s := by
  cases q <;> rfl

theorem assemble_request (s : Service b) (native : b.Native) (q : Call) :
    s.assemble q.request native = (q.assembled s native).map q.document := by
  cases q with
  | search r => rfl
  | facets r => rfl
  | geoFacets r =>
    show (s.assembleFacets { r with geo := true } native).map Bucket.featureCollection =
      ((s.assembleFacets { r with geo := true } native).map Bucket.featureCollection).map id
    rw [Except.map_id, id]
  | compute r => rfl

end Call

/-! ## One request -/

namespace Service

variable {α β : Type}

theorem settle_error_bind [LawfulMonad m] (e : Fault) (f : α → ExceptT Fault m β) :
    (settle (.error e) >>= f).run = pure (.error e) := by
  rw [settle, ExceptT.run_bind]
  exact pure_bind _ _

theorem settle_ok_bind [LawfulMonad m] (a : α) (f : α → ExceptT Fault m β) :
    (settle (.ok a) >>= f).run = (f a).run := by
  rw [settle, ExceptT.run_bind]
  exact pure_bind _ _

/-- A performed plan is one call of the client, and what follows depends on its reply. -/
theorem run_perform_bind [LawfulMonad m] (s : Service b) (client : Client m b) (plan : b.Plan)
    {f : b.Native → ExceptT Fault m α} {response : Outcome b.Native → Outcome α}
    (herror : ∀ e, response (.error e) = .error (e.withContext s.collection.name))
    (hok : ∀ native, (f native).run = pure (response (.ok native))) :
    (s.perform client plan >>= f).run = (client plan).run >>= fun o => pure (response o) := by
  rw [perform, ExceptT.run_bind, ExceptT.run_adapt, bind_map_left]
  apply bind_congr
  intro o
  cases o with
  | error e => rw [herror]; rfl
  | ok native => exact hok native

/-- A plan of a search goes with the direction that its request states. -/
theorem compileSearch_of_explain {s : Service b} {r : SearchRequest} {plan : b.Plan}
    (h : s.explainSearch r = .ok plan) :
    ∃ cursor, r.page.cursor = .ok cursor ∧ s.compileSearch r = .ok (plan, isReversed cursor) := by
  obtain ⟨⟨plan', reverse⟩, hcompile, hplan⟩ := Outcome.bind_eq_ok.mp h
  cases hplan
  obtain ⟨_, _, hrest⟩ := Outcome.bind_eq_ok.mp hcompile
  obtain ⟨cursor, hcursor, hrest⟩ := Outcome.bind_eq_ok.mp hrest
  obtain ⟨_, _, hrest⟩ := Outcome.bind_eq_ok.mp hrest
  obtain ⟨_, _, hrest⟩ := Outcome.bind_eq_ok.mp hrest
  obtain ⟨_, _, hbuilt⟩ := Outcome.bind_eq_ok.mp hrest
  cases hbuilt
  exact ⟨cursor, hcursor, hcompile⟩

/-- A plan of facets goes with the checked levels of its request. -/
theorem compileFacets_of_explain {s : Service b} {r : FacetRequest} {plan : b.Plan}
    (h : s.explainFacets r = .ok plan) :
    ∃ levels, s.facetPlan r = .ok levels ∧ s.compileFacets r = .ok (levels, plan) := by
  obtain ⟨⟨levels, plan'⟩, hcompile, hplan⟩ := Outcome.bind_eq_ok.mp h
  cases hplan
  obtain ⟨_, hlevels, hrest⟩ := Outcome.bind_eq_ok.mp hcompile
  obtain ⟨_, _, hrest⟩ := Outcome.bind_eq_ok.mp hrest
  obtain ⟨_, _, hbuilt⟩ := Outcome.bind_eq_ok.mp hrest
  cases hbuilt
  exact ⟨levels, hlevels, hcompile⟩

theorem run_search [LawfulMonad m] {s : Service b} {r : SearchRequest} {plan : b.Plan}
    (client : Client m b) (h : s.explainSearch r = .ok plan) :
    (s.search client r).run =
      (client plan).run >>= fun o => pure ((Call.search r).response s o) := by
  obtain ⟨cursor, hcursor, hcompile⟩ := compileSearch_of_explain h
  rw [search, hcompile, settle_ok_bind]
  apply run_perform_bind
  · intro e
    rfl
  · intro native
    show pure _ = pure ((s.assembleSearch r native).map id)
    rw [Except.map_id, id, assembleSearch, hcursor, Outcome.ok_bind]

theorem run_facets [LawfulMonad m] {s : Service b} {r : FacetRequest} {plan : b.Plan}
    (client : Client m b) (h : s.explainFacets r = .ok plan) :
    (s.facets client r).run =
      (client plan).run >>= fun o => pure ((Call.facets r).response s o) := by
  obtain ⟨levels, hlevels, hcompile⟩ := compileFacets_of_explain h
  rw [facets, hcompile, settle_ok_bind]
  apply run_perform_bind
  · intro e
    rfl
  · intro native
    show _ = pure ((s.assembleFacets r native).map (Call.facets r).timed)
    rw [assembleFacets, hlevels, Outcome.ok_bind]
    cases b.assembleFacets s.collection levels native with
    | error e => exact settle_error_bind e _
    | ok tree => exact settle_ok_bind tree _

/-- Features do not show the time. -/
theorem run_geoFacets [LawfulMonad m] {s : Service b} {r : FacetRequest} {plan : b.Plan}
    (client : Client m b) (h : s.explainFacets { r with geo := true } = .ok plan) :
    (s.geoFacets client r).run =
      (client plan).run >>= fun o => pure ((Call.geoFacets r).response s o) := by
  rw [geoFacets, ExceptT.run_bind, run_facets client h, bind_assoc]
  apply bind_congr
  intro o
  rw [pure_bind]
  cases o with
  | error e => rfl
  | ok native =>
    show _ = pure (((s.assembleFacets _ native).map Bucket.featureCollection).map id)
    rw [Except.map_id, id]
    show ExceptT.bindCont _ ((s.assembleFacets _ native).map (Call.facets _).timed) = _
    cases s.assembleFacets { r with geo := true } native <;> rfl

theorem run_compute [LawfulMonad m] {s : Service b} {r : ComputationRequest} {plan : b.Plan}
    (client : Client m b) (h : s.explainComputation r = .ok plan) :
    (s.compute client r).run =
      (client plan).run >>= fun o => pure ((Call.compute r).response s o) := by
  rw [compute, h, settle_ok_bind]
  apply run_perform_bind
  · intro e
    rfl
  · intro native
    show pure _ = pure ((s.assembleComputation r native).map id)
    rw [Except.map_id, id]

end Service

namespace Call

/-- A request that does not compile asks nothing. -/
theorem run_ask_of_error [LawfulMonad m] {s : Service b} {q : Call} {e : Fault}
    (client : Service.Client m b) (h : q.explained s = .error e) :
    (q.ask s client).run = pure (.error e) := by
  have search_error (r : SearchRequest) (h : s.explainSearch r = .error e) :
      s.compileSearch r = .error e := by
    cases hcompile : s.compileSearch r <;> simp_all [Service.explainSearch]
  have facets_error (r : FacetRequest) (h : s.explainFacets r = .error e) :
      (s.facets client r).run = pure (.error e) := by
    have hcompile : s.compileFacets r = .error e := by
      cases hcompile : s.compileFacets r <;> simp_all [Service.explainFacets]
    rw [Service.facets, hcompile, Service.settle_error_bind]
  cases q with
  | search r =>
    rw [ask, Service.search, search_error r h, Service.settle_error_bind]
  | facets r => exact facets_error r h
  | geoFacets r =>
    rw [ask, Service.geoFacets, ExceptT.run_bind, facets_error _ h, pure_bind]
  | compute r =>
    rw [ask, Service.compute, show s.explainComputation r = .error e from h,
      Service.settle_error_bind]

/-- **A request that compiles is one call of the client.** -/
theorem run_ask_of_ok [LawfulMonad m] {s : Service b} {q : Call} {plan : b.Plan}
    (client : Service.Client m b) (h : q.explained s = .ok plan) :
    (q.ask s client).run = (client plan).run >>= fun o => pure (q.response s o) := by
  cases q with
  | search r => exact Service.run_search client h
  | facets r => exact Service.run_facets client h
  | geoFacets r => exact Service.run_geoFacets client h
  | compute r => exact Service.run_compute client h

end Call

/-! ## Counting the calls -/

/-- The client, with a list of the plans it is given. -/
def Service.recorded (client : Service.Client m b) :
    Service.Client (StateT (List b.Plan) m) b := fun plan => ExceptT.mk do
  modify (· ++ [plan])
  (client plan).run

theorem Service.run_recorded [LawfulMonad m] (client : Service.Client m b) (plan : b.Plan)
    (log : List b.Plan) :
    (recorded client plan).run.run log =
      (client plan).run >>= fun o => pure (o, log ++ [plan]) := by
  show ((modify (· ++ [plan]) : StateT (List b.Plan) m PUnit) >>= fun _ =>
    (liftM (client plan).run : StateT (List b.Plan) m _)).run log = _
  rw [StateT.run_bind, StateT.run_modify, pure_bind, StateT.run_monadLift]
  rfl

namespace Call

theorem run_ask_recorded_of_error [LawfulMonad m] {s : Service b} {q : Call} {e : Fault}
    (client : Service.Client m b) (h : q.explained s = .error e) (log : List b.Plan) :
    (q.ask s (Service.recorded client)).run.run log = pure (.error e, log) := by
  rw [run_ask_of_error _ h, StateT.run_pure]

theorem run_ask_recorded_of_ok [LawfulMonad m] {s : Service b} {q : Call} {plan : b.Plan}
    (client : Service.Client m b) (h : q.explained s = .ok plan) (log : List b.Plan) :
    (q.ask s (Service.recorded client)).run.run log =
      (client plan).run >>= fun o => pure (q.response s o, log ++ [plan]) := by
  rw [run_ask_of_ok _ h, StateT.run_bind, Service.run_recorded, bind_assoc]
  simp only [pure_bind, StateT.run_pure]

end Call

/-! ## Sessions -/

namespace Session

/-- A step of a session. -/
inductive Step (b : Backend) where
  | live (q : Call)
  | explain (q : Call)
  | assemble (q : Call) (native : b.Native)

/-- What a step is replied with. -/
inductive Reply (b : Backend) where
  | answer (q : Call) (o : Outcome q.Answer)
  | plan (o : Outcome b.Plan)

namespace Step

def reply (s : Service b) (client : Service.Client m b) : Step b → m (Reply b)
  | live q => do return .answer q (← (q.ask s client).run)
  | explain q => pure (.plan (q.explained s))
  | assemble q native => pure (.answer q (q.assembled s native))

/-- Whether the step is live and compiles. -/
def compiles (s : Service b) : Step b → Bool
  | live q => (q.explained s).isOk
  | explain _ => false
  | assemble _ _ => false

/-- The plans that the client is given. -/
def plans (s : Service b) : Step b → List b.Plan
  | live q => (q.explained s).toOption.toList
  | explain _ => []
  | assemble _ _ => []

theorem length_plans (s : Service b) (step : Step b) :
    (step.plans s).length = (step.compiles s).toNat := by
  cases step with
  | live q =>
    rw [plans, compiles]
    cases q.explained s <;> rfl
  | explain q => rfl
  | assemble q native => rfl

/-- A step adds its plans to the list, and listing does not change its reply. -/
theorem run_recorded [LawfulMonad m] (s : Service b) (client : Service.Client m b)
    (step : Step b) (log : List b.Plan) :
    (step.reply s (Service.recorded client)).run log =
      step.reply s client >>= fun reply => pure (reply, log ++ step.plans s) := by
  cases step with
  | live q =>
    rw [reply, reply, plans, StateT.run_bind]
    cases hplan : q.explained s with
    | error e =>
      rw [Call.run_ask_recorded_of_error client hplan, Call.run_ask_of_error client hplan]
      simp [Except.toOption]
    | ok plan =>
      rw [Call.run_ask_recorded_of_ok client hplan, Call.run_ask_of_ok client hplan]
      simp [Except.toOption]
  | explain q =>
    rw [reply, reply, plans, List.append_nil, StateT.run_pure, pure_bind]
  | assemble q native =>
    rw [reply, reply, plans, List.append_nil, StateT.run_pure, pure_bind]

end Step

/-- Takes some steps, one after the other. -/
def run (s : Service b) (client : Service.Client m b) (steps : List (Step b)) :
    m (List (Reply b)) :=
  steps.mapM (Step.reply s client)

/-- The plans that the client is given in a session. -/
def plans (s : Service b) (steps : List (Step b)) : List b.Plan := steps.flatMap (Step.plans s)

/-- **A session calls the client once for each live step that compiles.** -/
theorem length_plans (s : Service b) (steps : List (Step b)) :
    (plans s steps).length = steps.countP (Step.compiles s) := by
  induction steps with
  | nil => rfl
  | cons step steps ih =>
    rw [plans, List.flatMap_cons, List.length_append, Step.length_plans, ← plans, ih,
      List.countP_cons]
    cases step.compiles s <;> simp [Nat.add_comm]

/-- **The list after a session is the list before it and the plans of its steps.** -/
theorem run_recorded [LawfulMonad m] (s : Service b) (client : Service.Client m b)
    (steps : List (Step b)) (log : List b.Plan) :
    (run s (Service.recorded client) steps).run log =
      run s client steps >>= fun replies => pure (replies, log ++ plans s steps) := by
  induction steps generalizing log with
  | nil => simp [run, plans]
  | cons step steps ih =>
    simp only [run, List.mapM_cons, StateT.run_bind, Step.run_recorded, bind_assoc, pure_bind]
    apply bind_congr
    intro reply
    have hrest := ih (log ++ step.plans s)
    rw [run, run] at hrest
    rw [hrest]
    simp [plans]

end Session

/-! ## The agreement -/

/-- **Live requests agree with their offline halves.** For any service, any request and any client:
the document of the request is explained and assembled as the request itself. A request that does
not compile fails live with the same fault, and the client is not called. Any other is one call,
with the plan shown offline; the answer is the one assembled offline, with its time, and a fault of
the client keeps its code and its field and gets the name of the collection in front of its message.
A session calls the client once for each live step that compiles, and listing the calls changes no
reply. -/
theorem live_agrees_with_offline [LawfulMonad m] (s : Service b) (client : Service.Client m b) :
    (∀ q : Call, s.explain q.request = q.explained s ∧
      (∀ native, s.assemble q.request native = (q.assembled s native).map q.document) ∧
      ∀ log : List b.Plan,
        (∀ e, q.explained s = .error e →
          (q.ask s (Service.recorded client)).run.run log = pure (.error e, log)) ∧
        ∀ plan, q.explained s = .ok plan →
          (q.ask s (Service.recorded client)).run.run log =
            (client plan).run >>= fun o => pure (q.response s o, log ++ [plan])) ∧
    (∀ q : Call,
      (∀ native, q.response s (.ok native) = (q.assembled s native).map q.timed) ∧
      ∀ e : Fault, ∃ e' : Fault, q.response s (.error e) = .error e' ∧ e'.code = e.code ∧
        e'.field = e.field ∧ e'.message = s.collection.name ++ ": " ++ e.message) ∧
    ∀ (steps : List (Session.Step b)) (log : List b.Plan),
      (Session.run s (Service.recorded client) steps).run log =
        (Session.run s client steps >>= fun replies =>
          pure (replies, log ++ Session.plans s steps)) ∧
      (Session.plans s steps).length = steps.countP (Session.Step.compiles s) := by
  refine ⟨fun q => ⟨q.explain_request s, fun native => q.assemble_request s native, fun log =>
    ⟨fun e he => ?_, fun plan hplan => ?_⟩⟩, fun q => ⟨fun native => rfl, fun e => ?_⟩,
    fun steps log => ⟨?_, ?_⟩⟩
  · exact Call.run_ask_recorded_of_error client he log
  · exact Call.run_ask_recorded_of_ok client hplan log
  · exact ⟨e.withContext s.collection.name, rfl, rfl, rfl, rfl⟩
  · exact Session.run_recorded s client steps log
  · exact Session.length_plans s steps

/-! ### A session without a backend

The client reports that the backend is down. Two requests are live, and one of them does not
compile. -/

def adultsOnly : Call := .search ((Expression.mk "age" .gte "18").asked none Page.first)

def unsized : Call := .search ⟨⟨[], [], none⟩, { Page.first with size := 0 }⟩

def down : Service.Client Id Sql.backend := fun _ => throw (.of (.reported .backend "down"))

theorem live_agrees_with_offline_people : ∃ (plan : Sql.Plan) (e : Fault),
    let s : Service Sql.backend := ⟨people, 100⟩
    adultsOnly.explained s = .ok plan ∧
      (adultsOnly.ask s (Service.recorded down)).run.run [] = (.error e, [plan]) ∧
      e.code = .backend ∧ e.message = "people: down" ∧
      (Id.run ((Session.run s (Service.recorded down)
        [.live adultsOnly, .live unsized, .explain adultsOnly]).run [])).2 = [plan] := by
  obtain ⟨plan, hplan⟩ : ∃ plan, adultsOnly.explained (b := Sql.backend) ⟨people, 100⟩ = .ok plan :=
    ⟨_, rfl⟩
  obtain ⟨e, hunsized⟩ : ∃ e, unsized.explained (b := Sql.backend) ⟨people, 100⟩ = .error e :=
    ⟨_, rfl⟩
  obtain ⟨hlive, hfault, hsession⟩ := live_agrees_with_offline (m := Id) ⟨people, 100⟩ down
  obtain ⟨fault, hresponse, hcode, -, hmessage⟩ :=
    (hfault adultsOnly).2 (.of (.reported .backend "down"))
  have hasked := ((hlive adultsOnly).2.2 []).2 plan hplan
  refine ⟨plan, fault, hplan, ?_, hcode, hmessage, ?_⟩
  · rw [← hresponse]
    exact hasked
  · rw [(hsession [.live adultsOnly, .live unsized, .explain adultsOnly] []).1]
    show Session.plans (b := Sql.backend) ⟨people, 100⟩ _ = [plan]
    simp only [Session.plans, Session.Step.plans, List.flatMap_cons, List.flatMap_nil, hplan,
      hunsized]
    rfl

end GeoFacet
