import GeoFacet.Backend
import GeoFacet.Proofs.Outcome

/-!
# Drafts gathered step by step

A draft may be gathered by any steps in any order. A step that fails is left out. What holds of the
first draft and is kept by every accepted step holds of the draft at the end
(`Backend.run_induction`).
-/

namespace GeoFacet

/-- A step that a draft takes. -/
inductive Step where
  /-- adds a group of expressions, with the format of its dates -/
  | filter (dateFormat : Option String) (group : List Expression)
  /-- adds a group of full-text searches -/
  | search (group : List String)
  | page (size offset : Nat)
  | sort (spec : String)
  /-- keeps the hits after a cursor in a sort order -/
  | cursor (spec values : String)
  | facets (plan : FacetPlan)
  | computation (field : String) (metric : ComputationMetric)

namespace Backend

variable (b : Backend) (c : Collection)

/-- Takes a step. -/
def take (d : b.Draft) : Step → Outcome b.Draft
  | .filter dateFormat group => b.addExpressions c dateFormat group d
  | .search group => b.addSearches c group d
  | .page size offset => .ok (b.setPage size offset d)
  | .sort spec => b.setSort spec d
  | .cursor spec values => b.setCursor spec values d
  | .facets plan => .ok (b.setFacets plan d)
  | .computation field metric => b.setComputation field metric d

/-- Takes a step unless it fails. -/
def attempt (d : b.Draft) (step : Step) : b.Draft := (b.take c d step).toOption.getD d

/-- The draft after some steps, of which those that fail are left out. -/
def run (steps : List Step) : b.Draft := steps.foldl (b.attempt c) (b.start c)

variable {b c}

/-- A step that fails leaves the draft as it is. -/
theorem attempt_of_error {d : b.Draft} {step : Step} {e : Fault} (h : b.take c d step = .error e) :
    b.attempt c d step = d := by
  rw [attempt, h]
  rfl

theorem attempt_of_ok {d d' : b.Draft} {step : Step} (h : b.take c d step = .ok d') :
    b.attempt c d step = d' := by
  rw [attempt, h]
  rfl

/-- **What every accepted step keeps holds after all steps.** -/
theorem run_induction {P : b.Draft → Prop} (steps : List Step) (hstart : P (b.start c))
    (hstep : ∀ step ∈ steps, ∀ d d', b.take c d step = .ok d' → P d → P d') :
    P (b.run c steps) := by
  rw [run]
  generalize b.start c = d at hstart
  induction steps generalizing d with
  | nil => exact hstart
  | cons step steps ih =>
    refine ih (fun s hs => hstep s (List.mem_cons_of_mem step hs)) (b.attempt c d step) ?_
    cases htake : b.take c d step with
    | error e => rwa [attempt_of_error htake]
    | ok d' =>
      rw [attempt_of_ok htake]
      exact hstep step List.mem_cons_self d d' htake hstart

end Backend

end GeoFacet
