import GeoFacet.Fault
import Mathlib.Data.List.Forall2

/-!
# Steps that may fail

How a chain of steps and a walk over a list come out. A walk succeeds exactly when it succeeds at
every item, and two walks that do the same at every item come out alike, failures included.
-/

namespace GeoFacet.Outcome

variable {α β γ : Type}

theorem bind_eq_ok {o : Outcome α} {f : α → Outcome β} {b : β} :
    (o >>= f) = .ok b ↔ ∃ a, o = .ok a ∧ f a = .ok b := by
  constructor
  · intro h
    cases o with
    | error e => cases h
    | ok a => exact ⟨a, rfl, h⟩
  · rintro ⟨a, rfl, hf⟩
    exact hf

@[simp] theorem ok_bind (a : α) (f : α → Outcome β) : ((.ok a : Outcome α) >>= f) = f a := rfl

@[simp] theorem error_bind (e : Fault) (f : α → Outcome β) :
    ((.error e : Outcome α) >>= f) = .error e := rfl

theorem map_eq_ok {o : Outcome α} {f : α → β} {b : β} :
    o.map f = .ok b ↔ ∃ a, o = .ok a ∧ f a = b := by
  constructor
  · intro h
    cases o with
    | error e => cases h
    | ok a => exact ⟨a, rfl, Except.ok.inj h⟩
  · rintro ⟨a, rfl, rfl⟩
    rfl

theorem mapError_eq_ok {o : Outcome α} {f : Fault → Fault} {a : α} :
    o.mapError f = .ok a ↔ o = .ok a := by
  cases o with
  | error e => exact ⟨fun h => (by cases h), fun h => (by cases h)⟩
  | ok b => exact Iff.rfl

theorem orRefuse_eq_ok {cause : Cause} {o : Option α} {a : α} :
    orRefuse cause o = .ok a ↔ o = some a := by
  cases o with
  | none => exact ⟨fun h => (by cases h), fun h => (by cases h)⟩
  | some b => exact ⟨fun h => (by cases h; rfl), fun h => (by cases h; rfl)⟩

theorem toOption_eq_some {o : Outcome α} {a : α} : o.toOption = some a ↔ o = .ok a := by
  cases o <;> simp [Except.toOption]

theorem exists_of_any {o : Outcome α} {p : α → Bool} (h : o.toOption.any p = true) :
    ∃ a, o = .ok a ∧ p a = true := by
  cases o with
  | error e => cases h
  | ok a => exact ⟨a, rfl, h⟩

/-! ## Kinds of failures -/

/-- Every failure of an outcome is of a kind. -/
def FailsOnly (kind : Fault → Prop) (o : Outcome α) : Prop := ∀ e, o = .error e → kind e

section FailsOnly

variable {kind : Fault → Prop}

theorem FailsOnly.ok (a : α) : FailsOnly kind (.ok a : Outcome α) := by
  intro e h
  cases h

theorem FailsOnly.refuse {cause : Cause} (h : kind (.of cause)) :
    FailsOnly kind (refuse cause : Outcome α) := by
  intro e he
  cases he
  exact h

theorem FailsOnly.orRefuse {cause : Cause} {o : Option α} (h : o = none → kind (.of cause)) :
    FailsOnly kind (orRefuse cause o) := by
  intro e he
  cases o with
  | none =>
    cases he
    exact h rfl
  | some a => cases he

theorem FailsOnly.bind {o : Outcome α} {f : α → Outcome β} (h : FailsOnly kind o)
    (hf : ∀ a, o = .ok a → FailsOnly kind (f a)) : FailsOnly kind (o >>= f) := by
  intro e he
  cases o with
  | error e' =>
    cases he
    exact h e rfl
  | ok a => exact hf a rfl e he

theorem FailsOnly.map {o : Outcome α} (h : FailsOnly kind o) (f : α → β) :
    FailsOnly kind (o.map f) := by
  intro e he
  cases o with
  | error e' =>
    cases he
    exact h e rfl
  | ok a => cases he

theorem FailsOnly.mapError {o : Outcome α} (h : FailsOnly kind o) {f : Fault → Fault}
    (hf : ∀ e, kind e → kind (f e)) : FailsOnly kind (o.mapError f) := by
  intro e he
  cases o with
  | error e' =>
    cases he
    exact hf e' (h e' rfl)
  | ok a => cases he

end FailsOnly

/-! ## Walks over lists -/

theorem mapM_cons (f : α → Outcome β) (x : α) (xs : List α) :
    (x :: xs).mapM f = (f x >>= fun y => xs.mapM f >>= fun ys => .ok (y :: ys)) := by
  rw [List.mapM_cons]
  rfl

theorem mapM_append (f : α → Outcome β) (xs ys : List α) :
    (xs ++ ys).mapM f = (xs.mapM f >>= fun as => ys.mapM f >>= fun bs => .ok (as ++ bs)) := by
  rw [List.mapM_append]
  rfl

theorem mapM_eq_ok {f : α → Outcome β} {xs : List α} {ys : List β} :
    xs.mapM f = .ok ys ↔ List.Forall₂ (fun x y => f x = .ok y) xs ys := by
  induction xs generalizing ys with
  | nil =>
    rw [List.mapM_nil, List.forall₂_nil_left_iff]
    exact ⟨fun h => by cases h; rfl, fun h => by rw [h]; rfl⟩
  | cons x xs ih =>
    rw [mapM_cons, bind_eq_ok, List.forall₂_cons_left_iff]
    constructor
    · rintro ⟨y, hy, h⟩
      obtain ⟨zs, hzs, hc⟩ := bind_eq_ok.mp h
      cases hc
      exact ⟨y, zs, hy, ih.mp hzs, rfl⟩
    · rintro ⟨y, zs, hy, hzs, rfl⟩
      exact ⟨y, hy, bind_eq_ok.mpr ⟨zs, ih.mpr hzs, rfl⟩⟩

theorem exists_of_mem_mapM {f : α → Outcome β} {xs : List α} {ys : List β} {y : β}
    (h : xs.mapM f = .ok ys) (hy : y ∈ ys) : ∃ x ∈ xs, f x = .ok y := by
  have hforall := mapM_eq_ok.mp h
  induction hforall with
  | nil => cases hy
  | @cons x z xs ys hx hxs ih =>
    rcases List.mem_cons.mp hy with rfl | hy
    · exact ⟨x, List.mem_cons_self, hx⟩
    · obtain ⟨w, hw, hfw⟩ := ih (mapM_eq_ok.mpr hxs) hy
      exact ⟨w, List.mem_cons_of_mem x hw, hfw⟩

/-- A walk that succeeds succeeds at every item. -/
theorem exists_ok_of_mem_mapM {f : α → Outcome β} {xs : List α} {ys : List β} {x : α}
    (h : xs.mapM f = .ok ys) (hx : x ∈ xs) : ∃ y, f x = .ok y := by
  have hforall := mapM_eq_ok.mp h
  clear h
  induction hforall with
  | nil => cases hx
  | @cons x' y xs ys hy _ ih =>
    rcases List.mem_cons.mp hx with rfl | hx
    · exact ⟨y, hy⟩
    · exact ih hx

/-- What an item comes to is among the results. -/
theorem mem_of_mapM {f : α → Outcome β} {xs : List α} {ys : List β} {x : α} {y : β}
    (h : xs.mapM f = .ok ys) (hx : x ∈ xs) (hy : f x = .ok y) : y ∈ ys := by
  have hforall := mapM_eq_ok.mp h
  clear h
  induction hforall with
  | nil => cases hx
  | @cons x' z xs ys hz _ ih =>
    rcases List.mem_cons.mp hx with rfl | hx
    · cases hy.symm.trans hz
      exact List.mem_cons_self
    · exact List.mem_cons_of_mem z (ih hx)

theorem mapM_ok {f : α → Outcome β} {g : α → β} {xs : List α} (h : ∀ x ∈ xs, f x = .ok (g x)) :
    xs.mapM f = .ok (xs.map g) := by
  rw [mapM_eq_ok, List.forall₂_map_right_iff, List.forall₂_same]
  exact h

theorem exists_mapM_ok {f : α → Outcome β} {xs : List α} (h : ∀ x ∈ xs, ∃ y, f x = .ok y) :
    ∃ ys, xs.mapM f = .ok ys := by
  induction xs with
  | nil => exact ⟨[], rfl⟩
  | cons x xs ih =>
    obtain ⟨y, hy⟩ := h x List.mem_cons_self
    obtain ⟨ys, hys⟩ := ih fun z hz => h z (List.mem_cons_of_mem x hz)
    exact ⟨y :: ys, by rw [mapM_cons, hy, ok_bind, hys, ok_bind]⟩

/-- A walk fails as its items do. -/
theorem FailsOnly.mapM {kind : Fault → Prop} {f : α → Outcome β} {xs : List α}
    (h : ∀ x ∈ xs, FailsOnly kind (f x)) : FailsOnly kind (xs.mapM f) := by
  induction xs with
  | nil => exact .ok []
  | cons x xs ih =>
    rw [mapM_cons]
    refine (h x List.mem_cons_self).bind fun y _ => ?_
    exact (ih fun z hz => h z (List.mem_cons_of_mem x hz)).bind fun ys _ => .ok (y :: ys)

/-- Walks that do the same at every item come out alike. -/
theorem mapM_congr {f g : α → Outcome β} {xs : List α} (h : ∀ x ∈ xs, f x = g x) :
    xs.mapM f = xs.mapM g := by
  induction xs with
  | nil => rfl
  | cons x xs ih =>
    rw [mapM_cons, mapM_cons, h x List.mem_cons_self,
      ih fun y hy => h y (List.mem_cons_of_mem x hy)]

/-- Walks that do the same at related items come out alike. -/
theorem mapM_congr_of_forall₂ {f : α → Outcome γ} {g : β → Outcome γ} {xs : List α} {ys : List β}
    (h : List.Forall₂ (fun x y => f x = g y) xs ys) : xs.mapM f = ys.mapM g := by
  induction h with
  | nil => rfl
  | cons hxy _ ih => rw [mapM_cons, mapM_cons, hxy, ih]

theorem mapM_map (f : β → Outcome γ) (g : α → β) (xs : List α) :
    (xs.map g).mapM f = xs.mapM fun x => f (g x) := by
  induction xs with
  | nil => rfl
  | cons x xs ih => rw [List.map_cons, mapM_cons, mapM_cons, ih]

/-- A walk stops at the first item that fails. -/
theorem mapM_append_error {f : α → Outcome β} {xs : List α} {x : α} {e : Fault}
    (hxs : ∀ y ∈ xs, ∃ b, f y = .ok b) (hx : f x = .error e) (rest : List α) :
    (xs ++ x :: rest).mapM f = .error e := by
  induction xs with
  | nil => rw [List.nil_append, mapM_cons, hx, error_bind]
  | cons y ys ih =>
    obtain ⟨b, hb⟩ := hxs y List.mem_cons_self
    rw [List.cons_append, mapM_cons, hb, ok_bind,
      ih fun z hz => hxs z (List.mem_cons_of_mem y hz), error_bind]

end GeoFacet.Outcome
