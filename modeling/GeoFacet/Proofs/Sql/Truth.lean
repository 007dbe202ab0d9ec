import GeoFacet.Sql.Statement
import Mathlib.Data.List.Basic

/-!
# What predicates say about a row

A row may lack a value, and then a comparison with it is neither true nor false. Predicates are
evaluated in this three-valued logic once their placeholders are filled in again; numbering the
values of a predicate and filling them in gives it back (`fill?_number`).
-/

namespace GeoFacet.Sql

/-! ## Three truth values -/

/-- True, false, or unknown. -/
abbrev Truth := Option Bool

namespace Truth

def and : Truth → Truth → Truth
  | some false, _ => some false
  | some true, t => t
  | none, some false => some false
  | none, _ => none

def or : Truth → Truth → Truth
  | some true, _ => some true
  | some false, t => t
  | none, some true => some true
  | none, _ => none

def not (t : Truth) : Truth := t.map (!·)

@[simp] theorem and_some (a b : Bool) : and (some a) (some b) = some (a && b) := by
  cases a <;> cases b <;> rfl

@[simp] theorem or_some (a b : Bool) : or (some a) (some b) = some (a || b) := by
  cases a <;> cases b <;> rfl

@[simp] theorem and_true (t : Truth) : and t (some true) = t := by
  rcases t with _ | _ | _ <;> rfl

@[simp] theorem or_false (t : Truth) : or t (some false) = t := by
  rcases t with _ | _ | _ <;> rfl

theorem and_assoc (s t u : Truth) : and (and s t) u = and s (and t u) := by
  rcases s with _ | _ | _ <;> rcases t with _ | _ | _ <;> rcases u with _ | _ | _ <;> rfl

theorem or_assoc (s t u : Truth) : or (or s t) u = or s (or t u) := by
  rcases s with _ | _ | _ <;> rcases t with _ | _ | _ <;> rcases u with _ | _ | _ <;> rfl

theorem and_eq_true {s t : Truth} : and s t = some true ↔ s = some true ∧ t = some true := by
  rcases s with _ | _ | _ <;> rcases t with _ | _ | _ <;> decide

theorem or_eq_true {s t : Truth} : or s t = some true ↔ s = some true ∨ t = some true := by
  rcases s with _ | _ | _ <;> rcases t with _ | _ | _ <;> decide

end Truth

/-! ## Rows -/

/-- How values of a row compare with the values of a statement. -/
structure Tests (V : Type) where
  equal : V → Scalar → Bool
  compare : V → Comparison → Scalar → Bool
  like : V → Scalar → Bool
  likeAnyCase : V → Scalar → Bool
  relates : SpatialRelation → V → Scalar → Bool

/-- The values of expressions in a row; missing ones are none. -/
abbrev RowValues (V : Type) := Expr → Option V

namespace Predicate

section Evaluation

variable {V : Type} (tests : Tests V) (row : RowValues V)

mutual

/-- What a predicate says about a row. -/
def truth : Predicate Scalar → Truth
  | .isNull column => some (row (.column column)).isNone
  | .notNull column => some (row (.column column)).isSome
  | .equal e v => (row e).map (tests.equal · v)
  | .compare e op v => (row e).map (tests.compare · op v)
  | .isOneOf column vs => (row (.column column)).map fun x => vs.any (tests.equal x)
  | .isNoneOf column vs => (row (.column column)).map fun x => !vs.any (tests.equal x)
  | .like e v => (row e).map (tests.like · v)
  | .likeAnyCase e v => (row e).map (tests.likeAnyCase · v)
  | .spatial relation column v => (row (.column column)).map (tests.relates relation · v)
  | .not p => (truth p).not
  | .all ps => truthAll ps
  | .any ps => truthAny ps
  | .parens p => truth p

def truthAll : List (Predicate Scalar) → Truth
  | [] => some true
  | p :: rest => (truth p).and (truthAll rest)

def truthAny : List (Predicate Scalar) → Truth
  | [] => some false
  | p :: rest => (truth p).or (truthAny rest)

end

theorem truthAll_append (ps qs : List (Predicate Scalar)) :
    truthAll tests row (ps ++ qs) = (truthAll tests row ps).and (truthAll tests row qs) := by
  induction ps with
  | nil => rfl
  | cons p ps ih => rw [List.cons_append, truthAll, ih, truthAll, Truth.and_assoc]

end Evaluation

/-! ## Filling in -/

section Filling

variable {α : Type}

/-- The value with a number, counted from one. -/
def param? (params : List α) : Nat → Option α
  | 0 => none
  | n + 1 => params[n]?

mutual

/-- The predicate with values for its placeholders, if there is one for each. -/
def fill? (params : List α) : Predicate Nat → Option (Predicate α)
  | .isNull column => some (.isNull column)
  | .notNull column => some (.notNull column)
  | .equal e n => (param? params n).map (.equal e)
  | .compare e op n => (param? params n).map (.compare e op)
  | .isOneOf column ns => (ns.mapM (param? params)).map (.isOneOf column)
  | .isNoneOf column ns => (ns.mapM (param? params)).map (.isNoneOf column)
  | .like e n => (param? params n).map (.like e)
  | .likeAnyCase e n => (param? params n).map (.likeAnyCase e)
  | .spatial relation column n => (param? params n).map (.spatial relation column)
  | .not p => (fill? params p).map .not
  | .all ps => (fillList? params ps).map .all
  | .any ps => (fillList? params ps).map .any
  | .parens p => (fill? params p).map .parens

def fillList? (params : List α) : List (Predicate Nat) → Option (List (Predicate α))
  | [] => some []
  | p :: rest => do
    let q ← fill? params p
    let qs ← fillList? params rest
    some (q :: qs)

end

theorem param?_append (before : List α) (v : α) (after : List α) :
    param? (before ++ v :: after) (before.length + 1) = some v := by
  rw [param?, List.getElem?_append_right (Nat.le_refl _), Nat.sub_self]
  rfl

theorem mapM_param? (before vs after : List α) :
    (List.range' (before.length + 1) vs.length).mapM (param? (before ++ vs ++ after)) =
      some vs := by
  induction vs generalizing before with
  | nil => rfl
  | cons v vs ih =>
    have hrest := ih (before ++ [v])
    rw [List.length_append, List.length_singleton] at hrest
    rw [List.length_cons, List.range'_succ, List.mapM_cons]
    simp only [List.append_assoc, List.cons_append, List.nil_append] at hrest ⊢
    rw [param?_append, hrest]
    rfl

mutual

/-- **Numbers stand for their values.** Where the values of a predicate stand among the parameters
from its first number on, filling in gives the predicate back. -/
theorem fill?_number (before after : List α) (p : Predicate α) :
    fill? (before ++ p.values ++ after) (p.number (before.length + 1)) = some p := by
  cases p with
  | isNull column => rfl
  | notNull column => rfl
  | equal e v =>
    rw [values, number, fill?, List.append_assoc, List.singleton_append, param?_append]
    rfl
  | compare e op v =>
    rw [values, number, fill?, List.append_assoc, List.singleton_append, param?_append]
    rfl
  | isOneOf column vs =>
    rw [values, number, fill?, mapM_param?]
    rfl
  | isNoneOf column vs =>
    rw [values, number, fill?, mapM_param?]
    rfl
  | like e v =>
    rw [values, number, fill?, List.append_assoc, List.singleton_append, param?_append]
    rfl
  | likeAnyCase e v =>
    rw [values, number, fill?, List.append_assoc, List.singleton_append, param?_append]
    rfl
  | spatial relation column v =>
    rw [values, number, fill?, List.append_assoc, List.singleton_append, param?_append]
    rfl
  | not p =>
    rw [values, number, fill?, fill?_number before after p]
    rfl
  | all ps =>
    rw [values, number, fill?, fillList?_numberList before after ps]
    rfl
  | any ps =>
    rw [values, number, fill?, fillList?_numberList before after ps]
    rfl
  | parens p =>
    rw [values, number, fill?, fill?_number before after p]
    rfl

theorem fillList?_numberList (before after : List α) (ps : List (Predicate α)) :
    fillList? (before ++ valuesList ps ++ after) (numberList (before.length + 1) ps) = some ps := by
  cases ps with
  | nil => rfl
  | cons p ps =>
    have hfirst := fill?_number before (valuesList ps ++ after) p
    have hrest := fillList?_numberList (before ++ p.values) after ps
    rw [valuesList, numberList, fillList?]
    rw [List.length_append, Nat.add_right_comm] at hrest
    simp only [List.append_assoc] at hfirst hrest ⊢
    rw [hfirst, hrest]
    rfl

end

end Filling

end Predicate

namespace Selection

/-- The predicates of the filter stand behind the further ones, and so do their numbers. -/
theorem fillList?_filter (s : Selection) :
    Predicate.fillList? s.params
      (Predicate.numberList (1 + (Predicate.valuesList s.further).length) s.filter) =
        some s.filter := by
  have h := Predicate.fillList?_numberList (Predicate.valuesList s.further) [] s.filter
  rw [List.append_nil] at h
  rw [Nat.add_comm]
  exact h

end Selection

end GeoFacet.Sql
