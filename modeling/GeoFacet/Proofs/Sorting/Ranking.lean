import GeoFacet.Facet.Vocabulary
import Mathlib.Data.List.Sort

/-!
# Rows in the order of their keys

Tuples are compared key by key, and the first key on which they differ decides. Rows that no key
leaves tied have exactly one ranking; turning every key round reverses it, and each row cuts it into
the rows before it and the rows after it.

* `compareRows_turned` — turning every key round turns the comparison round.
* `ranking_turned` — and reverses the ranking.
* `filter_after`, `filter_before` — the two parts of a ranking around a row.
-/

namespace GeoFacet

/-- A comparison in a direction. -/
def Order.direct : Order → Ordering → Ordering
  | .asc, c => c
  | .desc, c => c.swap

namespace Order

theorem direct_flip (o : Order) (c : Ordering) : o.flip.direct c = (o.direct c).swap := by
  cases o with
  | asc => rfl
  | desc => rw [direct, Ordering.swap_swap]; rfl

theorem direct_eq_eq {o : Order} {c : Ordering} : o.direct c = .eq ↔ c = .eq := by
  cases o with
  | asc => rfl
  | desc => rw [direct, Ordering.swap_eq_eq]

theorem transCmp_direct {α : Type} {cmp : α → α → Ordering} (h : Std.TransCmp cmp) (o : Order) :
    Std.TransCmp fun a b => o.direct (cmp a b) := by
  cases o with
  | asc => exact h
  | desc =>
    have hswap : (fun a b => Order.desc.direct (cmp a b)) = fun a b => cmp b a := by
      funext a b
      exact Std.OrientedCmp.eq_swap.symm
    rw [hswap]
    infer_instance

end Order

namespace Sorting

/-! ## Tuples and rows -/

section Tuples

variable {κ ρ α β : Type}

/-- Compares two tuples key by key. -/
def compareTuples (cmp : κ → α → β → Ordering) : List κ → List α → List β → Ordering
  | k :: ks, a :: as, b :: bs => (cmp k a b).then (compareTuples cmp ks as bs)
  | _, _, _ => .eq

/-- Compares two rows by their tuples. -/
def compareRows (cmp : κ → α → α → Ordering) (value : κ → ρ → α) (keys : List κ) (r t : ρ) :
    Ordering :=
  compareTuples cmp keys (keys.map (value · r)) (keys.map (value · t))

variable {cmp : κ → α → α → Ordering} {value : κ → ρ → α}

theorem compareRows_cons (k : κ) (ks : List κ) (r t : ρ) :
    compareRows cmp value (k :: ks) r t =
      (cmp k (value k r) (value k t)).then (compareRows cmp value ks r t) :=
  rfl

theorem transCmp_compareRows (hcmp : ∀ k, Std.TransCmp (cmp k)) (keys : List κ) :
    Std.TransCmp (compareRows cmp value keys) := by
  induction keys with
  | nil => exact { eq_swap := rfl, isLE_trans := fun h _ => h }
  | cons k ks ih =>
    have hk : Std.TransCmp fun r t => cmp k (value k r) (value k t) :=
      { eq_swap := (hcmp k).eq_swap, isLE_trans := (hcmp k).isLE_trans }
    have hlex : compareRows cmp value (k :: ks) =
        compareLex (fun r t => cmp k (value k r) (value k t)) (compareRows cmp value ks) := rfl
    rw [hlex]
    infer_instance

/-- A key on which two rows differ leaves no tie between them. -/
theorem compareRows_ne_eq {keys : List κ} {k : κ} (hk : k ∈ keys) {r t : ρ}
    (h : cmp k (value k r) (value k t) ≠ .eq) : compareRows cmp value keys r t ≠ .eq := by
  induction keys with
  | nil => cases hk
  | cons l ls ih =>
    rw [compareRows_cons, Ne, Ordering.then_eq_eq]
    rintro ⟨hl, hls⟩
    rcases List.mem_cons.mp hk with rfl | hk
    · exact h hl
    · exact ih hk hls

/-- Turning every key round turns the comparison round. -/
theorem compareRows_turned {turned : κ → κ}
    (hcmp : ∀ k a b, cmp (turned k) a b = (cmp k a b).swap)
    (hvalue : ∀ k, value (turned k) = value k) (keys : List κ) (r t : ρ) :
    compareRows cmp value (keys.map turned) r t = (compareRows cmp value keys r t).swap := by
  induction keys with
  | nil => rfl
  | cons k ks ih =>
    rw [List.map_cons, compareRows_cons, compareRows_cons, Ordering.swap_then, ih, hcmp, hvalue]

end Tuples

/-! ## Rankings -/

section Ranking

variable {ρ : Type} {cmp : ρ → ρ → Ordering} {rows : List ρ}

/-- The rows in ascending order. -/
def ranking (cmp : ρ → ρ → Ordering) (rows : List ρ) : List ρ :=
  rows.mergeSort fun r t => (cmp r t).isLE

theorem ranking_perm (cmp : ρ → ρ → Ordering) (rows : List ρ) : (ranking cmp rows).Perm rows :=
  List.mergeSort_perm rows _

/-- Rows without ties are ranked strictly. -/
theorem pairwise_ranking (hcmp : Std.TransCmp cmp) (h : rows.Pairwise fun r t => cmp r t ≠ .eq) :
    (ranking cmp rows).Pairwise fun r t => cmp r t = .lt := by
  have hle : (ranking cmp rows).Pairwise fun r t => (cmp r t).isLE := by
    refine List.pairwise_mergeSort (fun r t u => Std.TransCmp.isLE_trans) (fun r t => ?_) rows
    rw [@Std.OrientedCmp.eq_swap _ cmp _ t r]
    cases cmp r t <;> rfl
  have hne : (ranking cmp rows).Pairwise fun r t => cmp r t ≠ .eq :=
    ((ranking_perm cmp rows).pairwise_iff fun hrt htr => hrt (Std.OrientedCmp.eq_symm htr)).mpr h
  refine (hle.and hne).imp fun ⟨hrt, hrt'⟩ => ?_
  exact (Ordering.isLE_iff_eq_lt_or_eq_eq.mp hrt).resolve_right hrt'

/-- Turning the comparison round reverses the ranking. -/
theorem ranking_turned {cmp' : ρ → ρ → Ordering} (hcmp : Std.TransCmp cmp)
    (hturned : ∀ r t, cmp' r t = (cmp r t).swap)
    (h : rows.Pairwise fun r t => cmp r t ≠ .eq) :
    ranking cmp' rows = (ranking cmp rows).reverse := by
  have hcmp' : Std.TransCmp cmp' := by
    have hswap : cmp' = fun r t => cmp t r := by
      funext r t
      rw [hturned]
      exact Std.OrientedCmp.eq_swap.symm
    rw [hswap]
    infer_instance
  have h' : rows.Pairwise fun r t => cmp' r t ≠ .eq := by
    refine h.imp fun hrt => ?_
    rwa [hturned, Ne, Ordering.swap_eq_eq]
  have hreverse : (ranking cmp rows).reverse.Pairwise fun r t => cmp' r t = .lt := by
    rw [List.pairwise_reverse]
    refine (pairwise_ranking hcmp h).imp fun {r t} hrt => ?_
    rw [hturned, Ordering.swap_eq_lt, Std.OrientedCmp.gt_iff_lt]
    exact hrt
  -- Both are sorted by the turned order, and a sorted arrangement of rows is unique.
  have hperm : (ranking cmp' rows).Perm (ranking cmp rows).reverse :=
    ((ranking_perm cmp' rows).trans (ranking_perm cmp rows).symm).trans
      (List.reverse_perm _).symm
  refine hperm.eq_of_pairwise (fun r t _ _ hrt htr => ?_) (pairwise_ranking hcmp' h') hreverse
  exact absurd htr (Std.OrientedCmp.not_lt_of_lt hrt)

/-! ## The parts around a row -/

section Parts

variable {before after : List ρ} {r : ρ}

theorem filter_after (hcmp : Std.TransCmp cmp)
    (h : (before ++ r :: after).Pairwise fun r t => cmp r t = .lt) :
    (before ++ r :: after).filter (fun t => cmp t r = .gt) = after := by
  rw [List.pairwise_append, List.pairwise_cons] at h
  obtain ⟨-, ⟨hafter, -⟩, hbefore⟩ := h
  rw [List.filter_append, List.filter_cons_of_neg, List.filter_eq_nil_iff.mpr,
    List.filter_eq_self.mpr, List.nil_append]
  · intro t ht
    exact decide_eq_true (Std.OrientedCmp.gt_of_lt (hafter t ht))
  · intro t ht
    rw [decide_eq_true_eq, hbefore t ht r List.mem_cons_self]
    decide
  · rw [decide_eq_true_eq, @Std.ReflCmp.compare_self _ cmp _ r]
    decide

theorem filter_before (hcmp : Std.TransCmp cmp)
    (h : (before ++ r :: after).Pairwise fun r t => cmp r t = .lt) :
    (before ++ r :: after).filter (fun t => cmp t r = .lt) = before := by
  rw [List.pairwise_append, List.pairwise_cons] at h
  obtain ⟨-, ⟨hafter, -⟩, hbefore⟩ := h
  rw [List.filter_append, List.filter_cons_of_neg, List.filter_eq_self.mpr,
    List.filter_eq_nil_iff.mpr, List.append_nil]
  · intro t ht
    rw [decide_eq_true_eq, Std.OrientedCmp.gt_of_lt (hafter t ht)]
    decide
  · intro t ht
    exact decide_eq_true (hbefore t ht r List.mem_cons_self)
  · rw [decide_eq_true_eq, @Std.ReflCmp.compare_self _ cmp _ r]
    decide

end Parts

end Ranking

end Sorting

end GeoFacet
