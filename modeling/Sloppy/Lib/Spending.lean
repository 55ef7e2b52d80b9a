import Mathlib.Algebra.Order.BigOperators.Group.List
import Mathlib.Order.Interval.Set.Defs

/-! # Costs spent over time

A list of moments with the cost spent at each, and the cost spent within a set of moments. The order of
the list does not matter to it.
-/

namespace Sloppy.Lib

open List

universe u v

structure Hit (Moment : Type u) (Cost : Type v) where
  moment : Moment
  cost : Cost
  deriving DecidableEq

namespace Hit

variable {Moment : Type u} {Cost : Type v}

open Classical

/-- The cost spent within a set of moments. -/
noncomputable def spent [AddCommMonoid Cost] (moments : Set Moment) (hits : List (Hit Moment Cost)) : Cost :=
  ((hits.filter fun hit => hit.moment ∈ moments).map Hit.cost).sum

section Sums

variable [AddCommMonoid Cost] {moments others : Set Moment} {hit : Hit Moment Cost} {hits : List (Hit Moment Cost)}

lemma spent_cons_of_mem (h : hit.moment ∈ moments) :
    spent moments (hit :: hits) = hit.cost + spent moments hits := by
  rw [spent, filter_cons_of_pos, map_cons, sum_cons, spent]
  exact decide_eq_true h

lemma spent_cons_of_not_mem (h : hit.moment ∉ moments) : spent moments (hit :: hits) = spent moments hits := by
  rw [spent, filter_cons_of_neg, spent]
  rw [decide_eq_true_eq]
  exact h

lemma spent_concat (hits : List (Hit Moment Cost)) (hit : Hit Moment Cost) :
    spent moments (hits ++ [hit]) = spent moments (hit :: hits) := by
  simp only [spent, filter_append, map_append, sum_append, filter_cons, filter_nil]
  split
  · simp [add_comm]
  · simp

lemma spent_eq_zero (h : ∀ hit ∈ hits, hit.moment ∉ moments) : spent moments hits = 0 := by
  rw [spent, filter_eq_nil_iff.mpr]
  · rfl
  · intro hit hMem
    rw [decide_eq_true_eq]
    exact h hit hMem

lemma spent_univ (h : ∀ hit ∈ hits, hit.moment ∈ moments) : spent moments hits = (hits.map Hit.cost).sum := by
  rw [spent, filter_eq_self.mpr fun hit hMem => decide_eq_true (h hit hMem)]

lemma spent_filter {keep : Hit Moment Cost → Bool} (h : ∀ hit ∈ hits, hit.moment ∈ moments → keep hit = true) :
    spent moments (hits.filter keep) = spent moments hits := by
  rw [spent, filter_filter, spent, filter_congr]
  intro hit hMem
  rw [Bool.and_eq_left_iff_imp, decide_eq_true_eq]
  exact h hit hMem

end Sums

lemma spent_mono [AddCommMonoid Cost] [PartialOrder Cost] [IsOrderedAddMonoid Cost] {moments others : Set Moment}
    {hits : List (Hit Moment Cost)} (hCosts : ∀ hit ∈ hits, 0 ≤ hit.cost)
    (h : ∀ hit ∈ hits, hit.moment ∈ moments → hit.moment ∈ others) : spent moments hits ≤ spent others hits := by
  induction hits with
  | nil => exact le_refl _
  | cons hit rest ih =>
    rw [forall_mem_cons] at hCosts h
    have hRest := ih hCosts.2 h.2
    by_cases hIn : hit.moment ∈ moments
    · rw [spent_cons_of_mem hIn, spent_cons_of_mem (h.1 hIn)]
      exact add_le_add_right hRest _
    rw [spent_cons_of_not_mem hIn]
    by_cases hOther : hit.moment ∈ others
    · rw [spent_cons_of_mem hOther]
      exact le_add_of_nonneg_of_le hCosts.1 hRest
    · rw [spent_cons_of_not_mem hOther]
      exact hRest

end Hit

end Sloppy.Lib
