/-
# Proportional shares

A total divided in proportion to positive weights. The shares of all add up to the
total, and the shares of some only do if those are all, or if there is nothing to
divide.
-/
import Mathlib.Algebra.Order.BigOperators.Group.List
import Mathlib.Algebra.BigOperators.Ring.List
import Mathlib.Algebra.Order.Field.Basic
import Mathlib.Tactic.Ring
import Mathlib.Tactic.Linarith

namespace Netanvil.Theory.Share

open List

variable {α K : Type*} [Field K]

/-- The share of `x` when `total` is divided among `xs` by weight. -/
def share (weight : α → K) (xs : List α) (total : K) (x : α) : K :=
  total * (weight x / (xs.map weight).sum)

theorem sum_share (weight : α → K) (xs ys : List α) (total : K) :
    (ys.map (share weight xs total)).sum = total * ((ys.map weight).sum / (xs.map weight).sum) := by
  induction ys with
  | nil => simp
  | cons y rest ih =>
    rw [map_cons, sum_cons, ih, share, map_cons, sum_cons]
    ring

variable [LinearOrder K] [IsStrictOrderedRing K] {weight : α → K} {xs : List α}

theorem sum_filter_eq_iff (positive : ∀ x ∈ xs, 0 < weight x) (kept : α → Bool) :
    ((xs.filter kept).map weight).sum = (xs.map weight).sum ↔ ∀ x ∈ xs, kept x := by
  induction xs with
  | nil => simp
  | cons x rest ih =>
    have positiveRest : ∀ y ∈ rest, 0 < weight y := fun y member => positive y (by simp [member])
    cases keptX : kept x with
    | true => simp [keptX, ih positiveRest]
    | false =>
      -- without `x` the sum is too small, whatever else is kept
      have bound : ((rest.filter kept).map weight).sum ≤ (rest.map weight).sum := by
        apply List.Sublist.sum_le_sum (filter_sublist.map weight)
        intro y member
        obtain ⟨z, inRest, rfl⟩ := mem_map.mp member
        exact (positiveRest z inRest).le
      have here := positive x (by simp)
      simp only [filter_cons, keptX, Bool.false_eq_true, if_false, map_cons,
        sum_cons, forall_mem_cons, false_and, iff_false]
      intro equal
      linarith

/-- The kept shares add up to the total only if every share is kept, or the total is 0. -/
theorem sum_share_filter_iff (positive : ∀ x ∈ xs, 0 < weight x) (nonempty : xs ≠ [])
    (kept : α → Bool) (total : K) :
    ((xs.filter kept).map (share weight xs total)).sum = total ↔
      (∀ x ∈ xs, kept x) ∨ total = 0 := by
  have whole : 0 < (xs.map weight).sum := by
    apply sum_pos
    · intro y member
      obtain ⟨z, inList, rfl⟩ := mem_map.mp member
      exact positive z inList
    · simpa using nonempty
  rw [sum_share, ← sum_filter_eq_iff positive kept]
  by_cases zero : total = 0
  · simp [zero]
  · rw [mul_eq_left₀ zero, div_eq_one_iff_eq whole.ne']
    simp [zero]

end Netanvil.Theory.Share
