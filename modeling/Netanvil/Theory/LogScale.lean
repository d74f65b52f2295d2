/-
# A logarithm and its inverse

What is computed on a logarithmic scale is taken there by one function and back by another. All
that is asked of the two is that they are inverse and keep the order; `hyperbolic` is a pair over
any ordered field, so that the laws can be met by functions that compute.
-/
import Mathlib.Tactic

namespace Netanvil.Theory

structure LogScale (α : Type*) [Field α] [LinearOrder α] where
  ln : α → α
  exp : α → α
  exp_pos : ∀ u, 0 < exp u
  exp_strictMono : StrictMono exp
  exp_ln : ∀ {x}, 0 < x → exp (ln x) = x

namespace LogScale

variable {α : Type*} [Field α] [LinearOrder α] (s : LogScale α)

theorem ln_exp (u : α) : s.ln (s.exp u) = u :=
  s.exp_strictMono.injective (s.exp_ln (s.exp_pos u))

theorem exp_le_iff {u x : α} (positive : 0 < x) : s.exp u ≤ x ↔ u ≤ s.ln x := by
  rw [← s.exp_strictMono.le_iff_le (b := s.ln x), s.exp_ln positive]

theorem le_exp_iff {u x : α} (positive : 0 < x) : x ≤ s.exp u ↔ s.ln x ≤ u := by
  rw [← s.exp_strictMono.le_iff_le (a := s.ln x), s.exp_ln positive]

variable [IsStrictOrderedRing α]

/-- A step on the scale does not lower what it starts from exactly if it does not go down. -/
theorem le_exp_ln_add_iff {x d : α} (positive : 0 < x) : x ≤ s.exp (s.ln x + d) ↔ 0 ≤ d := by
  rw [s.le_exp_iff positive]
  exact le_add_iff_nonneg_right _

/-- Up along a line, down along its inverse. -/
def hyperbolic : LogScale α where
  ln x := if 1 ≤ x then x - 1 else 1 - 1 / x
  exp u := if 0 ≤ u then 1 + u else 1 / (1 - u)
  exp_pos u := by
    split
    · linarith
    · rename_i down
      exact one_div_pos.mpr (by linarith)
  exp_strictMono := by
    intro u v less
    dsimp only
    split
    · rw [if_pos (by linarith)]
      linarith
    · rename_i down
      have inverse : 1 / (1 - u) < 1 := by
        rw [div_lt_one (by linarith)]
        linarith
      split
      · linarith
      · exact one_div_lt_one_div_of_lt (by linarith) (by linarith)
  exp_ln := by
    intro x positive
    split
    · rename_i above
      rw [if_pos (by linarith)]
      ring
    · rename_i below
      have down : ¬ 0 ≤ 1 - 1 / x := by
        rw [not_le, sub_neg, lt_one_div zero_lt_one positive, div_one]
        exact not_le.mp below
      rw [if_neg down, sub_sub_cancel, one_div_one_div]

end LogScale

end Netanvil.Theory
