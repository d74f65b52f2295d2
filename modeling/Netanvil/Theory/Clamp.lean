/-
# Keeping a value between two bounds

Clamping is only defined between bounds in order. Between bounds the other way round there
is no value to give, and `clamp` gives none. `clamp_le_iff` and `le_clamp_iff` compare what
it gives with anything else.
-/
import Mathlib.Tactic

namespace Netanvil.Theory

variable {α : Type*} [LinearOrder α] {lo hi x y z : α}

def clamp (lo hi x : α) : Option α :=
  if lo ≤ hi then some (if x < lo then lo else if hi < x then hi else x) else none

theorem clamp_isSome : (clamp lo hi x).isSome ↔ lo ≤ hi := by
  unfold clamp
  split <;> simp_all

theorem clamp_of_le (ordered : lo ≤ hi) : clamp lo hi x = some (max lo (min hi x)) := by
  rw [clamp, if_pos ordered]
  congr 1
  split
  · rename_i below
    exact (max_eq_left ((min_le_right hi x).trans below.le)).symm
  · rename_i above
    split
    · rename_i beyond
      rw [min_eq_left beyond.le, max_eq_right ordered]
    · rename_i within
      rw [min_eq_right (not_lt.mp within), max_eq_right (not_lt.mp above)]

theorem clamp_eq_some : clamp lo hi x = some y ↔ lo ≤ hi ∧ y = max lo (min hi x) := by
  constructor
  · intro given
    have ordered : lo ≤ hi := clamp_isSome.mp (Option.isSome_of_eq_some given)
    rw [clamp_of_le ordered] at given
    exact ⟨ordered, (Option.some.inj given).symm⟩
  · rintro ⟨ordered, rfl⟩
    exact clamp_of_le ordered

theorem clamp_le_iff (given : clamp lo hi x = some y) : y ≤ z ↔ lo ≤ z ∧ (hi ≤ z ∨ x ≤ z) := by
  obtain ⟨-, rfl⟩ := clamp_eq_some.mp given
  rw [max_le_iff, min_le_iff]

theorem le_clamp_iff (given : clamp lo hi x = some y) : z ≤ y ↔ z ≤ lo ∨ (z ≤ hi ∧ z ≤ x) := by
  obtain ⟨-, rfl⟩ := clamp_eq_some.mp given
  rw [le_max_iff, le_min_iff]

/-- Two values that are the same between two bounds. -/
theorem max_min_eq_iff : max (min x hi) lo = max (min y hi) lo ↔
    x = y ∨ hi ≤ lo ∨ (x ≤ lo ∧ y ≤ lo) ∨ (hi ≤ x ∧ hi ≤ y) := by
  grind

end Netanvil.Theory
