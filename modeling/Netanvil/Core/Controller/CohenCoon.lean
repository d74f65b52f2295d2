/-
# The gains of a measured response

The gains are rational functions of the ratio of dead time to time constant, clamped between a
tenth and two. The denominator of the derivative time is zero at a ratio of 100/81. Above it the
derivative time is larger than the dead time, by more the closer the ratio is (`cohenCoon_sane`).
-/
import Netanvil.Core.Controller.StepExperiment

namespace Netanvil.Core

/-- The clamped ratio. -/
def deadTimeRatio (deadTimeTicks timeConstantTicks : Nat) : ℚ :=
  max (1 / 10) (min 2 ((deadTimeTicks : ℚ) / timeConstantTicks))

/-- The derivative time, if it is used. -/
def derivativeTime (deadTimeTicks r : ℚ) : ℚ :=
  if |1 - 81 / 100 * r| > 1 / 100 then deadTimeTicks * (37 / 100 - r) / (1 - 81 / 100 * r) else 0

section

variable {deadTime r : ℚ} {deadTimeTicks timeConstantTicks : Nat} {targetValue : ℚ}

theorem ratio_pos : 0 < deadTimeRatio deadTimeTicks timeConstantTicks :=
  lt_of_lt_of_le (by norm_num) (le_max_left _ _)

theorem ratio_le_iff (ticks : 1 ≤ timeConstantTicks) :
    deadTimeRatio deadTimeTicks timeConstantTicks ≤ 101 / 81 ↔
      81 * deadTimeTicks ≤ 101 * timeConstantTicks := by
  have positive : (0 : ℚ) < timeConstantTicks := by exact_mod_cast ticks
  have tenth : (1 / 10 : ℚ) ≤ 101 / 81 := by norm_num
  have two : ¬ (2 : ℚ) ≤ 101 / 81 := by norm_num
  rw [deadTimeRatio, max_le_iff, min_le_iff, and_iff_right tenth, or_iff_right two,
    div_le_div_iff₀ positive (by norm_num), mul_comm]
  exact_mod_cast Iff.rfl

/-- Beyond it numerator and denominator are both negative. -/
theorem lt_derivativeTime (positive : 0 < deadTime) (high : 101 / 81 < r) :
    deadTime < derivativeTime deadTime r := by
  have denom : 1 - 81 / 100 * r < 0 := by linarith
  have used : |1 - 81 / 100 * r| > 1 / 100 := lt_abs.mpr (.inr (by linarith))
  rw [derivativeTime, if_pos used, lt_div_iff_of_neg denom]
  exact mul_lt_mul_of_pos_left (by linarith) positive

theorem kp_pos : 0 < (computeCohenCoonGains targetValue deadTimeTicks timeConstantTicks).kp := by
  have ratio : 0 < deadTimeRatio deadTimeTicks timeConstantTicks := ratio_pos
  have error : 0 < max (targetValue * (5 / 10)) 1 := lt_of_lt_of_le zero_lt_one (le_max_right _ _)
  have factor : 0 < 1 + 5 / 10 / deadTimeRatio deadTimeTicks timeConstantTicks := by positivity
  exact mul_pos (div_pos (by norm_num) error) factor

/-- The integral time is never below the dead time. -/
theorem ki_le (ticks : 1 ≤ deadTimeTicks) :
    let gains := computeCohenCoonGains targetValue deadTimeTicks timeConstantTicks
    0 < gains.ki ∧ gains.ki ≤ gains.kp / deadTimeTicks := by
  intro gains
  have positive : (0 : ℚ) < deadTimeTicks := by exact_mod_cast ticks
  have divided : ∀ ti : ℚ, (deadTimeTicks : ℚ) ≤ ti →
      0 < gains.kp / ti ∧ gains.kp / ti ≤ gains.kp / deadTimeTicks := by
    intro ti long
    exact ⟨div_pos kp_pos (positive.trans_le long),
      div_le_div_of_nonneg_left kp_pos.le positive long⟩
  refine divided _ ?_
  split
  · exact le_max_right _ _
  · linarith

theorem kd_eq : (computeCohenCoonGains targetValue deadTimeTicks timeConstantTicks).kd =
    (computeCohenCoonGains targetValue deadTimeTicks timeConstantTicks).kp *
      max 0 (derivativeTime deadTimeTicks (deadTimeRatio deadTimeTicks timeConstantTicks)) := by
  show (if derivativeTime deadTimeTicks (deadTimeRatio deadTimeTicks timeConstantTicks) > 0 then
    (computeCohenCoonGains targetValue deadTimeTicks timeConstantTicks).kp *
      derivativeTime deadTimeTicks (deadTimeRatio deadTimeTicks timeConstantTicks) else 0) = _
  split
  · rename_i positive
    rw [max_eq_right positive.le]
  · rename_i negative
    rw [max_eq_left (not_lt.mp negative), mul_zero]

end

/-- Positive gains, of which the integral and derivative ones stay within what the dead time
allows. -/
structure ComputedGains.Sane (gains : ComputedGains) (deadTime : ℚ) : Prop where
  kp : 0 < gains.kp
  ki : 0 < gains.ki
  ki_le : gains.ki ≤ gains.kp / deadTime
  kd : 0 ≤ gains.kd
  kd_le : gains.kd ≤ gains.kp * deadTime

/-- **The gains are sane exactly if the ratio of dead time to time constant is not beyond the pole
of the derivative time.** -/
theorem cohenCoon_sane {targetValue : ℚ} {deadTimeTicks timeConstantTicks : Nat}
    (dead : 1 ≤ deadTimeTicks) (constant : 1 ≤ timeConstantTicks) :
    (computeCohenCoonGains targetValue deadTimeTicks timeConstantTicks).Sane deadTimeTicks ↔
      81 * deadTimeTicks ≤ 101 * timeConstantTicks := by
  have positive : (0 : ℚ) < deadTimeTicks := by exact_mod_cast dead
  have kp : 0 < (computeCohenCoonGains targetValue deadTimeTicks timeConstantTicks).kp := kp_pos
  rw [← ratio_le_iff constant]
  constructor
  · intro sane
    have bound := sane.kd_le
    rw [kd_eq, mul_le_mul_iff_right₀ kp, max_le_iff] at bound
    by_contra high
    exact absurd bound.2 (lt_derivativeTime positive (not_le.mp high)).not_ge
  · intro low
    refine ⟨kp, (ki_le dead).1, (ki_le dead).2, ?_, ?_⟩
    · rw [kd_eq]
      exact mul_nonneg kp.le (le_max_left _ _)
    · rw [kd_eq, mul_le_mul_iff_right₀ kp]
      refine max_le positive.le ?_
      have ratio : 0 < deadTimeRatio deadTimeTicks timeConstantTicks := ratio_pos
      unfold derivativeTime
      split
      · rename_i used
        have denom : 0 < 1 - 81 / 100 * deadTimeRatio deadTimeTicks timeConstantTicks := by
          rcases lt_abs.mp used with above | below
          · linarith
          · linarith
        rw [div_le_iff₀ denom]
        exact mul_le_mul_of_nonneg_left (by linarith) positive.le
      · exact positive.le

/-- A response that is slower than its dead time. -/
theorem slow_response_sane : (computeCohenCoonGains 100 4 8).Sane (4 : Nat) :=
  (cohenCoon_sane (by norm_num) (by norm_num)).mpr (by norm_num)

/-- A ratio of 5/4: the derivative gain is seventy times what the dead time allows. -/
theorem derivative_gain_at_pole :
    (computeCohenCoonGains 100 5 4).kd =
      352 / 5 * ((computeCohenCoonGains 100 5 4).kp * (5 : Nat)) ∧
      ¬ (computeCohenCoonGains 100 5 4).Sane (5 : Nat) := by
  have kd : (computeCohenCoonGains 100 5 4).kd =
      352 / 5 * ((computeCohenCoonGains 100 5 4).kp * (5 : Nat)) := by decide +kernel
  have positive : 0 < (computeCohenCoonGains 100 5 4).kp * (5 : Nat) := by decide +kernel
  refine ⟨kd, fun sane => ?_⟩
  have bound := sane.kd_le
  rw [kd] at bound
  generalize (computeCohenCoonGains 100 5 4).kp * (5 : Nat) = allowed at bound positive
  linarith

end Netanvil.Core
