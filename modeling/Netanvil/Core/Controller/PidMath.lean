/-
# Gain scheduling and back-calculation

The gains of a PID controller may depend on how far the metric is from its target
(`gainSchedule`). A controller that does not decide keeps its integral close to what would have
given the rate that was selected (`pidBackCalculateLog`). Logarithm and exponential are a
parameter.
-/
import Netanvil.Core.Controller.StepExperiment
import Netanvil.Theory.LogScale

namespace Netanvil.Core

open Theory

structure GainMultipliers where
  kpScale : ℚ
  kiScale : ℚ
  kdScale : ℚ
  resetIntegral : Bool

/-- By the error in units of the target: far below it, approaching, tracking, above it, and far
above. -/
def gainSchedule (normalizedError : ℚ) : GainMultipliers :=
  if 4 / 10 < normalizedError then ⟨2, 5 / 10, 1, false⟩
  else if 1 / 10 < normalizedError then ⟨1, 8 / 10, 15 / 10, false⟩
  else if -(1 / 10) < normalizedError then ⟨7 / 10, 1, 1, false⟩
  else if -(3 / 10) < normalizedError then ⟨15 / 10, 3 / 10, 2, false⟩
  else ⟨3, 0, 25 / 10, true⟩

/-- The integral gain is never scaled up. -/
theorem kiScale_mem (normalizedError : ℚ) :
    0 ≤ (gainSchedule normalizedError).kiScale ∧ (gainSchedule normalizedError).kiScale ≤ 1 := by
  unfold gainSchedule
  split_ifs <;> norm_num

/-- What a controller keeps from tick to tick. -/
structure PidState where
  integral : ℚ
  lastError : ℚ

/-- Rates are taken to be at least this before a logarithm. -/
def leastRate : ℚ := 1 / 1000000000

/-- `f64::clamp` between a bound and its negative. -/
def clampAbs (bound x : ℚ) : ℚ := max (-bound) (min bound x)

theorem abs_clampAbs_le {bound : ℚ} (nonneg : 0 ≤ bound) (x : ℚ) : |clampAbs bound x| ≤ bound :=
  abs_le.mpr ⟨le_max_left _ _, max_le (by linarith) (min_le_left _ _)⟩

theorem clampAbs_eq_self {bound x : ℚ} (within : |x| ≤ bound) : clampAbs bound x = x := by
  obtain ⟨low, high⟩ := abs_le.mp within
  rw [clampAbs, min_eq_right high, max_eq_right low]

/-- The integral that would have given the selected rate, approached by the tracking gain. -/
def pidBackCalculateLog (scale : LogScale ℚ) (state : PidState)
    (selectedRate currentRate kp ki kd error trackingGain : ℚ) : PidState :=
  let derivative := error - state.lastError
  -- without integral action there is nothing to track
  if |ki| < 1 / 1000000000000 then { state with lastError := error }
  else
    let uSelected := scale.ln (max selectedRate leastRate)
    let uCurrent := scale.ln (max currentRate leastRate)
    let requiredIntegral := (uSelected - uCurrent - kp * error - kd * derivative) / ki
    let integral := state.integral + trackingGain * (requiredIntegral - state.integral)
    { integral := clampAbs 1000 integral, lastError := error }

end Netanvil.Core
