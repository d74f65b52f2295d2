/-
# Back-calculation against the forward path

A constraint that does not decide moves its integral towards the one that would have given the
selected rate. If the selected rate is the one it asked for, that should be the integral it has.
The two paths agree in everything but the derivative: the forward path takes none while there is no
error to take a difference from, and the back-calculation takes the difference in any case.
-/
import Netanvil.Core.Controller.Persistence
import Netanvil.Core.Controller.PidConstraint

namespace Netanvil.Core

open Netanvil.Types Theory

/-- What the back-calculation makes of the integral, before it is clamped. -/
def backCalculated (scale : LogScale ℚ) (state : PidState)
    (selectedRate currentRate kp ki kd error trackingGain : ℚ) : ℚ :=
  if |ki| < negligibleGain then state.integral
  else
    state.integral + trackingGain *
      ((scale.ln (max selectedRate leastRate) - scale.ln (max currentRate leastRate) - kp * error -
        kd * (error - state.lastError)) / ki - state.integral)

theorem integral_pidBackCalculateLog (scale : LogScale ℚ) (state : PidState)
    {selectedRate currentRate kp ki kd error trackingGain : ℚ}
    (within : |backCalculated scale state selectedRate currentRate kp ki kd error trackingGain| ≤
      1000) :
    (pidBackCalculateLog scale state selectedRate currentRate kp ki kd error
        trackingGain).integral =
      backCalculated scale state selectedRate currentRate kp ki kd error trackingGain := by
  unfold backCalculated at within ⊢
  unfold pidBackCalculateLog
  by_cases negligible : |ki| < 1 / 1000000000000
  · rw [if_pos negligible, negligibleGain, if_pos negligible]
  · rw [negligibleGain, if_neg negligible] at within ⊢
    rw [if_neg negligible]
    exact clampAbs_eq_self within

/-- From the rate of a forward path with some derivative, the integral is off by what the other
derivative would have added. -/
theorem backCalculated_of_forward (scale : LogScale ℚ) (state : PidState)
    {selectedRate currentRate kp ki kd error trackingGain derivative : ℚ}
    (forward : selectedRate = scale.exp (scale.ln (max currentRate leastRate) + kp * error +
      ki * state.integral + kd * derivative))
    (above : leastRate ≤ selectedRate) (counts : ¬ |ki| < negligibleGain) :
    backCalculated scale state selectedRate currentRate kp ki kd error trackingGain =
      state.integral - trackingGain * (kd * (error - state.lastError - derivative)) / ki := by
  have nonzero : ki ≠ 0 := by
    rintro rfl
    exact counts (by norm_num [negligibleGain])
  rw [backCalculated, if_neg counts, max_eq_left above, forward, scale.ln_exp]
  field_simp
  ring

namespace PidConstraint

variable {scale : LogScale ℚ} {c : PidConstraint} {ctx : EvalContext}

/-! ## The two derivatives -/

@[simp] theorem trackingGain_relieve (c : PidConstraint) (error : ℚ) :
    (c.relieve error).trackingGain = c.trackingGain := by
  unfold relieve
  split <;> rfl

theorem kd_effectiveGains_eq_zero_iff (c : PidConstraint) (error : ℚ) :
    (c.effectiveGains error).kd = 0 ↔ c.kd = 0 := by
  unfold effectiveGains multipliers
  cases c.useScheduling with
  | false => exact Iff.rfl
  | true =>
    simp only [if_true, mul_eq_zero, or_iff_left_iff_imp]
    refine fun zero => absurd zero (ne_of_gt ?_)
    unfold gainSchedule
    split_ifs <;> norm_num

/-- The back-calculation takes the derivative of the forward path, or it does not count. -/
def TakesSameDerivative (c : PidConstraint) (ctx : EvalContext) : Prop :=
  c.trackingGain = 0 ∨ |(c.effectiveGains (c.error ctx)).ki| < negligibleGain ∨ c.kd = 0 ∨
    c.derivativeValid ∨ c.error ctx = c.state.lastError

theorem same_derivative_iff (c : PidConstraint) (error : ℚ) :
    error - c.state.lastError - c.derivative error = 0 ↔
      c.derivativeValid ∨ error = c.state.lastError := by
  unfold derivative
  cases c.derivativeValid with
  | true => simp
  | false => simp [sub_eq_zero]

/-! ## One evaluation and one selection -/

/-- Without an overflow an evaluation leaves the state of the controller to the selection. -/
theorem control_of_le {gains : Gains} {currentRate error : ℚ}
    (noOverflow : c.logRate scale gains currentRate error ≤ pidLogRateMax) :
    c.control scale gains currentRate error =
      (scale.exp (c.logRate scale gains currentRate error), { c with
        derivativeValid := true
        evalCache := some ⟨error, scale.exp (c.logRate scale gains currentRate error), gains.kp,
          gains.ki, gains.kd⟩ }) := by
  unfold control
  rw [if_neg (not_lt.mpr noOverflow)]

/-- A constraint that does not decide keeps what the back-calculation arrives at, if that is within
the clamps. -/
theorem integral_postSelect_unbound {cache : EvalCache} (cached : c.evalCache = some cache)
    {selectedRate currentRate : ℚ}
    (idle : |backCalculated scale c.state selectedRate currentRate cache.kp cache.ki cache.kd
      cache.error c.trackingGain| ≤ integralMax cache.ki) :
    (c.postSelect scale selectedRate currentRate false).state.integral =
      backCalculated scale c.state selectedRate currentRate cache.kp cache.ki cache.kd cache.error
        c.trackingGain := by
  have tracks := integral_pidBackCalculateLog scale c.state (idle.trans (integralMax_le _))
  unfold postSelect clampIntegral
  rw [cached]
  simp only [Bool.false_eq_true, if_false]
  rw [tracks]
  exact clampAbs_eq_self idle

/-- **A selection of the very rate a constraint asked for leaves its integral as it is exactly if
the two paths take the same derivative or the difference does not count.** -/
theorem bumpless_back_calculation {output : ConstraintOutput} {rate : ℚ}
    (answered : (c.evaluate scale ctx).1 = some output) (desires : output.intent = .desireRate rate)
    (noOverflow : c.uNew scale ctx ≤ pidLogRateMax) (above : leastRate ≤ rate)
    (idle : |backCalculated scale (c.evaluate scale ctx).2.state rate ctx.currentRate
        (c.effectiveGains (c.error ctx)).kp (c.effectiveGains (c.error ctx)).ki
        (c.effectiveGains (c.error ctx)).kd (c.error ctx) c.trackingGain| ≤
      integralMax (c.effectiveGains (c.error ctx)).ki) :
    ((c.evaluate scale ctx).2.postSelect scale rate ctx.currentRate false).state.integral =
        (c.evaluate scale ctx).2.state.integral ↔
      c.TakesSameDerivative ctx := by
  have evaluated := evaluate_of_answer answered
  rw [control_of_le noOverflow] at evaluated
  have asked : rate = scale.exp (c.uNew scale ctx) := by
    rw [evaluated] at answered
    cases answered
    cases desires
    rfl
  rw [evaluated] at idle ⊢
  rw [integral_postSelect_unbound rfl (by simpa [fed] using idle), trackingGain_relieve]
  by_cases negligible : |(c.effectiveGains (c.error ctx)).ki| < negligibleGain
  · rw [backCalculated, if_pos negligible]
    exact iff_of_true rfl (.inr (.inl negligible))
  · have nonzero : (c.effectiveGains (c.error ctx)).ki ≠ 0 := by
      intro zero
      rw [zero] at negligible
      exact negligible (by norm_num [negligibleGain])
    -- where the integral is dropped there is no integral gain either
    have kept : (c.fed ctx).relieve (c.error ctx) = c.fed ctx := by
      have same : (c.fed ctx).multipliers (c.error ctx) = c.multipliers (c.error ctx) := rfl
      unfold relieve
      unfold effectiveGains at nonzero
      rw [same]
      cases scheduled : c.multipliers (c.error ctx) with
      | none => rfl
      | some mult =>
        cases resets : mult.resetIntegral with
        | false => exact if_neg (by simp [resets])
        | true =>
          rw [scheduled] at nonzero
          unfold multipliers at scheduled
          split at scheduled
          · cases scheduled
            unfold gainSchedule at resets nonzero
            split_ifs at resets nonzero <;> exact absurd (mul_zero _) nonzero
          · cases scheduled
    rw [uNew, kept] at asked
    rw [kept, backCalculated_of_forward scale _ asked above negligible, sub_eq_self]
    simp only [div_eq_zero_iff, mul_eq_zero, nonzero, or_false, kd_effectiveGains_eq_zero_iff]
    rw [same_derivative_iff, TakesSameDerivative]
    simp only [negligible, false_or]
    rfl

/-- 100 ms at the 99th percentile, with an integral and a derivative gain. -/
def tracks100 : PidConstraint := new "latency" .latencyP99 100 0 1 1 .plain false

/-- After a first tick that it decided. -/
def tracks100Later : PidConstraint :=
  (tracks100.evaluate .hyperbolic (ThresholdConstraint.p99Window 98 0)).2.postSelect .hyperbolic 100
    100 true

open ThresholdConstraint in
/-- The second error is one to take a difference to. -/
theorem integral_kept_on_second_tick :
    (tracks100Later.evaluate .hyperbolic (p99Window 97 0)).1 = some ⟨.desireRate 103, 0⟩ ∧
      ((tracks100Later.evaluate .hyperbolic (p99Window 97 0)).2.postSelect .hyperbolic 103 100
          false).state.integral =
        (tracks100Later.evaluate .hyperbolic (p99Window 97 0)).2.state.integral := by
  have answered : (tracks100Later.evaluate .hyperbolic (p99Window 97 0)).1 =
      some ⟨.desireRate 103, 0⟩ := by decide +kernel
  refine ⟨answered, (bumpless_back_calculation answered rfl ?_ ?_ ?_).mpr ?_⟩
  · decide +kernel
  · decide +kernel
  · decide +kernel
  · exact .inr (.inr (.inr (.inl (by decide +kernel))))

open ThresholdConstraint in
/-- On the first tick the forward path takes no derivative: a rate of 100 is asked for at an error
of 4 and selected, and the integral moves by 2, well within the clamps. It is the same after a
change of the rate from outside. -/
theorem integral_moves_on_first_tick :
    (tracks100.evaluate .hyperbolic (p99Window 96 0)).1 = some ⟨.desireRate 100, 0⟩ ∧
      (tracks100.evaluate .hyperbolic (p99Window 96 0)).2.state.integral = 0 ∧
      ((tracks100.evaluate .hyperbolic (p99Window 96 0)).2.postSelect .hyperbolic 100 100
        false).state.integral = -2 ∧
      (tracks100Later.onRateOverride.evaluate .hyperbolic (p99Window 97 0)).1 =
        some ⟨.desireRate 102, 0⟩ ∧
      (tracks100Later.onRateOverride.evaluate .hyperbolic (p99Window 97 0)).2.state.integral = 2 ∧
      ((tracks100Later.onRateOverride.evaluate .hyperbolic (p99Window 97 0)).2.postSelect
        .hyperbolic 102 100 false).state.integral = 3 / 2 := by
  decide +kernel

end PidConstraint

end Netanvil.Core
