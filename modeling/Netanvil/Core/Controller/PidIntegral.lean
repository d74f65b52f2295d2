/-
# How much the integral may contribute

The integral is clamped after each selection so that with the gain of that tick it contributes at
most 5 to the log-rate. The next tick uses the gain of its own region, and that may be larger; and
a change of the gains may come in between.
-/
import Netanvil.Core.Controller.Persistence
import Netanvil.Core.Controller.PidConstraint

namespace Netanvil.Core

open Netanvil.Types Theory Theory.Trace

theorem abs_clampAbs_le_abs {bound : ℚ} (nonneg : 0 ≤ bound) (x : ℚ) :
    |clampAbs bound x| ≤ |x| := by
  unfold clampAbs
  rcases le_total x 0 with low | high
  · rw [min_eq_right (low.trans nonneg), abs_of_nonpos (max_le (by linarith) low),
      abs_of_nonpos low]
    exact neg_le_neg (le_max_right _ _)
  · rw [max_eq_right (le_min (by linarith) (by linarith)), abs_of_nonneg (le_min nonneg high),
      abs_of_nonneg high]
    exact min_le_right _ _

namespace PidConstraint

variable {scale : LogScale ℚ} {c c' init : PidConstraint} {ctx : EvalContext}

/-! ## The clamp -/

/-- A gain up to this contributes no more than 5 with any integral that was clamped. -/
def smallGain : ℚ := 1 / 200

theorem mul_integralMax_le {k ki : ℚ} (smaller : |k| ≤ max |ki| smallGain) :
    |k| * integralMax ki ≤ 5 := by
  have small : |k| ≤ smallGain → |k| * integralMax ki ≤ 5 := by
    intro small
    calc |k| * integralMax ki ≤ smallGain * 1000 :=
          mul_le_mul small (integralMax_le ki) (integralMax_nonneg ki) (by norm_num [smallGain])
      _ = 5 := by norm_num [smallGain]
  rcases le_max_iff.mp smaller with smaller | smaller
  · by_cases counts : negligibleGain < |ki|
    · have positive : 0 < |ki| := lt_trans (by norm_num [negligibleGain]) counts
      rw [integralMax, if_pos counts]
      calc |k| * min (maxIntegralLogContribution / |ki|) integralHardLimit
            ≤ |ki| * (maxIntegralLogContribution / |ki|) :=
              mul_le_mul smaller (min_le_left _ _)
                (le_min (by norm_num [maxIntegralLogContribution]; positivity)
                  (by norm_num [integralHardLimit])) positive.le
        _ = 5 := by rw [mul_div_cancel₀ _ positive.ne', maxIntegralLogContribution]
    · refine small (smaller.trans ((not_lt.mp counts).trans ?_))
      norm_num [negligibleGain, smallGain]
  · exact small smaller

/-! ## The bound -/

/-- The integral contributes no more than 5 with the configured gain; without one it is no more than
the hard limit; and there is none before the gains are known. -/
structure Bound (c : PidConstraint) : Prop where
  contribution : |c.ki| * |c.state.integral| ≤ 5
  hard : |c.ki| ≤ negligibleGain → |c.state.integral| ≤ 1000
  awaiting : c.awaitingExploration → c.evalCache = none ∧ c.state.integral = 0

theorem Bound.of_zero (zero : c.state.integral = 0)
    (cache : c.awaitingExploration → c.evalCache = none) : Bound c := by
  refine ⟨?_, fun _ => ?_, fun awaits => ⟨cache awaits, zero⟩⟩
  · rw [zero, abs_zero, mul_zero]
    norm_num
  · rw [zero, abs_zero]
    norm_num

theorem Bound.evaluate (bound : Bound c) (scale : LogScale ℚ) (ctx : EvalContext) :
    Bound (c.evaluate scale ctx).2 := by
  obtain ⟨smoother, samples, valid, cache, integral, same, -, kept, waits⟩ :=
    c.evaluate_frame scale ctx
  rw [same]
  rcases kept with rfl | rfl
  · refine ⟨bound.contribution, bound.hard, fun awaits => ?_⟩
    exact ⟨(waits awaits).1.trans (bound.awaiting awaits).1, (bound.awaiting awaits).2⟩
  · exact .of_zero rfl fun awaits => (waits awaits).1.trans (bound.awaiting awaits).1

/-- Told what was selected, a constraint clamps what it has accumulated or tracked. -/
theorem integral_postSelect {cache : EvalCache} (cached : c.evalCache = some cache)
    (scale : LogScale ℚ) (selectedRate currentRate : ℚ) (isBinding : Bool) :
    ∃ x, (c.postSelect scale selectedRate currentRate isBinding).state.integral =
        clampAbs (integralMax cache.ki) x ∧
      (isBinding → |x| ≤ |c.state.integral| + |cache.error|) := by
  unfold postSelect
  rw [cached]
  dsimp only
  cases isBinding with
  | false => exact ⟨_, rfl, fun binds => by cases binds⟩
  | true =>
    refine ⟨_, rfl, fun _ => ?_⟩
    simp only [if_true]
    split
    · exact le_add_of_nonneg_right (abs_nonneg _)
    · exact abs_add_le _ _

/-- The clamp after a selection is with a gain as large as the configured one, or one that small; or
the integral is that of a constraint that decided, and small itself. -/
def ClampsEnough (c : PidConstraint) (isBinding : Bool) : Prop :=
  ∀ cache ∈ c.evalCache, |c.ki| ≤ max |cache.ki| smallGain ∨
    isBinding ∧ |c.ki| * (|c.state.integral| + |cache.error|) ≤ 5

theorem Bound.postSelect (bound : Bound c) (selectedRate currentRate : ℚ) {isBinding : Bool}
    (clamps : c.ClampsEnough isBinding) :
    Bound (c.postSelect scale selectedRate currentRate isBinding) := by
  obtain ⟨state, frame⟩ := c.postSelect_frame scale selectedRate currentRate isBinding
  have sameKi : (c.postSelect scale selectedRate currentRate isBinding).ki = c.ki := by rw [frame]
  have awaits : (c.postSelect scale selectedRate currentRate isBinding).awaitingExploration =
      c.awaitingExploration := by rw [frame]
  cases cached : c.evalCache with
  | none =>
    have same : c.postSelect scale selectedRate currentRate isBinding = c := by
      simp only [PidConstraint.postSelect, cached]
    rwa [same]
  | some cache =>
    obtain ⟨x, integral, accumulated⟩ :=
      c.integral_postSelect cached scale selectedRate currentRate isBinding
    refine ⟨?_, fun _ => ?_, fun waits => ?_⟩
    · rw [sameKi, integral]
      rcases clamps cache cached with larger | ⟨binds, small⟩
      · exact (mul_le_mul_of_nonneg_left (abs_clampAbs_le (integralMax_nonneg _) x)
          (abs_nonneg _)).trans (mul_integralMax_le larger)
      · refine (mul_le_mul_of_nonneg_left ?_ (abs_nonneg _)).trans small
        exact (abs_clampAbs_le_abs (integralMax_nonneg _) x).trans (accumulated binds)
    · rw [integral]
      exact (abs_clampAbs_le (integralMax_nonneg _) x).trans (integralMax_le _)
    · rw [(bound.awaiting (awaits ▸ waits)).1] at cached
      cases cached

/-- New gains do not turn on an integral there was no gain for, unless it is none or they are that
small. -/
def RescalesEnough (c : PidConstraint) (ki : ℚ) : Prop :=
  negligibleGain < |c.ki| ∨ |ki| ≤ smallGain ∨ c.state.integral = 0

theorem Bound.setGains (bound : Bound c) {ki : ℚ} (rescales : c.RescalesEnough ki) (kp kd : ℚ) :
    Bound (c.setGains kp ki kd) := by
  unfold PidConstraint.setGains
  dsimp only
  split
  · rename_i both
    have nonzero : ki ≠ 0 := by
      rintro rfl
      rw [abs_zero] at both
      exact absurd both.2 (by norm_num [negligibleGain])
    refine ⟨?_, fun negligible => absurd both.2 (not_lt.mpr negligible), fun awaits => ?_⟩
    · -- the contribution is the same
      have same : ki * (c.state.integral * (c.ki / ki)) = c.ki * c.state.integral := by
        field_simp
      rw [← abs_mul, same, abs_mul]
      exact bound.contribution
    · obtain ⟨cache, zero⟩ := bound.awaiting awaits
      exact ⟨cache, by rw [zero, zero_mul]⟩
  · rename_i notBoth
    split
    · exact .of_zero rfl fun awaits => (bound.awaiting awaits).1
    · rename_i counts
      have old : |c.ki| ≤ negligibleGain := by
        by_contra large
        exact notBoth ⟨not_le.mp large, not_le.mp counts⟩
      refine ⟨?_, fun negligible => absurd negligible counts, bound.awaiting⟩
      rcases rescales with large | small | zero
      · exact absurd large (not_lt.mpr old)
      · calc |ki| * |c.state.integral| ≤ smallGain * 1000 :=
              mul_le_mul small (bound.hard old) (abs_nonneg _) (by norm_num [smallGain])
          _ = 5 := by norm_num [smallGain]
      · rw [zero, abs_zero, mul_zero]
        norm_num

/-! ## Every run -/

/-- The condition on a call, in the state it is made in. -/
def KeepsBound (c : PidConstraint) : Call → Prop
  | .postSelect _ _ isBinding => c.ClampsEnough isBinding
  | .applyUpdate action params => action = "set_gains" →
      ∀ ki, (params.get "ki").bind Json.asF64 = some ki → c.RescalesEnough ki
  | _ => True

theorem bound_step {call : Call} (bound : Bound c) (keeps : c.KeepsBound call)
    (taken : c.step scale call = some c') : Bound c' := by
  cases call with
  | evaluate ctx =>
    cases taken
    exact bound.evaluate scale ctx
  | postSelect selectedRate currentRate isBinding =>
    cases taken
    exact bound.postSelect selectedRate currentRate keeps
  | applyUpdate action params =>
    cases taken
    rcases c.applyUpdate_cases action params with same | ⟨target, same⟩ |
      ⟨kp, ki, kd, sets, given, same⟩ | ⟨trackingGain, same⟩ | same
    · rwa [same]
    · rw [same]
      exact .of_zero rfl fun awaits => (bound.awaiting awaits).1
    · rw [same]
      exact bound.setGains (keeps sets ki given) kp kd
    · rw [same]
      exact ⟨bound.contribution, bound.hard, bound.awaiting⟩
    · rw [same]
      exact .of_zero rfl fun awaits => (bound.awaiting awaits).1
  | onRateOverride =>
    cases taken
    exact ⟨bound.contribution, bound.hard, fun awaits => ⟨rfl, (bound.awaiting awaits).2⟩⟩
  | onExplorationComplete manager =>
    cases taken
    unfold onExplorationComplete
    split
    · rename_i awaits
      have rescales : c.RescalesEnough (c.gainsFrom manager).ki :=
        .inr (.inr (bound.awaiting awaits).2)
      have scaled := bound.setGains rescales (c.gainsFrom manager).kp (c.gainsFrom manager).kd
      exact ⟨scaled.contribution, scaled.hard, fun awaits => by cases awaits⟩
    · exact bound

/-- The integral term an evaluation adds to the log-rate. -/
def integralTerm (c : PidConstraint) (ctx : EvalContext) : ℚ :=
  (c.effectiveGains (c.error ctx)).ki * ((c.fed ctx).relieve (c.error ctx)).state.integral

theorem abs_ki_effectiveGains_le (c : PidConstraint) (error : ℚ) :
    |(c.effectiveGains error).ki| ≤ |c.ki| := by
  unfold effectiveGains multipliers
  split
  · rename_i mult scheduled
    split at scheduled
    · cases scheduled
      obtain ⟨nonneg, le_one⟩ := kiScale_mem
        (if 1 / 1000000000 < |c.target| then error / c.target else error)
      rw [abs_mul, abs_of_nonneg nonneg]
      exact mul_le_of_le_one_right (abs_nonneg _) le_one
    · cases scheduled
  · exact le_rfl

/-- **In every run in which each selection clamps with a gain that is large enough and no change of
the gains turns on an integral, the integral term of every evaluation is at most 5.** -/
theorem integral_contribution (fresh : Fresh init) {calls : List Call}
    (keeps : Allowed (step scale) KeepsBound init calls)
    (run : exec (step scale) init calls = some c) (ctx : EvalContext) :
    |c.integralTerm ctx| ≤ 5 := by
  have bound : Bound c := keeps.invariant
    (by cases fresh <;> exact .of_zero rfl fun _ => rfl)
    (fun {_ _ _} bound keeps taken => bound_step bound keeps taken) run
  rw [integralTerm, abs_mul]
  refine le_trans ?_ bound.contribution
  refine mul_le_mul (c.abs_ki_effectiveGains_le _) ?_ (abs_nonneg _) (abs_nonneg _)
  unfold relieve
  split
  · simp [resetIntegrator]
  · exact le_rfl

/-- 100 ms at the 99th percentile, with an integral gain only. -/
def holds100 (ki : ℚ) (useScheduling : Bool) : PidConstraint :=
  new "latency" .latencyP99 100 0 ki 0 .plain useScheduling

open ThresholdConstraint in
/-- Without scheduling the clamp is with the configured gain. -/
theorem contribution_after_selection : ∃ c,
    exec (step .hyperbolic) (holds100 (1 / 10) false)
        [.evaluate (p99Window 20 0), .postSelect 100 100 true] = some c ∧
      |c.integralTerm (p99Window 100 0)| ≤ 5 := by
  have keeps : Allowed (step .hyperbolic) KeepsBound (holds100 (1 / 10) false)
      [.evaluate (p99Window 20 0), .postSelect 100 100 true] := by
    refine .cons (by trivial) fun evaluated taken => ?_
    cases taken
    refine .cons (fun cache cached => ?_) fun _ _ => .nil
    have same : ∀ cache, ((holds100 (1 / 10) false).evaluate .hyperbolic
        (p99Window 20 0)).2.evalCache = some cache → cache.ki = 1 / 10 := by decide +kernel
    rw [same cache cached]
    exact .inl (le_max_of_le_left (by decide +kernel))
  exact ⟨_, rfl, integral_contribution (.fromConfig _) keeps rfl _⟩

def setGainsTo (kp ki kd : ℚ) : Call :=
  .applyUpdate "set_gains" (.obj [("kp", .float kp), ("ki", .float ki), ("kd", .float kd)])

open ThresholdConstraint in
/-- Above the target the integral is clamped with three tenths of the gain, and at the target all of
it is used. Without scheduling, an integral there was no gain for is used as it is when one is
set. -/
theorem contribution_beyond_bound :
    (∃ c, exec (step .hyperbolic) (holds100 1 true)
        [.evaluate (p99Window 120 0), .postSelect 100 100 true] = some c ∧
      c.integralTerm (p99Window 100 0) = -(50 / 3)) ∧
    (∃ c, exec (step .hyperbolic) (holds100 0 false)
        [.evaluate (p99Window 0 0), .postSelect 100 100 true, setGainsTo 0 1 0] = some c ∧
      c.integralTerm (p99Window 100 0) = 100) :=
  ⟨⟨_, rfl, by decide +kernel⟩, ⟨_, rfl, by decide +kernel⟩⟩

end PidConstraint

end Netanvil.Core
