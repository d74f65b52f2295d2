/-
# What a setpoint constraint does to the rate

A setpoint adds a step to the logarithm of the rate: the rate it asks for is above the current one
exactly if the step goes up. A metric that was not measured reads as zero, and the step goes up
(`absent_measurement`). An external metric is taken to be worse when it is higher, whatever
direction is configured for it (`setpoint_direction`).
-/
import Netanvil.Core.Controller.Builder
import Netanvil.Metrics.Homomorphism

namespace Netanvil.Core.PidConstraint

open Netanvil.Types Theory Theory.Trace Arbiter
open Config (SignalDirection MetricRef ExternalMetricRef SetpointConstraintConfig)

variable {scale : LogScale ℚ} {c c' c₀ : PidConstraint} {ctx : EvalContext} {gains : Gains}
  {currentRate error value : ℚ}

/-! ## The step of the log-rate -/

/-- What the control law adds to the logarithm of the rate. -/
def logStep (c : PidConstraint) (gains : Gains) (error : ℚ) : ℚ :=
  gains.kp * error + gains.ki * c.state.integral + gains.kd * c.derivative error

section

variable (above : leastRate ≤ currentRate)
include above

theorem rate_control :
    (c.control scale gains currentRate error).1 =
      min (scale.exp (scale.ln currentRate + c.logStep gains error)) (scale.exp pidLogRateMax) := by
  have sum : c.logRate scale gains currentRate error =
      scale.ln currentRate + c.logStep gains error := by
    rw [logRate, logStep, max_eq_left above]
    ring
  unfold control
  dsimp only
  rw [sum]
  split
  · rename_i overflows
    rw [min_eq_right (scale.exp_strictMono.monotone overflows.le)]
  · rename_i fits
    rw [min_eq_left (scale.exp_strictMono.monotone (not_lt.mp fits))]

theorem positive_of_le : 0 < currentRate :=
  lt_of_lt_of_le (by norm_num [leastRate]) above

theorem rate_le_iff :
    (c.control scale gains currentRate error).1 ≤ currentRate ↔
      c.logStep gains error ≤ 0 ∨ scale.exp pidLogRateMax ≤ currentRate := by
  rw [rate_control above, min_le_iff, scale.exp_le_iff (positive_of_le above),
    add_le_iff_nonpos_right]

theorem le_rate_iff :
    currentRate ≤ (c.control scale gains currentRate error).1 ↔
      0 ≤ c.logStep gains error ∧ currentRate ≤ scale.exp pidLogRateMax := by
  rw [rate_control above, le_min_iff, scale.le_exp_ln_add_iff (positive_of_le above)]

end

/-- A constraint that is tuned and does not smooth answers every evaluation. -/
theorem evaluate_of_plain (tuned : c.awaitingExploration = false)
    (plain : c.smoother = .none value) :
    (c.evaluate scale ctx).1 =
      some ⟨.desireRate (((c.fed ctx).relieve (c.error ctx)).control scale
          (c.effectiveGains (c.error ctx)) ctx.currentRate (c.error ctx)).1,
        c.computeSeverity (c.smoothed ctx)⟩ := by
  have enough : ¬ (c.fed ctx).samplesSeen < (c.fed ctx).smoother.minSamples := by
    have one : (c.fed ctx).smoother.minSamples = 1 := by
      rw [fed, plain]
      rfl
    have counted : (c.fed ctx).samplesSeen = min (c.samplesSeen + 1) (2 ^ 32 - 1) := rfl
    omega
  unfold evaluate
  rw [if_neg (by simp [tuned]), if_neg enough]

theorem smoothed_of_plain (plain : c.smoother = .none value) :
    c.smoothed ctx = extractMetric c.metric ctx.summary := by
  rw [smoothed, plain]
  rfl

/-! ## A metric that was not measured -/

open Metrics in
/-- A window of any number of collectors in which no request completed without timing out; signals
may have been added to the summary. -/
def OnlyTimeouts (valueAtQuantile : Histogram → ℚ → Nat) (summary : MetricsSummary) : Prop :=
  ∃ (text : TextFunctions) (config : CollectorConfig) (starts : Nat → Nat)
      (calls : List (Collect.Call Nat Observation Nat)) (order : List MetricsSnapshot)
      (signals : List (String × ℚ)),
    order.Perm (emitted text config (fun core => .new (starts core)) calls) ∧
      (∀ result, Observation.result result ∈ Collect.covered calls → isTimeout result = true) ∧
      summary = { (order.foldl AggregateMetrics.merge .new).toSummary valueAtQuantile with
        externalSignals := signals }

/-- A summary that contains no measurement of a metric. -/
def Unmeasured (valueAtQuantile : Metrics.Histogram → ℚ → Nat) (summary : MetricsSummary) :
    TargetMetric → Prop
  | .external name => summary.externalSignals.lookup name = none
  | .latencyP50 | .latencyP90 | .latencyP99 => OnlyTimeouts valueAtQuantile summary
  | .errorRate | .throughputSend | .throughputRecv => False

/-- What was not measured reads as zero. -/
theorem extractMetric_of_unmeasured {valueAtQuantile : Metrics.Histogram → ℚ → Nat}
    (empty : ∀ q, valueAtQuantile 0 q = 0) {summary : MetricsSummary} {metric : TargetMetric}
    (unmeasured : Unmeasured valueAtQuantile summary metric) :
    extractMetric metric summary = 0 := by
  have latencies : OnlyTimeouts valueAtQuantile summary →
      summary.latencyP50Ns = 0 ∧ summary.latencyP90Ns = 0 ∧ summary.latencyP99Ns = 0 := by
    rintro ⟨text, config, starts, calls, order, signals, any, timeouts, rfl⟩
    have noLatency := Metrics.histogram_of_timeouts any timeouts
    simp only [Metrics.AggregateMetrics.toSummary, noLatency, empty, and_self]
  cases metric with
  | external name => simp only [extractMetric, show summary.externalSignals.lookup name = none from
      unmeasured, Option.getD_none]
  | latencyP50 | latencyP90 | latencyP99 => simp [extractMetric, latencies unmeasured]
  | errorRate | throughputSend | throughputRecv => exact unmeasured.elim

/-- What the calls of a manually tuned constraint without smoothing leave as it is. -/
structure Manual (c : PidConstraint) : Prop where
  unscheduled : c.useScheduling = false
  tuned : c.awaitingExploration = false
  plain : ∃ value, c.smoother = .none value

variable {config : SetpointConstraintConfig}
  {explorations : List MetricExploration} {ext : ExternalMetricRef}

theorem manual_step {call : Call} (manual : Manual c) (taken : c.step scale call = some c') :
    Manual c' := by
  cases call with
  | evaluate ctx =>
    cases taken
    obtain ⟨smoother, samples, valid, cache, integral, same, smooths, -, -⟩ :=
      c.evaluate_frame scale ctx
    rw [same]
    obtain ⟨value, plain⟩ := manual.plain
    refine { manual with plain := ?_ }
    rcases smooths with rfl | ⟨raw, rfl⟩
    · exact ⟨value, plain⟩
    · exact ⟨raw, by rw [plain]; rfl⟩
  | postSelect selectedRate currentRate isBinding =>
    cases taken
    obtain ⟨state, same⟩ := c.postSelect_frame scale selectedRate currentRate isBinding
    rw [same]
    exact { manual with }
  | applyUpdate action params =>
    cases taken
    rcases c.applyUpdate_cases action params with same | ⟨target, same⟩ |
      ⟨kp, ki, kd, -, -, same⟩ | ⟨trackingGain, same⟩ | same
    all_goals
      rw [same]
      exact { manual with }
  | onRateOverride =>
    cases taken
    exact { manual with }
  | onExplorationComplete manager =>
    cases taken
    rw [onExplorationComplete, if_neg (by simp [manual.tuned])]
    exact manual

/-- **At a window without a measurement, a manually tuned constraint with no integral asks for no
more than the current rate exactly if the target itself does not push it up, or the rate is the
highest there is.** -/
theorem absent_measurement {valueAtQuantile : Metrics.Histogram → ℚ → Nat}
    (empty : ∀ q, valueAtQuantile 0 q = 0) {config : SetpointConstraintConfig}
    {explorations : List MetricExploration} {kp ki kd : ℚ} {calls : List Call}
    (built : buildSetpoint config = some (c₀, explorations))
    (manual : config.gains = .manual kp ki kd) (plain : config.smoother = some .none)
    (run : exec (step scale) c₀ calls = some c) (zero : c.state.integral = 0)
    (unmeasured : Unmeasured valueAtQuantile ctx.summary c.metric)
    (above : leastRate ≤ ctx.currentRate) :
    ∃ rate severity, (c.evaluate scale ctx).1 = some ⟨.desireRate rate, severity⟩ ∧
      (rate ≤ ctx.currentRate ↔
        c.kp * c.target + c.kd * c.derivative c.target ≤ 0 ∨
          scale.exp pidLogRateMax ≤ ctx.currentRate) := by
  have kept : Manual c := exec_invariant (I := fun _ c => Manual c) (by
      unfold buildSetpoint at built
      rw [manual, plain] at built
      cases target : mapMetricRefToTarget config.metric with
      | none =>
        rw [target] at built
        cases built
      | some metric =>
        rw [target] at built
        cases built
        exact ⟨rfl, rfl, 0, rfl⟩)
    (fun {_ _ _ _} manual taken => manual_step manual taken) run
  obtain ⟨value, unsmoothed⟩ := kept.plain
  refine ⟨_, _, evaluate_of_plain kept.tuned unsmoothed, ?_⟩
  have reads : c.error ctx = c.target := by
    rw [error, smoothed_of_plain unsmoothed, extractMetric_of_unmeasured empty unmeasured, sub_zero]
  have gains : ∀ error, c.multipliers error = none := fun error => by
    rw [multipliers, kept.unscheduled]
    rfl
  have relieved : (c.fed ctx).relieve (c.error ctx) = c.fed ctx := by
    have same : (c.fed ctx).multipliers (c.error ctx) = c.multipliers (c.error ctx) := rfl
    rw [relieve, same, gains]
    rfl
  have unscaled : c.effectiveGains (c.error ctx) = ⟨c.kp, c.ki, c.kd⟩ := by
    rw [effectiveGains, gains]
  have step : (c.fed ctx).logStep ⟨c.kp, c.ki, c.kd⟩ c.target =
      c.kp * c.target + c.kd * c.derivative c.target := by
    have integral : (c.fed ctx).state.integral = 0 := zero
    have derivative : (c.fed ctx).derivative c.target = c.derivative c.target := rfl
    rw [logStep, integral, derivative, mul_zero, add_zero]
  rw [rate_le_iff above, relieved, unscaled, reads, step]

/-- A setpoint of 100 with manual gains and no smoothing. -/
def setpoint100 (metric : MetricRef) (kp ki kd : ℚ) : SetpointConstraintConfig where
  id := "setpoint"
  metric := metric
  smoother := some .none
  target := 100
  gains := .manual kp ki kd
  trackingGain := 1 / 2

def queueRef (direction : SignalDirection) : MetricRef := .external ⟨"queue", direction, 3, .ignore⟩

def atRate (rate : ℚ) (summary : MetricsSummary) : EvalContext := ⟨summary, rate, 0, 1, 1000⟩

/-- Without a proportional gain the rate stays. -/
theorem absent_signal_keeps_rate : ∃ c,
    buildSetpoint (setpoint100 (queueRef .higherIsWorse) 0 1 1) = some (c, []) ∧
      Unmeasured (fun _ _ => 0) emptyWindow c.metric ∧
      ∀ scale : LogScale ℚ, ∃ rate severity,
        (c.evaluate scale (atRate 1 emptyWindow)).1 = some ⟨.desireRate rate, severity⟩ ∧
        rate ≤ 1 := by
  have built : buildSetpoint (setpoint100 (queueRef .higherIsWorse) 0 1 1) = some (_, []) := rfl
  refine ⟨_, built, rfl, fun scale => ?_⟩
  obtain ⟨rate, severity, answered, lowered⟩ := absent_measurement (fun _ => rfl) built rfl rfl
    (show exec (step scale) _ [] = _ from rfl) rfl
    (show Unmeasured (fun _ _ => 0) (atRate 1 emptyWindow).summary _ from rfl)
    (by decide +kernel)
  exact ⟨rate, severity, answered, lowered.mpr (.inl (by decide +kernel))⟩

open Metrics in
/-- One request, which timed out. -/
def oneTimeout : MetricsSummary :=
  ((emitted plainText plainConfig (fun _ : Nat => .new 0)
    [.give 0 (.result { okResult with error := some .timeout }), .take 0 1000000000]).foldl
      AggregateMetrics.merge .new).toSummary fun _ _ => 0

open Metrics in
theorem onlyTimeouts_oneTimeout : OnlyTimeouts (fun _ _ => 0) oneTimeout := by
  refine ⟨plainText, plainConfig, fun _ => 0,
    [.give 0 (.result { okResult with error := some .timeout }), .take 0 1000000000], _, _,
    .refl _, ?_, rfl⟩
  intro result mem
  obtain rfl : result = { okResult with error := some .timeout } := by
    simpa [Collect.covered, Collect.Call.takes] using mem
  rfl

/-- The answer of a constraint without smoothing is above the rate if its step goes up. -/
theorem raises_of_logStep (ctx : EvalContext) (value : ℚ)
    (tuned : c.awaitingExploration = false) (plain : c.smoother = .none value)
    (above : leastRate ≤ ctx.currentRate)
    (up : 0 < ((c.fed ctx).relieve (c.error ctx)).logStep (c.effectiveGains (c.error ctx))
      (c.error ctx)) (mild : c.computeSeverity (c.smoothed ctx) = 0)
    (room : ctx.currentRate < scale.exp pidLogRateMax) :
    ∃ rate, (c.evaluate scale ctx).1 = some ⟨.desireRate rate, 0⟩ ∧ ctx.currentRate < rate := by
  refine ⟨_, mild ▸ evaluate_of_plain tuned plain, lt_of_not_ge fun lower => ?_⟩
  rcases (rate_le_iff above).mp lower with down | high
  · exact down.not_gt up
  · exact high.not_gt room

theorem exists_scale : ∃ scale : LogScale ℚ, 100 < scale.exp pidLogRateMax :=
  ⟨.hyperbolic, by decide +kernel⟩

/-- Without the signal, or with a timeout only, a proportional gain raises the rate. -/
theorem absent_measurement_raises :
    (∃ scale : LogScale ℚ, 100 < scale.exp pidLogRateMax) ∧
    (∃ c, buildSetpoint (setpoint100 (queueRef .higherIsWorse) 1 0 0) = some (c, []) ∧
      Unmeasured (fun _ _ => 0) emptyWindow c.metric ∧
      ∀ scale : LogScale ℚ, 100 < scale.exp pidLogRateMax → ∃ rate,
        (c.evaluate scale (atRate 100 emptyWindow)).1 = some ⟨.desireRate rate, 0⟩ ∧
        100 < rate) ∧
    ∃ c, buildSetpoint (setpoint100 (.internal .latencyP99) 1 0 0) = some (c, []) ∧
      Unmeasured (fun _ _ => 0) oneTimeout c.metric ∧
      ∀ scale : LogScale ℚ, 100 < scale.exp pidLogRateMax → ∃ rate,
        (c.evaluate scale (atRate 100 oneTimeout)).1 = some ⟨.desireRate rate, 0⟩ ∧
        100 < rate := by
  refine ⟨exists_scale, ⟨_, rfl, rfl, fun scale room => ?_⟩, _, rfl, onlyTimeouts_oneTimeout,
    fun scale room => ?_⟩
  · exact raises_of_logStep (atRate 100 emptyWindow) 0 rfl rfl (by decide +kernel)
      (by decide +kernel) (by decide +kernel) room
  · exact raises_of_logStep (atRate 100 oneTimeout) 0 rfl rfl (by decide +kernel)
      (by decide +kernel) (by decide +kernel) room

/-! ## The direction of an external metric -/

def OnBadSide : SignalDirection → (target value : ℚ) → Prop
  | .higherIsWorse, target, value => target < value
  | .lowerIsWorse, target, value => value < target

def OnGoodSide : SignalDirection → (target value : ℚ) → Prop
  | .higherIsWorse, target, value => value < target
  | .lowerIsWorse, target, value => target < value

/-- What a direction asks for, of a value and the answer to it. -/
structure FollowsDirection (direction : SignalDirection)
    (target value currentRate rate severity : ℚ) : Prop where
  bad : OnBadSide direction target value → rate ≤ currentRate ∧ 0 < severity
  good : OnGoodSide direction target value → currentRate ≤ rate ∧ severity = 0

/-- A setpoint on an external metric before its first evaluation. -/
structure Initial (config : SetpointConstraintConfig) (ext : ExternalMetricRef)
    (c : PidConstraint) : Prop where
  metric : c.metric = .external ext.name
  target : c.target = config.target
  direction : c.direction = .higherIsWorse
  integral : c.state.integral = 0
  derivative : c.derivativeValid = false
  tuned : c.awaitingExploration = false
  plain : ∃ value, c.smoother = .none value

theorem initial_of_build (built : buildSetpoint config = some (c, explorations))
    (external : config.metric = .external ext) (plain : config.smoother = some .none)
    (manager : ExplorationManager) : Initial config ext (c.onExplorationComplete manager) := by
  unfold buildSetpoint at built
  rw [external, plain] at built
  cases gains : config.gains with
  | manual kp ki kd | auto autotuneDuration smoothing =>
    rw [gains] at built
    cases built
    refine ⟨rfl, rfl, rfl, ?_, rfl, rfl, 0, rfl⟩
    -- new gains make no integral of none
    unfold onExplorationComplete setGains
    dsimp only
    split_ifs <;> first | rfl | exact zero_mul _

theorem kp_effectiveGains_pos (positive : 0 < c.kp) (error : ℚ) :
    0 < (c.effectiveGains error).kp := by
  unfold effectiveGains multipliers
  cases c.useScheduling with
  | false => exact positive
  | true => exact mul_pos positive (by unfold gainSchedule; split_ifs <;> norm_num)

/-- On the first evaluation only the error itself counts. -/
theorem logStep_of_initial (initial : Initial config ext c) (gains : Gains) (error : ℚ) :
    ((c.fed ctx).relieve error).logStep gains error = gains.kp * error := by
  have integral : ((c.fed ctx).relieve error).state.integral = 0 := by
    unfold relieve
    split
    · rfl
    · exact initial.integral
  have derivative : ((c.fed ctx).relieve error).derivativeValid = false := by
    unfold relieve
    split
    · rfl
    · exact initial.derivative
  rw [logStep, PidConstraint.derivative, integral, derivative]
  simp

theorem severity_pos_iff (direction : c.direction = .higherIsWorse)
    (target : 1 / 1000000000 ≤ c.target) (value : ℚ) :
    0 < c.computeSeverity value ↔ c.target < value := by
  have positive : 0 < c.target := lt_of_lt_of_le (by norm_num) target
  rw [computeSeverity, if_neg (not_lt.mpr (target.trans (le_abs_self _))), direction, lt_max_iff]
  simp only [lt_self_iff_false, or_false, div_pos_iff_of_pos_right positive, sub_pos]

theorem severity_nonneg (c : PidConstraint) (value : ℚ) : 0 ≤ c.computeSeverity value := by
  unfold computeSeverity
  split
  · exact le_rfl
  · exact le_max_right _ _

/-- **On the first evaluation of a setpoint on an external metric, the answer follows the configured
direction exactly if higher is configured to be worse, or the signal is at the target.** -/
theorem setpoint_direction {config : SetpointConstraintConfig} {ext : ExternalMetricRef}
    {explorations : List MetricExploration} {manager : ExplorationManager} {value : ℚ}
    (built : buildSetpoint config = some (c₀, explorations))
    (external : config.metric = .external ext) (plain : config.smoother = some .none)
    (first : c = c₀.onExplorationComplete manager) (proportional : 0 < c.kp)
    (target : 1 / 1000000000 ≤ config.target)
    (given : ctx.summary.externalSignals.lookup ext.name = some value)
    (above : leastRate ≤ ctx.currentRate) (below : ctx.currentRate ≤ scale.exp pidLogRateMax) :
    ∃ rate severity, (c.evaluate scale ctx).1 = some ⟨.desireRate rate, severity⟩ ∧
      (FollowsDirection ext.direction config.target value ctx.currentRate rate severity ↔
        ext.direction = .higherIsWorse ∨ value = config.target) := by
  have initial : Initial config ext c := first ▸ initial_of_build built external plain manager
  obtain ⟨kept, unsmoothed⟩ := initial.plain
  refine ⟨_, _, evaluate_of_plain initial.tuned unsmoothed, ?_⟩
  have reads : c.smoothed ctx = value := by
    rw [smoothed_of_plain unsmoothed, initial.metric, extractMetric, given, Option.getD_some]
  have error : c.error ctx = config.target - value := by rw [error, reads, initial.target]
  have severe := severity_pos_iff initial.direction (initial.target ▸ target) value
  have mild := c.severity_nonneg value
  have gain := kp_effectiveGains_pos proportional (config.target - value)
  rw [initial.target] at severe
  rw [reads, error]
  constructor
  · intro follows
    refine or_iff_not_imp_left.mpr fun lower => ?_
    have direction : ext.direction = .lowerIsWorse := by
      cases is : ext.direction with
      | higherIsWorse => exact absurd is lower
      | lowerIsWorse => rfl
    rw [direction] at follows
    rcases lt_trichotomy value config.target with less | same | more
    · exact absurd (severe.mp (follows.bad less).2) less.not_gt
    · exact same
    · exact absurd (follows.good more).2 (severe.mpr more).ne'
  · rintro (higher | rfl)
    · rw [higher]
      constructor
      · intro more
        refine ⟨(rate_le_iff above).mpr (.inl ?_), severe.mpr more⟩
        rw [logStep_of_initial initial]
        exact mul_nonpos_of_nonneg_of_nonpos gain.le (sub_nonpos.mpr (le_of_lt more))
      · intro less
        refine ⟨(le_rate_iff above).mpr ⟨?_, below⟩, le_antisymm ?_ mild⟩
        · rw [logStep_of_initial initial]
          exact mul_nonneg gain.le (sub_nonneg.mpr (le_of_lt less))
        · exact not_lt.mp fun severer => absurd (severe.mp severer) (lt_asymm less)
    · constructor <;> intro side <;> cases is : ext.direction <;> rw [is] at side <;>
        exact absurd side (lt_irrefl _)

/-- A window with a signal, at a rate of 100. -/
def queueAt (value : ℚ) : EvalContext := atRate 100 { emptyWindow with
  externalSignals := [("queue", value)] }

/-- An experiment that nothing was measured in. -/
def noExperiment : ExplorationManager := .new [] 100 0 1000000000

/-- A queue of 150 is too long, and the rate is lowered. -/
theorem long_queue_lowers_rate : (∃ scale : LogScale ℚ, 100 < scale.exp pidLogRateMax) ∧ ∃ c,
    buildSetpoint (setpoint100 (queueRef .higherIsWorse) 1 0 0) = some (c, []) ∧
      ∀ scale : LogScale ℚ, 100 < scale.exp pidLogRateMax → ∃ rate severity,
        (c.evaluate scale (queueAt 150)).1 = some ⟨.desireRate rate, severity⟩ ∧
        FollowsDirection .higherIsWorse 100 150 100 rate severity := by
  have built : buildSetpoint (setpoint100 (queueRef .higherIsWorse) 1 0 0) = some (_, []) := rfl
  refine ⟨exists_scale, _, built, fun scale below => ?_⟩
  have given : (queueAt 150).summary.externalSignals.lookup "queue" = some 150 := rfl
  obtain ⟨rate, severity, answered, follows⟩ := setpoint_direction built rfl rfl
    (show _ = onExplorationComplete _ noExperiment from rfl) (by decide +kernel)
    (by decide +kernel) given (by decide +kernel) below.le
  exact ⟨rate, severity, answered, follows.mpr (.inl rfl)⟩

/-- Of free descriptors, say, 50 is too few where 100 is the target; the rate is raised, with no
severity. -/
theorem low_signal_raises_rate : (∃ scale : LogScale ℚ, 100 < scale.exp pidLogRateMax) ∧ ∃ c,
    buildSetpoint (setpoint100 (queueRef .lowerIsWorse) 1 0 0) = some (c, []) ∧
      OnBadSide .lowerIsWorse 100 50 ∧
      ∀ scale : LogScale ℚ, 100 < scale.exp pidLogRateMax → ∃ rate,
        (c.evaluate scale (queueAt 50)).1 = some ⟨.desireRate rate, 0⟩ ∧ 100 < rate ∧
        ¬ FollowsDirection .lowerIsWorse 100 50 100 rate 0 := by
  have bad : OnBadSide .lowerIsWorse 100 50 := show (50 : ℚ) < 100 by norm_num
  refine ⟨exists_scale, _, rfl, bad, fun scale room => ?_⟩
  refine (raises_of_logStep (queueAt 50) 0 ?_ ?_ (by decide +kernel) ?_ ?_ room).imp
    fun rate raised => ⟨raised.1, raised.2, fun follows => lt_irrefl _ (follows.bad bad).2⟩
  · rfl
  · rfl
  · decide +kernel
  · decide +kernel

end Netanvil.Core.PidConstraint
