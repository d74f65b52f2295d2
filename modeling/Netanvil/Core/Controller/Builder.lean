/-
# The arbiter of an adaptive configuration

`build_rate_controller` makes one constraint of each configured one, in their order; a setpoint with
automatic gains also has its metric explored. A boxed constraint is one of two kinds, so that a list
of them is a list over a sum. What makes the source panic gives nothing.
-/
import Netanvil.Core.Controller.PidConstraint
import Netanvil.Core.Controller.ThresholdBuilder

namespace Netanvil.Core

open Netanvil.Types Theory PidConstraint
open Config (MetricRef SmootherConfig GainsConfig SetpointConstraintConfig ConstraintConfig
  AdaptiveConfig)

/-- Constraints of two kinds. -/
def Constraint.sum {C D : Type} (left : Constraint C) (right : Constraint D) :
    Constraint (C ⊕ D) where
  evaluate
    | .inl c, ctx => ((left.evaluate c ctx).1, .inl (left.evaluate c ctx).2)
    | .inr c, ctx => ((right.evaluate c ctx).1, .inr (right.evaluate c ctx).2)
  postSelect
    | .inl c, selectedRate, currentRate, isBinding =>
      .inl (left.postSelect c selectedRate currentRate isBinding)
    | .inr c, selectedRate, currentRate, isBinding =>
      .inr (right.postSelect c selectedRate currentRate isBinding)
  id := Sum.elim left.id right.id
  class_ := Sum.elim left.class_ right.class_
  recoveryEstimateTicks := Sum.elim left.recoveryEstimateTicks right.recoveryEstimateTicks
  applyUpdate
    | .inl c, action, params =>
      ((left.applyUpdate c action params).1, .inl (left.applyUpdate c action params).2)
    | .inr c, action, params =>
      ((right.applyUpdate c action params).1, .inr (right.applyUpdate c action params).2)
  requiresExploration := Sum.elim left.requiresExploration right.requiresExploration
  onExplorationComplete
    | .inl c, manager => .inl (left.onExplorationComplete c manager)
    | .inr c, manager => .inr (right.onExplorationComplete c manager)
  onWarmupComplete
    | .inl c, baseline => .inl (left.onWarmupComplete c baseline)
    | .inr c, baseline => .inr (right.onWarmupComplete c baseline)
  onRateOverride
    | .inl c, newRate => .inl (left.onRateOverride c newRate)
    | .inr c, newRate => .inr (right.onRateOverride c newRate)

/-- `Box<dyn Constraint>`, as far as they are built. -/
abbrev AnyConstraint : Type := ThresholdConstraint ⊕ PidConstraint

/-- What the builder gives an arbiter: both kinds, and the default strategy. -/
def builtParts (scale : LogScale ℚ) : ArbiterParts AnyConstraint Unit :=
  ⟨ThresholdConstraint.constraint.sum (constraint scale), minSelector⟩

/-! ## Setpoints -/

/-- Setpoints on the last two are refused: the source panics. -/
def mapMetricRefToTarget : MetricRef → Option TargetMetric
  | .internal .latencyP50 => some .latencyP50
  | .internal .latencyP90 => some .latencyP90
  | .internal .latencyP99 => some .latencyP99
  | .internal .errorRate => some .errorRate
  | .internal .throughputSend => some .throughputSend
  | .internal .throughputRecv => some .throughputRecv
  | .internal .timeoutFraction | .internal .inFlightDropFraction => none
  | .external ext => some (.external ext.name)

def mapSmootherConfigForPid (metric : MetricRef) (gains : GainsConfig) :
    Option SmootherConfig → Smoother
  | some .none => .plain
  | some (.ema alpha) => .newEma alpha
  | some (.median size) => .newMedian size
  | none =>
    match gains with
    | .auto _ smoothing => .newEma smoothing
    | .manual _ _ _ => defaultSmootherForMetric metric

/-- `build_adaptive_constraint` on a setpoint; the second part is what it adds to the
explorations. -/
def buildSetpoint (config : SetpointConstraintConfig) :
    Option (PidConstraint × List MetricExploration) :=
  (mapMetricRefToTarget config.metric).map fun metric =>
    let smoother := mapSmootherConfigForPid config.metric config.gains config.smoother
    match config.gains with
    | .manual kp ki kd =>
      ((new config.id metric config.target kp ki kd smoother false).setTrackingGain
        config.trackingGain, [])
    | .auto _ smoothing =>
      let smoother := if config.smoother.isSome then smoother else .newEma smoothing
      ((autoTuning config.id metric config.target smoother).setTrackingGain
        config.trackingGain, [.new metric config.target])

/-! ## The arbiter -/

def buildAdaptiveConstraint (hasWarmup : Bool) :
    ConstraintConfig → Option (AnyConstraint × List MetricExploration)
  | .threshold config => (buildThreshold config hasWarmup).map fun c => (.inl c, [])
  | .setpoint config => (buildSetpoint config).map fun (c, explorations) => (.inr c, explorations)

/-- The constraints, and what is to be explored for them. -/
def buildConstraints (hasWarmup : Bool) :
    List ConstraintConfig → Option (List AnyConstraint × List MetricExploration)
  | [] => some ([], [])
  | config :: rest =>
    (buildAdaptiveConstraint hasWarmup config).bind fun (c, explorations) =>
      (buildConstraints hasWarmup rest).map fun (cs, more) => (c :: cs, explorations ++ more)

/-- The longest that any setpoint asks for. -/
def autotuneDuration (configs : List ConstraintConfig) : Nat :=
  let durations := configs.filterMap fun
    | .setpoint config =>
      match config.gains with
      | .auto autotuneDuration _ => some autotuneDuration
      | .manual _ _ _ => none
    | .threshold _ => none
  durations.max?.getD 3000000000

/-- The configured increment of an additive increase is not used. -/
def mapIncreasePolicy : Config.IncreasePolicyConfig → IncreasePolicyConfig
  | .multiplicative factor congestionAvoidance =>
    ⟨factor, congestionAvoidance.map fun ca =>
      ⟨ca.triggerThreshold, ca.additiveFraction, ca.failureRateAlpha⟩⟩
  | .additive _ => ⟨1, none⟩

def effectiveInitialRps (config : AdaptiveConfig) : ℚ :=
  config.initialRps.getD ((config.warmup.map (·.rps)).getD config.bounds.minRps)

/-- `build_rate_controller` on an adaptive configuration, up to `Arbiter::new`. -/
def buildArbiterConfig (config : AdaptiveConfig) (controlInterval testDuration : Nat) :
    Option (ArbiterConfig AnyConstraint Unit) :=
  (buildConstraints config.warmup.isSome config.constraints).map fun (constraints, explorations) =>
    let initialRps := effectiveInitialRps config
    let base := ArbiterConfig.new constraints initialRps config.bounds.minRps config.bounds.maxRps
      testDuration
    { base with
      warmup := config.warmup.map fun w => (w.rps, w.duration)
      explorationManager :=
        if explorations.isEmpty then none
        else
          some (.new explorations initialRps (autotuneDuration config.constraints) controlInterval)
      increase := (config.increase.map mapIncreasePolicy).getD base.increase
      cooldownMinTicks := (config.cooldown.map (·.minTicks.toNat)).getD base.cooldownMinTicks
      cooldownRecoveryMultiplier :=
        (config.cooldown.map (·.recoveryMultiplier)).getD base.cooldownRecoveryMultiplier
      knownGoodFloorFraction := (config.floor.map (·.fraction)).getD base.knownGoodFloorFraction
      knownGoodWindow := (config.floor.map (·.window)).getD base.knownGoodWindow
      rateChangeLimits :=
        (config.rateChangeLimits.map fun l => ⟨l.maxIncreasePct, l.maxDecreasePct⟩).getD
          base.rateChangeLimits }

end Netanvil.Core
