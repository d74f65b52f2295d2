/-
# How the request rate is controlled, as configured

The types of `RateConfig` and what it is made of, and their defaults. `f64` is an exact rational,
a duration is in nanoseconds, `usize` is a natural number.
-/
import Mathlib.Data.Rat.Defs

namespace Netanvil.Config

/-! ## Metrics -/

inductive SignalDirection where
  | higherIsWorse
  | lowerIsWorse
  deriving DecidableEq

inductive MissingSignalBehavior where
  | ignore
  | hold
  | backoff
  deriving DecidableEq

inductive InternalMetric where
  | latencyP50
  | latencyP90
  | latencyP99
  | errorRate
  | throughputSend
  | throughputRecv
  | timeoutFraction
  | inFlightDropFraction
  deriving DecidableEq

structure ExternalMetricRef where
  name : String
  direction : SignalDirection
  staleAfterTicks : UInt32
  onMissing : MissingSignalBehavior
  deriving DecidableEq

inductive MetricRef where
  | internal (metric : InternalMetric)
  | external (metric : ExternalMetricRef)
  deriving DecidableEq

/-! ## Constraints -/

inductive SmootherConfig where
  | none
  | ema (alpha : ℚ)
  | median (size : Nat)
  deriving DecidableEq

inductive ConstraintClassConfig where
  | operatingPoint
  | catastrophic
  deriving DecidableEq

structure BackoffConfig where
  gentle : ℚ
  moderate : ℚ
  hard : ℚ
  deriving DecidableEq

structure BaselineMultiplier where
  multiplier : ℚ
  baselineFloorMs : ℚ
  deriving DecidableEq

inductive ThresholdSource where
  | absolute (threshold : ℚ)
  | fromBaseline (thresholdFromBaseline : BaselineMultiplier)
  deriving DecidableEq

structure ThresholdConstraintConfig where
  id : String
  metric : MetricRef
  smoother : Option SmootherConfig
  classOverride : Option ConstraintClassConfig
  thresholdSource : ThresholdSource
  persistence : UInt32
  selfCausedCap : Option ℚ
  backoff : Option BackoffConfig
  deriving DecidableEq

inductive GainsConfig where
  | auto (autotuneDuration : Nat) (smoothing : ℚ)
  | manual (kp ki kd : ℚ)
  deriving DecidableEq

structure SetpointConstraintConfig where
  id : String
  metric : MetricRef
  smoother : Option SmootherConfig
  target : ℚ
  gains : GainsConfig
  trackingGain : ℚ
  deriving DecidableEq

inductive ConstraintConfig where
  | threshold (config : ThresholdConstraintConfig)
  | setpoint (config : SetpointConstraintConfig)
  deriving DecidableEq

/-! ## Policies -/

structure BoundsConfig where
  minRps : ℚ
  maxRps : ℚ
  deriving DecidableEq

structure WarmupConfig where
  rps : ℚ
  duration : Nat
  deriving DecidableEq

structure CongestionAvoidanceConfig where
  triggerThreshold : ℚ
  additiveFraction : ℚ
  failureRateAlpha : ℚ
  deriving DecidableEq

inductive IncreasePolicyConfig where
  | multiplicative (factor : ℚ) (congestionAvoidance : Option CongestionAvoidanceConfig)
  | additive (increment : ℚ)
  deriving DecidableEq

structure CooldownPolicyConfig where
  minTicks : UInt32
  recoveryMultiplier : ℚ
  deriving DecidableEq

structure FloorPolicyConfig where
  fraction : ℚ
  window : Nat
  deriving DecidableEq

structure RateChangeLimitsConfig where
  maxIncreasePct : ℚ
  maxDecreasePct : ℚ
  deriving DecidableEq

structure AdaptiveConfig where
  bounds : BoundsConfig
  warmup : Option WarmupConfig
  initialRps : Option ℚ
  constraints : List ConstraintConfig
  increase : Option IncreasePolicyConfig
  cooldown : Option CooldownPolicyConfig
  floor : Option FloorPolicyConfig
  rateChangeLimits : Option RateChangeLimitsConfig
  deriving DecidableEq

inductive RateConfig where
  | static (rps : ℚ)
  | step (steps : List (Nat × ℚ))
  | adaptive (config : AdaptiveConfig)
  deriving DecidableEq

/-! ## Defaults -/

def defaultStaleTicks : UInt32 := 3
def defaultPersistence : UInt32 := 1
def defaultTrackingGain : ℚ := 1 / 2
/-- Three seconds. -/
def defaultAutotuneDuration : Nat := 3000000000
def defaultSmoothing : ℚ := 3 / 10
def defaultBaselineFloorMs : ℚ := 4
def defaultGentle : ℚ := 9 / 10
def defaultModerate : ℚ := 3 / 4
def defaultHard : ℚ := 1 / 2
def defaultCaTriggerThreshold : ℚ := 85 / 100
def defaultCaAdditiveFraction : ℚ := 1 / 100
def defaultCaFailureRateAlpha : ℚ := 3 / 10
def defaultIncreaseFactor : ℚ := 11 / 10
def defaultCooldownMinTicks : UInt32 := 2
def defaultCooldownMultiplier : ℚ := 3 / 2
def defaultFloorFraction : ℚ := 8 / 10
/-- A minute. -/
def defaultFloorWindow : Nat := 60000000000
def defaultMaxIncrease : ℚ := 2 / 10
def defaultMaxDecrease : ℚ := 1 / 2

def GainsConfig.default : GainsConfig := .auto defaultAutotuneDuration defaultSmoothing

end Netanvil.Config
