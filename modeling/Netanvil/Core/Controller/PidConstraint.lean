/-
# The setpoint constraint

A setpoint constraint drives a metric to its target: what the error asks for is added to the
logarithm of the rate. The integral is only touched once it is known which constraint decided and
what rate was selected (`postSelect`). Numbers are exact, so that a log-rate is never undefined.
What is only exported or logged is left out.
-/
import Netanvil.Core.Controller.PidMath
import Netanvil.Core.Controller.Threshold

namespace Netanvil.Core

open Netanvil.Types Theory Json

inductive MetricDirection where
  | higherIsWorse
  | lowerIsWorse
  deriving DecidableEq

/-- External metrics are taken to be worse when they are higher. -/
def MetricDirection.fromMetric : TargetMetric → MetricDirection
  | .throughputSend | .throughputRecv => .lowerIsWorse
  | _ => .higherIsWorse

/-- What an evaluation leaves for `postSelect`. -/
structure EvalCache where
  error : ℚ
  desiredRate : ℚ
  kp : ℚ
  ki : ℚ
  kd : ℚ

structure PidConstraintConfig where
  id : String
  class_ : ConstraintClass
  metric : TargetMetric
  direction : MetricDirection
  target : ℚ
  kp : ℚ
  ki : ℚ
  kd : ℚ
  smoother : Smoother
  useScheduling : Bool
  trackingGain : ℚ

structure PidConstraint where
  id : String
  class_ : ConstraintClass
  metric : TargetMetric
  direction : MetricDirection
  smoother : Smoother
  target : ℚ
  kp : ℚ
  ki : ℚ
  kd : ℚ
  state : PidState
  useScheduling : Bool
  trackingGain : ℚ
  samplesSeen : Nat
  /-- The last error is one to take a difference from. -/
  derivativeValid : Bool
  evalCache : Option EvalCache
  /-- Its gains are still to be determined. -/
  awaitingExploration : Bool

/-- `PID_LOG_RATE_MAX`. -/
def pidLogRateMax : ℚ := 700

/-- `SATURATION_TOLERANCE`. -/
def saturationTolerance : ℚ := 101 / 100

/-- `MAX_INTEGRAL_LOG_CONTRIBUTION`. -/
def maxIntegralLogContribution : ℚ := 5

/-- `INTEGRAL_HARD_LIMIT`. -/
def integralHardLimit : ℚ := 1000

/-- A gain no larger than this is none. -/
def negligibleGain : ℚ := 1 / 1000000000000

namespace PidConstraint

def fromConfig (cfg : PidConstraintConfig) : PidConstraint where
  id := cfg.id
  class_ := cfg.class_
  metric := cfg.metric
  direction := cfg.direction
  smoother := cfg.smoother
  target := cfg.target
  kp := cfg.kp
  ki := cfg.ki
  kd := cfg.kd
  state := ⟨0, 0⟩
  useScheduling := cfg.useScheduling
  trackingGain := cfg.trackingGain
  samplesSeen := 0
  derivativeValid := false
  evalCache := none
  awaitingExploration := false

def new (id : String) (metric : TargetMetric) (target kp ki kd : ℚ) (smoother : Smoother)
    (useScheduling : Bool) : PidConstraint :=
  fromConfig {
    id := id
    class_ := .operatingPoint
    metric := metric
    direction := .fromMetric metric
    target := target
    kp := kp
    ki := ki
    kd := kd
    smoother := smoother
    useScheduling := useScheduling
    trackingGain := 1 / 2 }

/-- With gains that hold until the step experiment is over. -/
def autoTuning (id : String) (metric : TargetMetric) (target : ℚ) (smoother : Smoother) :
    PidConstraint :=
  { new id metric target conservativeGains.kp conservativeGains.ki conservativeGains.kd smoother
      true with
    awaitingExploration := true }

def resetIntegrator (c : PidConstraint) : PidConstraint :=
  { c with state := { c.state with integral := 0 }, derivativeValid := false }

def setTarget (c : PidConstraint) (target : ℚ) : PidConstraint :=
  resetIntegrator { c with target := target }

/-- The integral is scaled so that its contribution stays. -/
def setGains (c : PidConstraint) (kp ki kd : ℚ) : PidConstraint :=
  let integral :=
    if negligibleGain < |c.ki| ∧ negligibleGain < |ki| then c.state.integral * (c.ki / ki)
    else if |ki| ≤ negligibleGain then 0
    else c.state.integral
  { c with state := { c.state with integral := integral }, kp := kp, ki := ki, kd := kd }

def setTrackingGain (c : PidConstraint) (trackingGain : ℚ) : PidConstraint :=
  { c with trackingGain := trackingGain }

/-! ## Evaluation -/

/-- Gains in effect at an error. -/
structure Gains where
  kp : ℚ
  ki : ℚ
  kd : ℚ

/-- The multipliers of the region an error is in, if the gains are scheduled. -/
def multipliers (c : PidConstraint) (error : ℚ) : Option GainMultipliers :=
  if c.useScheduling then
    some (gainSchedule (if 1 / 1000000000 < |c.target| then error / c.target else error))
  else none

def effectiveGains (c : PidConstraint) (error : ℚ) : Gains :=
  match c.multipliers error with
  | some mult => ⟨c.kp * mult.kpScale, c.ki * mult.kiScale, c.kd * mult.kdScale⟩
  | none => ⟨c.kp, c.ki, c.kd⟩

/-- Only on the bad side of the target. -/
def computeSeverity (c : PidConstraint) (smoothed : ℚ) : ℚ :=
  if |c.target| < 1 / 1000000000 then 0
  else
    max
      (match c.direction with
        | .higherIsWorse => (smoothed - c.target) / c.target
        | .lowerIsWorse => (c.target - smoothed) / c.target)
      0

/-- The metric of a window, smoothed. -/
def smoothed (c : PidConstraint) (ctx : EvalContext) : ℚ :=
  (c.smoother.smooth (extractMetric c.metric ctx.summary)).2

/-- The smoother is fed before anything else; the count saturates. -/
def fed (c : PidConstraint) (ctx : EvalContext) : PidConstraint :=
  { c with
    smoother := (c.smoother.smooth (extractMetric c.metric ctx.summary)).1
    samplesSeen := min (c.samplesSeen + 1) (2 ^ 32 - 1) }

def error (c : PidConstraint) (ctx : EvalContext) : ℚ := c.target - c.smoothed ctx

/-- In the critical region the integral is dropped. -/
def relieve (c : PidConstraint) (error : ℚ) : PidConstraint :=
  if (c.multipliers error).any (·.resetIntegral) then c.resetIntegrator else c

def derivative (c : PidConstraint) (error : ℚ) : ℚ :=
  if c.derivativeValid then error - c.state.lastError else 0

def logRate (scale : LogScale ℚ) (c : PidConstraint) (gains : Gains) (currentRate error : ℚ) : ℚ :=
  scale.ln (max currentRate leastRate) + gains.kp * error + gains.ki * c.state.integral +
    gains.kd * c.derivative error

/-- The control law; a log-rate beyond the range resets the integrator. -/
def control (scale : LogScale ℚ) (c : PidConstraint) (gains : Gains) (currentRate error : ℚ) :
    ℚ × PidConstraint :=
  let uNew := c.logRate scale gains currentRate error
  if pidLogRateMax < uNew then
    let desiredRate := scale.exp pidLogRateMax
    (desiredRate, { c.resetIntegrator with
      evalCache := some ⟨error, desiredRate, gains.kp, gains.ki, gains.kd⟩ })
  else
    let desiredRate := scale.exp uNew
    (desiredRate, { c with
      derivativeValid := true
      evalCache := some ⟨error, desiredRate, gains.kp, gains.ki, gains.kd⟩ })

def evaluate (scale : LogScale ℚ) (c : PidConstraint) (ctx : EvalContext) :
    Option ConstraintOutput × PidConstraint :=
  if c.awaitingExploration then (none, c)
  else if (c.fed ctx).samplesSeen < (c.fed ctx).smoother.minSamples then (none, c.fed ctx)
  else
    let error := c.error ctx
    let (desiredRate, after) :=
      ((c.fed ctx).relieve error).control scale (c.effectiveGains error) ctx.currentRate error
    (some ⟨.desireRate desiredRate, c.computeSeverity (c.smoothed ctx)⟩, after)

/-! ## After the selection -/

/-- How large the integral may be with a gain. -/
def integralMax (ki : ℚ) : ℚ :=
  if negligibleGain < |ki| then min (maxIntegralLogContribution / |ki|) integralHardLimit
  else integralHardLimit

theorem integralMax_nonneg (ki : ℚ) : 0 ≤ integralMax ki := by
  unfold integralMax maxIntegralLogContribution integralHardLimit
  split
  · exact le_min (by positivity) (by norm_num)
  · norm_num

theorem integralMax_le (ki : ℚ) : integralMax ki ≤ 1000 := by
  unfold integralMax integralHardLimit
  split
  · exact min_le_right _ _
  · exact le_rfl

def clampIntegral (c : PidConstraint) (ki : ℚ) : PidConstraint :=
  { c with state := { c.state with integral := clampAbs (integralMax ki) c.state.integral } }

/-- The arbiter clamped the desired rate against the error. -/
def saturated (cache : EvalCache) (selectedRate : ℚ) : Bool :=
  (selectedRate * saturationTolerance < cache.desiredRate && 0 < cache.error) ||
    (cache.desiredRate * saturationTolerance < selectedRate && cache.error < 0)

def postSelect (scale : LogScale ℚ) (c : PidConstraint) (selectedRate currentRate : ℚ)
    (isBinding : Bool) : PidConstraint :=
  match c.evalCache with
  | none => c
  | some cache =>
    let state :=
      if isBinding then
        if saturated cache selectedRate then c.state
        else { c.state with integral := c.state.integral + cache.error }
      else
        pidBackCalculateLog scale c.state selectedRate currentRate cache.kp cache.ki cache.kd
          cache.error c.trackingGain
    let c := clampIntegral { c with state := state, evalCache := none } cache.ki
    { c with state := { c.state with lastError := cache.error } }

/-! ## The other calls -/

/-- The next error is not one to take a difference to. -/
def onRateOverride (c : PidConstraint) : PidConstraint :=
  { c with derivativeValid := false, evalCache := none }

/-- The gains of the first of the manager's metrics that is this constraint's. -/
def gainsFrom (c : PidConstraint) (manager : ExplorationManager) : ComputedGains :=
  match manager.metrics.findIdx? (·.metric = c.metric) with
  | none => conservativeGains
  | some idx =>
    match manager.phase with
    -- the index is one of the metrics
    | .complete => (manager.computeGainsFor idx).getD conservativeGains
    | _ => conservativeGains

def onExplorationComplete (c : PidConstraint) (manager : ExplorationManager) : PidConstraint :=
  if c.awaitingExploration then
    let gains := c.gainsFrom manager
    { c.setGains gains.kp gains.ki gains.kd with awaitingExploration := false }
  else c

def applyUpdate (c : PidConstraint) (action : String) (params : Json) :
    Except String Json × PidConstraint :=
  if action = "set_target" then
    match (params.get "target").bind asF64 with
    | none => (.error "set_target requires 'target': f64", c)
    | some target =>
      (.ok (.obj [("ok", .bool true), ("previous_target", .float c.target),
        ("new_target", .float target)]), c.setTarget target)
  else if action = "set_gains" then
    match (params.get "kp").bind asF64, (params.get "ki").bind asF64,
        (params.get "kd").bind asF64 with
    | none, _, _ => (.error "set_gains requires 'kp': f64", c)
    | some _, none, _ => (.error "set_gains requires 'ki': f64", c)
    | some _, some _, none => (.error "set_gains requires 'kd': f64", c)
    | some kp, some ki, some kd =>
      (.ok (.obj [("ok", .bool true), ("new_gains", .obj [("kp", .float kp), ("ki", .float ki),
        ("kd", .float kd)])]), c.setGains kp ki kd)
  else if action = "set_tracking_gain" then
    match (params.get "tracking_gain").bind asF64 with
    | none => (.error "set_tracking_gain requires 'tracking_gain': f64", c)
    | some trackingGain =>
      (.ok (.obj [("ok", .bool true), ("previous_tracking_gain", .float c.trackingGain),
        ("new_tracking_gain", .float trackingGain)]), c.setTrackingGain trackingGain)
  else if action = "reset_integrator" then
    (.ok (.obj [("ok", .bool true), ("action", .str "reset_integrator")]), c.resetIntegrator)
  else (.error ("unknown action '" ++ action ++ "'"), c)

/-- What the arbiter sees of it. -/
def constraint (scale : LogScale ℚ) : Constraint PidConstraint where
  evaluate := evaluate scale
  postSelect := postSelect scale
  id := id
  class_ := class_
  recoveryEstimateTicks _ := none
  applyUpdate := applyUpdate
  requiresExploration := awaitingExploration
  onExplorationComplete := onExplorationComplete
  onWarmupComplete c _ := c
  onRateOverride c _ := c.onRateOverride

/-- The calls that change a constraint. -/
inductive Call where
  | evaluate (ctx : EvalContext)
  | postSelect (selectedRate currentRate : ℚ) (isBinding : Bool)
  | applyUpdate (action : String) (params : Json)
  | onRateOverride
  | onExplorationComplete (manager : ExplorationManager)

def step (scale : LogScale ℚ) (c : PidConstraint) : Call → Option PidConstraint
  | .evaluate ctx => some (c.evaluate scale ctx).2
  | .postSelect selectedRate currentRate isBinding =>
    some (c.postSelect scale selectedRate currentRate isBinding)
  | .applyUpdate action params => some (c.applyUpdate action params).2
  | .onRateOverride => some c.onRateOverride
  | .onExplorationComplete manager => some (c.onExplorationComplete manager)

/-! ## What a call can do -/

/-- How a constraint is made. -/
inductive Fresh : PidConstraint → Prop
  | fromConfig (cfg : PidConstraintConfig) : Fresh (fromConfig cfg)
  | autoTuning (id : String) (metric : TargetMetric) (target : ℚ) (smoother : Smoother) :
      Fresh (autoTuning id metric target smoother)

/-- Of the constraint an evaluation only changes what it keeps of the metric and of itself; the
integral stays or is dropped. -/
theorem evaluate_frame (scale : LogScale ℚ) (c : PidConstraint) (ctx : EvalContext) :
    ∃ smoother samples valid cache integral,
      (c.evaluate scale ctx).2 = { c with
        smoother := smoother
        samplesSeen := samples
        derivativeValid := valid
        evalCache := cache
        state := { c.state with integral := integral } } ∧
      (smoother = c.smoother ∨ ∃ raw, smoother = (c.smoother.smooth raw).1) ∧
      (integral = c.state.integral ∨ integral = 0) ∧
      (c.awaitingExploration → cache = c.evalCache ∧ integral = c.state.integral) := by
  have smooths : ∃ raw, (c.fed ctx).smoother = (c.smoother.smooth raw).1 := ⟨_, rfl⟩
  unfold evaluate
  split
  · exact ⟨_, _, _, _, _, rfl, .inl rfl, .inl rfl, fun _ => ⟨rfl, rfl⟩⟩
  · rename_i tuned
    have untuned : ∀ {p : Prop}, c.awaitingExploration = true → p :=
      fun awaits => absurd awaits tuned
    split
    · exact ⟨_, _, _, _, _, rfl, .inr smooths, .inl rfl, untuned⟩
    · unfold relieve control
      dsimp only
      split
      · split <;> exact ⟨_, _, _, _, _, rfl, .inr smooths, .inr rfl, untuned⟩
      · split
        · exact ⟨_, _, _, _, _, rfl, .inr smooths, .inr rfl, untuned⟩
        · exact ⟨_, _, _, _, _, rfl, .inr smooths, .inl rfl, untuned⟩

theorem postSelect_frame (scale : LogScale ℚ) (c : PidConstraint) (selectedRate currentRate : ℚ)
    (isBinding : Bool) :
    ∃ state, c.postSelect scale selectedRate currentRate isBinding =
      { c with state := state, evalCache := none } := by
  unfold postSelect
  cases cached : c.evalCache with
  | none =>
    refine ⟨c.state, ?_⟩
    cases c
    cases cached
    rfl
  | some cache => exact ⟨_, rfl⟩

/-- A constraint that answers is tuned and has seen enough; it asks for the rate of the control
law. -/
theorem evaluate_of_answer {scale : LogScale ℚ} {c : PidConstraint} {ctx : EvalContext}
    {output : ConstraintOutput} (answered : (c.evaluate scale ctx).1 = some output) :
    c.evaluate scale ctx =
      (some ⟨.desireRate (((c.fed ctx).relieve (c.error ctx)).control scale
          (c.effectiveGains (c.error ctx)) ctx.currentRate (c.error ctx)).1,
        c.computeSeverity (c.smoothed ctx)⟩,
      (((c.fed ctx).relieve (c.error ctx)).control scale (c.effectiveGains (c.error ctx))
        ctx.currentRate (c.error ctx)).2) := by
  unfold evaluate at answered ⊢
  split
  · rename_i awaits
    rw [if_pos awaits] at answered
    cases answered
  · rename_i tuned
    rw [if_neg tuned] at answered
    split
    · rename_i few
      rw [if_pos few] at answered
      cases answered
    · rfl

/-- The log-rate an evaluation arrives at. -/
def uNew (scale : LogScale ℚ) (c : PidConstraint) (ctx : EvalContext) : ℚ :=
  ((c.fed ctx).relieve (c.error ctx)).logRate scale (c.effectiveGains (c.error ctx)) ctx.currentRate
    (c.error ctx)

/-- An update that is not refused is one of four. -/
theorem applyUpdate_cases (c : PidConstraint) (action : String) (params : Json) :
    (c.applyUpdate action params).2 = c ∨
      (∃ target, (c.applyUpdate action params).2 = c.setTarget target) ∨
      (∃ kp ki kd, action = "set_gains" ∧ (params.get "ki").bind asF64 = some ki ∧
        (c.applyUpdate action params).2 = c.setGains kp ki kd) ∨
      (∃ trackingGain, (c.applyUpdate action params).2 = c.setTrackingGain trackingGain) ∨
      (c.applyUpdate action params).2 = c.resetIntegrator := by
  unfold applyUpdate
  split
  · split
    · exact .inl rfl
    · exact .inr (.inl ⟨_, rfl⟩)
  · split
    · rename_i sets
      split
      · exact .inl rfl
      · exact .inl rfl
      · exact .inl rfl
      · rename_i ki _ _ given _
        exact .inr (.inr (.inl ⟨_, _, _, sets, given, rfl⟩))
    · split
      · split
        · exact .inl rfl
        · exact .inr (.inr (.inr (.inl ⟨_, rfl⟩)))
      · split
        · exact .inr (.inr (.inr (.inr rfl)))
        · exact .inl rfl

end PidConstraint

end Netanvil.Core
