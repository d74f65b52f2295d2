/-
# The threshold constraint

A threshold constraint smooths one metric of the window and relates it to its threshold. The
severity, or the metric itself, is mapped to an action; a backoff is only let through once enough
violations have come in a row (`streak`), or if it is severe. When the rate has not been raised of
late and the severity is below a cap, the constraint at most holds the rate.
-/
import Netanvil.Core.Controller.Constraint
import Netanvil.Config.Rate

namespace Netanvil.Core

open Netanvil.Types
open Config (SignalDirection MissingSignalBehavior)

deriving instance DecidableEq for ConstraintIntent
deriving instance DecidableEq for ConstraintOutput

/-! ## Smoothing -/

inductive Smoother where
  | none (value : ℚ)
  | ema (alpha value : ℚ) (initialized : Bool)
  | median (window : List ℚ) (size : Nat) (cached : ℚ)

namespace Smoother

def plain : Smoother := .none 0

def newEma (alpha : ℚ) : Smoother := .ema (max 0 (min alpha 1)) 0 false

def newMedian (size : Nat) : Smoother := .median [] (max size 1) 0

/-- Feed a value; the smoothed one. -/
def smooth (raw : ℚ) : Smoother → Smoother × ℚ
  | .none _ => (.none raw, raw)
  | .ema alpha value initialized =>
    let value := if initialized then alpha * raw + (1 - alpha) * value else raw
    (.ema alpha value true, value)
  | .median window size _ =>
    let window := (window ++ [raw]).drop (window.length + 1 - size)
    let sorted := window.mergeSort (· ≤ ·)
    let cached := sorted.getD (sorted.length / 2) 0
    (.median window size cached, cached)

/-- How many values it takes for the smoothed one to mean something. -/
def minSamples : Smoother → Nat
  | .none _ => 1
  | .ema _ _ _ => 1
  | .median _ size _ => size

end Smoother

/-! ## The metric -/

inductive MetricExtractor where
  | timeoutFraction
  | inFlightDropFraction
  | latencyP99Ms
  | latencyP90Ms
  | latencyP50Ms
  | errorRatePct
  | external (signalName : String) (direction : SignalDirection)

/-- The value of the first signal of that name. -/
def signalValue (ctx : EvalContext) (name : String) : Option ℚ :=
  (ctx.summary.externalSignals.find? (·.1 = name)).map (·.2)

namespace MetricExtractor

/-- Nothing where the metric is not there: no requests, no rate, no signal. -/
def extract (ctx : EvalContext) : MetricExtractor → Option ℚ
  | .timeoutFraction =>
    if ctx.summary.totalRequests = 0 then none
    else some ((ctx.summary.timeoutCount : ℚ) / ctx.summary.totalRequests)
  | .inFlightDropFraction =>
    if ctx.currentRate ≤ 0 then none
    else
      let dropRate := (ctx.summary.inFlightDrops : ℚ) /
        max ((ctx.summary.windowDuration : ℚ) / 1000000000) (1 / 1000)
      some (dropRate / ctx.currentRate)
  | .latencyP99Ms => some ((ctx.summary.latencyP99Ns : ℚ) / 1000000)
  | .latencyP90Ms => some ((ctx.summary.latencyP90Ns : ℚ) / 1000000)
  | .latencyP50Ms => some ((ctx.summary.latencyP50Ns : ℚ) / 1000000)
  | .errorRatePct => some (ctx.summary.errorRate * 100)
  | .external signalName _ => signalValue ctx signalName

end MetricExtractor

/-! ## Actions -/

/-- In ascending order. -/
inductive ConstraintAction where
  | allowIncrease
  | hold
  | gentleBackoff
  | moderateBackoff
  | hardBackoff
  deriving DecidableEq

namespace ConstraintAction

def isBackoff : ConstraintAction → Bool
  | .gentleBackoff | .moderateBackoff | .hardBackoff => true
  | .allowIncrease | .hold => false

/-- `min` with `hold`. -/
def cappedAtHold : ConstraintAction → ConstraintAction
  | .allowIncrease => .allowIncrease
  | _ => .hold

def backoffFactor (gentle moderate hard : ℚ) : ConstraintAction → ℚ
  | .gentleBackoff => gentle
  | .moderateBackoff => moderate
  | .hardBackoff => hard
  | .allowIncrease | .hold => 1

end ConstraintAction

/-- Above it a violation need not persist. -/
def severityBypassPersistence : ℚ := 3

def graduatedAction (severity : ℚ) : ConstraintAction :=
  if severity < 7 / 10 then .allowIncrease
  else if severity < 1 then .hold
  else if severity < 3 / 2 then .gentleBackoff
  else if severity < 2 then .moderateBackoff
  else .hardBackoff

/-- A violation counts; only a severity below 0.7 starts anew. -/
def updateStreak (streak : UInt32) (severity : ℚ) : UInt32 :=
  if 1 ≤ severity then streak + 1 else if severity < 7 / 10 then 0 else streak

def applyPersistence (action : ConstraintAction) (streak persistence : UInt32) (severity : ℚ) :
    ConstraintAction :=
  if !action.isBackoff then action
  else if persistence ≤ streak ∨ severityBypassPersistence < severity then action
  else .hold

inductive SeverityMapping where
  | graduated
  | timeoutDirect (maxErrorRatePct : ℚ)
  | inFlightDirect
  | errorRateDirect (maxErrorRatePct : ℚ)

namespace SeverityMapping

def mapToAction (severity rawValue : ℚ) : SeverityMapping → ConstraintAction
  | .graduated => graduatedAction severity
  | .timeoutDirect maxErrorRatePct =>
    let hard := max (maxErrorRatePct / 100 * (5 / 2)) (5 / 100)
    let soft := max (maxErrorRatePct / 100 * (1 / 2)) (1 / 100)
    if hard ≤ rawValue then .hardBackoff
    else if soft ≤ rawValue then .gentleBackoff
    else .allowIncrease
  | .inFlightDirect =>
    if 1 / 100 < rawValue then .gentleBackoff
    else if 1 / 1000 < rawValue then .hold
    else .allowIncrease
  | .errorRateDirect maxErrorRatePct =>
    if rawValue < maxErrorRatePct then .allowIncrease
    else if rawValue < maxErrorRatePct * (3 / 2) then .gentleBackoff
    else .hardBackoff

end SeverityMapping

/-! ## The state of a constraint -/

/-- Streak and recovery of a constraint; what is kept there of missing signals is not used. -/
structure ConstraintState where
  violationStreak : UInt32
  persistence : UInt32
  recoveryEmaTicks : ℚ
  recoverySamples : UInt32
  initialSeed : ℚ
  ticksSinceBackoff : Option UInt32

namespace ConstraintState

def new (persistence : UInt32) (initialSeed : ℚ) : ConstraintState :=
  ⟨0, persistence, initialSeed, 0, initialSeed, none⟩

def cooldownEstimate (s : ConstraintState) : ℚ :=
  if 3 ≤ s.recoverySamples then s.recoveryEmaTicks else max s.recoveryEmaTicks s.initialSeed

def advanceRecovery (s : ConstraintState) (severity : ℚ) : ConstraintState :=
  match s.ticksSinceBackoff with
  | none => s
  | some ticks =>
    if 3 ≤ ticks + 1 ∧ severity < 9 / 10 then
      { s with
        recoverySamples := s.recoverySamples + 1
        recoveryEmaTicks :=
          3 / 10 * ((ticks + 1).toNat : ℚ) + (1 - 3 / 10) * s.recoveryEmaTicks
        ticksSinceBackoff := none }
    else { s with ticksSinceBackoff := some (ticks + 1) }

def startRecoveryTracking (s : ConstraintState) : ConstraintState :=
  { s with ticksSinceBackoff := some 0 }

end ConstraintState

structure BackoffSchedule where
  gentle : ℚ
  moderate : ℚ
  hard : ℚ

def BackoffSchedule.default : BackoffSchedule := ⟨9 / 10, 3 / 4, 1 / 2⟩

/-- What a constraint uses of the configuration of an external signal. -/
structure ExternalConstraintConfig where
  signalName : String
  onMissing : MissingSignalBehavior
  staleAfterTicks : UInt32

/-- How long the signal has been absent. -/
structure ExternalSignalState where
  config : ExternalConstraintConfig
  ticksSinceSeen : UInt32
  missingStreak : UInt32

/-- One more tick without it. -/
def ExternalSignalState.absent (ext : ExternalSignalState) : ExternalSignalState :=
  { ext with
    ticksSinceSeen := ext.ticksSinceSeen + 1
    missingStreak :=
      if ext.config.staleAfterTicks < ext.ticksSinceSeen + 1 then ext.missingStreak + 1
      else ext.missingStreak }

structure ThresholdConfig where
  id : String
  class_ : ConstraintClass
  metric : MetricExtractor
  smoother : Smoother
  threshold : ℚ
  severityMapping : SeverityMapping
  persistence : UInt32
  recoverySeed : ℚ
  backoff : BackoffSchedule
  external : Option ExternalConstraintConfig
  selfCausedCap : Option ℚ
  direction : SignalDirection
  baselineMultiplier : Option ℚ
  baselineFloorMs : Option ℚ

structure ThresholdConstraint where
  id : String
  class_ : ConstraintClass
  metric : MetricExtractor
  smoother : Smoother
  threshold : ℚ
  severityMapping : SeverityMapping
  direction : SignalDirection
  state : ConstraintState
  backoff : BackoffSchedule
  externalState : Option ExternalSignalState
  selfCausedCap : Option ℚ
  lastSeverity : ℚ
  lastSmoothedValue : ℚ
  baselineMultiplier : Option ℚ
  baselineFloorMs : Option ℚ

namespace ThresholdConstraint

def new (config : ThresholdConfig) : ThresholdConstraint where
  id := config.id
  class_ := config.class_
  metric := config.metric
  smoother := config.smoother
  threshold := config.threshold
  severityMapping := config.severityMapping
  direction := config.direction
  state := .new config.persistence config.recoverySeed
  backoff := config.backoff
  externalState := config.external.map (⟨·, 0, 0⟩)
  selfCausedCap := config.selfCausedCap
  lastSeverity := 0
  lastSmoothedValue := 0
  baselineMultiplier := config.baselineMultiplier
  baselineFloorMs := config.baselineFloorMs

/-- Higher is worse: in units of the threshold. Lower is worse: the other way round, and the
worst for a value that is next to nothing. -/
def computeSeverity (c : ThresholdConstraint) (smoothed : ℚ) : ℚ :=
  match c.direction with
  | .higherIsWorse => if 0 < c.threshold then smoothed / c.threshold else 0
  | .lowerIsWorse =>
    -- `f64::EPSILON`
    if 1 / 2 ^ 52 < smoothed then c.threshold / smoothed else severityBypassPersistence + 1

def actionToIntent (c : ThresholdConstraint) (action : ConstraintAction) (currentRate : ℚ) :
    ConstraintIntent :=
  match action with
  | .allowIncrease => .noObjection
  | .hold => .hold currentRate
  | backoff =>
    .desireRate
      (currentRate * backoff.backoffFactor c.backoff.gentle c.backoff.moderate c.backoff.hard)

/-- Count the severity, and let the action through if it has persisted. -/
def gate (c : ThresholdConstraint) (action : ConstraintAction) (severity currentRate : ℚ) :
    ConstraintOutput × ThresholdConstraint :=
  let streak := updateStreak c.state.violationStreak severity
  let action := applyPersistence action streak c.state.persistence severity
  (⟨c.actionToIntent action currentRate, severity⟩,
    { c with state := { c.state with violationStreak := streak }, lastSeverity := severity })

/-- Mild, and not just after a raise of the rate: taken for noise. -/
def IsNoise (c : ThresholdConstraint) (ctx : EvalContext) (severity : ℚ) : Prop :=
  ∃ cap ∈ c.selfCausedCap, 2 < ctx.ticksSinceIncrease ∧ severity < cap

instance (c : ThresholdConstraint) (ctx : EvalContext) (severity : ℚ) :
    Decidable (c.IsNoise ctx severity) :=
  match h : c.selfCausedCap with
  | none => isFalse (by simp [IsNoise, h])
  | some cap =>
    decidable_of_iff (2 < ctx.ticksSinceIncrease ∧ severity < cap) (by simp [IsNoise, h])

/-- The severity of a metric. -/
def severityOf (c : ThresholdConstraint) (rawValue : ℚ) : ℚ :=
  c.computeSeverity (c.smoother.smooth rawValue).2

/-- What a metric that is there comes to. -/
def judge (c : ThresholdConstraint) (ctx : EvalContext) (rawValue : ℚ) :
    ConstraintOutput × ThresholdConstraint :=
  let (smoother, smoothed) := c.smoother.smooth rawValue
  let severity := c.computeSeverity smoothed
  let c := { c with smoother, lastSmoothedValue := smoothed, lastSeverity := severity }
  let rawAction := c.severityMapping.mapToAction severity rawValue
  if c.IsNoise ctx severity then
    (⟨c.actionToIntent rawAction.cappedAtHold ctx.currentRate, severity⟩, c)
  else c.gate rawAction severity ctx.currentRate

/-- What an absent signal comes to. -/
def missing (c : ThresholdConstraint) (ctx : EvalContext) (ext : ExternalSignalState) :
    Option ConstraintOutput × ThresholdConstraint :=
  let c := { c with externalState := some ext.absent }
  if ext.absent.missingStreak < c.state.persistence then (none, c)
  else
    match ext.config.onMissing with
    | .ignore => (none, c)
    | .hold =>
      let (output, c) := c.gate .hold (85 / 100) ctx.currentRate
      (some output, c)
    | .backoff =>
      let (output, c) := c.gate .hardBackoff (severityBypassPersistence + 1) ctx.currentRate
      (some output, c)

/-- The metric, if it is there. -/
def judgeMetric (c : ThresholdConstraint) (ctx : EvalContext) :
    Option ConstraintOutput × ThresholdConstraint :=
  match c.metric.extract ctx with
  | none => (none, c)
  | some rawValue =>
    let (output, c) := c.judge ctx rawValue
    (some output, c)

def evaluate (c : ThresholdConstraint) (ctx : EvalContext) :
    Option ConstraintOutput × ThresholdConstraint :=
  match c.externalState with
  | none => c.judgeMetric ctx
  | some ext =>
    if ctx.summary.externalSignals.any (·.1 = ext.config.signalName) then
      judgeMetric
        { c with externalState := some { ext with ticksSinceSeen := 0, missingStreak := 0 } } ctx
    else c.missing ctx ext

def postSelect (c : ThresholdConstraint) (isBinding : Bool) : ThresholdConstraint :=
  let state := if isBinding then c.state.startRecoveryTracking else c.state
  { c with state := state.advanceRecovery c.lastSeverity }

def setThreshold (c : ThresholdConstraint) (threshold : ℚ) : ThresholdConstraint :=
  { c with threshold := threshold }

def setMaxErrorRate (c : ThresholdConstraint) (rate : ℚ) : ThresholdConstraint :=
  match c.severityMapping with
  | .timeoutDirect _ =>
    { c with
      severityMapping := .timeoutDirect rate
      threshold := max (rate / 100 * (1 / 2)) (1 / 100) }
  | .errorRateDirect _ => { c with severityMapping := .errorRateDirect rate, threshold := rate }
  | _ => c

def applyUpdate (c : ThresholdConstraint) (action : String) (params : Json) :
    Except String Json × ThresholdConstraint :=
  if action = "set_threshold" then
    match (params.get "threshold").bind Json.asF64 with
    | none => (.error "set_threshold requires 'threshold': f64", c)
    | some threshold =>
      (.ok (.obj [("ok", .bool true), ("previous_threshold", .float c.threshold),
        ("new_threshold", .float threshold)]), c.setThreshold threshold)
  else if action = "set_max_error_rate" then
    match (params.get "max_error_rate").bind Json.asF64 with
    | none => (.error "set_max_error_rate requires 'max_error_rate': f64", c)
    | some rate =>
      (.ok (.obj [("ok", .bool true), ("new_max_error_rate", .float rate)]),
        c.setMaxErrorRate rate)
  else (.error ("unknown action '" ++ action ++ "' for threshold constraint"), c)

/-- Only a constraint relative to a baseline takes its threshold from it. -/
def onWarmupComplete (c : ThresholdConstraint) (baseline : WarmupBaseline) :
    ThresholdConstraint :=
  match c.baselineMultiplier with
  | none => c
  | some multiplier =>
    if baseline.sampleCount = 0 ∨ baseline.baselineP99Ms ≤ 0 then c
    else c.setThreshold (max baseline.baselineP99Ms (c.baselineFloorMs.getD 0) * multiplier)

/-- What the arbiter sees of it. -/
def constraint : Constraint ThresholdConstraint where
  evaluate := evaluate
  postSelect c _ _ isBinding := c.postSelect isBinding
  id := id
  class_ := class_
  recoveryEstimateTicks c := some c.state.cooldownEstimate
  applyUpdate := applyUpdate
  requiresExploration _ := false
  onExplorationComplete c _ := c
  onWarmupComplete := onWarmupComplete
  onRateOverride c _ := c

/-! ## Calls -/

/-- The calls that change a constraint. -/
inductive Call where
  | evaluate (ctx : EvalContext)
  | postSelect (isBinding : Bool)
  | applyUpdate (action : String) (params : Json)
  | onWarmupComplete (baseline : WarmupBaseline)

def step (c : ThresholdConstraint) : Call → Option ThresholdConstraint
  | .evaluate ctx => some (c.evaluate ctx).2
  | .postSelect isBinding => some (c.postSelect isBinding)
  | .applyUpdate action params => some (c.applyUpdate action params).2
  | .onWarmupComplete baseline => some (c.onWarmupComplete baseline)

/-! ## What an evaluation can do -/

/-- The signal is there, and this is its value. -/
def Sees (c : ThresholdConstraint) (ctx : EvalContext) (rawValue : ℚ) : Prop :=
  c.metric.extract ctx = some rawValue ∧
    ∀ ext ∈ c.externalState, ctx.summary.externalSignals.any (·.1 = ext.config.signalName)

/-- Fresh news of the external signal, if the constraint is on one. -/
def refreshed (c : ThresholdConstraint) : ThresholdConstraint :=
  { c with
    externalState :=
      c.externalState.map fun ext => { ext with ticksSinceSeen := 0, missingStreak := 0 } }

variable {c : ThresholdConstraint} {ctx : EvalContext}

theorem refreshed_of_none (internal : c.externalState = none) : c.refreshed = c := by
  obtain ⟨⟩ := c
  simp_all [refreshed]

theorem evaluate_of_sees {rawValue : ℚ} (sees : c.Sees ctx rawValue) :
    c.evaluate ctx = (some (c.refreshed.judge ctx rawValue).1,
      (c.refreshed.judge ctx rawValue).2) := by
  obtain ⟨value, present⟩ := sees
  unfold evaluate
  cases ext : c.externalState with
  | none => simp [judgeMetric, value, refreshed_of_none ext]
  | some state =>
    have there := present state ext
    simp only [there, if_true]
    simp [judgeMetric, value, refreshed, ext]

/-- Without the signal nothing is judged. -/
theorem evaluate_of_not_sees (blind : ∀ rawValue, ¬ c.Sees ctx rawValue) :
    (c.evaluate ctx = (none, c.refreshed)) ∨
      ∃ ext ∈ c.externalState, c.evaluate ctx = c.missing ctx ext := by
  unfold evaluate
  cases ext : c.externalState with
  | none =>
    left
    cases value : c.metric.extract ctx with
    | none => simp [judgeMetric, value, refreshed_of_none ext]
    | some rawValue => exact absurd ⟨value, by simp [ext]⟩ (blind rawValue)
  | some state =>
    by_cases there : ctx.summary.externalSignals.any (·.1 = state.config.signalName)
    · left
      simp only [there, if_true]
      cases value : c.metric.extract ctx with
      | none => simp [judgeMetric, value, refreshed, ext]
      | some rawValue => exact absurd ⟨value, by simpa [ext] using there⟩ (blind rawValue)
    · right
      exact ⟨state, rfl, by simp only [there]; rfl⟩

/-! ## What a call leaves as it is -/

theorem evaluate_frame (c : ThresholdConstraint) (ctx : EvalContext) :
    ∃ smoother external streak severity smoothed,
      (c.evaluate ctx).2 = { c with
        smoother := smoother
        externalState := external
        state := { c.state with violationStreak := streak }
        lastSeverity := severity
        lastSmoothedValue := smoothed } ∧
      (smoother = c.smoother ∨ ∃ rawValue, smoother = (c.smoother.smooth rawValue).1) ∧
      external.map (·.config) = c.externalState.map (·.config) := by
  have judged : ∀ d : ThresholdConstraint, ∃ smoother streak severity smoothed,
      (d.judgeMetric ctx).2 = { d with
        smoother := smoother
        state := { d.state with violationStreak := streak }
        lastSeverity := severity
        lastSmoothedValue := smoothed } ∧
      (smoother = d.smoother ∨ ∃ rawValue, smoother = (d.smoother.smooth rawValue).1) := by
    intro d
    unfold judgeMetric
    split
    · exact ⟨_, _, _, _, rfl, .inl rfl⟩
    · simp only [judge]
      split
      · exact ⟨_, _, _, _, rfl, .inr ⟨_, rfl⟩⟩
      · exact ⟨_, _, _, _, rfl, .inr ⟨_, rfl⟩⟩
  unfold evaluate
  split
  · obtain ⟨smoother, streak, severity, smoothed, same, fed⟩ := judged c
    exact ⟨smoother, c.externalState, streak, severity, smoothed, same, fed, rfl⟩
  · rename_i ext watches
    split
    · obtain ⟨smoother, streak, severity, smoothed, same, fed⟩ := judged { c with
        externalState := some { ext with ticksSinceSeen := 0, missingStreak := 0 } }
      exact ⟨smoother, _, streak, severity, smoothed, same, fed, by rw [watches]; rfl⟩
    · have config : (some ext.absent).map (·.config) = c.externalState.map (·.config) := by
        rw [watches]
        rfl
      unfold missing
      dsimp only
      split
      · exact ⟨_, _, _, _, _, rfl, .inl rfl, config⟩
      · split <;> exact ⟨_, _, _, _, _, rfl, .inl rfl, config⟩

theorem postSelect_frame (c : ThresholdConstraint) (isBinding : Bool) :
    ∃ ema samples ticks, c.postSelect isBinding = { c with
      state := { c.state with
        recoveryEmaTicks := ema
        recoverySamples := samples
        ticksSinceBackoff := ticks } } := by
  have advanced : ∀ (s : ConstraintState) (severity : ℚ), ∃ ema samples ticks,
      s.advanceRecovery severity = { s with
        recoveryEmaTicks := ema
        recoverySamples := samples
        ticksSinceBackoff := ticks } := by
    intro s severity
    unfold ConstraintState.advanceRecovery
    split
    · exact ⟨_, _, _, rfl⟩
    · split
      · exact ⟨_, _, _, rfl⟩
      · exact ⟨_, _, _, rfl⟩
  cases isBinding with
  | true =>
    obtain ⟨ema, samples, ticks, same⟩ := advanced c.state.startRecoveryTracking c.lastSeverity
    exact ⟨ema, samples, ticks, by rw [postSelect, if_pos rfl, same]; rfl⟩
  | false =>
    obtain ⟨ema, samples, ticks, same⟩ := advanced c.state c.lastSeverity
    exact ⟨ema, samples, ticks, by rw [postSelect, if_neg Bool.false_ne_true, same]⟩

/-- An update that is not refused sets the threshold, or the rate the limits are derived from. -/
theorem applyUpdate_cases (c : ThresholdConstraint) (action : String) (params : Json) :
    (c.applyUpdate action params).2 = c ∨
      (∃ threshold, (c.applyUpdate action params).2 = c.setThreshold threshold) ∨
      ∃ rate, (c.applyUpdate action params).2 = c.setMaxErrorRate rate := by
  unfold applyUpdate
  split
  · split
    · exact .inl rfl
    · exact .inr (.inl ⟨_, rfl⟩)
  · split
    · split
      · exact .inl rfl
      · exact .inr (.inr ⟨_, rfl⟩)
    · exact .inl rfl

theorem setMaxErrorRate_frame (c : ThresholdConstraint) (rate : ℚ) :
    ∃ threshold mapping, c.setMaxErrorRate rate =
      { c with threshold := threshold, severityMapping := mapping } := by
  unfold setMaxErrorRate
  split
  · exact ⟨_, _, rfl⟩
  · exact ⟨_, _, rfl⟩
  · exact ⟨_, _, rfl⟩

theorem applyUpdate_frame (c : ThresholdConstraint) (action : String) (params : Json) :
    ∃ threshold mapping, (c.applyUpdate action params).2 =
      { c with threshold := threshold, severityMapping := mapping } := by
  rcases c.applyUpdate_cases action params with same | ⟨threshold, same⟩ | ⟨rate, same⟩
  · exact ⟨_, _, same⟩
  · exact ⟨_, _, same⟩
  · rw [same]
    exact c.setMaxErrorRate_frame rate

theorem onWarmupComplete_frame (c : ThresholdConstraint) (baseline : WarmupBaseline) :
    ∃ threshold, c.onWarmupComplete baseline = { c with threshold := threshold } := by
  unfold onWarmupComplete
  split
  · exact ⟨_, rfl⟩
  · split
    · exact ⟨_, rfl⟩
    · exact ⟨_, rfl⟩

end ThresholdConstraint

end Netanvil.Core
