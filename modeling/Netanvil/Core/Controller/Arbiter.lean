/-
# The constraint-arbitrating rate controller

The arbiter goes through up to three phases: the step experiment, a warm-up at a fixed rate,
and active control, where every tick asks the constraints, composes what they say and applies
a limit on the change, a progressive ceiling, a known-good floor and the absolute bounds.
Three of these are clamps, and a clamp whose bounds are the wrong way round panics: a call
that panics gives no next state. What is only logged, traced or exported is left out.
-/
import Netanvil.Core.Controller.Constraint
import Netanvil.Theory.Clamp

namespace Netanvil.Core

open Netanvil.Types Theory

/-! ## The policies -/

/-- A linear ramp; durations and times are nanoseconds. -/
structure ProgressiveCeiling where
  startValue : ℚ
  endValue : ℚ
  rampDuration : Nat
  startTime : Option Nat

namespace ProgressiveCeiling

def startNow (c : ProgressiveCeiling) (now : Nat) : ProgressiveCeiling :=
  { c with startTime := some now }

def progress (c : ProgressiveCeiling) (now : Nat) : ℚ :=
  match c.startTime with
  | none => 0
  | some t =>
    if c.rampDuration = 0 then 1 else min (((now - t : Nat) : ℚ) / c.rampDuration) 1

def ceiling (c : ProgressiveCeiling) (now : Nat) : ℚ :=
  c.startValue + c.progress now * (c.endValue - c.startValue)

end ProgressiveCeiling

/-- After a backoff increases are suppressed. -/
structure CooldownState where
  remaining : Nat
  minTicks : Nat
  recoveryMultiplier : ℚ

namespace CooldownState

def isActive (c : CooldownState) : Bool := 0 < c.remaining

def tick (c : CooldownState) : CooldownState := { c with remaining := c.remaining - 1 }

/-- A float as a `u32`: cut off at both ends. -/
def ceilU32 (x : ℚ) : Nat := min ⌈x⌉.toNat (2 ^ 32 - 1)

/-- From the recovery estimates of the constraints that wanted the backoff. -/
def engage (c : CooldownState) (estimates : List ℚ) : CooldownState :=
  let maxEstimate := estimates.foldl max 0
  { c with
    remaining :=
      if maxEstimate > 0 then max (ceilU32 (maxEstimate * c.recoveryMultiplier)) c.minTicks
      else c.minTicks }

end CooldownState

/-- The highest rate held of late, decaying. -/
structure KnownGoodTracker where
  maxRecentRate : ℚ
  maxRecentRateTime : Nat
  floorFraction : ℚ
  window : Nat

namespace KnownGoodTracker

def update (t : KnownGoodTracker) (now : Nat) (currentRps : ℚ) : KnownGoodTracker :=
  if t.maxRecentRate < currentRps then
    { t with maxRecentRate := currentRps, maxRecentRateTime := now }
  else if t.window < now - t.maxRecentRateTime then
    { t with maxRecentRate := t.maxRecentRate * (95 / 100), maxRecentRateTime := now }
  else t

def floor (t : KnownGoodTracker) (minRps : ℚ) : ℚ := max (t.maxRecentRate * t.floorFraction) minRps

end KnownGoodTracker

structure CongestionAvoidanceConfig where
  triggerThreshold : ℚ
  additiveFraction : ℚ
  failureRateAlpha : ℚ

structure IncreasePolicyConfig where
  increaseFactor : ℚ
  congestionAvoidance : Option CongestionAvoidanceConfig

/-- `IncreasePolicyConfig::default()`. -/
def IncreasePolicyConfig.default : IncreasePolicyConfig := ⟨11 / 10, none⟩

structure IncreasePolicy where
  config : IncreasePolicyConfig
  failureRateEma : ℚ
  backoffCount : Nat

namespace IncreasePolicy

/-- What the rate grows to if nobody objects. -/
def compute (p : IncreasePolicy) (currentRps : ℚ) (cooldown : CooldownState) : ℚ :=
  if cooldown.isActive then currentRps
  else
    match p.config.congestionAvoidance with
    | some ca =>
      if 0 < p.failureRateEma ∧ p.failureRateEma * ca.triggerThreshold < currentRps then
        currentRps + p.failureRateEma * ca.additiveFraction
      else currentRps * p.config.increaseFactor
    | none => currentRps * p.config.increaseFactor

def recordBackoff (p : IncreasePolicy) (currentRps : ℚ) : IncreasePolicy :=
  let alpha := (p.config.congestionAvoidance.map (·.failureRateAlpha)).getD (3 / 10)
  { p with
    failureRateEma :=
      if p.failureRateEma = 0 then currentRps
      else alpha * currentRps + (1 - alpha) * p.failureRateEma
    backoffCount := (p.backoffCount + 1) % 2 ^ 32 }

end IncreasePolicy

/-- How much the rate may change in one tick, as fractions of it. -/
structure RateChangeLimits where
  maxIncreasePct : ℚ
  maxDecreasePct : ℚ

namespace RateChangeLimits

/-- `RateChangeLimits::default()`. -/
def default : RateChangeLimits := ⟨2 / 10, 5 / 10⟩

def clamp (l : RateChangeLimits) (desired current : ℚ) : Option ℚ :=
  Theory.clamp (current * (1 - l.maxDecreasePct)) (current * (1 + l.maxIncreasePct)) desired

end RateChangeLimits

/-! ## The arbiter -/

inductive ArbiterPhase where
  | exploration (manager : ExplorationManager)
  | warmup (warmupRps : ℚ) (warmupDuration start : Nat) (p99Samples : List ℚ)
  | active

structure ArbiterConfig (C Q : Type) where
  constraints : List C
  initialRps : ℚ
  minRps : ℚ
  maxRps : ℚ
  testDuration : Nat
  strategy : Q
  increase : IncreasePolicyConfig
  rateChangeLimits : RateChangeLimits
  backoffDetectionThreshold : ℚ
  cooldownMinTicks : Nat
  cooldownRecoveryMultiplier : ℚ
  knownGoodFloorFraction : ℚ
  knownGoodWindow : Nat
  /-- A rate and how long it is held. -/
  warmup : Option (ℚ × Nat)
  explorationManager : Option ExplorationManager

/-- The defaults. -/
def ArbiterConfig.new {C : Type} (constraints : List C) (initialRps minRps maxRps : ℚ)
    (testDuration : Nat) : ArbiterConfig C Unit where
  constraints := constraints
  initialRps := initialRps
  minRps := minRps
  maxRps := maxRps
  testDuration := testDuration
  strategy := ()
  increase := .default
  rateChangeLimits := .default
  backoffDetectionThreshold := 98 / 100
  cooldownMinTicks := 2
  cooldownRecoveryMultiplier := 15 / 10
  knownGoodFloorFraction := 80 / 100
  knownGoodWindow := 60000000000
  warmup := none
  explorationManager := none

structure Arbiter (C Q : Type) where
  constraints : List C
  strategy : Q
  currentRps : ℚ
  minRps : ℚ
  maxRps : ℚ
  phase : ArbiterPhase
  ceiling : ProgressiveCeiling
  cooldown : CooldownState
  knownGood : KnownGoodTracker
  increase : IncreasePolicy
  rateChangeLimits : RateChangeLimits
  backoffDetectionThreshold : ℚ
  ticksSinceIncrease : Nat
  lastBinding : Option String
  /-- Kept for the end of the experiment. -/
  warmupConfig : Option (ℚ × Nat)
  initialRps : ℚ

/-- What an arbiter's constraints and strategy are. -/
structure ArbiterParts (C Q : Type) where
  constraint : Constraint C
  strategy : CompositionStrategy Q

/-- `f64::EPSILON`. -/
def f64Epsilon : ℚ := 1 / 2 ^ 52

namespace Arbiter

variable {C Q : Type} (parts : ArbiterParts C Q)

def startPhase (config : ArbiterConfig C Q) (now : Nat) : ArbiterPhase :=
  match config.explorationManager, config.warmup with
  | some manager, _ => .exploration manager
  | none, some (rps, duration) => .warmup rps duration now []
  | none, none => .active

def new (config : ArbiterConfig C Q) (now : Nat) : Arbiter C Q :=
  let phase := startPhase config now
  let currentRps :=
    match phase with
    | .exploration manager => manager.initialRps / 2
    | .warmup warmupRps _ _ _ => warmupRps
    | .active => config.initialRps
  { constraints := config.constraints
    strategy := config.strategy
    currentRps := currentRps
    minRps := config.minRps
    maxRps := config.maxRps
    phase := phase
    ceiling :=
      { startValue := config.initialRps
        endValue := config.maxRps
        rampDuration := config.testDuration / 2
        startTime :=
          match phase with
          | .active => some now
          | _ => none }
    cooldown := ⟨0, config.cooldownMinTicks, config.cooldownRecoveryMultiplier⟩
    knownGood := ⟨currentRps, now, config.knownGoodFloorFraction, config.knownGoodWindow⟩
    increase := ⟨config.increase, 0, 0⟩
    rateChangeLimits := config.rateChangeLimits
    backoffDetectionThreshold := config.backoffDetectionThreshold
    ticksSinceIncrease := 0
    lastBinding := none
    warmupConfig := config.warmup
    initialRps := config.initialRps }

/-! ### Active control -/

/-- The arbiter's policies on a composed rate. `catastrophic` says that the constraint which
decided is. -/
def applyPolicies (a : Arbiter C Q) (now : Nat) (rate : ℚ) (catastrophic : Bool) : Option ℚ :=
  (a.rateChangeLimits.clamp rate a.currentRps).bind fun rate =>
    let rate := min rate (a.ceiling.ceiling now)
    let rate :=
      if catastrophic then rate
      else max rate ((a.knownGood.update now a.currentRps).floor a.minRps)
    clamp a.minRps a.maxRps rate

/-- The binding constraint is told so, and all what was selected. -/
def postSelectAll (cs : List C) (rate currentRps : ℚ) (binding : Option Nat) : List C :=
  cs.mapIdx fun i c => parts.constraint.postSelect c rate currentRps (binding == some i)

/-- The constraint a result names; an index beyond the list panics. -/
def bound (cs : List C) : Option Nat → Option (Option C)
  | none => some none
  | some i => cs[i]?.map some

/-- The arbiter once a rate is decided. -/
def settle (a : Arbiter C Q) (now : Nat) (evals : List ConstraintEval)
    (result : CompositionResult) (rate : ℚ) : Arbiter C Q :=
  let threshold := a.currentRps * a.backoffDetectionThreshold
  let constraints := postSelectAll parts a.constraints rate a.currentRps result.binding
  let backoff : Bool := result.binding.isSome && result.rate < threshold
  let triggering := (evals.filter (·.desiredRate < threshold)).filterMap fun e =>
    constraints[e.constraintIndex]?.bind parts.constraint.recoveryEstimateTicks
  { a with
    constraints := constraints
    knownGood := a.knownGood.update now a.currentRps
    increase := if backoff then a.increase.recordBackoff a.currentRps else a.increase
    cooldown := if backoff then a.cooldown.engage triggering else a.cooldown.tick
    ticksSinceIncrease :=
      if a.currentRps < rate then 0 else min (a.ticksSinceIncrease + 1) (2 ^ 32 - 1)
    currentRps := rate }

/-- What the constraints and the strategy made of a window. -/
structure Composition (C Q : Type) where
  constraints : List C
  strategy : Q
  evals : List ConstraintEval
  result : CompositionResult

def compose (a : Arbiter C Q) (summary : MetricsSummary) : Composition C Q :=
  let increaseRate := a.increase.compute a.currentRps a.cooldown
  let ctx : EvalContext := ⟨summary, a.currentRps, a.ticksSinceIncrease, a.minRps, a.maxRps⟩
  let (constraints, evals, abstainers) := evaluateAll parts.constraint ctx 0 a.constraints
  let (result, strategy) := parts.strategy.compose a.strategy evals abstainers increaseRate
  ⟨constraints, strategy, evals, result⟩

def activeTick (a : Arbiter C Q) (now : Nat) (summary : MetricsSummary) :
    Option (Arbiter C Q × RateDecision) :=
  let asked := a.compose parts summary
  (bound asked.constraints asked.result.binding).bind fun binding =>
    let a := { a with
      constraints := asked.constraints
      strategy := asked.strategy
      lastBinding := binding.map parts.constraint.id }
    let catastrophic := binding.map parts.constraint.class_ == some .catastrophic
    (a.applyPolicies now asked.result.rate catastrophic).map fun rate =>
      (a.settle parts now asked.evals asked.result rate, ⟨rate⟩)

/-! ### Warm-up -/

/-- The median. -/
def baselineOf (samples : List ℚ) : ℚ := (samples.insertionSort (· ≤ ·)).getD (samples.length / 2) 0

/-- A window without requests has no latency to learn from. -/
def collectSample (summary : MetricsSummary) (p99Samples : List ℚ) : List ℚ :=
  if 0 < summary.totalRequests ∧ 0 < summary.latencyP99Ns then
    p99Samples ++ [(summary.latencyP99Ns : ℚ) / 1000000]
  else p99Samples

def warmupTick (a : Arbiter C Q) (now : Nat) (summary : MetricsSummary) (warmupRps : ℚ)
    (warmupDuration start : Nat) (p99Samples : List ℚ) : Option (Arbiter C Q × RateDecision) :=
  let samples := collectSample summary p99Samples
  if warmupDuration ≤ now - start ∧ 3 ≤ samples.length then
    let baseline : WarmupBaseline := ⟨baselineOf samples, samples.length⟩
    activeTick parts
      { a with
        constraints := a.constraints.map (parts.constraint.onWarmupComplete · baseline)
        ceiling := a.ceiling.startNow now
        knownGood := ⟨warmupRps, now, a.knownGood.floorFraction, a.knownGood.window⟩
        phase := .active }
      now summary
  else
    -- the rate that was configured, whatever the current one is
    some ({ a with phase := .warmup warmupRps warmupDuration start samples }, ⟨warmupRps⟩)

/-! ### The step experiment -/

/-- The rates of the configuration, not clamped. -/
def transitionPostExploration (a : Arbiter C Q) (now : Nat) : Arbiter C Q :=
  match a.warmupConfig with
  | some (rps, duration) =>
    { a with
      warmupConfig := none
      currentRps := rps
      phase := .warmup rps duration now [] }
  | none =>
    { a with
      currentRps := a.initialRps
      ceiling := a.ceiling.startNow now
      phase := .active }

def finishExploration (a : Arbiter C Q) (now : Nat) (manager : ExplorationManager) : Arbiter C Q :=
  transitionPostExploration
    { a with constraints := a.constraints.map (parts.constraint.onExplorationComplete · manager) }
    now

/-- `EXPLORATION_ABORT_THRESHOLD`. -/
def explorationAbortThreshold : ℚ := 85 / 100

/-- A catastrophic constraint's reason to abort at this rate, and the rate after it. -/
def abortsAt (safeRate : ℚ) (output : ConstraintOutput) : Option ℚ :=
  match output.intent with
  | .noObjection => none
  | .hold _ => if 1 ≤ output.severity then some safeRate else none
  | .desireRate d =>
    if d < safeRate * explorationAbortThreshold then some (min safeRate d) else none

/-- Ask the catastrophic constraints: they afterwards, the rate, and whether to abort. -/
def checkAborts (ctx : EvalContext) (safeRate : ℚ) (abort : Bool) :
    List C → List C × ℚ × Bool
  | [] => ([], safeRate, abort)
  | c :: rest =>
    if parts.constraint.requiresExploration c ||
        parts.constraint.class_ c != .catastrophic then
      let (rest, safeRate, abort) := checkAborts ctx safeRate abort rest
      (c :: rest, safeRate, abort)
    else
      let (output, c) := parts.constraint.evaluate c ctx
      let (rest, safeRate, abort) :=
        match output.bind (abortsAt safeRate) with
        | some safeRate => checkAborts ctx safeRate true rest
        | none => checkAborts ctx safeRate abort rest
      (c :: rest, safeRate, abort)

def explorationTick (a : Arbiter C Q) (now : Nat) (summary : MetricsSummary)
    (manager : ExplorationManager) : Option (Arbiter C Q × RateDecision) :=
  match manager.tick summary with
  | (some rate, manager) =>
    let ctx : EvalContext := ⟨summary, a.currentRps, 0, a.minRps, a.maxRps⟩
    let (constraints, safeRate, abort) := checkAborts parts ctx rate false a.constraints
    (clamp a.minRps a.maxRps safeRate).map fun rate =>
      let a := { a with
        constraints := constraints
        currentRps := rate
        phase := .exploration manager }
      let a := if abort then a.finishExploration parts now manager else a
      (a, ⟨a.currentRps⟩)
  | (none, manager) =>
    -- the next phase has its first tick at once
    let a := a.finishExploration parts now manager
    match a.phase with
    | .warmup rps duration start samples =>
      a.warmupTick parts now summary rps duration start samples
    | _ => a.activeTick parts now summary

/-! ### Calls -/

def update (a : Arbiter C Q) (now : Nat) (summary : MetricsSummary) :
    Option (Arbiter C Q × RateDecision) :=
  match a.phase with
  | .exploration manager => a.explorationTick parts now summary manager
  | .warmup rps duration start samples => a.warmupTick parts now summary rps duration start samples
  | .active => a.activeTick parts now summary

/-- From outside; ends the step experiment. -/
def setRate (a : Arbiter C Q) (now : Nat) (rps : ℚ) : Option (Arbiter C Q) :=
  (clamp a.minRps a.maxRps rps).map fun rate =>
    let constraints :=
      if f64Epsilon < |rate - a.currentRps| then
        a.constraints.map (parts.constraint.onRateOverride · rate)
      else a.constraints
    let a := { a with constraints := constraints, currentRps := rate }
    match a.phase with
    | .exploration manager => a.finishExploration parts now manager
    | _ => a

/-- Never below the lower bound. The current rate stays. -/
def setMaxRps (a : Arbiter C Q) (maxRps : ℚ) : Arbiter C Q :=
  { a with
    maxRps := max maxRps a.minRps
    ceiling := { a.ceiling with endValue := max maxRps a.minRps } }

/-- The parts of `constraint.{id}.{action}`; none without the first word, and no parts without
a second dot. -/
def constraintAction (action : String) : Option (Option (String × String)) :=
  if "constraint.".toList.isPrefixOf action.toList then
    let rest := action.toList.drop "constraint.".length
    some (if '.' ∈ rest then
      some (.ofList (rest.takeWhile (· ≠ '.')), .ofList ((rest.dropWhile (· ≠ '.')).drop 1))
    else none)
  else none

/-- Update the first constraint of this id. -/
def updateConstraint (id action : String) (params : Json) :
    List C → Option (List C × Except String Json)
  | [] => none
  | c :: rest =>
    if parts.constraint.id c = id then
      let (result, c) := parts.constraint.applyUpdate c action params
      some (c :: rest, result)
    else (updateConstraint id action params rest).map fun (rest, result) => (c :: rest, result)

def applyUpdate (a : Arbiter C Q) (action : String) (params : Json) :
    Arbiter C Q × Except String Json :=
  if action = "set_max_rps" then
    match (params.get "max_rps").bind Json.asF64 with
    | none => (a, .error "missing 'max_rps' field")
    | some max =>
      (a.setMaxRps max, .ok (.obj [("ok", .bool true), ("previous_max_rps", .float a.maxRps),
        ("new_max_rps", .float (a.setMaxRps max).maxRps)]))
  else if action = "set_min_rps" then
    match (params.get "min_rps").bind Json.asF64 with
    | none => (a, .error "missing 'min_rps' field")
    | some min =>
      -- whatever the upper bound is
      ({ a with minRps := min }, .ok (.obj [("ok", .bool true),
        ("previous_min_rps", .float a.minRps), ("new_min_rps", .float min)]))
  else
    match constraintAction action with
    | some (some (id, told)) =>
      match updateConstraint parts id told params a.constraints with
      | some (constraints, result) => ({ a with constraints := constraints }, result)
      | none => (a, .error s!"no constraint with id '{id}'")
    | some none =>
      (a, .error ("expected 'constraint.\x7bid\x7d.\x7baction\x7d', got '" ++ action ++ "'"))
    | none => (a, .error s!"action '{action}' is not valid for arbiter controller")

end Arbiter

inductive ArbiterCall where
  | update (now : Nat) (summary : MetricsSummary)
  | setRate (now : Nat) (rps : ℚ)
  | setMaxRps (maxRps : ℚ)
  | applyUpdate (action : String) (params : Json)

/-- The arbiter after a call; none if the call panics. -/
def Arbiter.call {C Q : Type} (parts : ArbiterParts C Q) (a : Arbiter C Q) :
    ArbiterCall → Option (Arbiter C Q)
  | .update now summary => (a.update parts now summary).map (·.1)
  | .setRate now rps => a.setRate parts now rps
  | .setMaxRps maxRps => some (a.setMaxRps maxRps)
  | .applyUpdate action params => some (a.applyUpdate parts action params).1

end Netanvil.Core
