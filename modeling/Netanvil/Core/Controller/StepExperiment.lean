/-
# The rates at which the experiment measures

What was measured before and after the step is divided by the difference of two rates to get
the gains of the controllers: half the initial rate, and the initial rate
(`computeGainsFor`). The arbiter clamps the rates it is told to use. So the second rate is
the one that was in force, and the first is only if it is not below the lower bound
(`measured_as_assumed`).
-/
import Netanvil.Core.Controller.Phases

namespace Netanvil.Core

open Netanvil.Types Theory Theory.Trace ExplorationManager Option List

/-! ## What the measurements are for -/

structure ComputedGains where
  kp : ℚ
  ki : ℚ
  kd : ℚ
  deadTimeTicks : Nat
  deriving DecidableEq

/-- `CONSERVATIVE_GAINS`. -/
def conservativeGains : ComputedGains := ⟨2 / 100, 1 / 1000, 1 / 100, 3⟩

def computeCohenCoonGains (targetValue : ℚ) (deadTimeTicks timeConstantTicks : Nat) :
    ComputedGains :=
  let r := max (1 / 10) (min 2 ((deadTimeTicks : ℚ) / timeConstantTicks))
  let typicalError := max (targetValue * (5 / 10)) 1
  let baseKp := (15 / 10 / typicalError) * (1 + 5 / 10 / r)
  let tiDenom := 1 - 39 / 100 * r
  let ti :=
    if |tiDenom| > 1 / 100 then
      max (deadTimeTicks * (25 / 10 - 2 * r) / tiDenom) deadTimeTicks
    else deadTimeTicks * 5
  let tdDenom := 1 - 81 / 100 * r
  let td := if |tdDenom| > 1 / 100 then deadTimeTicks * (37 / 100 - r) / tdDenom else 0
  { kp := baseKp
    ki := baseKp / ti
    kd := if td > 0 then baseKp * td else 0
    deadTimeTicks := deadTimeTicks }

namespace ExplorationManager

/-- The rate before the step. -/
def baselineRate (m : ExplorationManager) : ℚ := m.initialRps / 2

/-- The rate after it. -/
def stepRate (m : ExplorationManager) : ℚ := m.initialRps

/-- An index beyond the metrics panics. -/
def computeGainsFor (m : ExplorationManager) (metricIdx : Nat) : Option ComputedGains :=
  m.metrics[metricIdx]?.map fun x =>
    let baselineValue := x.baselineMean
    let finalValue := (x.stepMeasurements.getLast?.map (·.2)).getD baselineValue
    let deltaMetric := finalValue - baselineValue
    let deltaRate := m.stepRate - m.baselineRate
    let systemGain := if |deltaRate| > 1 then deltaMetric / deltaRate else 0
    if |systemGain| < 1 / 1000000000 then conservativeGains
    else
      let deadTimeTicks := max (x.deadTimeDetected.getD 3) 1
      let target := baselineValue + 632 / 1000 * deltaMetric
      let reached := x.stepMeasurements.find? fun (_, v) =>
        if deltaMetric > 0 then decide (target ≤ v) else decide (v ≤ target)
      let timeConstantTicks := max ((reached.map (·.1)).getD (deadTimeTicks * 2)) 1
      computeCohenCoonGains x.targetValue deadTimeTicks timeConstantTicks

/-- What a tick records of a metric. -/
def recorded (m : ExplorationManager) (summary : MetricsSummary) (x : MetricExploration) :
    MetricExploration :=
  match m.phase with
  | .baseline _ => x.recordBaseline (extractMetric x.metric summary)
  | .stepResponse stepTick _ _ =>
    x.recordStep (m.tickCount + 1 - stepTick) (extractMetric x.metric summary)
  | .complete => x
  | .failed => x

theorem metrics_tick (m : ExplorationManager) (summary : MetricsSummary) :
    (m.tick summary).2.metrics = m.metrics.map (m.recorded summary) := by
  unfold recorded
  cases here : m.phase with
  | baseline startTick | stepResponse stepTick baselineRate stepRate =>
    simp only [tick, here]
    split <;> rfl
  | complete | failed => simp only [tick, here, List.map_id']

end ExplorationManager

namespace Arbiter

variable {C Q : Type} {parts : ArbiterParts C Q} {a a' : Arbiter C Q}
  {now autotune interval created : Nat}
  {summary : MetricsSummary} {decision : RateDecision} {m manager' : ExplorationManager}

/-! ## The rate in force -/

/-- A rate only changes by an abort. -/
theorem rate_of_foldl (ctx : EvalContext) {soFar : ℚ × Bool} {cs : List C}
    (goes : (cs.foldl (askOne parts ctx) soFar).2 = false) :
    (cs.foldl (askOne parts ctx) soFar).1 = soFar.1 := by
  induction cs generalizing soFar with
  | nil => rfl
  | cons c rest ih =>
    rw [foldl_cons] at goes ⊢
    rcases askOne_cases parts ctx soFar c with same | aborts
    · rw [same] at goes ⊢
      exact ih goes
    · rw [aborted_of_foldl ctx aborts rest] at goes
      cases goes

theorem watch_rate {rate : ℚ} (goes : (a.watch parts summary rate).2.2 = false) :
    (a.watch parts summary rate).2.1 = rate := by
  rw [watch, checkAborts_eq_foldl parts _ (rate, false)] at goes ⊢
  exact rate_of_foldl _ goes

/-- An experiment that goes on went on before, and its rate is the clamped one. -/
theorem exploring_of_tick (tick : Tick parts now summary a' decision a)
    (here : a'.phase = .exploration manager') :
    SameBounds a a' ∧ ∃ manager rate, a.phase = .exploration manager ∧
      manager.tick summary = (some rate, manager') ∧
      clamp a.minRps a.maxRps rate = some a'.currentRps := by
  induction tick with
  | active here' taken =>
    rw [(activeTick_spec taken).2.1, here'] at here
    cases here
  | waiting here' waits same decided =>
    rw [same] at here
    cases here
  | warmed here' ends taken =>
    rw [(activeTick_spec taken).2.1] at here
    cases here
  | exploring here' ticked goes given same decided =>
    rw [same] at here
    cases here
    rw [watch_rate goes] at given
    rw [same]
    exact ⟨⟨rfl, rfl, rfl⟩, _, _, here', ticked, given⟩
  | aborted here' ticked aborts given same decided =>
    rw [same] at here
    exact absurd here ((finishExploration_spec _ _ _ _).2.1 manager')
  | explored here' ticked next ih =>
    obtain ⟨-, manager, rate, again, -⟩ := ih
    exact absurd again ((finishExploration_spec _ _ _ _).2.1 manager)

/-- An update with the window of a time. -/
def tickOn (parts : ArbiterParts C Q) (a : Arbiter C Q) (window : Nat × MetricsSummary) :
    Option (Arbiter C Q) :=
  (a.update parts window.1 window.2).map (·.1)

/-- While the experiment goes on: its rates are those configured, and the one in force is the
one it was told to use, clamped but for the very first. -/
structure Measuring (config : ArbiterConfig C Q) (first : Prop) (a : Arbiter C Q)
    (m : ExplorationManager) : Prop where
  min : a.minRps = config.minRps
  max : a.maxRps = config.maxRps
  initial : m.initialRps = config.initialRps
  baseline : ∀ startTick, m.phase = .baseline startTick →
    (first ∧ a.currentRps = config.initialRps / 2) ∨
      (¬ first ∧ clamp config.minRps config.maxRps (config.initialRps / 2) = some a.currentRps)
  step : ∀ stepTick baselineRate stepRate, m.phase = .stepResponse stepTick baselineRate stepRate →
    clamp config.minRps config.maxRps config.initialRps = some a.currentRps

theorem measuring_of_run {config : ArbiterConfig C Q} {metrics : List MetricExploration}
    (explores : config.explorationManager = some (.new metrics config.initialRps autotune interval))
    {windows : List (Nat × MetricsSummary)}
    (run : exec (tickOn parts) (new config created) windows = some a)
    (here : a.phase = .exploration m) : a.Measuring config (windows = []) m := by
  induction windows using reverseRecOn generalizing a m with
  | nil =>
    obtain rfl : new config created = a := some.inj run
    have phase : (new config created).phase =
        .exploration (.new metrics config.initialRps autotune interval) := by
      simp [new, startPhase, explores]
    obtain rfl := ArbiterPhase.exploration.inj (phase.symm.trans here)
    refine ⟨rfl, rfl, rfl, fun startTick _ => .inl ⟨rfl, ?_⟩, ?_⟩
    · simp [new, startPhase, explores, ExplorationManager.new]
    · rintro stepTick baselineRate stepRate same
      cases same
  | append_singleton windows window ih =>
    obtain ⟨b, earlier, taken⟩ := exec_snoc_iff.mp run
    obtain ⟨⟨after, decision⟩, updated, rfl⟩ := map_eq_some_iff.mp taken
    obtain ⟨same, manager, rate, before, ticked, given⟩ :=
      exploring_of_tick (tick_of_update updated) here
    obtain ⟨min, max, initial, -, -⟩ := ih earlier before
    have nonempty : ¬ windows ++ [window] = [] := by simp
    rw [min, max] at given
    rcases tick_cases ticked with
      ⟨startTick, metrics', baseline, -, ⟨rfl, rfl⟩ | ⟨rfl, -, rfl⟩⟩ |
      ⟨stepTick, baselineRate, stepRate, metrics', step, -, rfl, -, rfl⟩
    · rw [initial] at given
      exact ⟨same.min.trans min, same.max.trans max, initial, by simp, fun _ _ _ _ => given⟩
    · rw [initial] at given
      exact ⟨same.min.trans min, same.max.trans max, initial,
        fun _ _ => .inr ⟨nonempty, given⟩, by simp [baseline]⟩
    · rw [initial] at given
      exact ⟨same.min.trans min, same.max.trans max, initial, by simp [step], fun _ _ _ _ => given⟩

/-- **Whatever is recorded after the step is recorded at the rate that the gains are computed
with. What is recorded before it is, but for the first window, exactly if half the initial rate
is not below the lower bound.** -/
theorem measured_as_assumed {config : ArbiterConfig C Q} {metrics : List MetricExploration}
    {autotune interval created : Nat}
    (explores : config.explorationManager = some (.new metrics config.initialRps autotune interval))
    (positive : 0 < config.minRps) (lower : config.minRps ≤ config.initialRps)
    (upper : config.initialRps ≤ config.maxRps) {windows : List (Nat × MetricsSummary)}
    (run : exec (tickOn parts) (new config created) windows = some a) {m : ExplorationManager}
    (here : a.phase = .exploration m) :
    m.baselineRate = config.initialRps / 2 ∧ m.stepRate = config.initialRps ∧
    ∀ summary (i : Nat) (x x' : MetricExploration), m.metrics[i]? = some x →
      (m.tick summary).2.metrics[i]? = some x' →
      (x'.baselineMeasurements ≠ x.baselineMeasurements →
        (a.currentRps = m.baselineRate ↔
          windows = [] ∨ config.minRps ≤ config.initialRps / 2)) ∧
      (x'.stepMeasurements ≠ x.stepMeasurements → a.currentRps = m.stepRate) := by
  obtain ⟨-, -, initial, baseline, step⟩ := measuring_of_run explores run here
  have half : config.initialRps / 2 ≤ config.maxRps :=
    (half_le_self (positive.le.trans lower)).trans upper
  rw [baselineRate, stepRate, initial]
  refine ⟨rfl, rfl, fun summary i x x' asked ticked => ?_⟩
  rw [metrics_tick, getElem?_map, asked] at ticked
  obtain rfl : m.recorded summary x = x' := some.inj ticked
  unfold recorded
  cases phase : m.phase with
  | baseline startTick =>
    refine ⟨fun _ => ?_, fun changed => absurd rfl changed⟩
    rcases baseline startTick phase with ⟨first, current⟩ | ⟨later, current⟩
    · exact ⟨fun _ => .inl first, fun _ => current⟩
    · obtain ⟨-, current⟩ := clamp_eq_some.mp current
      rw [current, min_eq_right half, or_iff_right later, max_eq_right_iff]
  | stepResponse stepTick baselineRate stepRate =>
    refine ⟨fun changed => absurd rfl changed, fun _ => ?_⟩
    obtain ⟨-, current⟩ := clamp_eq_some.mp (step _ _ _ phase)
    rw [current, min_eq_right upper, max_eq_right lower]
  | complete | failed =>
    exact ⟨fun changed => absurd rfl changed, fun changed => absurd rfl changed⟩

/-- From 50 to 100, with this lower bound. -/
def stepsTo100 (minRps : ℚ) : ArbiterConfig Script Unit :=
  { ArbiterConfig.new [] 100 minRps 10000 60000000000 with
    explorationManager :=
      some (.new [⟨.latencyP99, 100, [], [], none⟩] 100 5000000000 1000000000) }

/-- The experiment that goes on. -/
def experiment (a : Arbiter C Q) : Option ExplorationManager :=
  match a.phase with
  | .exploration m => some m
  | _ => none

theorem exploration_of_experiment (is : a.experiment = some m) : a.phase = .exploration m := by
  cases here : a.phase with
  | exploration manager =>
    rw [experiment, here] at is
    exact congrArg _ (some.inj is)
  | warmup rps duration start samples | active =>
    rw [experiment, here] at is
    cases is

/-- The second window is measured before the step. -/
def MeasuresBaseline (a : Arbiter C Q) (m : ExplorationManager) : Prop :=
  a.phase = .exploration m ∧ ∃ x x' : MetricExploration, m.metrics[0]? = some x ∧
    (m.tick emptyWindow).2.metrics[0]? = some x' ∧
    x'.baselineMeasurements ≠ x.baselineMeasurements

/-- With a lower bound of 10 it is measured at 50. -/
theorem baseline_at_half_rate :
    ∃ a m, exec (tickOn scripted) (new (stepsTo100 10) 0) [(1000000000, emptyWindow)] = some a ∧
      a.MeasuresBaseline m ∧ a.currentRps = m.baselineRate := by
  have run := evaluates
    (x := exec (tickOn scripted) (new (stepsTo100 10) 0) [(1000000000, emptyWindow)])
  refine ⟨_, _, run, ⟨exploration_of_experiment evaluates, _, _,
    evaluates, evaluates, by decide +kernel⟩, ?_⟩
  obtain ⟨-, -, measured⟩ := measured_as_assumed rfl (by decide +kernel) (by decide +kernel)
    (by decide +kernel) run (exploration_of_experiment evaluates)
  exact ((measured emptyWindow 0 _ _ evaluates
    evaluates).1 (by decide +kernel)).mpr (.inr (by decide +kernel))

/-- With one of 100, which is the initial rate's default, it is measured at 100. -/
theorem baseline_at_lower_bound :
    ∃ a m, exec (tickOn scripted) (new (stepsTo100 100) 0) [(1000000000, emptyWindow)] = some a ∧
      a.MeasuresBaseline m ∧ a.currentRps ≠ m.baselineRate :=
  ⟨_, _, evaluates,
    ⟨exploration_of_experiment evaluates, _, _,
      evaluates, evaluates,
      by decide +kernel⟩, by decide +kernel⟩

end Arbiter

end Netanvil.Core
