/-
# Whose measurements the gains are computed from

A setpoint with automatic gains has an entry of its own among the metrics that are explored, with
its own target. At the end of the experiment it finds the first entry of its metric. All entries
of a metric hold the same measurements (`Recording`), so what the constraint gets is its own only
as far as the first one's target gives the same gains (`auto_tuned_gains`).
-/
import Netanvil.Core.Controller.Builder
import Netanvil.Core.Controller.ConstraintCalls

namespace Netanvil.Core

open Netanvil.Types Theory Theory.Trace PidConstraint List ExplorationManager
open Config (MetricRef SetpointConstraintConfig ConstraintConfig AdaptiveConfig)

/-! ## The gains of an entry -/

namespace MetricExploration

/-- What the metric was at last. -/
def finalValue (x : MetricExploration) : ℚ :=
  (x.stepMeasurements.getLast?.map (·.2)).getD x.baselineMean

def deadTimeTicks (x : MetricExploration) : Nat := max (x.deadTimeDetected.getD 3) 1

/-- How long it took for most of the change. -/
def timeConstantTicks (x : MetricExploration) : Nat :=
  let deltaMetric := x.finalValue - x.baselineMean
  let target := x.baselineMean + 632 / 1000 * deltaMetric
  let reached := x.stepMeasurements.find? fun (_, v) =>
    if deltaMetric > 0 then decide (target ≤ v) else decide (v ≤ target)
  max ((reached.map (·.1)).getD (x.deadTimeTicks * 2)) 1

/-- The same metric and measurements, whatever the target. -/
def SameMeasurements (x y : MetricExploration) : Prop := y = { x with targetValue := y.targetValue }

end MetricExploration

namespace ExplorationManager

variable {m : ExplorationManager}

/-- How much the metric changed for each request per second. -/
def systemGain (m : ExplorationManager) (x : MetricExploration) : ℚ :=
  if |m.stepRate - m.baselineRate| > 1 then
    (x.finalValue - x.baselineMean) / (m.stepRate - m.baselineRate)
  else 0

/-- The step showed in the metric. -/
def Responds (m : ExplorationManager) (x : MetricExploration) : Prop :=
  ¬ |m.systemGain x| < 1 / 1000000000

theorem computeGainsFor_eq {i : Nat} {x : MetricExploration} (here : m.metrics[i]? = some x) :
    m.computeGainsFor i = some (if |m.systemGain x| < 1 / 1000000000 then conservativeGains
      else computeCohenCoonGains x.targetValue x.deadTimeTicks x.timeConstantTicks) := by
  rw [computeGainsFor, here, Option.map_some]
  rfl

end ExplorationManager

/-- What the gains depend on of a target. -/
def typicalError (targetValue : ℚ) : ℚ := max (targetValue * (5 / 10)) 1

/-- Targets with the same typical error have the same gains, and others not even the same
proportional gain. -/
theorem kp_cohenCoon_eq_iff {t t' : ℚ} (deadTimeTicks timeConstantTicks : Nat) :
    (computeCohenCoonGains t deadTimeTicks timeConstantTicks).kp =
        (computeCohenCoonGains t' deadTimeTicks timeConstantTicks).kp ↔
      typicalError t = typicalError t' := by
  have positive : ∀ t, 0 < typicalError t := fun t => lt_of_lt_of_le zero_lt_one (le_max_right _ _)
  have factor : 0 < 1 + 5 / 10 /
      max (1 / 10) (min 2 ((deadTimeTicks : ℚ) / timeConstantTicks)) := by positivity
  have kp : ∀ t, (computeCohenCoonGains t deadTimeTicks timeConstantTicks).kp =
      15 / 10 / typicalError t * (1 + 5 / 10 /
        max (1 / 10) (min 2 ((deadTimeTicks : ℚ) / timeConstantTicks))) := fun _ => rfl
  rw [kp, kp, mul_left_inj' factor.ne',
    div_eq_div_iff (positive t).ne' (positive t').ne', mul_right_inj' (by norm_num)]
  exact eq_comm

theorem cohenCoon_congr {t t' : ℚ} (same : typicalError t = typicalError t')
    (deadTimeTicks timeConstantTicks : Nat) :
    computeCohenCoonGains t deadTimeTicks timeConstantTicks =
      computeCohenCoonGains t' deadTimeTicks timeConstantTicks := by
  unfold typicalError at same
  unfold computeCohenCoonGains
  rw [same]

/-! ## The entries while they are recorded -/

namespace ExplorationManager

variable {m : ExplorationManager} {entries : List (TargetMetric × ℚ)}

/-- The entries of the experiment, with the same measurements wherever the metric is the same. -/
structure Recording (entries : List (TargetMetric × ℚ)) (m : ExplorationManager) : Prop where
  goes : m.phase ≠ .failed
  keys : m.metrics.map (fun x => (x.metric, x.targetValue)) = entries
  same : ∀ x ∈ m.metrics, ∀ y ∈ m.metrics, x.metric = y.metric → x.SameMeasurements y

theorem recorded_key (m : ExplorationManager) (summary : MetricsSummary) (x : MetricExploration) :
    (m.recorded summary x).metric = x.metric ∧
      (m.recorded summary x).targetValue = x.targetValue := by
  unfold recorded
  split <;> exact ⟨rfl, rfl⟩

theorem phase_tick (goes : m.phase ≠ .failed) : (m.tick summary).2.phase ≠ .failed := by
  unfold tick
  cases here : m.phase with
  | failed => exact absurd here goes
  | baseline startTick | stepResponse stepTick baselineRate stepRate =>
    dsimp only
    split <;> simp
  | complete => simp

theorem Recording.tick (recording : Recording entries m) (summary : MetricsSummary) :
    Recording entries (tick m summary).2 where
  goes := phase_tick recording.goes
  keys := by
    rw [metrics_tick, map_map, ← recording.keys]
    refine map_congr_left fun x _ => ?_
    obtain ⟨metric, target⟩ := m.recorded_key summary x
    rw [Function.comp_apply, metric, target]
  same := by
    rw [metrics_tick]
    intro x' mem y' mem' metric
    obtain ⟨x, inside, rfl⟩ := mem_map.mp mem
    obtain ⟨y, inside', rfl⟩ := mem_map.mp mem'
    rw [(m.recorded_key summary x).1, (m.recorded_key summary y).1] at metric
    have same : x.SameMeasurements y := recording.same x inside y inside' metric
    unfold recorded
    rw [same]
    cases m.phase <;> rfl

/-- The first entry of a metric is the one that a lookup finds. -/
theorem first_of_metric {metrics : List MetricExploration} {metric : TargetMetric}
    (explored : ∃ x ∈ metrics, x.metric = metric) :
    ∃ idx x, metrics.findIdx? (·.metric = metric) = some idx ∧ metrics[idx]? = some x ∧
      x.metric = metric ∧
      (metrics.map fun x => (x.metric, x.targetValue)).lookup metric = some x.targetValue := by
  induction metrics with
  | nil => simp at explored
  | cons y rest ih =>
    by_cases here : y.metric = metric
    · exact ⟨0, y, by simp [findIdx?_cons, here], rfl, here, by simp [here]⟩
    · have later : ∃ x ∈ rest, x.metric = metric := by
        obtain ⟨x, mem, is⟩ := explored
        rcases mem_cons.mp mem with rfl | mem
        · exact absurd is here
        · exact ⟨x, mem, is⟩
      obtain ⟨idx, x, found, there, is, looked⟩ := ih later
      refine ⟨idx + 1, x, by simp [findIdx?_cons, here, found], there, is, ?_⟩
      rw [map_cons, lookup_cons]
      simpa [beq_eq_false_iff_ne.mpr (Ne.symm here)] using looked

end ExplorationManager

/-! ## The entries of a configuration -/

/-- The metrics that are explored, each with the target of the setpoint it is explored for. -/
def tuned (configs : List ConstraintConfig) : List (TargetMetric × ℚ) :=
  configs.flatMap fun
    | .setpoint config =>
      match config.gains, mapMetricRefToTarget config.metric with
      | .auto _ _, some metric => [(metric, config.target)]
      | _, _ => []
    | .threshold _ => []

/-- Where among them the entry of a constraint is. -/
def ownIndex (configs : List ConstraintConfig) (i : Nat) : Nat := (tuned (configs.take i)).length

variable {hasWarmup : Bool} {configs : List ConstraintConfig} {cs : List AnyConstraint}
  {explorations : List MetricExploration}

section

variable (built : buildConstraints hasWarmup configs = some (cs, explorations))
include built

theorem explorations_of_build :
    explorations = (tuned configs).map fun e => .new e.1 e.2 := by
  induction configs generalizing cs explorations with
  | nil =>
    cases built
    rfl
  | cons config rest ih =>
    obtain ⟨⟨c, here⟩, one, built⟩ := Option.bind_eq_some_iff.mp built
    obtain ⟨⟨cs', more⟩, others, same⟩ := Option.map_eq_some_iff.mp built
    cases same
    rw [ih others, tuned, tuned, flatMap_cons, map_append]
    congr 1
    cases config with
    | threshold config =>
      obtain ⟨c, -, same⟩ := Option.map_eq_some_iff.mp one
      cases same
      rfl
    | setpoint config =>
      obtain ⟨⟨c, explorations⟩, one, same⟩ := Option.map_eq_some_iff.mp one
      cases same
      obtain ⟨metric, target, same⟩ := Option.map_eq_some_iff.mp one
      dsimp only at same ⊢
      rw [target]
      cases gains : config.gains with
      | manual kp ki kd | auto autotuneDuration smoothing =>
        rw [gains] at same
        cases same
        rfl

theorem constraint_of_build {i : Nat} {config : ConstraintConfig}
    (here : configs[i]? = some config) :
    ∃ c more, buildAdaptiveConstraint hasWarmup config = some (c, more) ∧ cs[i]? = some c := by
  induction configs generalizing cs explorations i with
  | nil => simp at here
  | cons first rest ih =>
    obtain ⟨⟨c, explored⟩, one, built⟩ := Option.bind_eq_some_iff.mp built
    obtain ⟨⟨cs', more⟩, others, same⟩ := Option.map_eq_some_iff.mp built
    cases same
    cases i with
    | zero =>
      cases here
      exact ⟨c, explored, one, rfl⟩
    | succ i =>
      obtain ⟨c, more, one, there⟩ := ih others here
      exact ⟨c, more, one, there⟩

/-- A setpoint with automatic gains waits for them, and has its entry. -/
theorem awaits_of_build {i autotuneDuration : Nat} {config : SetpointConstraintConfig}
    {smoothing : ℚ} (here : configs[i]? = some (.setpoint config))
    (auto : config.gains = .auto autotuneDuration smoothing) :
    ∃ metric p, mapMetricRefToTarget config.metric = some metric ∧ cs[i]? = some (.inr p) ∧
      p.metric = metric ∧ p.awaitingExploration = true ∧
      (tuned configs)[ownIndex configs i]? = some (metric, config.target) := by
  obtain ⟨c, more, one, there⟩ := constraint_of_build built here
  obtain ⟨⟨p, explored⟩, one, same⟩ := Option.map_eq_some_iff.mp one
  cases same
  obtain ⟨metric, target, same⟩ := Option.map_eq_some_iff.mp one
  rw [auto] at same
  cases same
  refine ⟨metric, _, target, there, rfl, rfl, ?_⟩
  obtain ⟨inside, is⟩ := List.getElem?_eq_some_iff.mp here
  have splits : tuned configs = tuned (configs.take i) ++
      (metric, config.target) :: tuned (configs.drop (i + 1)) := by
    conv_lhs => rw [← take_append_drop i configs, drop_eq_getElem_cons inside, is]
    rw [tuned, tuned, flatMap_append, flatMap_cons]
    simp only [auto, target]
    rfl
  rw [splits, ownIndex, getElem?_append_right le_rfl, Nat.sub_self]
  rfl

end

/-- The gains of a constraint are these. -/
def PidConstraint.HasGains (p : PidConstraint) (gains : ComputedGains) : Prop :=
  p.kp = gains.kp ∧ p.ki = gains.ki ∧ p.kd = gains.kd

/-! ## The constraints while the experiment goes on -/

section

variable {β : Type} {f : PidConstraint → β} {scale : LogScale ℚ}

/-- What is seen of a setpoint. -/
def ofSetpoint (f : PidConstraint → β) (c : AnyConstraint) : Option β := c.getRight?.map f

/-- A setpoint stays one, and in this it stays as it is. -/
theorem setpoint_of_alike {p : PidConstraint} {d : AnyConstraint}
    (alike : Alike (ofSetpoint f) (.inr p) d) : ∃ q, d = .inr q ∧ f q = f p := by
  obtain ⟨q, is, same⟩ := Option.map_eq_some_iff.mp alike
  exact ⟨q, Sum.getRight?_eq_some_iff.mp is, same⟩

theorem asksKeep_of (evaluate : ∀ p ctx, f (p.evaluate scale ctx).2 = f p) :
    (builtParts scale).constraint.AsksKeep (Alike (ofSetpoint f)) where
  refl _ := rfl
  trans first second := second.trans first
  evaluate
    | .inl _, _ => rfl
    | .inr p, ctx => congrArg some (evaluate p ctx)
  onWarmupComplete
    | .inl _, _ => rfl
    | .inr _, _ => rfl

theorem ticksKeep_gains : (builtParts scale).constraint.TicksKeep
    (Alike (ofSetpoint fun p => (p.kp, p.ki, p.kd))) where
  toAsksKeep := by
    refine asksKeep_of fun p ctx => ?_
    obtain ⟨_, _, _, _, _, same, -⟩ := p.evaluate_frame scale ctx
    rw [same]
  postSelect
    | .inl _, _, _, _ => rfl
    | .inr p, selectedRate, currentRate, isBinding => by
      obtain ⟨_, same⟩ := p.postSelect_frame scale selectedRate currentRate isBinding
      exact congrArg (fun p => some (p.kp, p.ki, p.kd)) same

theorem callsKeep_awaiting : (builtParts scale).constraint.CallsKeep
    (Alike (ofSetpoint fun p => (p.metric, p.awaitingExploration))) where
  toAsksKeep := by
    refine asksKeep_of fun p ctx => ?_
    obtain ⟨_, _, _, _, _, same, -⟩ := p.evaluate_frame scale ctx
    rw [same]
  applyUpdate
    | .inl _, _, _ => rfl
    | .inr p, action, params => by
      rcases p.applyUpdate_cases action params with same | ⟨_, same⟩ | ⟨_, _, _, -, -, same⟩ |
        ⟨_, same⟩ | same
      all_goals exact congrArg (fun p => some (p.metric, p.awaitingExploration)) same
  onRateOverride
    | .inl _, _ => rfl
    | .inr _, _ => rfl

end

namespace Arbiter

variable {config : AdaptiveConfig} {built : ArbiterConfig AnyConstraint Unit} {scale : LogScale ℚ}
  {a a' : Arbiter AnyConstraint Unit} {controlInterval testDuration start now : Nat}
  {summary : MetricsSummary} {decision : RateDecision} {i autotuneDuration : Nat} {smoothing : ℚ}
  {sc : SetpointConstraintConfig} {manager manager' : ExplorationManager}

/-- While the experiment goes on: its entries are those of the configuration, and a constraint with
automatic gains waits for them. -/
structure Tuning (configs : List ConstraintConfig) (i : Nat) (metric : TargetMetric)
    (a : Arbiter AnyConstraint Unit) (manager : ExplorationManager) : Prop where
  recording : manager.Recording (tuned configs)
  awaits : ∃ p, a.constraints[i]? = some (.inr p) ∧ p.metric = metric ∧ p.awaitingExploration = true

theorem tuning_of_run {metric : TargetMetric}
    (builds : buildArbiterConfig config controlInterval testDuration = some built)
    (here : config.constraints[i]? = some (.setpoint sc))
    (auto : sc.gains = .auto autotuneDuration smoothing)
    (target : mapMetricRefToTarget sc.metric = some metric) {calls : List ArbiterCall}
    (run : exec (call (builtParts scale)) (new built start) calls = some a)
    (exploring : a.phase = .exploration manager) :
    a.Tuning config.constraints i metric manager := by
  obtain ⟨⟨cs, explorations⟩, constraints, same⟩ := Option.map_eq_some_iff.mp builds
  obtain ⟨metric', p, target', there, is, awaits, -⟩ := awaits_of_build constraints here auto
  obtain rfl := Option.some.inj (target.symm.trans target')
  refine exec_invariant (I := fun _ a => ∀ manager, a.phase = .exploration manager →
    a.Tuning config.constraints i metric manager) ?_ ?_ run manager exploring
  · intro manager exploring
    have explored := explorations_of_build constraints
    subst same
    refine ⟨?_, p, there, is, awaits⟩
    cases none : explorations.isEmpty with
    | true =>
      simp only [new, startPhase, none, if_true] at exploring
      split at exploring
      · rename_i warmup
        cases warmup
      · cases exploring
      · cases exploring
    | false =>
      simp only [new, startPhase, none] at exploring
      cases exploring
      refine ⟨by simp [ExplorationManager.new], ?_, ?_⟩
      · simp [ExplorationManager.new, explored, MetricExploration.new, Function.comp_def]
      · rw [ExplorationManager.new, explored]
        intro x mem y mem' metric
        obtain ⟨e, -, rfl⟩ := mem_map.mp mem
        obtain ⟨e', -, rfl⟩ := mem_map.mp mem'
        have equal : e.1 = e'.1 := metric
        simp [MetricExploration.SameMeasurements, MetricExploration.new, equal]
  · intro calls b made b' tuning taken manager' after
    obtain ⟨manager, before, ticked, kept⟩ := kept_while_exploring callsKeep_awaiting taken after
    obtain ⟨recording, p, there, is, awaits⟩ := tuning manager before
    refine ⟨?_, ?_⟩
    · rcases ticked with rfl | ⟨summary, rate, ticked⟩
      · exact recording
      · have next := recording.tick summary
        rwa [ticked] at next
    · obtain ⟨c', there', keeps⟩ := kept i _ there
      obtain ⟨q, rfl, same⟩ := setpoint_of_alike keeps
      obtain ⟨metric', awaiting'⟩ := Prod.mk.inj same
      exact ⟨q, there', metric'.trans is, awaiting'.trans awaits⟩

/-! ## The end of the experiment -/

/-- Of two entries of one metric, the one's gains are the other's exactly if the metric did not
respond, or their targets have the same typical error. -/
theorem hasGains_iff {q : PidConstraint} {x own : MetricExploration} {idx idx' : Nat}
    {gains own' : ComputedGains} (first : manager'.metrics[idx]? = some x)
    (second : manager'.metrics[idx']? = some own) (same : x.SameMeasurements own)
    (given : manager'.computeGainsFor idx = some gains)
    (due : manager'.computeGainsFor idx' = some own') (has : q.HasGains gains) :
    q.HasGains own' ↔
      ¬ manager'.Responds own ∨ typicalError x.targetValue = typicalError own.targetValue := by
  have gain : manager'.systemGain own = manager'.systemGain x := by rw [same]; rfl
  have dead : own.deadTimeTicks = x.deadTimeTicks := by rw [same]; rfl
  have constant : own.timeConstantTicks = x.timeConstantTicks := by rw [same]; rfl
  rw [computeGainsFor_eq first] at given
  rw [computeGainsFor_eq second, gain, dead, constant] at due
  rw [Responds, gain, not_not]
  obtain ⟨kp, ki, kd⟩ := has
  by_cases flat : |manager'.systemGain x| < 1 / 1000000000
  · rw [if_pos flat] at given due
    cases given
    cases due
    exact iff_of_true ⟨kp, ki, kd⟩ (.inl flat)
  · rw [if_neg flat] at given due
    cases given
    cases due
    rw [or_iff_right flat]
    constructor
    · rintro ⟨kp', -, -⟩
      exact (kp_cohenCoon_eq_iff _ _).mp (kp.symm.trans kp')
    · intro typical
      rw [← cohenCoon_congr typical]
      exact ⟨kp, ki, kd⟩

/-- **After every run up to a completed experiment, a setpoint with automatic gains has those of its
own entry exactly if its metric did not respond to the step, or the first setpoint on the same
metric has a target with the same typical error.** -/
theorem auto_tuned_gains
    (builds : buildArbiterConfig config controlInterval testDuration = some built)
    (here : config.constraints[i]? = some (.setpoint sc))
    (auto : sc.gains = .auto autotuneDuration smoothing) {calls : List ArbiterCall}
    (run : exec (call (builtParts scale)) (new built start) calls = some a)
    (exploring : a.phase = .exploration manager)
    (completes : manager.tick summary = (none, manager'))
    (taken : a.update (builtParts scale) now summary = some (a', decision)) :
    ∃ q own gains, a'.constraints[i]? = some (.inr q) ∧
      manager'.metrics[ownIndex config.constraints i]? = some own ∧
      mapMetricRefToTarget sc.metric = some own.metric ∧ own.targetValue = sc.target ∧
      manager'.computeGainsFor (ownIndex config.constraints i) = some gains ∧
      (q.HasGains gains ↔ ¬ manager'.Responds own ∨
        ∃ target, (tuned config.constraints).lookup own.metric = some target ∧
          typicalError target = typicalError sc.target) := by
  obtain ⟨⟨cs, explorations⟩, constraints, -⟩ := Option.map_eq_some_iff.mp builds
  obtain ⟨metric, -, target, -, -, -, entry⟩ := awaits_of_build constraints here auto
  obtain ⟨recording, p, there, is, awaits⟩ := tuning_of_run builds here auto target run exploring
  have recorded := recording.tick summary
  have complete : manager'.phase = .complete := by
    unfold tick at completes
    cases now : manager.phase with
    | failed => exact absurd now recording.goes
    | baseline startTick | stepResponse stepTick baselineRate stepRate =>
      simp only [now] at completes
      split at completes <;> cases completes <;> rfl
    | complete =>
      simp only [now] at completes
      cases completes
      rfl
  rw [completes] at recorded
  -- its own entry, and the one it finds
  rw [← recorded.keys, getElem?_map] at entry
  obtain ⟨own, second, key⟩ := Option.map_eq_some_iff.mp entry
  obtain ⟨rfl, targetValue⟩ := Prod.mk.inj key
  obtain ⟨idx, x, found, first, sameMetric, looked⟩ := first_of_metric
    ⟨own, mem_of_getElem? second, rfl⟩
  rw [recorded.keys] at looked
  have same := recorded.same x (mem_of_getElem? first) own (mem_of_getElem? second)
    sameMetric
  have given := computeGainsFor_eq first
  have due := computeGainsFor_eq second
  -- the window that ends the experiment gives a setpoint that waits its gains, and they stay
  obtain ⟨q, there', has⟩ : ∃ q, a'.constraints[i]? = some (.inr q) ∧
      q.HasGains (p.gainsFrom manager') := by
    have told : (a.finishExploration (builtParts scale) now manager').constraints[i]? =
        some (.inr (p.onExplorationComplete manager')) := by
      rw [constraints_finishExploration, getElem?_map, there]
      rfl
    have tick := tick_of_update taken
    cases tick with
    | active phase | waiting phase | warmed phase => cases exploring.symm.trans phase
    | exploring phase ticked | aborted phase ticked =>
      cases exploring.symm.trans phase
      cases completes.symm.trans ticked
    | explored phase ticked next =>
      cases exploring.symm.trans phase
      cases completes.symm.trans ticked
      obtain ⟨c, there', keeps⟩ := kept_of_tick ticksKeep_gains next
        (fun m => (finishExploration_spec _ _ _ _).2.1 m) told
      obtain ⟨q, rfl, same⟩ := setpoint_of_alike keeps
      obtain ⟨kp, same⟩ := Prod.mk.inj same
      obtain ⟨ki, kd⟩ := Prod.mk.inj same
      rw [onExplorationComplete, if_pos awaits] at kp ki kd
      exact ⟨q, there', kp, ki, kd⟩
  rw [gainsFrom, is, found, complete] at has
  dsimp only at has
  rw [given, Option.getD_some] at has
  refine ⟨q, own, _, there', second, target, targetValue, due, ?_⟩
  rw [hasGains_iff first second same given due has, targetValue]
  refine or_congr_right ⟨fun typical => ⟨_, looked, typical⟩, ?_⟩
  rintro ⟨t, looked', typical⟩
  obtain rfl := Option.some.inj (looked.symm.trans looked')
  exact typical

/-- A setpoint on the 99th percentile with automatic gains. -/
def tunedLatency (id : String) (target : ℚ) : ConstraintConfig :=
  .setpoint ⟨id, .internal .latencyP99, some .none, target, .auto 3000000000 (3 / 10), 1 / 2⟩

/-- Two of them. -/
def tunesTwo (target target' : ℚ) : AdaptiveConfig where
  bounds := ⟨10, 10000⟩
  warmup := none
  initialRps := some 100
  constraints := [tunedLatency "first" target, tunedLatency "second" target']
  increase := none
  cooldown := none
  floor := none
  rateChangeLimits := none

def latencyOf (p99Ms : Nat) : MetricsSummary :=
  { emptyWindow with totalRequests := 100, latencyP99Ns := p99Ms * 1000000 }

/-- 10 ms before the step and 20 ms after it; the next window completes the experiment. -/
def stepWindows : List ArbiterCall :=
  [.update 1 (latencyOf 10), .update 2 (latencyOf 10), .update 3 (latencyOf 10),
    .update 4 (latencyOf 20), .update 5 (latencyOf 20)]

/-- The arbiter after the experiment, and the experiment. -/
def afterExperiment (config : AdaptiveConfig) :
    Option (Arbiter AnyConstraint Unit × ExplorationManager) :=
  (buildArbiterConfig config 1000000000 60000000000).bind fun built =>
    (exec (call (builtParts .hyperbolic)) (new built 0) stepWindows).bind fun a =>
      a.experiment.bind fun manager =>
        if (manager.tick (latencyOf 20)).1 = none then
          (a.update (builtParts .hyperbolic) 6 (latencyOf 20)).map fun next =>
            (next.1, (manager.tick (latencyOf 20)).2)
        else none

/-- With the same target the second setpoint has the gains of its own entry. -/
theorem same_target_same_gains :
    ∃ a manager q gains, afterExperiment (tunesTwo 100 100) = some (a, manager) ∧
      a.constraints[1]? = some (.inr q) ∧ manager.computeGainsFor 1 = some gains ∧
      q.HasGains gains := by
  obtain ⟨⟨a', manager'⟩, after⟩ : ∃ x, afterExperiment (tunesTwo 100 100) = some x :=
    Option.isSome_iff_exists.mp (by decide +kernel)
  obtain ⟨built, builds, rest⟩ := Option.bind_eq_some_iff.mp after
  obtain ⟨a, run, rest⟩ := Option.bind_eq_some_iff.mp rest
  obtain ⟨manager, experiment, rest⟩ := Option.bind_eq_some_iff.mp rest
  have exploring := exploration_of_experiment experiment
  split at rest
  swap
  · cases rest
  rename_i last
  obtain ⟨⟨next, decision⟩, taken, same⟩ := Option.map_eq_some_iff.mp rest
  cases same
  have completes : manager.tick (latencyOf 20) = (none, _) := Prod.ext last rfl
  have second : (tunesTwo 100 100).constraints[1]? =
      some (tunedLatency "second" 100) := rfl
  obtain ⟨q, own, gains, there, -, target, -, due, has⟩ :=
    auto_tuned_gains builds second rfl run exploring completes taken
  have metric : own.metric = .latencyP99 := (Option.some.inj target).symm
  refine ⟨_, _, q, gains, after, there, due, has.mpr (.inr ⟨100, ?_, rfl⟩)⟩
  rw [metric]
  decide +kernel

/-- The proportional gain of the second constraint, and the one of its own entry. -/
def secondGains (config : AdaptiveConfig) : Option (ℚ × ℚ) :=
  (afterExperiment config).bind fun after =>
    match (after.1.constraints[1]? : Option AnyConstraint), after.2.computeGainsFor 1 with
    | some (.inr q), some gains => some (q.kp, gains.kp)
    | _, _ => none

/-- A setpoint of 500 after one of 100 on the same metric gets the gains for 100, five times its
own. -/
theorem second_target_ignored :
    ∃ a manager q gains, afterExperiment (tunesTwo 100 500) = some (a, manager) ∧
      a.constraints[1]? = some (.inr q) ∧ manager.computeGainsFor 1 = some gains ∧
      q.kp = 9 / 200 ∧ gains.kp = 9 / 1000 := by
  have values : secondGains (tunesTwo 100 500) = some (9 / 200, 9 / 1000) := by decide +kernel
  obtain ⟨⟨a, manager⟩, after, values⟩ := Option.bind_eq_some_iff.mp values
  split at values
  · rename_i q gains there due
    obtain ⟨kp, own⟩ := Prod.mk.inj (Option.some.inj values)
    exact ⟨a, manager, q, gains, after, there, due, kp, own⟩
  · cases values

end Arbiter

end Netanvil.Core
