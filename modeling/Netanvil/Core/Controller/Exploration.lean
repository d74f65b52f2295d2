/-
# The step experiment before control begins

Before constraints can be tuned the rate is held at half its initial value for a while, then
stepped to it, and every metric is watched. A tick of the experiment records what it sees and
says what rate comes next, or that the experiment is over.
-/
import Netanvil.Types.Metrics

namespace Netanvil.Core

open Netanvil.Types

inductive TargetMetric where
  | latencyP50
  | latencyP90
  | latencyP99
  | errorRate
  | throughputSend
  | throughputRecv
  | external (name : String)
  deriving DecidableEq

/-- Latencies in milliseconds, rates of errors in percent, throughput in Mbps. -/
def extractMetric (metric : TargetMetric) (summary : MetricsSummary) : ℚ :=
  match metric with
  | .latencyP50 => summary.latencyP50Ns / 1000000
  | .latencyP90 => summary.latencyP90Ns / 1000000
  | .latencyP99 => summary.latencyP99Ns / 1000000
  | .errorRate => summary.errorRate * 100
  | .throughputSend => summary.throughputSendBps / 125000
  | .throughputRecv => summary.throughputRecvBps / 125000
  | .external name => (summary.externalSignals.lookup name).getD 0

/-- What is recorded of one metric. -/
structure MetricExploration where
  metric : TargetMetric
  targetValue : ℚ
  baselineMeasurements : List ℚ
  /-- Each with its ticks since the step. -/
  stepMeasurements : List (Nat × ℚ)
  /-- When the metric first moved. -/
  deadTimeDetected : Option Nat

namespace MetricExploration

def new (metric : TargetMetric) (targetValue : ℚ) : MetricExploration :=
  ⟨metric, targetValue, [], [], none⟩

def baselineMean (m : MetricExploration) : ℚ :=
  if m.baselineMeasurements.isEmpty then 0
  else m.baselineMeasurements.sum / m.baselineMeasurements.length

def noiseThreshold (m : MetricExploration) : ℚ := max (m.baselineMean * (5 / 100)) 1

def recordBaseline (m : MetricExploration) (value : ℚ) : MetricExploration :=
  { m with baselineMeasurements := m.baselineMeasurements ++ [value] }

def recordStep (m : MetricExploration) (offset : Nat) (value : ℚ) : MetricExploration :=
  { m with
    stepMeasurements := m.stepMeasurements ++ [(offset, value)]
    deadTimeDetected :=
      m.deadTimeDetected.or
        (if |value - m.baselineMean| > m.noiseThreshold then some offset else none) }

/-- The last three values are within the noise. -/
def settled (m : MetricExploration) : Bool :=
  match (m.stepMeasurements.reverse.take 3).map (·.2) with
  | [a, b, c] => max a (max b c) - min a (min b c) < m.noiseThreshold
  | _ => false

end MetricExploration

inductive ExplorationPhase where
  | baseline (startTick : Nat)
  | stepResponse (stepTick : Nat) (baselineRate stepRate : ℚ)
  | complete
  | failed

/-- Durations are nanoseconds. -/
structure ExplorationManager where
  phase : ExplorationPhase
  metrics : List MetricExploration
  tickCount : Nat
  controlInterval : Nat
  autotuneDuration : Nat
  initialRps : ℚ

namespace ExplorationManager

def new (metrics : List MetricExploration) (initialRps : ℚ)
    (autotuneDuration controlInterval : Nat) : ExplorationManager :=
  ⟨.baseline 0, metrics, 0, controlInterval, autotuneDuration, initialRps⟩

/-- As a `u64`, which it is made after the `max`. -/
def intervalMillis (m : ExplorationManager) : Nat := max (m.controlInterval / 1000000) 1 % 2 ^ 64

def baselineDurationTicks (m : ExplorationManager) : Nat := max (500 / m.intervalMillis) 3

def stepDurationTicks (m : ExplorationManager) : Nat :=
  let stepMs := max (m.autotuneDuration / 1000000 % 2 ^ 64 - 500) 1000
  max (stepMs / m.intervalMillis % 2 ^ 32) 5

/-- The rate for this tick; none if the experiment is over. -/
def tick (m : ExplorationManager) (summary : MetricsSummary) : Option ℚ × ExplorationManager :=
  let m := { m with tickCount := m.tickCount + 1 }
  match m.phase with
  | .baseline startTick =>
    let m := { m with
      metrics := m.metrics.map fun x => x.recordBaseline (extractMetric x.metric summary) }
    if m.baselineDurationTicks ≤ m.tickCount - startTick then
      (some m.initialRps,
        { m with phase := .stepResponse m.tickCount (m.initialRps / 2) m.initialRps })
    else (some (m.initialRps / 2), m)
  | .stepResponse stepTick _ _ =>
    let elapsed := m.tickCount - stepTick
    let m := { m with
      metrics := m.metrics.map fun x => x.recordStep elapsed (extractMetric x.metric summary) }
    if m.stepDurationTicks ≤ elapsed || m.metrics.all (·.settled) then
      (none, { m with phase := .complete })
    else (some m.initialRps, m)
  | .complete => (none, m)
  | .failed => (none, m)

/-- A tick that is not the last measures the baseline, or the response to the step. -/
theorem tick_cases {m m' : ExplorationManager} {summary : MetricsSummary} {rate : ℚ}
    (ticked : m.tick summary = (some rate, m')) :
    (∃ startTick metrics, m.phase = .baseline startTick ∧
      metrics = m.metrics.map (fun x => x.recordBaseline (extractMetric x.metric summary)) ∧
      ((rate = m.initialRps ∧
        m' = { m with
          phase := .stepResponse (m.tickCount + 1) (m.initialRps / 2) m.initialRps
          metrics := metrics
          tickCount := m.tickCount + 1 }) ∨
      (rate = m.initialRps / 2 ∧ m.tickCount + 1 - startTick < m.baselineDurationTicks ∧
        m' = { m with metrics := metrics, tickCount := m.tickCount + 1 }))) ∨
    ∃ stepTick baselineRate stepRate metrics,
      m.phase = .stepResponse stepTick baselineRate stepRate ∧
      metrics = m.metrics.map (fun x =>
        x.recordStep (m.tickCount + 1 - stepTick) (extractMetric x.metric summary)) ∧
      rate = m.initialRps ∧ m.tickCount + 1 - stepTick < m.stepDurationTicks ∧
      m' = { m with metrics := metrics, tickCount := m.tickCount + 1 } := by
  simp only [tick] at ticked
  cases here : m.phase with
  | baseline startTick =>
    simp only [here] at ticked
    refine .inl ⟨startTick, _, rfl, rfl, ?_⟩
    split at ticked
    · cases ticked
      exact .inl ⟨rfl, rfl⟩
    · rename_i goesOn
      cases ticked
      exact .inr ⟨rfl, not_le.mp goesOn, rfl⟩
  | stepResponse stepTick baselineRate stepRate =>
    simp only [here] at ticked
    refine .inr ⟨stepTick, baselineRate, stepRate, _, rfl, rfl, ?_⟩
    split at ticked
    · cases ticked
    · rename_i goesOn
      cases ticked
      rw [Bool.or_eq_true, not_or, decide_eq_true_eq] at goesOn
      exact ⟨rfl, not_le.mp goesOn.1, rfl⟩
  | complete | failed =>
    simp only [here] at ticked
    cases ticked

end ExplorationManager

end Netanvil.Core
