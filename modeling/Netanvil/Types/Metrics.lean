/-
# What a test reports about itself

`ProgressUpdate` is what a running test's coordinator emits each tick, `MetricsView`
what its agent serves, `RemoteMetrics` what the leader keeps of it, and
`MetricsSummary` what a rate controller is given.
-/
import Netanvil.Types.Node
import Mathlib.Algebra.BigOperators.Group.List.Basic
import Mathlib.Algebra.Field.Rat

namespace Netanvil.Types

inductive SaturationAssessment where
  | healthy
  | clientSaturated
  | serverSaturated
  | bothSaturated
  deriving DecidableEq

structure SaturationInfo where
  backpressureDrops : Nat
  backpressureRatio : ℚ
  timerLagMeanNs : Nat
  timerLagMaxNs : Nat
  channelTransitMeanNs : Nat
  channelTransitMaxNs : Nat
  dispatchGapMeanNs : Nat
  dispatchGapMaxNs : Nat
  schedulingDelayMeanNs : Nat
  schedulingDelayMaxNs : Nat
  delayedRequestRatio : ℚ
  rateAchievement : ℚ
  cpuAffinityRatio : ℚ
  tcpRttMeanMs : ℚ
  tcpRttMaxMs : ℚ
  tcpRetransmitRatio : ℚ
  assessment : SaturationAssessment
  inFlightDrops : Nat
  inFlightCount : Nat
  inFlightCapacity : Nat
  deriving DecidableEq

/-- `SaturationInfo::default()`. -/
def SaturationInfo.zero : SaturationInfo where
  backpressureDrops := 0
  backpressureRatio := 0
  timerLagMeanNs := 0
  timerLagMaxNs := 0
  channelTransitMeanNs := 0
  channelTransitMaxNs := 0
  dispatchGapMeanNs := 0
  dispatchGapMaxNs := 0
  schedulingDelayMeanNs := 0
  schedulingDelayMaxNs := 0
  delayedRequestRatio := 0
  rateAchievement := 0
  cpuAffinityRatio := 0
  tcpRttMeanMs := 0
  tcpRttMaxMs := 0
  tcpRetransmitRatio := 0
  assessment := .healthy
  inFlightDrops := 0
  inFlightCount := 0
  inFlightCapacity := 0

/-- Summary of one window, for the rate controller. -/
structure MetricsSummary where
  totalRequests : Nat
  totalErrors : Nat
  errorRate : ℚ
  requestRate : ℚ
  latencyP50Ns : Nat
  latencyP90Ns : Nat
  latencyP99Ns : Nat
  windowDuration : Nat
  /-- Bytes sent during this window. -/
  bytesSent : Nat
  bytesReceived : Nat
  throughputSendBps : ℚ
  throughputRecvBps : ℚ
  externalSignals : List (String × ℚ)
  /-- Requests that timed out in this window. -/
  timeoutCount : Nat
  inFlightDrops : Nat
  deriving DecidableEq

structure RateDecision where
  targetRps : ℚ
  deriving DecidableEq

/-- Snapshot of a running test, emitted each tick. -/
structure ProgressUpdate where
  elapsed : Nat
  remaining : Nat
  currentRps : ℚ
  targetRps : ℚ
  totalRequests : Nat
  totalErrors : Nat
  window : MetricsSummary
  latencyBuckets : List (ℚ × Nat)
  saturation : SaturationInfo
  totalBytesSent : Nat
  totalBytesReceived : Nat
  packetsSent : Nat
  packetsReceived : Nat
  packetsLost : Nat
  totalTimeouts : Nat

/-- What `GET /metrics` serves. -/
structure MetricsView where
  currentRps : ℚ
  targetRps : ℚ
  totalRequests : Nat
  totalErrors : Nat
  errorRate : ℚ
  latencyP50Ms : ℚ
  latencyP90Ms : ℚ
  latencyP99Ms : ℚ
  elapsedSecs : ℚ
  remainingSecs : ℚ
  bytesSent : Nat
  bytesReceived : Nat
  throughputSendMbps : ℚ
  throughputRecvMbps : ℚ
  latencyBuckets : List (ℚ × Nat)
  saturation : SaturationInfo
  packetsSent : Nat
  packetsReceived : Nat
  packetsLost : Nat
  timeoutCount : Nat

/-- Metrics of one agent, as the leader keeps them. -/
structure RemoteMetrics where
  nodeId : NodeId
  currentRps : ℚ
  targetRps : ℚ
  totalRequests : Nat
  totalErrors : Nat
  errorRate : ℚ
  latencyP50Ms : ℚ
  latencyP90Ms : ℚ
  latencyP99Ms : ℚ
  timeoutCount : Nat
  inFlightDrops : Nat
  inFlightCount : Nat
  inFlightCapacity : Nat
  deriving DecidableEq

/-- Result of a finished test; latencies, rates and byte counts are left out. -/
structure TestResult where
  totalRequests : Nat
  totalErrors : Nat
  deriving DecidableEq

/-! ## Windows -/

/-- The counters a window is judged by. -/
@[ext] structure Counters where
  requests : Nat
  errors : Nat
  timeouts : Nat
  deriving DecidableEq

namespace Counters

instance : Add Counters :=
  ⟨fun a b => ⟨a.requests + b.requests, a.errors + b.errors, a.timeouts + b.timeouts⟩⟩

instance : Zero Counters := ⟨⟨0, 0, 0⟩⟩

@[simp] theorem counters_add (a b : Counters) : (a + b).requests = a.requests + b.requests ∧
    (a + b).errors = a.errors + b.errors ∧ (a + b).timeouts = a.timeouts + b.timeouts :=
  ⟨rfl, rfl, rfl⟩

@[simp] theorem counters_zero : (0 : Counters).requests = 0 ∧ (0 : Counters).errors = 0 ∧
    (0 : Counters).timeouts = 0 :=
  ⟨rfl, rfl, rfl⟩

instance : AddCommMonoid Counters where
  add_assoc a b c := by ext <;> simp [Nat.add_assoc]
  zero_add a := by ext <;> simp
  add_zero a := by ext <;> simp
  add_comm a b := by ext <;> simp [Nat.add_comm]
  nsmul := nsmulRec

theorem sum_map {α : Type} (f : α → Counters) (xs : List α) :
    (xs.map f).sum = ⟨(xs.map fun x => (f x).requests).sum, (xs.map fun x => (f x).errors).sum,
      (xs.map fun x => (f x).timeouts).sum⟩ := by
  induction xs with
  | nil => rfl
  | cons x rest ih =>
    simp only [List.map_cons, List.sum_cons, ih]
    rfl

end Counters

def MetricsSummary.counters (s : MetricsSummary) : Counters :=
  ⟨s.totalRequests, s.totalErrors, s.timeoutCount⟩

def RemoteMetrics.counters (m : RemoteMetrics) : Counters :=
  ⟨m.totalRequests, m.totalErrors, m.timeoutCount⟩

/-- The summary shows the window between two readings of cumulative counters: the
increase of each counter, and the error rate of that increase. -/
structure IsWindow (before now : Counters) (s : MetricsSummary) : Prop where
  increase : before + s.counters = now
  errorRate : s.errorRate =
    ((now.errors : ℚ) - before.errors) / ((now.requests : ℚ) - before.requests)

/-- An error rate that guards against an empty window divides all the same. -/
theorem IsWindow.of_guarded {before now : Counters} {s : MetricsSummary}
    (increase : before + s.counters = now)
    (errorRate : s.errorRate =
      if s.totalRequests > 0 then (s.totalErrors : ℚ) / s.totalRequests else 0) :
    IsWindow before now s := by
  refine ⟨increase, ?_⟩
  have errors : (now.errors : ℚ) - before.errors = s.totalErrors := by
    rw [← increase]
    simp [MetricsSummary.counters]
  have requests : (now.requests : ℚ) - before.requests = s.totalRequests := by
    rw [← increase]
    simp [MetricsSummary.counters]
  rw [errors, requests, errorRate]
  split
  · rfl
  · rename_i empty
    have : s.totalRequests = 0 := by omega
    simp [this]

end Netanvil.Types
