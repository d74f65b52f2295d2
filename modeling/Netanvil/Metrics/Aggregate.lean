/-
# Merging per-core snapshots

A worker's snapshot covers the time since its previous one. The coordinator merges snapshots
into two aggregates: one it resets every tick, and one for the whole test. A histogram is what
was recorded in it, in no order; how the library picks a quantile out of that is a parameter.
A hash map of a snapshot is the list of its entries, in the order a merge visits them.
-/
import Netanvil.Types.Health
import Netanvil.Types.Metrics
import Mathlib.Data.Finmap

namespace Netanvil.Metrics

open Netanvil.Types List

abbrev Histogram := Multiset Nat

/-- Values of one numeric response signal. -/
structure ResponseSignalAccumulator where
  sum : ℚ
  count : Nat
  max : ℚ
  last : ℚ

def ResponseSignalAccumulator.zero : ResponseSignalAccumulator := ⟨0, 0, 0, 0⟩

inductive SignalAggregation where
  | mean
  | max
  | last

structure ResponseSignalConfig where
  header : String
  signalName : Option String
  aggregation : SignalAggregation

/-- The name in the summary; the header's unless another is set. -/
def ResponseSignalConfig.name (config : ResponseSignalConfig) : String :=
  config.signalName.getD config.header

structure MetricsSnapshot where
  latencyHistogram : Histogram
  totalRequests : Nat
  totalErrors : Nat
  bytesSent : Nat
  bytesReceived : Nat
  windowStart : Nat
  windowEnd : Nat
  /-- From the due time to the timer's send. -/
  timerLag : DelayStats
  /-- From the timer's send to the worker's receive. -/
  channelTransit : DelayStats
  /-- From the worker's receive to the start of execution. -/
  dispatchGap : DelayStats
  /-- From the due time to the start of execution. -/
  totalDelay : DelayStats
  totalDelayCountOver1ms : Nat
  headerValueCounts : List (String × List (String × Nat))
  responseSizeHistogram : Histogram
  md5Mismatches : Nat
  responseSignals : List (String × ResponseSignalAccumulator)
  cpuAffinity : CpuAffinityCounters
  tcpHealth : TcpHealthCounters
  packets : PacketCounterDeltas
  timeoutCount : Nat
  inFlightDrops : Nat
  inFlightCount : Nat
  inFlightCapacity : Nat

structure AggregateMetrics where
  histogram : Histogram
  sizeHistogram : Histogram
  totalRequests : Nat
  totalErrors : Nat
  bytesSent : Nat
  bytesReceived : Nat
  windowStart : Option Nat
  windowEnd : Option Nat
  sourceCount : Nat
  timerLag : DelayStats
  channelTransit : DelayStats
  dispatchGap : DelayStats
  totalDelay : DelayStats
  totalDelayCountOver1ms : Nat
  headerValueCounts : Finmap fun _ : String => Finmap fun _ : String => Nat
  md5Mismatches : Nat
  responseSignals : Finmap fun _ : String => ResponseSignalAccumulator
  signalConfigs : List ResponseSignalConfig
  cpuAffinity : CpuAffinityCounters
  tcpHealth : TcpHealthCounters
  packets : PacketCounterDeltas
  timeoutCount : Nat
  inFlightDrops : Nat
  inFlightCount : Nat
  inFlightCapacity : Nat

namespace AggregateMetrics

def new : AggregateMetrics where
  histogram := 0
  sizeHistogram := 0
  totalRequests := 0
  totalErrors := 0
  bytesSent := 0
  bytesReceived := 0
  windowStart := none
  windowEnd := none
  sourceCount := 0
  timerLag := 0
  channelTransit := 0
  dispatchGap := 0
  totalDelay := 0
  totalDelayCountOver1ms := 0
  headerValueCounts := ∅
  md5Mismatches := 0
  responseSignals := ∅
  signalConfigs := []
  cpuAffinity := 0
  tcpHealth := 0
  packets := 0
  timeoutCount := 0
  inFlightDrops := 0
  inFlightCount := 0
  inFlightCapacity := 0

def mergeValue (values : Finmap fun _ : String => Nat) (entry : String × Nat) :
    Finmap fun _ : String => Nat :=
  values.insert entry.1 ((values.lookup entry.1).getD 0 + entry.2)

/-- Merge the value counts of one header. -/
def mergeHeader (counts : Finmap fun _ : String => Finmap fun _ : String => Nat)
    (entry : String × List (String × Nat)) :
    Finmap fun _ : String => Finmap fun _ : String => Nat :=
  counts.insert entry.1 (entry.2.foldl mergeValue ((counts.lookup entry.1).getD ∅))

/-- Merge one accumulator. A signal not seen before starts from zeros. -/
def mergeSignal (signals : Finmap fun _ : String => ResponseSignalAccumulator)
    (entry : String × ResponseSignalAccumulator) :
    Finmap fun _ : String => ResponseSignalAccumulator :=
  let old := (signals.lookup entry.1).getD .zero
  signals.insert entry.1
    { sum := old.sum + entry.2.sum
      count := old.count + entry.2.count
      max := if entry.2.max > old.max then entry.2.max else old.max
      last := entry.2.last }

def merge (a : AggregateMetrics) (snapshot : MetricsSnapshot) : AggregateMetrics where
  histogram := a.histogram + snapshot.latencyHistogram
  sizeHistogram := a.sizeHistogram + snapshot.responseSizeHistogram
  totalRequests := a.totalRequests + snapshot.totalRequests
  totalErrors := a.totalErrors + snapshot.totalErrors
  bytesSent := a.bytesSent + snapshot.bytesSent
  bytesReceived := a.bytesReceived + snapshot.bytesReceived
  windowStart := some (a.windowStart.elim snapshot.windowStart (min · snapshot.windowStart))
  windowEnd := some (a.windowEnd.elim snapshot.windowEnd (max · snapshot.windowEnd))
  sourceCount := a.sourceCount + 1
  timerLag := a.timerLag + snapshot.timerLag
  channelTransit := a.channelTransit + snapshot.channelTransit
  dispatchGap := a.dispatchGap + snapshot.dispatchGap
  totalDelay := a.totalDelay + snapshot.totalDelay
  totalDelayCountOver1ms := a.totalDelayCountOver1ms + snapshot.totalDelayCountOver1ms
  headerValueCounts := snapshot.headerValueCounts.foldl mergeHeader a.headerValueCounts
  md5Mismatches := a.md5Mismatches + snapshot.md5Mismatches
  responseSignals := snapshot.responseSignals.foldl mergeSignal a.responseSignals
  signalConfigs := a.signalConfigs
  cpuAffinity := a.cpuAffinity + snapshot.cpuAffinity
  tcpHealth := a.tcpHealth + snapshot.tcpHealth
  packets := a.packets + snapshot.packets
  timeoutCount := a.timeoutCount + snapshot.timeoutCount
  inFlightDrops := a.inFlightDrops + snapshot.inFlightDrops
  inFlightCount := a.inFlightCount + snapshot.inFlightCount
  inFlightCapacity := a.inFlightCapacity + snapshot.inFlightCapacity

/-- Back to empty; the signal configuration stays. -/
def reset (a : AggregateMetrics) : AggregateMetrics :=
  { new with signalConfigs := a.signalConfigs }

def computeResponseSignals (a : AggregateMetrics) : List (String × ℚ) :=
  a.signalConfigs.filterMap fun config =>
    match a.responseSignals.lookup config.name with
    | none => none
    | some acc =>
      if acc.count = 0 then none
      else
        match config.aggregation with
        | .mean => some (config.name, acc.sum / acc.count)
        | .max => some (config.name, acc.max)
        | .last => some (config.name, acc.last)

/-- One second without a snapshot. -/
def windowDuration (a : AggregateMetrics) : Nat :=
  match a.windowStart, a.windowEnd with
  | some start, some stop => stop - start
  | _, _ => 1000000000

def toSummary (valueAtQuantile : Histogram → ℚ → Nat) (a : AggregateMetrics) : MetricsSummary :=
  let secs : ℚ := max ((a.windowDuration : ℚ) / 1000000000) (1 / 1000)
  { totalRequests := a.totalRequests
    totalErrors := a.totalErrors
    errorRate := if a.totalRequests > 0 then a.totalErrors / a.totalRequests else 0
    requestRate := a.totalRequests / secs
    latencyP50Ns := valueAtQuantile a.histogram (1 / 2)
    latencyP90Ns := valueAtQuantile a.histogram (9 / 10)
    latencyP99Ns := valueAtQuantile a.histogram (99 / 100)
    windowDuration := a.windowDuration
    bytesSent := a.bytesSent
    bytesReceived := a.bytesReceived
    throughputSendBps := a.bytesSent / secs
    throughputRecvBps := a.bytesReceived / secs
    externalSignals := a.computeResponseSignals
    timeoutCount := a.timeoutCount
    inFlightDrops := a.inFlightDrops }

@[simp] theorem signalConfigs_foldl_merge (batch : List MetricsSnapshot) (a : AggregateMetrics) :
    (batch.foldl merge a).signalConfigs = a.signalConfigs := by
  induction batch generalizing a with
  | nil => rfl
  | cons s rest ih => rw [foldl_cons, ih, merge]

/-! ### Ratios for the final report -/

def cpuAffinityRatio (a : AggregateMetrics) : ℚ :=
  let total := a.cpuAffinity.hits + a.cpuAffinity.misses
  if total > 0 then a.cpuAffinity.hits / total else 0

def tcpRttMeanUs (a : AggregateMetrics) : ℚ :=
  if a.tcpHealth.rttCount > 0 then a.tcpHealth.rttSumUs / a.tcpHealth.rttCount else 0

/-- Retransmits for each sampled read. -/
def tcpRetransmitRatio (a : AggregateMetrics) : ℚ :=
  if a.tcpHealth.rttCount > 0 then a.tcpHealth.retransmits / a.tcpHealth.rttCount else 0

end AggregateMetrics

/-! ## Counters -/

def AggregateMetrics.counters (a : AggregateMetrics) : Counters :=
  ⟨a.totalRequests, a.totalErrors, a.timeoutCount⟩

def MetricsSnapshot.counters (s : MetricsSnapshot) : Counters :=
  ⟨s.totalRequests, s.totalErrors, s.timeoutCount⟩

namespace AggregateMetrics

@[simp] theorem counters_reset (a : AggregateMetrics) : a.reset.counters = 0 := rfl

/-- What adds up with every merge adds up over a batch. -/
theorem foldl_merge_of_adds {M : Type*} [AddMonoid M] {f : AggregateMetrics → M}
    {g : MetricsSnapshot → M} (adds : ∀ a s, f (a.merge s) = f a + g s)
    (batch : List MetricsSnapshot) (a : AggregateMetrics) :
    f (batch.foldl merge a) = f a + (batch.map g).sum := by
  induction batch generalizing a with
  | nil => simp
  | cons s rest ih => rw [foldl_cons, ih, adds, map_cons, sum_cons, add_assoc]

theorem counters_foldl_merge (batch : List MetricsSnapshot) (a : AggregateMetrics) :
    (batch.foldl merge a).counters = a.counters + (batch.map MetricsSnapshot.counters).sum :=
  foldl_merge_of_adds (fun _ _ => rfl) batch a

end AggregateMetrics

end Netanvil.Metrics
