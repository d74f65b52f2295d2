/-
# What a window's snapshot reports

A snapshot reports what its collector has observed since the snapshot before. The histogram has an
end: a latency beyond it is refused, and nothing is recorded in its place (`histogram_complete`).
-/
import Netanvil.Metrics.Homomorphism
import Mathlib.Algebra.Order.BigOperators.Group.List
import Mathlib.Algebra.Order.Group.Nat

namespace Netanvil.Metrics

open Netanvil.Types HdrMetricsCollector List AggregateMetrics Observation

/-! ## Windows -/

section

variable (text : TextFunctions) (config : CollectorConfig)

/-- A collector that has reported these windows, each at its instant. -/
def HdrMetricsCollector.afterWindows (start : Nat) (windows : List (List Observation × Nat)) :
    HdrMetricsCollector :=
  windows.foldl (fun c w => ((w.1.foldl (observe text config) c).snapshot w.2).2) (.new start)

/-- The snapshot of a window in which this was observed, as a worker sends it. -/
def ReportOf (os : List Observation) (x : MetricsSnapshot) : Prop :=
  ∃ start windows now drops count capacity,
    x = { ((os.foldl (observe text config)
        (.afterWindows text config start windows)).snapshot now).1 with
      inFlightDrops := drops
      inFlightCount := count
      inFlightCapacity := capacity }

variable {text config}

theorem afterWindows_empty (start : Nat) (windows : List (List Observation × Nat)) :
    (afterWindows text config start windows).stats = 0 ∧
      (afterWindows text config start windows).responseSignalAccumulators = [] := by
  refine List.foldlRecOn (motive := fun c : HdrMetricsCollector =>
    c.stats = 0 ∧ c.responseSignalAccumulators = []) windows _ ?_ ?_
  · exact ⟨stats_new start, rfl⟩
  · exact fun c _ w _ => ⟨(stats_snapshot _ w.2).2, rfl⟩

variable {os : List Observation} {x : MetricsSnapshot}

theorem ReportOf.stats (report : ReportOf text config os x) :
    x.stats = (os.map (worth text config)).sum := by
  obtain ⟨start, windows, now, drops, count, capacity, rfl⟩ := report
  show (os.foldl (observe text config) _).stats = _
  rw [stats_foldl_observe, (afterWindows_empty start windows).1, zero_add]

/-- What is read of the sum is the sum of what is read. -/
theorem ReportOf.reads {M : Type*} [AddCommMonoid M] (f : Stats →+ M)
    (report : ReportOf text config os x) :
    f x.stats = (os.map fun o => f (o.worth text config)).sum := by
  rw [report.stats, map_list_sum, map_map]
  rfl

/-- Merged snapshots add up to what was observed in their windows. -/
theorem stats_of_reports {windows : List (List Observation)} {snapshots : List MetricsSnapshot}
    (reports : List.Forall₂ (ReportOf text config) windows snapshots) (a : AggregateMetrics) :
    (snapshots.foldl .merge a).stats = a.stats + (windows.flatten.map (worth text config)).sum := by
  rw [foldl_merge_of_adds stats_merge]
  congr 1
  induction reports with
  | nil => rfl
  | cons report _ ih =>
    rw [map_cons, sum_cons, ih, report.stats, flatten_cons, map_append, sum_append]

/-- The results that are looked into: all but the timeouts. -/
def answers (os : List Observation) : List ExecutionResult :=
  os.filterMap fun
    | .result r => if isTimeout r then none else some r
    | _ => none

variable (text config)

/-- What a collector sends when its first window ends. -/
def snapshotOf (os : List Observation) : MetricsSnapshot :=
  ((os.foldl (observe text config) (.new 0)).snapshot 40).1

theorem report_snapshotOf (os : List Observation) :
    ReportOf text config os (snapshotOf text config os) :=
  ⟨0, [], 40, 0, 0, 0, rfl⟩

end

/-! ## The latency histogram -/

/-- The latencies that a result should leave in the histogram. -/
def Observation.samples : Observation → Histogram
  | .result r =>
    if isTimeout r then 0
    else if totalDelayNs r > 100000 then {r.total + totalDelayNs r, r.total}
    else {r.total}
  | _ => 0

def samples (os : List Observation) : Histogram := (os.map Observation.samples).sum

/-- Every result has its samples, and no fewer samples than results were waited for. -/
structure Complete (os : List Observation) (x : MetricsSnapshot) : Prop where
  samples : x.latencyHistogram = samples os
  count : x.totalRequests - x.timeoutCount ≤ x.latencyHistogram.card

variable {text : TextFunctions} {config : CollectorConfig} {o : Observation}
  {os : List Observation} {x : MetricsSnapshot}

/-- What is recorded is cut to the range. -/
theorem latencies_eq (o : Observation) :
    (o.worth text config).latencies =
      (o.samples.map (max · 1)).filter (· ≤ text.recordable maxLatency) := by
  cases o with
  | result r =>
    simp only [Observation.samples, Observation.worth, ofResult]
    split
    · rfl
    · simp only [ofResponse, recordLatency, Histogram.record]
      split_ifs <;> simp [*, Multiset.filter_singleton, Multiset.filter_cons_of_neg]
  | packets deltas | read incomingCpu workerCpu | tcpInfo info => rfl

theorem ReportOf.histogram (report : ReportOf text config os x) :
    x.latencyHistogram = ((samples os).map (max · 1)).filter (· ≤ text.recordable maxLatency) := by
  have sum : x.latencyHistogram = (os.map fun o => (o.worth text config).latencies).sum :=
    report.reads ⟨⟨Stats.latencies, rfl⟩, fun _ _ => rfl⟩
  rw [sum]
  clear sum report
  induction os with
  | nil => rfl
  | cons o os ih =>
    rw [map_cons, sum_cons, ih, latencies_eq, ← Multiset.filter_add, ← Multiset.map_add]
    rfl

/-- **The histogram of a window is complete exactly if no latency that should be in it is zero or
beyond its end.** -/
theorem histogram_complete (report : ReportOf text config os x) :
    Complete os x ↔ ∀ v ∈ samples os, 1 ≤ v ∧ v ≤ text.recordable maxLatency := by
  have requests : x.totalRequests = (os.map fun o => (o.worth text config).counters.requests).sum :=
    report.reads ⟨⟨fun a => a.counters.requests, rfl⟩, fun _ _ => rfl⟩
  have timeouts : x.timeoutCount = (os.map fun o => (o.worth text config).counters.timeouts).sum :=
    report.reads ⟨⟨fun a => a.counters.timeouts, rfl⟩, fun _ _ => rfl⟩
  constructor
  · intro complete v mem
    rw [← complete.samples, report.histogram, Multiset.mem_filter, Multiset.mem_map] at mem
    obtain ⟨⟨w, -, rfl⟩, high⟩ := mem
    exact ⟨le_max_right _ _, high⟩
  · intro inRange
    have same : x.latencyHistogram = samples os := by
      rw [report.histogram, Multiset.map_congr rfl fun v mem => max_eq_left (inRange v mem).1,
        Multiset.map_id', Multiset.filter_eq_self]
      exact fun v mem => (inRange v mem).2
    refine ⟨same, ?_⟩
    have cards : (samples os).card = (os.map fun o => o.samples.card).sum :=
      (map_list_sum Multiset.cardHom _).trans (by rw [map_map]; rfl)
    rw [same, requests, timeouts, cards, Nat.sub_le_iff_le_add', ← sum_map_add]
    refine sum_le_sum fun o _ => ?_
    cases o with
    | result result =>
      simp only [Observation.samples, Observation.worth, ofResult]
      split
      · exact le_rfl
      · split <;> simp [ofResponse]
    | packets deltas | read incomingCpu workerCpu | tcpInfo info => exact Nat.zero_le _

/-- A request that takes this long. -/
def takes (total : Nat) : Observation := .result { okResult with total := total }

theorem minute_recorded :
    Complete [takes 60000000000] (snapshotOf plainText plainConfig [takes 60000000000]) := by
  refine (histogram_complete (report_snapshotOf ..)).mpr fun v mem => ?_
  have minute : samples [takes 60000000000] = {maxLatency} := by decide +kernel
  rw [minute, Multiset.mem_singleton] at mem
  rw [mem]
  exact ⟨by decide, plainText.le_recordable _⟩

/-- One that takes 70 seconds leaves no sample. -/
theorem slow_request_unrecorded :
    (snapshotOf plainText plainConfig [takes 70000000000]).latencyHistogram = 0 ∧
      (snapshotOf plainText plainConfig [takes 70000000000]).totalRequests -
        (snapshotOf plainText plainConfig [takes 70000000000]).timeoutCount = 1 := by
  decide +kernel

end Netanvil.Metrics
