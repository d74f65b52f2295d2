/-
# What is reported of requests in flight

A snapshot carries two gauges, the requests in flight on its core and the core's capacity, and
one delta, the drops since the snapshot before. All three are merged by adding. A sum over a
tick's snapshots is a sum over cores if there is one snapshot for each (`in_flight_reported`).
Workers report twice as often as the coordinator ticks.
-/
import Netanvil.Core.Accounting

namespace Netanvil.Core

open Netanvil.Types Metrics Theory.Trace AggregateMetrics Option Fin

/-- The report of a tick whose merged snapshots are `tick`. `last` and `current` are the
timer's counters, at the tick before and now. -/
def computeSaturation (tick : AggregateMetrics) (summary : MetricsSummary)
    (targetRps smoothedRps : ℚ) (last current : TimerStats) : SaturationInfo :=
  let tickDispatched := current.dispatched - last.dispatched
  let tickDropped := current.dropped - last.dropped
  let totalAttempted := tickDispatched + tickDropped
  let backpressureRatio : ℚ := if totalAttempted > 0 then tickDropped / totalAttempted else 0
  let mean (delay : DelayStats) : Nat :=
    if summary.totalRequests > 0 then delay.sumNs / summary.totalRequests else 0
  let delayedRequestRatio : ℚ :=
    if summary.totalRequests > 0 then tick.totalDelayCountOver1ms / summary.totalRequests else 0
  let rateAchievement : ℚ := if targetRps > 0 then min (smoothedRps / targetRps) 2 else 1
  -- an empty window is no data yet
  let rateUnderachieving := summary.totalRequests > 0 ∧ rateAchievement < 9 / 10
  let clientSignals := backpressureRatio > 1 / 100 ∨ mean tick.totalDelay > 5000000 ∨
    delayedRequestRatio > 1 / 10 ∨ rateUnderachieving
  let serverSignals := summary.errorRate > 5 / 100 ∨ summary.latencyP99Ns > 5000000000
  { backpressureDrops := tickDropped
    backpressureRatio := backpressureRatio
    timerLagMeanNs := mean tick.timerLag
    timerLagMaxNs := tick.timerLag.maxNs
    channelTransitMeanNs := mean tick.channelTransit
    channelTransitMaxNs := tick.channelTransit.maxNs
    dispatchGapMeanNs := mean tick.dispatchGap
    dispatchGapMaxNs := tick.dispatchGap.maxNs
    schedulingDelayMeanNs := mean tick.totalDelay
    schedulingDelayMaxNs := tick.totalDelay.maxNs
    delayedRequestRatio := delayedRequestRatio
    rateAchievement := rateAchievement
    cpuAffinityRatio := tick.cpuAffinityRatio
    tcpRttMeanMs := tick.tcpRttMeanUs / 1000
    tcpRttMaxMs := tick.tcpHealth.rttMaxUs / 1000
    tcpRetransmitRatio := tick.tcpRetransmitRatio
    assessment :=
      match decide clientSignals, decide serverSignals with
      | false, false => .healthy
      | true, false => .clientSaturated
      | false, true => .serverSaturated
      | true, true => .bothSaturated
    inFlightDrops := tick.inFlightDrops
    inFlightCount := tick.inFlightCount
    inFlightCapacity := tick.inFlightCapacity }

namespace Session

variable {n : Nat} {S : Type} {setup : SessionSetup S} {before : List (DrainLog n)} {d : DrainLog n}

/-! ## The most recent snapshots -/

/-- A gauge in the most recent snapshot these drains have of a core; none reads 0. -/
def latest (gauge : MetricsSnapshot → Nat) (drains : List (DrainLog n)) (i : Fin n) : Nat :=
  ((drains.flatMap (·.batch i)).getLast?.map gauge).getD 0

/-- One snapshot from each core that has sent any, in drain `d` or before it. -/
def OneEach (before : List (DrainLog n)) (batch : Batch n) : Prop :=
  ∀ i, before.flatMap (·.batch i) ++ batch i ≠ [] → (batch i).length = 1

/-- The report after drain `d` shows the sums of the most recent gauges. -/
def ReportsInFlight (before : List (DrainLog n)) (d : DrainLog n) : Prop :=
  ∀ (summary : MetricsSummary) (targetRps smoothedRps : ℚ) (last current : TimerStats),
    let report := computeSaturation d.tickAggregate summary targetRps smoothedRps last current
    report.inFlightCount = ∑ i, latest (·.inFlightCount) (before ++ [d]) i ∧
      report.inFlightCapacity = ∑ i, latest (·.inFlightCapacity) (before ++ [d]) i

theorem sum_eq_latest (gauge : MetricsSnapshot → Nat) (one : OneEach before d.batch) (i : Fin n) :
    ((d.batch i).map gauge).sum = latest gauge (before ++ [d]) i := by
  have seen : (before ++ [d]).flatMap (·.batch i) =
      before.flatMap (·.batch i) ++ d.batch i := by simp
  rw [latest, seen]
  by_cases none : before.flatMap (·.batch i) ++ d.batch i = []
  · rw [none, (List.append_eq_nil_iff.mp none).2]
    rfl
  · obtain ⟨x, only⟩ := List.length_eq_one_iff.mp (one i none)
    simp [only]

/-- What adds up with every merge shows the most recent gauges. -/
theorem merged_eq_latest (shown : AggregateMetrics → Nat) {gauge : MetricsSnapshot → Nat}
    (adds : ∀ a x, shown (a.merge x) = shown a + gauge x) (empty : shown (emptyAggregate setup) = 0)
    (merged : d.tickAggregate = d.batch.all.foldl .merge (emptyAggregate setup))
    (one : OneEach before d.batch) :
    shown d.tickAggregate = ∑ i, latest gauge (before ++ [d]) i := by
  rw [merged, foldl_merge_of_adds adds, empty, zero_add, sum_all]
  simp only [sum_eq_latest _ one]

/-! ## Runs -/

/-- A tick ends with one snapshot from each core that has sent any. -/
def EndsWithOneEach (s : Session n S) : SessionEvent n → Prop
  | .endTick _ _ => OneEach s.drains s.inHand
  | _ => True

/-- A step logs at most one drain, and that of a tick as the tick ends. -/
theorem drains_step {s s' : Session n S} {event : SessionEvent n}
    (taken : step setup s event = some s') :
    s'.drains = s.drains ∨ ∃ d, s'.drains = s.drains ++ [d] ∧ (d.drain.isTick = true →
      d.batch = s.inHand ∧ ∃ polled pushed, event = .endTick polled pushed) := by
  cases event with
  | endTick polled pushed =>
    simp only [step] at taken
    split at taken
    · rename_i here
      obtain ⟨-, taken⟩ := ite_none_left_eq_some.mp taken
      cases taken
      exact .inr ⟨_, rfl, fun _ => ⟨(inHand_of_draining here).symm, polled, pushed, rfl⟩⟩
    · cases taken
  | endDrain | report stats =>
    simp only [step] at taken
    split at taken
    · obtain ⟨-, taken⟩ := ite_none_left_eq_some.mp taken
      cases taken
      exact .inr ⟨_, rfl, by simp [Drain.isTick]⟩
    · cases taken
  | elapse | workerEnds | timerEnds =>
    cases taken
    exact .inl rfl
  | send i x =>
    obtain ⟨-, taken⟩ := ite_none_right_eq_some.mp taken
    cases taken
    exact .inl rfl
  | tryRecv =>
    cases step_moves taken with
    | finds | takes => exact .inl rfl
    | _ => contradiction
  | beginTick | check | beginDrain | join =>
    left
    simp only [step] at taken
    split at taken
    · split at taken <;> first | (obtain rfl := some.inj taken; rfl) | cases taken
    · cases taken

/-- **Where every tick ends with one snapshot from each core, every tick reports the most
recent gauges; and the final report is right about drops exactly if there were none.** -/
theorem in_flight_reported {events : List (SessionEvent n)} {s : Session n S}
    (run : exec (step setup) (start setup) events = some s)
    (allowed : Allowed (step setup) EndsWithOneEach (start setup) events) :
    Along (fun before d => d.drain.isTick = true → ReportsInFlight before d) s.drains ∧
      ∀ result, s.phase = .returned result →
        (result.saturation.inFlightDrops =
            ∑ i, ((s.workers i).sent.map (·.inFlightDrops)).sum ↔
          ∀ i, ∀ x ∈ (s.workers i).sent, x.inFlightDrops = 0) := by
  refine ⟨?_, fun result returned => ?_⟩
  · intro before d after drains isTick summary targetRps smoothedRps last current
    have along := allowed.invariant (I := fun s : Session n S =>
      Along (fun before d => d.drain.isTick = true → OneEach before d.batch) s.drains)
      (along_nil _) (by
        intro s event s' along ok taken
        rcases drains_step taken with same | ⟨d, logged, ends⟩
        · rwa [same]
        · rw [logged]
          refine along_snoc.mpr ⟨along, fun isTick => ?_⟩
          obtain ⟨batch, polled, pushed, rfl⟩ := ends isTick
          rw [batch]
          exact ok) run
    have one := along before d after drains isTick
    have merged := (books_of_run run).ticks d (by rw [drains]; simp) isTick
    exact ⟨merged_eq_latest (·.inFlightCount) (fun _ _ => rfl) rfl merged one,
      merged_eq_latest (·.inFlightCapacity) (fun _ _ => rfl) rfl merged one⟩
  · obtain ⟨stats, elapsed, rfl⟩ := (atEnd_of_run run).readOff returned
    show 0 = _ ↔ _
    rw [eq_comm, Finset.sum_eq_zero_iff]
    simp [List.sum_eq_zero_iff]

/-! ## Two workers, and a worker that reports twice -/

/-- A snapshot with these many requests in flight, of 8. -/
def inFlight (count drops : Nat) : MetricsSnapshot :=
  { oneRequest with inFlightCount := count, inFlightCapacity := 8, inFlightDrops := drops }

/-- Up to the end of a tick that has one snapshot from each worker. -/
def oneEach (commands : List WorkerCommand) (count count' : Nat) : List (SessionEvent 2) :=
  [.elapse 1000000000, .send ⟨0, Nat.zero_lt_two⟩ (inFlight count 0),
    .send (last 1) (inFlight count' 0), .beginTick commands, .tryRecv, .tryRecv, .tryRecv,
    .tryRecv]

/-- From the last tick to the result. -/
def windUp : List (SessionEvent 2) :=
  [.check, .elapse 200000000, .beginDrain, .tryRecv, .tryRecv, .endDrain,
    .workerEnds ⟨0, Nat.zero_lt_two⟩, .workerEnds (last 1), .timerEnds, .join, .tryRecv,
    .tryRecv, .report ⟨4, 0⟩]

/-- Two such ticks, stopped at the second. -/
def twoTicks : List (SessionEvent 2) :=
  oneEach [] 3 2 ++ [.endTick none none] ++ (.check :: oneEach [.stop] 5 1) ++
    [.endTick none none] ++ windUp

theorem two_ticks_allowed :
    Allowed (step coldSetup) EndsWithOneEach (start coldSetup) twoTicks := by
  have quiet : ∀ events : List (SessionEvent 2),
      (∀ polled pushed, .endTick polled pushed ∉ events) →
      ∀ event ∈ events, ∀ s : Session 2 ℚ, EndsWithOneEach s event := by
    intro events none event mem s
    cases event with
    | endTick polled pushed => exact absurd mem (none polled pushed)
    | _ => trivial
  have ends : ∀ events : List (SessionEvent 2),
      (∀ s, exec (step coldSetup) (start coldSetup) events = some s →
        ∀ i, (s.inHand i).length = 1) →
      ∀ s, exec (step coldSetup) (start coldSetup) events = some s →
        EndsWithOneEach s (.endTick none none) :=
    fun _ lengths s run i _ => lengths s run i
  have first := (Allowed.of_forall (quiet (oneEach [] 3 2) (by simp [oneEach]))).snoc
    (ends (oneEach [] 3 2) (by decide +kernel))
  have second := (first.append (quiet (.check :: oneEach [.stop] 5 1) (by simp [oneEach]))).snoc
    (ends _ (by decide +kernel))
  exact second.append (quiet windUp (by simp [windUp]))

/-- Both ticks and the result are right. -/
theorem two_ticks_reported :
    ∃ s result, exec (step coldSetup) (start coldSetup) twoTicks = some s ∧
      s.phase = .returned result ∧
      Allowed (step coldSetup) EndsWithOneEach (start coldSetup) twoTicks ∧
      (s.drains.filter (·.drain.isTick)).map (·.tickAggregate.inFlightCount) = [5, 6] ∧
      Along (fun before d => d.drain.isTick = true → ReportsInFlight before d) s.drains ∧
      result.saturation.inFlightDrops = ∑ i, ((s.workers i).sent.map (·.inFlightDrops)).sum := by
  have run := evaluates (x := exec (step coldSetup) (start coldSetup) twoTicks)
  obtain ⟨ticks, drops⟩ := in_flight_reported run two_ticks_allowed
  exact ⟨_, _, run, phase_of_result evaluates, two_ticks_allowed,
    by decide +kernel, ticks,
    (drops _ (phase_of_result evaluates)).mpr (by decide +kernel)⟩

/-- One worker that reports twice before the first tick, as its interval has it. -/
def reportsTwice : List (SessionEvent 1) :=
  [.elapse 500000000, .send (last 0) (inFlight 3 2), .elapse 500000000,
    .send (last 0) (inFlight 4 1), .beginTick [.stop], .tryRecv, .tryRecv, .tryRecv,
    .endTick none none, .check, .elapse 200000000, .beginDrain, .tryRecv, .endDrain,
    .workerEnds (last 0), .timerEnds, .join, .tryRecv, .report ⟨2, 0⟩]

/-- Its 4 requests in flight of 8 are reported as 7 of 16, and its 3 drops as none. -/
theorem reports_twice_overstated :
    ∃ s d result, exec (step coldSetup) (start coldSetup) reportsTwice = some s ∧
      s.phase = .returned result ∧
      s.drains.head? = some d ∧ d.drain.isTick = true ∧
      latest (·.inFlightCount) [d] 0 = 4 ∧ latest (·.inFlightCapacity) [d] 0 = 8 ∧
      (∀ (summary : MetricsSummary) (targetRps smoothedRps : ℚ) (last current : TimerStats),
        let report := computeSaturation d.tickAggregate summary targetRps smoothedRps last current
        report.inFlightCount = 7 ∧ report.inFlightCapacity = 16) ∧
      ((s.workers 0).sent.map (·.inFlightDrops)).sum = 3 ∧
      result.saturation.inFlightDrops = 0 := by
  refine ⟨_, _, _, evaluates,
    phase_of_result evaluates,
    evaluates, by decide +kernel, by decide +kernel,
    by decide +kernel, fun _ _ _ _ _ => ⟨?_, ?_⟩, by decide +kernel⟩
  · show inFlightCount _ = 7
    decide +kernel
  · show inFlightCapacity _ = 16
    decide +kernel

end Session

end Netanvil.Core
