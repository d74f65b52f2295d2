/-
# What the coordinator concludes from its windows

Two conclusions are about some of the requests in a window and are drawn from a count of others.
The limit on refused connections is compared with all errors (`refuse_stop_counts`). Delays are
recorded of requests that did not time out, and are divided by the number of all requests
(`delay_statistics`).
-/
import Netanvil.Core.Saturation
import Netanvil.Metrics.Windows

namespace Netanvil.Core

open Netanvil.Types Metrics Theory.Trace List Session

open Observation (worth)

variable {text : TextFunctions} {config : CollectorConfig} {windows : List (List Observation)}
  {snapshots : List MetricsSnapshot} (o : Observation)

/-! ## Refused connections -/

/-- The request failed, for whatever reason. -/
def failed (config : CollectorConfig) : Observation → Nat
  | .result result => if isError config result then 1 else 0
  | _ => 0

/-- Its connection failed. -/
def refused : Observation → Nat
  | .result result =>
    match result.error with
    | some (.connect _) => 1
    | _ => 0
  | _ => 0

theorem refused_le_failed : refused o ≤ failed config o := by
  cases o with
  | result result =>
    simp only [refused, failed, isError]
    split
    · rename_i error
      simp [error]
    · exact Nat.zero_le _
  | packets deltas | read incomingCpu workerCpu | tcpInfo info => exact le_rfl

theorem errors_worth : (o.worth text config).counters.errors = failed config o := by
  cases o with
  | result result =>
    simp only [worth, ofResult, failed]
    split
    · rename_i timeout
      simp [ofTimeout, isError, of_decide_eq_true timeout]
    · rfl
  | packets deltas | read incomingCpu workerCpu | tcpInfo info => rfl

/-- The errors in the totals are the failures of the windows that count. -/
theorem totalErrors_of_run {n : Nat} {S : Type} {setup : SessionSetup S}
    {events : List (SessionEvent n)} {s : Session n S}
    (run : exec (step setup) (start setup) events = some s)
    (reports : Forall₂ (ReportOf text config) windows (s.counted setup)) :
    s.coordinator.totalAggregate.totalErrors = (windows.flatten.map (failed config)).sum := by
  have stats := stats_of_reports reports (emptyAggregate setup)
  rw [← (books_of_run run).total] at stats
  have errors := congrArg (fun a : Stats => a.counters.errors) stats
  refine errors.trans ((Nat.zero_add _).trans ?_)
  refine (map_list_sum
    (⟨⟨fun a : Stats => a.counters.errors, rfl⟩, fun _ _ => rfl⟩ : Stats →+ Nat) _).trans ?_
  rw [map_map]
  exact congrArg sum (map_congr_left fun o _ => errors_worth o)

/-- **A test that only a limit on refused connections can end is ended by it at the right checks
exactly if, whenever its failures reach the limit, its refused connections do.** -/
theorem refuse_stop_counts {n : Nat} {S : Type} {setup : SessionSetup S}
    {events : List (SessionEvent n)} {s : Session n S} {duration threshold : Nat}
    (only : setup.limits = ⟨duration, none, none, some threshold, none⟩)
    (run : exec (step setup) (start setup) events = some s) (here : s.phase = .checking)
    (goesOn : s.coordinator.stopped = false) (early : s.clock < duration)
    (reports : Forall₂ (ReportOf text config) windows (s.counted setup)) :
    ((∃ s' wake, step setup s .check = some s' ∧ s'.phase = .settling wake) ↔
        threshold ≤ (windows.flatten.map refused).sum) ↔
      (threshold ≤ (windows.flatten.map (failed config)).sum →
        threshold ≤ (windows.flatten.map refused).sum) := by
  have ends : (∃ s' wake, step setup s .check = some s' ∧ s'.phase = .settling wake) ↔
      threshold ≤ (windows.flatten.map (failed config)).sum := by
    rw [← totalErrors_of_run run reports]
    have complete : s.coordinator.isTestComplete setup.limits s.clock =
        decide (threshold ≤ s.coordinator.totalAggregate.totalErrors) := by
      simp [Coordinator.isTestComplete, only, goesOn, early.not_ge]
    simp only [step, here, complete]
    split
    · rename_i reached
      exact iff_of_true ⟨_, _, rfl, rfl⟩ (of_decide_eq_true reached)
    · rename_i below
      refine iff_of_false ?_ fun reached => below (decide_eq_true reached)
      rintro ⟨s', wake, taken, settles⟩
      cases taken
      cases settles
  have fewer : (windows.flatten.map refused).sum ≤ (windows.flatten.map (failed config)).sum :=
    sum_le_sum fun o _ => refused_le_failed o
  rw [ends]
  exact ⟨Iff.mp, fun enough => ⟨enough, fun reached => reached.trans fewer⟩⟩

/-- One refused connection ends the test. -/
def stopsAtOne : SessionSetup ℚ :=
  { coldSetup with limits := ⟨60000000000, none, none, some 1, none⟩ }

def failsWith (error : ExecutionError) : Observation :=
  .result { okResult with status := none, error := some error }

/-- A failed request is reported to the first tick. -/
def failsOnce (error : ExecutionError) : List (SessionEvent 1) :=
  [.elapse 1000000000, .send (Fin.last 0) (snapshotOf plainText plainConfig [failsWith error]),
    .beginTick [], .tryRecv, .tryRecv, .endTick none none]

theorem stopped_by_refusal :
    ∃ s, exec (step stopsAtOne) (start stopsAtOne)
        (failsOnce (.connect "refused")) = some s ∧
      ((∃ s' wake, step stopsAtOne s .check = some s' ∧ s'.phase = .settling wake) ↔
        1 ≤ ([failsWith (.connect "refused")].map refused).sum) := by
  obtain ⟨s, run, here, goesOn, early, reports⟩ : ∃ s, exec (step stopsAtOne)
      (start stopsAtOne) (failsOnce (.connect "refused")) = some s ∧ s.phase = .checking ∧
      s.coordinator.stopped = false ∧ s.clock < 60000000000 ∧
      Forall₂ (ReportOf plainText plainConfig) [[failsWith (.connect "refused")]]
        (s.counted stopsAtOne) :=
    ⟨_, rfl, rfl, rfl, by decide, .cons (report_snapshotOf ..) .nil⟩
  exact ⟨s, run, (refuse_stop_counts rfl run here goesOn early reports).mpr fun _ => le_rfl⟩

/-- A timeout ends it too. -/
theorem stopped_by_timeout :
    ∃ s, exec (step stopsAtOne) (start stopsAtOne) (failsOnce .timeout) = some s ∧
      Forall₂ (ReportOf plainText plainConfig) [[failsWith .timeout]] (s.counted stopsAtOne) ∧
      (∃ s' wake, step stopsAtOne s .check = some s' ∧ s'.phase = .settling wake) ∧
      ([failsWith .timeout].map refused).sum = 0 :=
  ⟨_, rfl, .cons (report_snapshotOf ..) .nil, ⟨_, _, rfl, rfl⟩, rfl⟩

/-! ## Delays -/

/-- The delays that are recorded. -/
def delaysOf (os : List Observation) : List Nat := (answers os).map totalDelayNs

def timesOut : Observation → Bool
  | .result result => isTimeout result
  | _ => false

/-- Those over 1 ms. -/
def delayed (delays : List Nat) : Nat := delays.countP (1000000 < ·)

/-- The mean, and the part over 1 ms. -/
def meanDelayNs (delays : List Nat) : Nat := delays.sum / delays.length

def delayedRatio (delays : List Nat) : ℚ := delayed delays / delays.length

theorem delays_worth (text : TextFunctions) (config : CollectorConfig) (os : List Observation) :
    let total := (os.map (Observation.worth text config)).sum
    total.totalDelay.sumNs = (delaysOf os).sum ∧ total.delayedOver1ms = delayed (delaysOf os) ∧
      total.counters.requests = (delaysOf os).length + os.countP timesOut := by
  induction os with
  | nil => exact ⟨rfl, rfl, rfl⟩
  | cons o os ih =>
    have adds : ∀ a b : Stats, (a + b).totalDelay.sumNs = a.totalDelay.sumNs + b.totalDelay.sumNs ∧
        (a + b).delayedOver1ms = a.delayedOver1ms + b.delayedOver1ms ∧
        (a + b).counters.requests = a.counters.requests + b.counters.requests :=
      fun _ _ => ⟨rfl, rfl, rfl⟩
    have zero : (0 : Stats).totalDelay.sumNs = 0 ∧ (0 : Stats).delayedOver1ms = 0 ∧
        (0 : Stats).counters.requests = 0 := ⟨rfl, rfl, rfl⟩
    simp only [map_cons, sum_cons, adds, ih, countP_cons]
    cases o with
    | result r =>
      by_cases timeout : isTimeout r
      all_goals
        simp [worth, ofResult, ofTimeout, ofResponse, timeout, delaysOf, answers,
          timesOut, zero, delayed, countP_cons]
        omega
    | packets deltas | read incomingCpu workerCpu | tcpInfo info =>
      simp [worth, delaysOf, answers, timesOut, zero]

/-- What a tick's report depends on besides the snapshots of the tick. -/
structure TickContext where
  valueAtQuantile : Histogram → ℚ → Nat
  before : AggregateMetrics
  signals : List (String × ℚ)
  targetRps : ℚ
  smoothedRps : ℚ
  last : TimerStats
  current : TimerStats

def TickContext.report (ctx : TickContext) (snapshots : List MetricsSnapshot) : SaturationInfo :=
  let tick := snapshots.foldl .merge ctx.before.reset
  computeSaturation tick { tick.toSummary ctx.valueAtQuantile with externalSignals := ctx.signals }
    ctx.targetRps ctx.smoothedRps ctx.last ctx.current

variable {delays : List Nat} {timeouts : Nat}

/-- The report divides by all requests. -/
theorem report_delays (reports : Forall₂ (ReportOf text config) windows snapshots)
    (ctx : TickContext) :
    let delays := delaysOf windows.flatten
    let requests := delays.length + windows.flatten.countP timesOut
    (ctx.report snapshots).schedulingDelayMeanNs = delays.sum / requests ∧
      (ctx.report snapshots).delayedRequestRatio = (delayed delays : ℚ) / (requests : ℕ) := by
  intro delays total
  set tick := snapshots.foldl .merge ctx.before.reset
  have stats : tick.stats = (windows.flatten.map (worth text config)).sum :=
    (stats_of_reports reports _).trans (zero_add _)
  obtain ⟨sum, over1ms, requests⟩ := delays_worth text config windows.flatten
  rw [← stats] at sum over1ms requests
  have mean : (ctx.report snapshots).schedulingDelayMeanNs =
      if tick.stats.counters.requests > 0 then
        tick.stats.totalDelay.sumNs / tick.stats.counters.requests
      else 0 := rfl
  have ratio : (ctx.report snapshots).delayedRequestRatio =
      if tick.stats.counters.requests > 0 then
        (tick.stats.delayedOver1ms : ℚ) / tick.stats.counters.requests
      else 0 := rfl
  rw [mean, ratio, sum, over1ms, requests]
  split
  · exact ⟨rfl, rfl⟩
  · rename_i none
    simp [total, delays, Nat.eq_zero_of_not_pos none]

theorem mean_le (delays : List Nat) (timeouts : Nat) :
    delays.sum / (delays.length + timeouts) ≤ meanDelayNs delays := by
  cases delays with
  | nil => simp [meanDelayNs]
  | cons delay delays => exact Nat.div_le_div_left (Nat.le_add_right _ _) (Nat.succ_pos _)

theorem ratio_le (delays : List Nat) (timeouts : Nat) :
    (delayed delays : ℚ) / (delays.length + timeouts : ℕ) ≤ delayedRatio delays := by
  cases delays with
  | nil => simp [delayedRatio, delayed]
  | cons delay delays =>
    rw [delayedRatio]
    gcongr
    · exact Nat.cast_pos.mpr (Nat.succ_pos _)
    · exact Nat.le_add_right _ _

theorem mean_iff : delays.sum / (delays.length + timeouts) = meanDelayNs delays ↔
    meanDelayNs delays * (delays.length + timeouts) ≤ delays.sum := by
  rw [← (mean_le delays timeouts).ge_iff_eq]
  cases delays with
  | nil => simp [meanDelayNs]
  | cons delay delays => exact Nat.le_div_iff_mul_le (Nat.add_pos_left (Nat.succ_pos _) _)

theorem ratio_iff : (delayed delays : ℚ) / (delays.length + timeouts : ℕ) = delayedRatio delays ↔
    timeouts = 0 ∨ delayed delays = 0 := by
  cases delays with
  | nil => simp [delayedRatio, delayed]
  | cons delay delays =>
    have positive : 0 < ((delay :: delays).length : ℚ) := Nat.cast_pos.mpr (Nat.succ_pos _)
    rw [delayedRatio, Nat.cast_add, div_eq_div_iff (by positivity) positive.ne', mul_add,
      left_eq_add, mul_eq_zero, Nat.cast_eq_zero, Nat.cast_eq_zero, or_comm]

/-- Dividing by all requests changes neither statistic of the delays. -/
def Undiluted (delays : List Nat) (timeouts : Nat) : Prop :=
  meanDelayNs delays * (delays.length + timeouts) ≤ delays.sum ∧ (timeouts = 0 ∨ delayed delays = 0)

/-- The statistics of these delays are reported. -/
def Shows (info : SaturationInfo) (delays : List Nat) : Prop :=
  info.schedulingDelayMeanNs = meanDelayNs delays ∧ info.delayedRequestRatio = delayedRatio delays

/-- The client is the bottleneck by one of them. -/
def Late (info : SaturationInfo) : Prop :=
  5000000 < info.schedulingDelayMeanNs ∨ 1 / 10 < info.delayedRequestRatio

theorem shows_iff (reports : Forall₂ (ReportOf text config) windows snapshots)
    (ctx : TickContext) : Shows (ctx.report snapshots) (delaysOf windows.flatten) ↔
      Undiluted (delaysOf windows.flatten) (windows.flatten.countP timesOut) := by
  obtain ⟨mean, ratio⟩ := report_delays reports ctx
  rw [Shows, mean, ratio, mean_iff, ratio_iff, Undiluted]

/-- **The statistics of a tick are those of the delays that were recorded exactly if the timeouts do
not dilute them; then more timeouts leave the client's signals as they are.** -/
theorem delay_statistics (reports : Forall₂ (ReportOf text config) windows snapshots)
    (ctx : TickContext) :
    (Shows (ctx.report snapshots) (delaysOf windows.flatten) ↔
      Undiluted (delaysOf windows.flatten) (windows.flatten.countP timesOut)) ∧
    ∀ windows' snapshots' ctx', Forall₂ (ReportOf text config) windows' snapshots' →
      (delaysOf windows'.flatten).Perm (delaysOf windows.flatten) →
      Undiluted (delaysOf windows'.flatten) (windows'.flatten.countP timesOut) →
      Late (ctx.report snapshots) →
      (TickContext.report ctx' snapshots').assessment = .clientSaturated ∨
        (TickContext.report ctx' snapshots').assessment = .bothSaturated := by
  refine ⟨shows_iff reports ctx, ?_⟩
  intro windows' snapshots' ctx' reports' same undiluted late
  obtain ⟨mean, ratio⟩ := report_delays reports ctx
  obtain ⟨mean', ratio'⟩ := (shows_iff reports' ctx').mpr undiluted
  rw [Late, mean, ratio] at late
  have late : Late (ctx'.report snapshots') := by
    rw [Late, mean', ratio', meanDelayNs, delayedRatio, delayed, same.sum_eq, same.length_eq,
      same.countP_eq]
    exact late.imp (mean_le _ _).trans_lt' (ratio_le _ _).trans_lt'
  have client {p q : Prop} : p ∨ 5000000 < (ctx'.report snapshots').schedulingDelayMeanNs ∨
      1 / 10 < (ctx'.report snapshots').delayedRequestRatio ∨ q :=
    .inr (late.imp_right .inl)
  unfold TickContext.report computeSaturation at client ⊢
  dsimp only at client ⊢
  split <;> simp_all

/-- The report of a tick in which one worker observed this. -/
def reportOf (os : List Observation) : SaturationInfo :=
  TickContext.report ⟨fun _ _ => 0, .new, [], 0, 0, ⟨0, 0⟩, ⟨0, 0⟩⟩
    [snapshotOf plainText plainConfig os]

/-- A request dispatched 6 ms late. -/
def late : Observation := .result { okResult with dispatchTime := 6000000 }

/-- It is seen alone, and one dispatched on time is seen among nine timeouts. -/
theorem late_alone : Shows (reportOf [late]) [6000000] ∧
    Shows (reportOf (.result { okResult with dispatchTime := 0 } ::
      .replicate 9 (failsWith .timeout))) [0] :=
  ⟨(delay_statistics (.cons (report_snapshotOf ..) .nil) _).1.mpr ⟨le_rfl, .inl rfl⟩,
    (delay_statistics (.cons (report_snapshotOf ..) .nil) _).1.mpr ⟨by decide, .inr rfl⟩⟩

/-- Nine timeouts in the window hide it. -/
theorem late_among_timeouts : (reportOf [late]).assessment = .clientSaturated ∧
    (reportOf (late :: .replicate 9 (failsWith .timeout))).assessment = .serverSaturated := by
  decide +kernel

end Netanvil.Core
