/-
# Whether the warm-up ends

The step experiment ends after a number of ticks, whatever is measured (`reaches_warmup`).
The warm-up also needs three windows with a latency to learn from, and a window gives none if
there were no requests, or only timeouts (`timeouts_not_sampled`). So it ends exactly if
three windows do (`warmup_ends_iff`); until then no constraint is asked.
-/
import Netanvil.Core.Controller.Ceiling
import Netanvil.Metrics.Collector
import Netanvil.Theory.Fairness

namespace Netanvil.Core

open Netanvil.Types Theory Theory.Trace Metrics List HdrMetricsCollector

/-! ## The experiment ends -/

namespace ExplorationManager

/-- No more ticks than these. -/
def ticksLeft (m : ExplorationManager) : Nat :=
  match m.phase with
  | .baseline startTick =>
    m.stepDurationTicks + 1 + (startTick + m.baselineDurationTicks - m.tickCount)
  | .stepResponse stepTick _ _ => stepTick + m.stepDurationTicks - m.tickCount
  | .complete => 0
  | .failed => 0

/-- Every tick that is not the last leaves fewer. -/
theorem ticksLeft_tick {m m' : ExplorationManager} {summary : MetricsSummary} {rate : ℚ}
    (ticked : m.tick summary = (some rate, m')) : m'.ticksLeft < m.ticksLeft := by
  rcases tick_cases ticked with
    ⟨startTick, metrics, here, -, ⟨-, rfl⟩ | ⟨-, before, rfl⟩⟩ |
    ⟨stepTick, baselineRate, stepRate, metrics, here, -, -, before, rfl⟩
  all_goals
    simp only [ticksLeft, here, stepDurationTicks, baselineDurationTicks, intervalMillis] at *
    omega

end ExplorationManager

namespace Arbiter

variable {C Q : Type} {parts : ArbiterParts C Q} {a a' : Arbiter C Q} {now : Nat}
  {summary : MetricsSummary} {decision : RateDecision} {rps : ℚ} {duration k start n m : Nat}
  {samples : List ℚ}

/-- In a warm-up at this rate and of this duration, with these samples so far. -/
def Warms (a : Arbiter C Q) (rps : ℚ) (duration start : Nat) (samples : List ℚ) : Prop :=
  a.phase = .warmup rps duration start samples

/-! ## Samples -/

/-- The window has a latency to learn from. -/
def sampled (summary : MetricsSummary) : Bool :=
  0 < summary.totalRequests && 0 < summary.latencyP99Ns

theorem length_collectSample (summary : MetricsSummary) (samples : List ℚ) :
    (collectSample summary samples).length = samples.length + if sampled summary then 1 else 0 := by
  by_cases given : sampled summary = true
  · rw [if_pos given, collectSample, if_pos (by simpa [sampled] using given),
      length_append, length_singleton]
  · rw [if_neg given, collectSample, if_neg (by simpa [sampled] using given), Nat.add_zero]

/-- A tick of the warm-up. -/
theorem tick_of_warms (here : a.Warms rps duration start samples)
    (tick : Tick parts now summary a' decision a) :
    (WarmupEnds now summary duration start samples ∧ a'.phase = .active) ∨
      (¬ WarmupEnds now summary duration start samples ∧
        a'.Warms rps duration start (collectSample summary samples)) := by
  cases tick with
  | active here' => rw [Warms, here'] at here; cases here
  | waiting here' waits same =>
    rw [Warms, here'] at here
    cases here
    rw [same]
    exact .inr ⟨waits, rfl⟩
  | warmed here' ends taken =>
    rw [Warms, here'] at here
    cases here
    exact .inl ⟨ends, (activeTick_spec taken).2.1⟩
  | exploring here' | aborted here' | explored here' => rw [Warms, here'] at here; cases here

theorem finishExploration_warms (configured : a.warmupConfig = some (rps, duration)) (now : Nat)
    (manager : ExplorationManager) :
    (a.finishExploration parts now manager).Warms rps duration now [] := by
  obtain ⟨constraints, ⟨rps', duration', warms, follows⟩ | ⟨none, -⟩⟩ :=
    finishExploration_cases parts a now manager
  · rw [configured] at warms
    cases warms
    rw [follows]
    rfl
  · rw [configured] at none
    cases none

/-! ## Runs -/

section

variable {run : Run (call parts)} {time : Nat → Nat} {window : Nat → MetricsSummary}

theorem active_from (active : (run.state n).phase = .active) (later : n ≤ m) :
    (run.state m).phase = .active := by
  induction m, later using Nat.le_induction with
  | base => exact active
  | succ m _ ih => exact call_active ih (run.taken m)

variable (updates : ∀ n, run.event n = .update (time n) (window n))
include updates

theorem tick_at (n : Nat) :
    ∃ decision, Tick parts (time n) (window n) (run.state (n + 1)) decision (run.state n) := by
  have taken := run.taken n
  rw [updates n] at taken
  obtain ⟨⟨after, decision⟩, updated, same⟩ := Option.map_eq_some_iff.mp taken
  exact ⟨decision, same ▸ tick_of_update updated⟩

/-- The experiment gives way to the warm-up. -/
theorem reaches_warmup {manager : ExplorationManager}
    (here : (run.state k).phase = .exploration manager)
    (configured : (run.state k).warmupConfig = some (rps, duration)) :
    ∃ j start samples, (run.state j).Warms rps duration start samples := by
  induction left : manager.ticksLeft using Nat.strong_induction_on generalizing k manager with
  | _ left ih =>
    obtain ⟨decision, tick⟩ := tick_at updates k
    cases tick with
    | active here' | waiting here' | warmed here' => rw [here'] at here; cases here
    | exploring here' ticked goes given same =>
      rw [here'] at here
      cases here
      refine ih _ (left ▸ ExplorationManager.ticksLeft_tick ticked) (k := k + 1) ?_ ?_ rfl
      · rw [same]
        rfl
      · rw [same]
        exact configured
    | aborted here' ticked aborts given same =>
      refine ⟨k + 1, time k, [], ?_⟩
      rw [same]
      refine finishExploration_warms ?_ (time k) _
      exact configured
    | explored here' ticked next =>
      rcases tick_of_warms (finishExploration_warms configured (time k) _) next with
        ⟨ends, -⟩ | ⟨-, warms⟩
      · -- one window does not give three samples
        have three := ends.2
        rw [length_collectSample, length_nil] at three
        split at three <;> omega
      · exact ⟨k + 1, time k, _, warms⟩

/-- How many of the `n` windows from the `k`-th on have a latency. -/
def samplesFrom (window : Nat → MetricsSummary) (k n : Nat) : Nat :=
  (List.range n).countP fun i => sampled (window (k + i))

/-- The warm-up goes on, with the samples of the windows since, or ended with three. -/
theorem warms_or_enough (begins : (run.state k).Warms rps duration start samples) (n : Nat) :
    (∃ more, (run.state (k + n)).Warms rps duration start more ∧
      more.length = samples.length + samplesFrom window k n) ∨
      ((run.state (k + n)).phase = .active ∧ 3 ≤ samples.length + samplesFrom window k n) := by
  induction n with
  | zero => exact .inl ⟨samples, begins, rfl⟩
  | succ n ih =>
    rw [samplesFrom, range_succ, countP_append, countP_singleton, ← samplesFrom]
    rcases ih with ⟨more, warms, length⟩ | ⟨active, enough⟩
    · obtain ⟨decision, tick⟩ := tick_at updates (k + n)
      have next := length_collectSample (window (k + n)) more
      rcases tick_of_warms warms tick with ⟨ends, active⟩ | ⟨-, warms⟩
      · have three := ends.2
        exact .inr ⟨active, by omega⟩
      · exact .inl ⟨_, warms, by omega⟩
    · exact .inr ⟨call_active active (run.taken (k + n)), by omega⟩

end

/-- **In an infinite sequence of updates at increasing times a configured warm-up begins, and
active control follows exactly if three windows from then on have a latency.** -/
theorem warmup_ends_iff {config : ArbiterConfig C Q} {created : Nat}
    (configured : config.warmup = some (rps, duration)) {run : Run (call parts)}
    (begins : run.state 0 = new config created) {time : Nat → Nat} {window : Nat → MetricsSummary}
    (updates : ∀ n, run.event n = .update (time n) (window n)) (increasing : StrictMono time) :
    ∃ k start samples, (run.state k).Warms rps duration start samples ∧
      ((∃ n, ∀ m ≥ n, (run.state m).phase = .active) ↔
        ∃ n, 3 ≤ samples.length + samplesFrom window k n) := by
  have warms : ∃ k start samples, (run.state k).Warms rps duration start samples := by
    cases explores : config.explorationManager with
    | none =>
      refine ⟨0, created, [], ?_⟩
      rw [begins]
      simp [Warms, new, startPhase, explores, configured]
    | some manager =>
      have here : (run.state 0).phase = .exploration manager := by
        rw [begins]
        simp [new, startPhase, explores]
      refine reaches_warmup updates here ?_
      rw [begins]
      exact configured
  obtain ⟨k, start, samples, here⟩ := warms
  refine ⟨k, start, samples, here, ?_, ?_⟩
  · rintro ⟨n, active⟩
    have ended := active (k + n) (Nat.le_add_left n k)
    rcases warms_or_enough updates here n with ⟨more, warms, -⟩ | ⟨-, enough⟩
    · rw [Warms, ended] at warms
      cases warms
    · exact ⟨n, enough⟩
  · rintro ⟨n, enough⟩
    -- late enough for the duration, and for the samples
    obtain ⟨late, is⟩ : ∃ late, late = n + (duration + start) := ⟨_, rfl⟩
    rcases warms_or_enough updates here late with ⟨more, warms, length⟩ | ⟨active, -⟩
    · have lasted : k + late ≤ time (k + late) := increasing.le_apply
      have collected : samplesFrom window k n ≤ samplesFrom window k late :=
        ((range_sublist.mpr (by omega)).countP_le)
      have ends : WarmupEnds (time (k + late)) (window (k + late)) duration start more := by
        refine ⟨by omega, ?_⟩
        rw [length_collectSample]
        omega
      obtain ⟨decision, tick⟩ := tick_at updates (k + late)
      rcases tick_of_warms warms tick with ⟨-, active⟩ | ⟨waits, -⟩
      · exact ⟨k + late + 1, fun m later => active_from active later⟩
      · exact absurd ends waits
    · exact ⟨k + late, fun m later => active_from active later⟩

/-! Sequences of equal windows, one a second, in a warm-up of two. -/

theorem safe_warmsAt1000 : (new (warmsAt1000 1000) 0).Safe :=
  ⟨by decide +kernel, by decide +kernel, by decide +kernel, by decide +kernel,
    keeps_new (by decide +kernel) 0⟩

/-- The run in which every window is this one. -/
def windowEver (window : MetricsSummary) : Run (call scripted) :=
  .ofEvents (new (warmsAt1000 1000) 0) (fun n => .update ((n + 1) * 1000000000) window) fun k => by
    have sane : Allowed (call scripted) Sane (new (warmsAt1000 1000) 0)
        ((List.range k).map fun n => .update ((n + 1) * 1000000000) window) :=
      .of_forall (by simp [Sane])
    obtain ⟨a, run, -⟩ := sane.goes_through safe_warmsAt1000 fun safe ok => safe_call safe ok
    rw [run]
    rfl

theorem windowEver_updates (window : MetricsSummary) (n : Nat) :
    (windowEver window).event n = .update ((n + 1) * 1000000000) window := rfl

/-- With a request in every window the warm-up ends. -/
theorem warmup_with_requests :
    (windowEver oneRequest).state 0 = new (warmsAt1000 1000) 0 ∧
      ∃ n, ∀ m ≥ n, ((windowEver oneRequest).state m).phase = .active := by
  obtain ⟨k, start, samples, -, ends⟩ := warmup_ends_iff rfl (by rfl)
    (windowEver_updates oneRequest) fun n m lt => by omega
  refine ⟨rfl, ends.mpr ⟨3, ?_⟩⟩
  have three : samplesFrom (fun _ => oneRequest) k 3 = 3 := by
    have one : sampled oneRequest = true := by decide
    simp [samplesFrom, one]
  omega

/-- The summary of a window of results. -/
def windowOf (text : TextFunctions) (config : CollectorConfig)
    (valueAtQuantile : Histogram → ℚ → Nat) (results : List ExecutionResult) : MetricsSummary :=
  let collector := results.foldl (record text config) (.new 0)
  (AggregateMetrics.new.merge (collector.snapshot 1000000000).1).toSummary valueAtQuantile

/-- A window of timeouts has an empty histogram. -/
theorem timeouts_not_sampled (text : TextFunctions) (config : CollectorConfig)
    {valueAtQuantile : Histogram → ℚ → Nat} (empty : ∀ q, valueAtQuantile 0 q = 0)
    {results : List ExecutionResult} (timeouts : ∀ result ∈ results, isTimeout result = true) :
    sampled (windowOf text config valueAtQuantile results) = false := by
  have histogram : ∀ c : HdrMetricsCollector,
      (results.foldl (record text config) c).histogram = c.histogram := by
    induction results with
    | nil => exact fun _ => rfl
    | cons result rest ih =>
      intro c
      rw [foldl_cons, ih fun r mem => timeouts r (mem_cons_of_mem _ mem),
        record, if_pos (timeouts result mem_cons_self)]
  have p99 : (windowOf text config valueAtQuantile results).latencyP99Ns = valueAtQuantile
      (0 + (results.foldl (record text config) (.new 0)).histogram)
      (99 / 100) := rfl
  have zero : (HdrMetricsCollector.new 0).histogram = 0 := rfl
  rw [histogram, zero, add_zero, empty] at p99
  simp [sampled, p99]

/-- Active control never begins if every window is this one. -/
def Stuck (window : MetricsSummary) : Prop :=
  ∀ n, ((windowEver window).state n).phase ≠ .active

theorem stuck_of_not_sampled {window : MetricsSummary} (none : sampled window = false) :
    Stuck window := by
  intro n active
  have begins : ((windowEver window).state 0).Warms 1000 2000000000 0 [] := rfl
  have samples : samplesFrom (fun _ => window) 0 n = 0 := by simp [samplesFrom, none]
  rcases warms_or_enough (windowEver_updates window) begins n with ⟨more, warms, -⟩ | ⟨-, enough⟩
  · rw [Nat.zero_add] at warms
    rw [Warms, active] at warms
    cases warms
  · rw [samples] at enough
    cases enough

/-- Without requests, or with timeouts only, the warm-up does not end. -/
theorem warmup_never_ends :
    Stuck emptyWindow ∧
      ∀ text config valueAtQuantile, (∀ q, valueAtQuantile 0 q = 0) →
        ∀ results, (∀ result ∈ results, isTimeout result = true) →
          Stuck (windowOf text config valueAtQuantile results) :=
  ⟨stuck_of_not_sampled rfl, fun text config _ empty _ timeouts =>
    stuck_of_not_sampled (timeouts_not_sampled text config empty timeouts)⟩

end Arbiter

end Netanvil.Core
