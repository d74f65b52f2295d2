/-
# The experiment comes to an end

Whatever is measured, the baseline takes `baselineDurationTicks` calls and the response to the step
no more than `stepDurationTicks` (`Progress`). Both are quotients by the control interval. The
interval is made at least one millisecond before it is cut to 64 bits, not after, so it can be zero,
and then the first call panics (`exploration_bounded`).
-/
import Netanvil.Core.Controller.StepExperiment

namespace Netanvil.Core.ExplorationManager

open Netanvil.Types Nat MetricExploration

/-! ## Calls -/

/-- The call divides by zero; only the phases that measure ask for the durations. -/
def panics (m : ExplorationManager) : Prop :=
  match m.phase with
  | .baseline _ => m.intervalMillis = 0
  | .stepResponse _ _ _ => m.intervalMillis = 0
  | .complete => False
  | .failed => False

/-- The manager after `k` calls that do not panic. -/
def after (m : ExplorationManager) (summaries : Nat → MetricsSummary) : Nat → ExplorationManager
  | 0 => m
  | k + 1 => ((m.after summaries k).tick (summaries k)).2

/-- What the next call returns. -/
def answer (m : ExplorationManager) (summaries : Nat → MetricsSummary) (k : Nat) : Option ℚ :=
  ((m.after summaries k).tick (summaries k)).1

/-- The experiment ends with the `n`-th call, counted from zero: in time, and having measured what
it is for. -/
structure Ends (m : ExplorationManager) (summaries : Nat → MetricsSummary) (n : Nat) : Prop where
  goes : ∀ k, ¬ (m.after summaries k).panics
  within : n < m.baselineDurationTicks + m.stepDurationTicks
  rates : ∀ k < n, m.answer summaries k =
    some (if k + 1 < m.baselineDurationTicks then m.initialRps / 2 else m.initialRps)
  done : ∀ k ≥ n, m.answer summaries k = none
  measured : ∀ x ∈ (m.after summaries (n + 1)).metrics,
    x.baselineMeasurements ≠ [] ∧ x.stepMeasurements ≠ []

/-! ## Progress -/

variable {m m' : ExplorationManager} {summaries : Nat → MetricsSummary} {k : Nat}

theorem tick_frame (m : ExplorationManager) (summary : MetricsSummary) :
    (m.tick summary).2 = { m with
      phase := (m.tick summary).2.phase
      metrics := (m.tick summary).2.metrics
      tickCount := m.tickCount + 1 } := by
  cases phase : m.phase with
  | baseline startTick | stepResponse stepTick baselineRate stepRate =>
    simp only [tick, phase]
    split <;> rfl
  | complete | failed => simp only [tick, phase]

/-- Where the experiment is after `k` calls. -/
def Stage (m : ExplorationManager) (k : Nat) : ExplorationPhase → Prop
  | .baseline startTick => startTick = 0 ∧ k < m.baselineDurationTicks
  | .stepResponse stepTick _ _ =>
    stepTick = m.baselineDurationTicks ∧ stepTick ≤ k ∧ k < stepTick + m.stepDurationTicks
  | .complete => m.baselineDurationTicks < k
  | .failed => False

/-- What is so after `k` calls of an experiment that began as `m`. -/
structure Progress (m : ExplorationManager) (k : Nat) (m' : ExplorationManager) : Prop where
  frame : m' = { m with phase := m'.phase, metrics := m'.metrics, tickCount := k }
  stage : m.Stage k m'.phase
  baseline : 0 < k → ∀ x ∈ m'.metrics, x.baselineMeasurements ≠ []
  steps : m.baselineDurationTicks < k → ∀ x ∈ m'.metrics, x.stepMeasurements ≠ []

/-- A call that is not the last gives the rate of its place. -/
def Answers (m : ExplorationManager) (k : Nat) (answer : Option ℚ × ExplorationManager) : Prop :=
  (answer.1 = some (if k + 1 < m.baselineDurationTicks then m.initialRps / 2 else m.initialRps) ∧
    k + 1 < m.baselineDurationTicks + m.stepDurationTicks) ∨
  (answer.1 = none ∧ answer.2.phase = .complete)

namespace Progress

variable (progress : Progress m k m') (summary : MetricsSummary)
include progress

/-- What one more tick records. -/
theorem recorded {summary : MetricsSummary} {x : MetricExploration}
    (member : x ∈ (m'.tick summary).2.metrics) :
    x.baselineMeasurements ≠ [] ∧ (m.baselineDurationTicks < k + 1 → x.stepMeasurements ≠ []) := by
  have three : 3 ≤ m.baselineDurationTicks := le_max_right _ _
  have stage := progress.stage
  rw [metrics_tick] at member
  obtain ⟨y, here, rfl⟩ := List.mem_map.mp member
  unfold ExplorationManager.recorded
  cases phase : m'.phase with
  | baseline startTick =>
    rw [phase] at stage
    refine ⟨by simp [recordBaseline], fun late => ?_⟩
    exact absurd stage.2 (Nat.lt_succ_iff.mp late).not_gt
  | stepResponse stepTick baselineRate stepRate =>
    rw [phase] at stage
    obtain ⟨rfl, reached, -⟩ := stage
    refine ⟨progress.baseline (by omega) y here, fun _ => ?_⟩
    simp [recordStep]
  | complete =>
    rw [phase] at stage
    exact ⟨progress.baseline (zero_lt_of_lt stage) y here, fun _ => progress.steps stage y here⟩
  | failed =>
    rw [phase] at stage
    exact stage.elim

theorem stage_tick : m.Stage (k + 1) (m'.tick summary).2.phase ∧ Answers m k (m'.tick summary) := by
  have five : 5 ≤ m.stepDurationTicks := le_max_right _ _
  have stage := progress.stage
  have frame := progress.frame
  generalize m'.metrics = metrics at frame
  cases phase : m'.phase with
  | baseline startTick =>
    rw [phase] at stage frame
    obtain ⟨rfl, before⟩ := stage
    subst frame
    simp only [tick]
    split
    · rename_i enough
      have last : m.baselineDurationTicks = k + 1 := le_antisymm enough before
      exact ⟨⟨last.symm, le_rfl, by omega⟩, .inl ⟨by rw [if_neg (by omega)], by omega⟩⟩
    · rename_i goesOn
      have early : k + 1 < m.baselineDurationTicks := not_le.mp goesOn
      exact ⟨⟨rfl, early⟩, .inl ⟨by rw [if_pos early], by omega⟩⟩
  | stepResponse stepTick baselineRate stepRate =>
    rw [phase] at stage frame
    obtain ⟨rfl, reached, before⟩ := stage
    subst frame
    simp only [tick]
    split
    · exact ⟨lt_succ_of_le reached, .inr ⟨rfl, rfl⟩⟩
    · rename_i goesOn
      rw [Bool.or_eq_true, not_or, decide_eq_true_eq] at goesOn
      have short : ¬ m.stepDurationTicks ≤ k + 1 - m.baselineDurationTicks := goesOn.1
      exact ⟨⟨rfl, by omega, by omega⟩, .inl ⟨by rw [if_neg (by omega)], by omega⟩⟩
  | complete =>
    rw [phase] at stage
    simp only [tick, phase]
    exact ⟨lt_succ_of_lt stage, .inr ⟨rfl, rfl⟩⟩
  | failed =>
    rw [phase] at stage
    exact stage.elim

theorem tick : Progress m (k + 1) (m'.tick summary).2 where
  frame := by
    have same := tick_frame m' summary
    rw [progress.frame] at same ⊢
    exact same
  stage := (progress.stage_tick summary).1
  baseline := fun _ x member => (progress.recorded member).1
  steps := fun late x member => (progress.recorded member).2 late

theorem not_panics (interval : m.intervalMillis ≠ 0) : ¬ m'.panics := by
  have same : m'.intervalMillis = m.intervalMillis := by
    rw [progress.frame]
    rfl
  unfold panics
  split <;> simp [same, interval]

end Progress

/-! ## Runs -/

theorem progress_of_run (metrics : List MetricExploration) (initialRps : ℚ)
    (autotuneDuration controlInterval : Nat) (summaries : Nat → MetricsSummary) (k : Nat) :
    let m := new metrics initialRps autotuneDuration controlInterval
    Progress m k (m.after summaries k) := by
  induction k with
  | zero =>
    refine ⟨rfl, ⟨rfl, ?_⟩, fun late => absurd late (lt_irrefl 0),
      fun late => absurd late (not_lt_zero _)⟩
    exact lt_of_lt_of_le (by norm_num) (le_max_right _ 3)
  | succ k ih => exact ih.tick (summaries k)

/-- Nothing comes after the end. -/
theorem complete_of_le {n : Nat} (last : (m.after summaries (n + 1)).phase = .complete) :
    ∀ k > n, (m.after summaries k).phase = .complete ∧ m.answer summaries k = none := by
  intro k late
  have complete : (m.after summaries k).phase = .complete := by
    induction k, late using le_induction with
    | base => exact last
    | succ k _ ih => simp only [after, tick, ih]
  exact ⟨complete, by simp only [answer, tick, complete]⟩

theorem ends_of_progress (runs : ∀ k, Progress m k (m.after summaries k))
    (divides : m.intervalMillis ≠ 0) : ∃ n, m.Ends summaries n := by
  have five : 5 ≤ m.stepDurationTicks := le_max_right _ _
  have answers : ∀ k, Answers m k ((m.after summaries k).tick (summaries k)) :=
    fun k => ((runs k).stage_tick (summaries k)).2
  have none_last :
      m.answer summaries (m.baselineDurationTicks + m.stepDurationTicks - 1) = none := by
    rcases answers (m.baselineDurationTicks + m.stepDurationTicks - 1) with ⟨-, early⟩ | ⟨last, -⟩
    · omega
    · exact last
  have ends : ∃ k, m.answer summaries k = none := ⟨_, none_last⟩
  obtain ⟨n, last, least⟩ : ∃ n, m.answer summaries n = none ∧
      ∀ k < n, m.answer summaries k ≠ none :=
    ⟨Nat.find ends, Nat.find_spec ends, fun k => Nat.find_min ends⟩
  have complete : (m.after summaries (n + 1)).phase = .complete := by
    rcases answers n with ⟨rate, -⟩ | ⟨-, complete⟩
    · cases last.symm.trans rate
    · exact complete
  have stage := (runs (n + 1)).stage
  rw [complete] at stage
  refine ⟨n, fun k => (runs k).not_panics divides, ?_, fun k early => ?_, fun k late => ?_,
    fun x member => ⟨(runs (n + 1)).baseline (succ_pos n) x member,
      (runs (n + 1)).steps stage x member⟩⟩
  · by_contra late
    exact least _ (by omega) none_last
  · rcases answers k with ⟨rate, -⟩ | ⟨none_, -⟩
    · exact rate
    · exact absurd none_ (least k early)
  · rcases eq_or_lt_of_le late with rfl | later
    · exact last
    · exact (complete_of_le complete k later).2

/-- **The experiment ends in time exactly if the milliseconds of the control interval are no
multiple of 2^64.** -/
theorem exploration_bounded (metrics : List MetricExploration) (initialRps : ℚ)
    (autotuneDuration controlInterval : Nat) (summaries : Nat → MetricsSummary)
    (interval : 1000000 ≤ controlInterval) :
    (∃ n, (new metrics initialRps autotuneDuration controlInterval).Ends summaries n) ↔
      ¬ 2 ^ 64 ∣ controlInterval / 1000000 := by
  have runs := progress_of_run metrics initialRps autotuneDuration controlInterval summaries
  have millis : (new metrics initialRps autotuneDuration controlInterval).intervalMillis =
      controlInterval / 1000000 % 2 ^ 64 := by
    have one : 1 ≤ controlInterval / 1000000 := (one_le_div_iff (by norm_num)).mpr interval
    rw [intervalMillis, new, max_eq_left one]
  rw [dvd_iff_mod_eq_zero, ← millis]
  constructor
  · rintro ⟨n, ends⟩ zero
    exact ends.goes 0 zero
  · exact fun divides => ends_of_progress runs divides

/-- One latency, every three seconds. -/
theorem ends_every_three_seconds : ∃ n, (new [.new .latencyP99 100] 1000 5000000000
    3000000000).Ends (fun _ => Arbiter.emptyWindow) n :=
  (exploration_bounded _ _ _ _ _ (by norm_num)).mpr (by norm_num)

/-- At 2^61 seconds the first call panics. -/
theorem first_call_panics : ¬ ∃ n, (new [.new .latencyP99 100] 1000 5000000000
    (2 ^ 61 * 1000000000)).Ends (fun _ => Arbiter.emptyWindow) n := by
  rintro ⟨n, ends⟩
  have zero : (new [.new .latencyP99 100] 1000 5000000000
      (2 ^ 61 * 1000000000)).intervalMillis = 0 := by decide +kernel
  exact ends.goes 0 zero

end Netanvil.Core.ExplorationManager
