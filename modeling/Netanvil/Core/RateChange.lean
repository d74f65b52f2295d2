/-
# When a change of rate takes effect

A change of rate reaches the schedulers at once, but not what they have computed: the event
in the heap, and the time the scheduler has already stepped to. From the change on a worker's
events are these two, and then one new interval apart (`rate_in_force`). Where the rate is
zero both kinds of scheduler step by a second (`zero_rate_goes_on`).
-/
import Netanvil.Core.TimerMerge

namespace Netanvil.Core

open Netanvil.Types Theory Theory.Trace Metrics BoxedScheduler List RequestScheduler

namespace TimerThread

open Due

variable {n : Nat} {H : Type} {scheduler : RequestScheduler H}

variable (scheduler) in
/-- Since `t₀` the events `later` have been taken off, and the total rates set to `rates`. -/
structure Since (t₀ : TimerThread n H) (rates : List ℚ) (later : List (Due n))
    (t : TimerThread n H) : Prop where
  popped : t.popped = t₀.popped ++ later
  sources : ∀ i, ∃ calls answers,
    scheduler.replay (t₀.schedulers i) calls = (answers, t.schedulers i) ∧
      SchedulerCall.rates calls = rates.map (· / (n : ℚ)) ∧
      timesOf i t₀.heap ++ answers.reduceOption = timesOf i later ++ timesOf i t.heap

theorem since_turn {schedulers₀ : Fin n → H} {rates₀ rates updates : List ℚ}
    {t₀ t t' : TimerThread n H} {later : List (Due n)}
    (merging : Merging scheduler schedulers₀ rates₀ t) (since : Since scheduler t₀ rates later t)
    (turn : HeapTurn scheduler t t' updates) :
    ∃ later', Since scheduler t₀ (rates ++ updates) later' t' := by
  obtain ⟨popped, sources⟩ := since
  cases turn with
  | keep heap schedulers hand outcomes =>
    have same : t'.popped = t.popped := by rw [TimerThread.popped, hand, outcomes]; rfl
    refine ⟨later, same.trans popped, fun i => ?_⟩
    rw [append_nil, schedulers, heap]
    exact sources i
  | @update rps heap schedulers hand outcomes =>
    have same : t'.popped = t.popped := by rw [TimerThread.popped, hand, outcomes]; rfl
    refine ⟨later, same.trans popped, fun i => ?_⟩
    obtain ⟨calls, answers, replayed, updated, output⟩ := sources i
    refine ⟨calls ++ [.updateRate (rps / n)], answers, ?_, ?_, by rwa [heap]⟩
    · simp [replay_append, replay, replayed, schedulers]
    · rw [map_append, ← updated]
      simp [SchedulerCall.rates]
  | @take due least schedulers idle hand outcomes =>
    refine ⟨later ++ [due], ?_, fun i => ?_⟩
    · rw [← append_assoc, ← popped, TimerThread.popped, TimerThread.popped, idle, hand,
        outcomes, append_nil]
    · obtain ⟨answers₀, source⟩ := merging.sources i
      have one := source.one
      rw [idle, nil_append] at one
      have moved : timesOf i t.heap = timesOf i [due] ++ timesOf i t'.heap := by
        rw [timesOf_perm (pop_perm least) one, ← timesOf_append]
        rfl
      rw [append_nil, schedulers, timesOf_append, append_assoc, ← moved]
      exact sources i
  | discard heap schedulers here hand outcomes =>
    refine ⟨later, (popped_of_outcome here hand outcomes).trans popped, fun i => ?_⟩
    rw [append_nil, schedulers, heap]
    exact sources i
  | @ask due now fate heap schedulers here hand outcomes =>
    refine ⟨later, (popped_of_outcome here hand outcomes).trans popped, fun i => ?_⟩
    obtain ⟨calls, answers, replayed, updated, output⟩ := sources i
    rw [append_nil]
    by_cases mine : i = due.2
    · subst mine
      obtain ⟨answers₀, source⟩ := merging.sources due.2
      have empty := source.heap_of_hand here
      refine ⟨calls ++ [.next],
        answers ++ [(scheduler.nextRequestTime (t.schedulers due.2)).1], ?_, ?_, ?_⟩
      · rw [replay_append, replayed, schedulers, Function.update_self]
        rfl
      · simpa [SchedulerCall.rates] using updated
      · rw [reduceOption_append, reduceOption_singleton, ← append_assoc, output, empty, heap,
          timesOf_append, timesOf_answer, if_pos rfl, empty, append_nil, append_nil]
    · refine ⟨calls, answers, ?_, updated, ?_⟩
      · rw [replayed, schedulers, Function.update_of_ne mine]
      · rw [output, heap, timesOf_append, timesOf_answer, if_neg (Ne.symm mine), nil_append]

end TimerThread

namespace FireSystem

open TimerThread Due

variable {n : Nat} {R G T Spec : Type} {sampleExp : ℚ → R → ℚ × R}
  {setup : FireSetup n (BoxedScheduler R) G T Spec}

section

variable (kind : setup.scheduler = requestScheduler sampleExp)
include kind

theorem monotone_of_kind (i : Fin n) : setup.scheduler.NonDecreasing (setup.schedulers i) := by
  rw [kind]
  exact nonDecreasing _

/-- Where every scheduler is paced and nothing makes it faster, a worker's events are the one
in the heap and then those from the time its scheduler has stepped to. -/
theorem popped_of_paced {rates₀ : List ℚ} {more : List (FireEvent n)}
    {s₀ s : FireSystem n (BoxedScheduler R) G T Spec}
    (merging : Merging setup.scheduler setup.schedulers rates₀ s₀.timer) {interval : Nat}
    (paced : ∀ i, (s₀.timer.schedulers i).Paced interval)
    (slow : ∀ rps ∈ ratesOf s₀.commands ++ ratesOf (more.flatMap (·.sent)),
      rps ≤ 0 ∧ interval = fallbackInterval) (run : exec (step setup) s₀ more = some s) :
    ∃ later, s.timer.popped = s₀.timer.popped ++ later ∧
      ∀ i, (timesOf i s₀.timer.heap).length ≤ 1 ∧
        ∃ k, timesOf i later <+: timesOf i s₀.timer.heap ++
          steps (s₀.timer.schedulers i).nextTime interval k := by
  obtain ⟨-, rates, later, since, sent⟩ := exec_invariant (I := fun more s =>
    (∃ rates₀, Merging setup.scheduler setup.schedulers rates₀ s.timer) ∧
      ∃ rates later, Since setup.scheduler s₀.timer rates later s.timer ∧
        ratesOf s₀.commands ++ ratesOf (more.flatMap (·.sent)) = rates ++ ratesOf s.commands)
    ⟨⟨rates₀, merging⟩, [], [],
      ⟨(append_nil _).symm, fun i => ⟨[], [], rfl, rfl, by simp⟩⟩, append_nil _⟩
    (by
      rintro more s event s' ⟨⟨rates₀, merging⟩, rates, later, since, sent⟩ taken
      obtain ⟨updates, turn, handled⟩ := heapTurn_step taken
      obtain ⟨later', since'⟩ := since_turn merging since turn
      refine ⟨⟨_, merging_turn (monotone_of_kind kind) merging turn⟩, _, later', since', ?_⟩
      rw [flatMap_append, flatMap_singleton, ratesOf_append, ← append_assoc, sent,
        append_assoc, handled, append_assoc]) run
  refine ⟨later, since.popped, fun i => ⟨?_, ?_⟩⟩
  · obtain ⟨answers, source⟩ := merging.sources i
    have one := source.one
    rw [timesOf_append, length_append] at one
    omega
  · obtain ⟨calls, answers, replayed, updated, output⟩ := since.sources i
    have slower : ∀ share ∈ SchedulerCall.rates calls, share ≤ 0 ∧ interval = fallbackInterval := by
      rw [updated]
      intro share mem
      obtain ⟨rps, handled, rfl⟩ := mem_map.mp mem
      obtain ⟨zero, same⟩ := slow rps (sent ▸ mem_append_left _ handled)
      exact ⟨div_nonpos_of_nonpos_of_nonneg zero (Nat.cast_nonneg n), same⟩
    have answered : (setup.scheduler.replay (s₀.timer.schedulers i) calls).1.reduceOption <+:
        steps (s₀.timer.schedulers i).nextTime interval calls.length := by
      rw [kind]
      exact replay_paced (paced i) slower
    rw [replayed] at answered
    refine ⟨calls.length, ?_⟩
    have first : timesOf i later <+: timesOf i s₀.timer.heap ++ answers.reduceOption := by
      rw [output]
      exact prefix_append _ _
    exact first.trans (prefix_append_right_inj _ |>.mpr answered)

end

/-! ## A new rate -/

/-- **A change of rate leaves two events as they were.**  Of a worker's events taken off after
the last change of rate is handled, the first is the one already in the heap and the next
the one its scheduler has already stepped to; each later one comes a new interval after the
one before. -/
theorem rate_in_force (kind : setup.scheduler = requestScheduler sampleExp)
    (constant : ∀ i, ∃ c, setup.schedulers i = .constantRate c) {earlier more : List (FireEvent n)}
    {s s' : FireSystem n (BoxedScheduler R) G T Spec} {rps : ℚ} {rest : List TimerCommand}
    (reached : exec (step setup) (start setup) earlier = some s) (here : s.timer.stage = .commands)
    (waiting : s.commands = .updateRate rps :: rest) (positive : 0 < rps) (last : ratesOf rest = [])
    (silent : ratesOf (more.flatMap (·.sent)) = [])
    (run : exec (step setup) (start setup) (earlier ++ .timer :: more) = some s') :
    ∃ later, s'.timer.popped = s.timer.popped ++ later ∧
      ∀ i, (timesOf i s.timer.heap).length ≤ 1 ∧
        (∃ k, timesOf i later <+: timesOf i s.timer.heap ++
          steps (s.timer.schedulers i).nextTime (intervalFromRps (rps / n)) k) ∧
        |(intervalFromRps (rps / n) : ℚ) - n / rps * 1000000000| ≤ 1 / 2 := by
  have monotone := monotone_of_kind kind
  obtain ⟨rates₀, merging, -⟩ := merging_of_run monotone reached
  -- the command is handled
  obtain ⟨s₀, handled, after⟩ : ∃ s₀, step setup s .timer = some s₀ ∧
      exec (step setup) s₀ more = some s' := by
    have rest := exec_rest reached run
    exact Option.bind_eq_some_iff.mp rest
  obtain ⟨updates, turn, -⟩ := heapTurn_step handled
  have merging₀ := merging_turn monotone merging turn
  simp only [step, timerStep, here, waiting, Option.some.injEq] at handled
  subst handled
  have paced : ∀ i, (setup.scheduler.updateRate (s.timer.schedulers i) (rps / n)).Paced
      (intervalFromRps (rps / n)) := by
    intro i
    obtain ⟨answers, source⟩ := merging.sources i
    obtain ⟨calls, replayed, -⟩ := source.asked
    obtain ⟨c, made⟩ := constant i
    obtain ⟨c', same⟩ := constantRate_replay sampleExp c calls
    rw [← kind, ← made, replayed] at same
    have same : s.timer.schedulers i = .constantRate c' := same
    rw [same, kind]
    rfl
  obtain ⟨later, popped, workers⟩ := popped_of_paced kind merging₀ paced
    (by simp [last, silent]) after
  refine ⟨later, popped, fun i => ?_⟩
  obtain ⟨one, k, prefixed⟩ := workers i
  refine ⟨one, ⟨k, ?_⟩, ?_⟩
  · have same : (setup.scheduler.updateRate (s.timer.schedulers i) (rps / n)).nextTime =
        (s.timer.schedulers i).nextTime := by
      rw [kind]
      exact nextTime_updateRate _ _
    rw [← same]
    exact prefixed
  · have workers : (0 : ℚ) < n := Nat.cast_pos.mpr (Fin.pos i)
    have share : 0 < rps / n := div_pos positive workers
    have near := fromSecsF64_near (one_div_pos.mpr share).le
    rw [one_div_div] at near
    rwa [intervalFromRps, if_neg (not_le.mpr share), one_div_div]

/-- One event a second, then two: the events after the change are due at one second, at two
and at two and a half. -/
theorem rate_doubled :
    ∃ s s', exec (step (constantSetup 1 1 none)) (start (constantSetup 1 1 none))
        [.timer, .timer, .command (.updateRate 2)] = some s ∧
      exec (step (constantSetup 1 1 none)) (start (constantSetup 1 1 none))
        ([.timer, .timer, .command (.updateRate 2)] ++ .timer ::
          [.timer, .elapse 2500000000, .timer, .timer, .timer, .timer]) = some s' ∧
      timesOf (.last 0) s'.timer.popped = [0, 1000000000, 2000000000, 2500000000] ∧
      ∃ later, s'.timer.popped = s.timer.popped ++ later ∧
        ∃ k, timesOf (.last 0) later <+: timesOf (.last 0) s.timer.heap ++
          steps (s.timer.schedulers (.last 0)).nextTime
            (intervalFromRps (2 / (1 : ℕ))) k := by
  have reached : exec (step (constantSetup 1 1 none)) (start (constantSetup 1 1 none))
      [.timer, .timer, .command (.updateRate 2)] = some _ := rfl
  have run := evaluates (x := exec (step (constantSetup 1 1 none)) (start (constantSetup 1 1 none))
    ([.timer, .timer, .command (.updateRate 2)] ++
      .timer :: [.timer, .elapse 2500000000, .timer, .timer, .timer, .timer]))
  obtain ⟨later, popped, workers⟩ :=
    rate_in_force rfl (fun i => ⟨_, rfl⟩) reached rfl rfl (by norm_num) rfl rfl run
  exact ⟨_, _, reached, run, by decide +kernel, later, popped, (workers (.last 0)).2.1⟩

/-- One event every hundred seconds, then a thousand a second. The change is handled at the
start, and the next event is still due after a hundred seconds. -/
theorem rate_change_waits :
    ∃ s s', exec (step (constantSetup 1 (1 / 100) none)) (start (constantSetup 1 (1 / 100) none))
        [.timer, .timer, .command (.updateRate 1000), .timer] = some s ∧
      exec (step (constantSetup 1 (1 / 100) none)) (start (constantSetup 1 (1 / 100) none))
        [.timer, .timer, .command (.updateRate 1000), .timer, .timer] = some s' ∧
      s.commands = [] ∧ s.clock = 0 ∧ s.timer.popped = [(0, Fin.last 0)] ∧
      s'.timer.popped = [(0, Fin.last 0), (100000000000, Fin.last 0)] ∧
      ¬ (100000000000 : ℚ) ≤ max 0 0 + 1 / 1000 * 1000000000 :=
  ⟨_, _, evaluates,
    evaluates, isEmpty_iff.mp (by decide +kernel),
    by decide +kernel, by decide +kernel, by decide +kernel, by norm_num⟩

/-! ## No rate -/

end FireSystem

namespace Coordinator

variable {S : Type} (valueAtQuantile : Histogram → ℚ → Nat) (c : RateController S)

end Coordinator

namespace Coordinator

variable {S : Type} {c : RateController S} {k : Coordinator S}

end Coordinator

namespace FireSystem

open TimerThread Due

variable {n : Nat} {R G T Spec : Type} {sampleExp : ℚ → R → ℚ × R}
  {setup : FireSetup n (BoxedScheduler R) G T Spec}

end FireSystem

end Netanvil.Core
