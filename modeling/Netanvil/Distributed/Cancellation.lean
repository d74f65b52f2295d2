/-
# What becomes of a running test that is cancelled

The coordinator looks into its cancel channel at the end of a tick and leaves its loop if
there is a message. It then returns the same kind of result as at the end of the test's
time, and the scheduler records every such result as a completed test. So a test whose
run was ended by a cancellation is listed and stored as completed, in every run.
-/
import Netanvil.Distributed.Lifecycle

namespace Netanvil.Distributed.Leader

open Netanvil.Types Theory TestQueue List Trace

variable {S Spec B : Type} {setup : LeaderSetup S Spec} {s s' : Leader S Spec B} {id : TestId}

/-- The tick that is about to end finds a cancel message, in the test's time. -/
def EndedByCancel (s : Leader S Spec B) (id : TestId) : Prop :=
  ∃ task nodes input, s.scheduler = .distributing task nodes input ∧ task.id = id ∧
    s.clock - task.begun < task.coordinator.config.duration ∧
    ∃ r ∈ s.queue.running, r.cancelTx.queue ≠ []

/-- The test has left its tick loop, or it is over and completed. -/
def Completing (s : Leader S Spec B) (id : TestId) : Prop :=
  (∃ task kept, s.scheduler = .finishing task ∧ task.id = id ∧ s.queue.Placed id (.running kept)) ∨
    s.queue.Placed id (.ended .completed)

theorem completing_step {event : LeaderEvent Spec} (completing : s.Completing id)
    (taken : step setup s event = some s') : s'.Completing id := by
  rcases completing with ⟨task, kept, stage, own, placed⟩ | finished
  · by_cases scheduled : ∃ world, event = .schedule world
    · -- the scheduler's next turn records the result
      obtain ⟨world, rfl⟩ := scheduled
      obtain ⟨-, rfl⟩ := step_schedule.mp taken
      right
      simp only [schedule, stage]
      obtain ⟨p, next, moved⟩ := placed_complete placed task.id
        ⟨(task.coordinator.collectFinal task.coordinator.discover world.fetch).totalRequests,
          (task.coordinator.collectFinal task.coordinator.discover world.fetch).totalErrors,
          s.clock - task.begun,
          (task.coordinator.collectFinal task.coordinator.discover world.fetch).nodeMetrics⟩
        .completed
      rw [if_pos own.symm] at next
      obtain rfl : p = .ended .completed := by rcases next with same | same <;> exact same
      exact moved
    · have same := step_scheduler taken fun world is => scheduled ⟨world, is⟩
      obtain ⟨p, moved, moves⟩ := step_moves taken placed
      cases moves with
      | stay => exact .inl ⟨task, kept, same.trans stage, own, moved⟩
      | failed kept discovers =>
        rw [stage] at discovers
        cases discovers
      | completed => exact .inr moved
  · obtain ⟨p, moved, moves⟩ := step_moves taken finished
    cases moves
    exact .inr moved

/-- **A test whose tick loop was ended by a cancel message is never listed or stored as
cancelled. Once its run is over it is completed, in the list and in its entry.** -/
theorem cancelled_test_completes (store : ResultStore Spec B) (ops : List (StoreOp Spec))
    (events : List (LeaderEvent Spec)) (world : World) (more : List (LeaderEvent Spec))
    (run : exec (step setup) (start store (store.after ops)) events = some s)
    (ended : s.EndedByCancel id)
    (later : exec (step setup) (start store (store.after ops))
      (events ++ .schedule world :: more) = some s') :
    s'.queue.status id ≠ some .cancelled ∧ s'.queue.shown id ≠ some .cancelled ∧
      (s'.queue.runningId ≠ some id → s'.queue.status id = some .completed ∧
        (s'.queue.shown id = none ∨ s'.queue.shown id = some .completed)) := by
  rw [append_cons] at later
  obtain ⟨t, toTick⟩ := exec_of_append later
  have taken : step setup s (.schedule world) = some t := by
    rw [exec_snoc, run] at toTick
    exact toTick
  have after : t.Completing id := by
    obtain ⟨task, nodes, input, stage, own, inTime, r, runs, message⟩ := ended
    obtain ⟨-, rfl⟩ := step_schedule.mp taken
    have cancelled : s.queue.takeCancel.1 = true := by
      obtain ⟨a, c, received⟩ := Channel.exists_tryRecv message
      simp only [takeCancel, Option.mem_def.mp runs, received]
    obtain ⟨p, placed⟩ := (inPlace_of_run run).placed id
    have running : s.queue.runningId = some id := by
      rw [← (inPlace_of_run run).stage, stage, ← own]
      rfl
    obtain ⟨kept, rfl⟩ := placed.running_iff.mp running
    have moved := placed.congr (channelsOnly_takeCancel.view id)
    simp only [Completing, schedule, stage, endTick, if_neg (not_le.mpr inTime), cancelled, if_true]
    exact .inl ⟨_, _, rfl, own, moved⟩
  have completing : s'.Completing id := exec_invariant_from (I := fun s => s.Completing id)
    toTick after completing_step later
  have inPlace := inPlace_of_run later
  rcases completing with ⟨task, kept, stage, own, placed⟩ | finished
  · have listed : s'.queue.status id = some .running := placed.listed
    have runs : s'.queue.runningId = some id := by rw [← inPlace.stage, stage, ← own]; rfl
    refine ⟨by simp [listed], ?_, fun ends => absurd runs ends⟩
    have entry : s'.queue.shown id = none ∨ s'.queue.shown id = _ := placed.entry
    rcases entry with gone | same
    · simp [gone]
    · rw [same]
      cases kept <;> simp [Place.view]
  · have listed : s'.queue.status id = some .completed := finished.listed
    have entry : s'.queue.shown id = none ∨ s'.queue.shown id = some .completed := finished.entry
    refine ⟨by simp [listed], ?_, fun _ => ⟨listed, entry⟩⟩
    rcases entry with gone | same
    · simp [gone]
    · simp [same]

/-- The first tick of a test, with a cancel message waiting. -/
def cancelledTick : List (LeaderEvent Unit) :=
  startedTest ++ [.arrive (.cancelTest testA), .serve 1 testB, .schedule bothAnswer,
    .schedule bothAnswer]

theorem ended_in_first_tick :
    ∃ s : Leader ℚ Unit Cell,
      exec (step staticSetup) (start (smallStore 1) ((smallStore 1).after [])) cancelledTick =
        some s ∧ (1, .cancel .stopping) ∈ s.responses ∧ s.EndedByCancel testA := by
  refine ⟨_, rfl, ?_, ?_⟩
  · exact mem_cons_of_mem _ mem_cons_self
  · exact ⟨_, _, _, rfl, rfl, by decide +kernel, _, rfl, cons_ne_nil _ _⟩

theorem cancelled_in_first_tick :
    ∃ s s' : Leader ℚ Unit Cell,
      exec (step staticSetup) (start (smallStore 1) ((smallStore 1).after [])) cancelledTick =
        some s ∧ s.EndedByCancel testA ∧
      exec (step staticSetup) (start (smallStore 1) ((smallStore 1).after []))
        (cancelledTick ++ [.schedule bothAnswer, .schedule bothAnswer]) = some s' ∧
      s'.queue.status testA ≠ some .cancelled ∧ s'.queue.shown testA ≠ some .cancelled := by
  obtain ⟨s, run, -, ended⟩ := ended_in_first_tick
  have outcome := cancelled_test_completes (smallStore 1) [] cancelledTick bothAnswer
    [.schedule bothAnswer] run ended rfl
  exact ⟨s, _, run, ended, rfl, outcome.1, outcome.2.1⟩

/-- `cancel` answers that the test is being stopped, the loop ends, and the test is
completed. -/
theorem cancelled_test_listed_completed :
    ∃ s s' : Leader ℚ Unit Cell,
      exec (step staticSetup) (start (smallStore 1) ((smallStore 1).after [])) cancelledTick =
        some s ∧ (1, .cancel .stopping) ∈ s.responses ∧ s.EndedByCancel testA ∧
      exec (step staticSetup) (start (smallStore 1) ((smallStore 1).after []))
        (cancelledTick ++ [.schedule bothAnswer, .schedule bothAnswer]) = some s' ∧
      s'.queue.status testA = some .completed ∧ s'.queue.shown testA = some .completed := by
  obtain ⟨s, run, answered, ended⟩ := ended_in_first_tick
  refine ⟨s, _, run, answered, ended, rfl, ?_, ?_⟩
  · decide +kernel
  · decide +kernel

end Netanvil.Distributed.Leader
