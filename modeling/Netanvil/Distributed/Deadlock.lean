/-
# Calls that hold the leader's only thread

A cancel of the running test waits for room in a channel of capacity one, for ever if a message
is already there (`stuck_of_run`). A controller update and a controller query wait ten seconds
for an answer whenever they can be sent at all. Nothing else can go wrong (`live_iff_prompt`).
-/
import Netanvil.Theory.Fairness
import Netanvil.Distributed.Lifecycle

namespace Netanvil.Distributed

open Netanvil.Types Theory TestQueue Option Trace

variable {S Spec B : Type}

/-! ## When a call waits -/

namespace TestQueue

variable {q : TestQueue Spec B} {id : TestId}

/-- A cancel waits if the test runs and its channel is full. -/
theorem cancel_eq_none {now : Nat} (placed : ∃ p, q.Placed id p) :
    q.cancel id now = none ↔ ∃ r ∈ q.running, r.id = id ∧ ¬ r.cancelTx.HasRoom := by
  obtain ⟨p, placed⟩ := placed
  unfold cancel
  split
  · rename_i entry found
    simp only [reduceCtorEq, false_iff]
    rintro ⟨r, runs, own, -⟩
    -- a test that waits does not run
    obtain ⟨rfl, -⟩ := placed.waiting_of_line (line_of_find found)
    have off : (q.view id).stage = none := placed.stage
    simp [view, mem_def.mp runs, own] at off
  · split
    · rename_i r runs
      by_cases own : r.id = id <;> simp [runs, own, Channel.trySend_eq_none]
    · rename_i idle
      simp [idle]

theorem exists_unlisted (q : TestQueue Spec B) : ∃ id, q.getInfo id = none := by
  have infinite : Infinite TestId := by
    refine Infinite.of_injective
      (fun n : Nat => ⟨"t-" ++ String.ofList (List.replicate n 'x'), _, rfl⟩) fun m n same => ?_
    have lengths := congrArg (fun id : TestId => id.name.length) same
    simpa using lengths
  obtain ⟨id, unlisted⟩ := Infinite.exists_notMem_finset (q.allTests.map TestInfo.id).toFinset
  exact ⟨id, Keyed.lookup_eq_none.mpr (by simpa using unlisted)⟩

end TestQueue

namespace Leader

variable {setup : LeaderSetup S Spec} {s s' : Leader S Spec B} {event : LeaderEvent Spec}

/-- The handler's call returns at once: a cancel of the running test finds room in its
channel; a controller update or query does not, or its test is not running. -/
def PromptRequest (q : TestQueue Spec B) : Request Spec → Prop
  | .cancelTest id => ∀ r ∈ q.running, r.id = id → r.cancelTx.HasRoom
  | .putController id _ _ => ∀ r ∈ q.running, r.id = id → ¬ r.controllerUpdateTx.HasRoom
  | .getController id => ∀ r ∈ q.running, r.id = id → ¬ r.controllerInfoTx.HasRoom
  | _ => True

def Prompt (s : Leader S Spec B) : LeaderEvent Spec → Prop
  | .serve n _ => ∀ request ∈ s.waiting n, PromptRequest s.queue request
  | _ => True

/-- A handler gives the thread back exactly if its call is prompt. -/
theorem handle_thread (inPlace : ∀ id, ∃ p, s.queue.Placed id p) (free : s.thread = .free) (n : Nat)
    (drawn : TestId) (request : Request Spec) :
    (s.handle setup n drawn request).thread = .free ↔ PromptRequest s.queue request := by
  cases request with
  | createTest spec =>
    simp only [handle, PromptRequest, iff_true]
    split <;> exact free
  | getController id | putController id action params =>
    simp only [handle, PromptRequest]
    split
    · rename_i sent
      simp only [getControllerInfo_eq_true, sendControllerUpdate_eq_true] at sent
      obtain ⟨r, runs, own, room⟩ := sent
      simp only [reduceCtorEq, false_iff, not_forall]
      exact ⟨r, runs, own, not_not.mpr room⟩
    · rename_i unsent
      simp only [getControllerInfo_eq_true, sendControllerUpdate_eq_true] at unsent
      exact iff_of_true free fun r runs own room => unsent ⟨r, runs, own, room⟩
  | cancelTest id =>
    simp only [handle, PromptRequest]
    cases returned : s.queue.cancel id s.clock with
    | none =>
      obtain ⟨r, runs, own, full⟩ := (cancel_eq_none (inPlace id)).mp returned
      simp only [reduceCtorEq, false_iff, not_forall]
      exact ⟨r, runs, own, full⟩
    | some pair =>
      refine iff_of_true free fun r runs own => ?_
      by_contra full
      have blocked : s.queue.cancel id s.clock = none :=
        (cancel_eq_none (inPlace id)).mpr ⟨r, runs, own, full⟩
      rw [returned] at blocked
      cases blocked
  | _ => exact iff_of_true free trivial

/-- A handler that has given the thread back has answered. -/
theorem handle_responses (n : Nat) (drawn : TestId) (request : Request Spec)
    (returned : (s.handle setup n drawn request).thread = .free) :
    ∃ response, (s.handle setup n drawn request).responses = s.responses ++ [(n, response)] := by
  cases request with
  | createTest spec =>
    simp only [handle]
    split <;> exact ⟨_, rfl⟩
  | getController id | putController id action params =>
    simp only [handle] at returned ⊢
    split at returned
    · cases returned
    · rename_i unsent
      rw [if_neg unsent]
      exact ⟨_, rfl⟩
  | cancelTest id =>
    simp only [handle] at returned ⊢
    cases answer : s.queue.cancel id s.clock with
    | none =>
      rw [answer] at returned
      cases returned
    | some pair => exact ⟨_, rfl⟩
  | _ => exact ⟨_, rfl⟩

theorem thread_step_iff (inPlace : s.InPlace) (free : s.thread = .free)
    (taken : step setup s event = some s') : s'.thread = .free ↔ s.Prompt event := by
  cases event with
  | arrive request | elapse time =>
    cases taken
    exact iff_of_true free trivial
  | wake =>
    simp only [step, wake, free] at taken
    cases taken
  | schedule world =>
    obtain ⟨-, rfl⟩ := step_schedule.mp taken
    exact iff_of_true ((sameFront_schedule world).thread.trans free) trivial
  | serve n drawn =>
    obtain ⟨-, -, request, found, rfl⟩ := step_serve.mp taken
    have returns : ((s.accept n).handle setup n drawn request).thread = .free ↔
        PromptRequest s.queue request :=
      handle_thread (s := s.accept n) inPlace.placed free n drawn request
    refine returns.trans ⟨fun prompt waiting waits => ?_, fun prompt => prompt request found⟩
    obtain rfl := some.inj (found.symm.trans waits)
    exact prompt

/-! ## The coordinator goes on -/

/-- Completing a test's run takes the scheduler out of it. -/
theorem complete_leaves (inPlace : s.InPlace) {id : TestId} (runs : s.scheduler.testId = some id)
    (result : DistributedTestResult) (status : TestStatus) :
    (s.complete id result status).scheduler.testId ≠ some id := by
  have running : s.queue.runningId = some id := inPlace.stage.symm.trans runs
  have stage : (s.complete id result status).scheduler.testId =
      (s.complete id result status).queue.runningId :=
    stage_nextTest (runningId_markCompleted running result status s.clock)
  rw [stage]
  intro again
  obtain ⟨kept, ended⟩ := (ended_of_complete inPlace runs result status).running_iff.mp again
  cases ended

/-- Each turn of the scheduler begins a tick, ends the run or brings this nearer. -/
theorem schedule_turns (inPlace : s.InPlace) {id : TestId} (runs : s.scheduler.testId = some id)
    {world : World} (between : ¬ s.TickBegins (.schedule world) id) :
    (s.schedule setup world).scheduler.testId ≠ some id ∨
      Stage.turnsLeft (s.schedule setup world).scheduler < Stage.turnsLeft s.scheduler := by
  generalize turn : s.schedule setup world = s'
  cases scheduled turn.symm with
  | next polls =>
    rw [polls] at runs
    cases runs
  | completes own outcome =>
    obtain rfl := some.inj (runs.symm.trans own)
    exact .inl (complete_leaves inPlace runs _ _)
  | @ticks task sleeps nodes =>
    rw [sleeps] at runs
    exact absurd ⟨⟨task, sleeps, some.inj runs, nodes⟩, world, rfl⟩ between
  | goesOn reads same nearer => exact .inr nearer

/-! ## Fair runs -/

section

variable (run : Run (step setup : Leader S Spec B → _))

/-- No task that can run is passed over for ever. -/
structure TasksRun : Prop where
  handlers : ∀ n, run.Fair fun event => ∃ drawn, event = .serve n drawn
  scheduler : run.Fair fun event => ∃ world, event = .schedule world

/-- The leader is never held up: no handler's call waits, every request is answered, and
a test in its run ticks again or ends. -/
structure Live : Prop where
  unblocked : ∀ k, (run.state k).thread = .free
  answered : ∀ k n, (run.state k).waiting n ≠ none →
    ∃ j ≥ k, (∃ drawn, run.event j = .serve n drawn) ∧
      ∃ response, (run.state (j + 1)).responses = (run.state j).responses ++ [(n, response)]
  ticks : ∀ k id, (run.state k).scheduler.testId = some id →
    ∃ j ≥ k, (run.state j).TickBegins (run.event j) id ∨ (run.state j).scheduler.testId ≠ some id

variable {run}

theorem unblocked_iff (inPlace : ∀ k, (run.state k).InPlace) (free : (run.state 0).thread = .free) :
    (∀ k, (run.state k).thread = .free) ↔ ∀ k, (run.state k).Prompt (run.event k) := by
  constructor
  · intro unblocked k
    exact (thread_step_iff (inPlace k) (unblocked k) (run.taken k)).mp (unblocked (k + 1))
  · intro prompt k
    induction k with
    | zero => exact free
    | succ k ih => exact (thread_step_iff (inPlace k) ih (run.taken k)).mpr (prompt k)

theorem ticks_of_unblocked (fair : TasksRun run) (inPlace : ∀ k, (run.state k).InPlace)
    (unblocked : ∀ k, (run.state k).thread = .free) (k : Nat) (id : TestId) :
    ∃ j ≥ k, (run.state j).TickBegins (run.event j) id ∨
      (run.state j).scheduler.testId ≠ some id := by
  have again : ∀ k, ∃ j ≥ k, ∃ world, run.event j = .schedule world := by
    intro k
    refine fair.scheduler k fun j _ => ?_
    exact ⟨.schedule ⟨.ok [], fun _ _ => true, fun _ => none, none⟩, _, ⟨_, rfl⟩,
      step_schedule.mpr ⟨unblocked j, rfl⟩⟩
  refine run.reaches_of_rank (fun event => ∃ world, event = .schedule world) again
    (fun s => Stage.turnsLeft s.scheduler) ?_ ?_ k
  · intro j _ other
    rw [step_scheduler (run.taken j) fun world is => other ⟨world, is⟩]
  · rintro j far ⟨world, scheduled⟩
    obtain ⟨between, runs⟩ := not_or.mp far
    have taken := run.taken j
    rw [scheduled] at taken between
    obtain ⟨-, same⟩ := step_schedule.mp taken
    rw [same]
    exact (schedule_turns (inPlace j) (not_not.mp runs) between).imp_left .inr

/-- **A fair run of the leader is never held up exactly if no handler makes a call that
waits: a cancel of the running test with an unread cancel message, or a controller update
or query that can be sent to the running test.** -/
theorem live_iff_prompt (store : ResultStore Spec B) (ops : List (StoreOp Spec))
    (begins : run.state 0 = start store (store.after ops)) (fair : TasksRun run) :
    Live run ↔ ∀ k, (run.state k).Prompt (run.event k) := by
  have inPlace : ∀ k, (run.state k).InPlace :=
    Run.invariant (by rw [begins]; exact inPlace_start ops) inPlace_step
  have free : (run.state 0).thread = .free := by rw [begins]; rfl
  constructor
  · intro live
    exact (unblocked_iff inPlace free).mp live.unblocked
  · intro prompt
    have unblocked := (unblocked_iff inPlace free).mpr prompt
    refine ⟨unblocked, fun k n waits => ?_, fun k id _ => ?_⟩
    · obtain ⟨request, found⟩ := ne_none_iff_exists'.mp waits
      obtain ⟨j, later, ⟨drawn, serves⟩, still⟩ :=
        (fair.handlers n).taken (P := fun s => s.waiting n = some request) found
          (by
            intro j still
            obtain ⟨drawn, unused⟩ := exists_unlisted (run.state j).queue
            exact ⟨.serve n drawn, _, ⟨drawn, rfl⟩,
              step_serve.mpr ⟨unblocked j, unused, request, still, rfl⟩⟩)
          (by
            intro j _ still other
            exact waiting_step (run.taken j) still fun drawn is => other ⟨drawn, is⟩)
      refine ⟨j, later, ⟨drawn, serves⟩, ?_⟩
      have taken := run.taken j
      rw [serves] at taken
      obtain ⟨-, -, served, -, same⟩ := step_serve.mp taken
      have returned := unblocked (j + 1)
      rw [same] at returned ⊢
      exact handle_responses n drawn served returned
    · exact ticks_of_unblocked fair inPlace unblocked k id

end

/-- A test is created and started, ticks, is cancelled once and has ended. -/
def cancelledOnce : List (LeaderEvent Unit) :=
  startedTest ++ [.schedule bothAnswer, .schedule bothAnswer, .schedule bothAnswer,
    .arrive (.cancelTest testA), .serve 1 testB, .schedule bothAnswer, .schedule bothAnswer,
    .schedule bothAnswer, .schedule bothAnswer]

theorem live_cancelledOnce :
    ∃ run : Run (step staticSetup : Leader ℚ Unit Cell → _),
      run.state 0 = start (smallStore 1) ((smallStore 1).after []) ∧
      run.event = Run.thenEver cancelledOnce (.schedule bothAnswer) ∧ TasksRun run ∧ Live run := by
  obtain ⟨s, ends, idle, rests⟩ : ∃ s : Leader ℚ Unit Cell,
      exec (step staticSetup) (start (smallStore 1) ((smallStore 1).after [])) cancelledOnce =
        some s ∧ s.inbox = [] ∧ step staticSetup s (.schedule bothAnswer) = some s :=
    ⟨_, rfl, rfl, rfl⟩
  have idles : ∀ k, exec (step staticSetup) s (List.replicate k (.schedule bothAnswer)) =
      some s := by
    intro k
    induction k with
    | zero => rfl
    | succ k ih => rw [List.replicate_succ, exec_cons, rests]; exact ih
  obtain ⟨run, initial, event, late⟩ := Run.exists_thenEver ends idles
  have schedules : ∀ k ≥ cancelledOnce.length, run.event k = .schedule bothAnswer := by
    intro k after
    rw [event, Run.thenEver, List.getD_eq_getElem?_getD, List.getElem?_eq_none after, getD_none]
  have fair : TasksRun run := by
    refine ⟨fun n k possible => ?_, fun k _ => ?_⟩
    · -- no request waits any more
      obtain ⟨_, t, ⟨drawn, rfl⟩, served⟩ := possible (max k _) (le_max_left _ _)
      rw [late _ (le_max_right _ _)] at served
      obtain ⟨-, -, request, waits, -⟩ := step_serve.mp served
      simp [waiting, idle] at waits
    · exact ⟨_, le_max_left _ _, _, schedules _ (le_max_right _ _)⟩
  refine ⟨run, initial, event, fair, (live_iff_prompt (smallStore 1) [] initial fair).mpr ?_⟩
  intro k
  by_cases after : cancelledOnce.length ≤ k
  · rw [schedules k after]
    trivial
  · have reached := run.exec_state k
    rw [initial, event] at reached
    rw [event]
    generalize run.state k = t at reached ⊢
    have early : k < 14 := not_le.mp after
    interval_cases k <;> try exact True.intro
    · intro request waits
      cases some.inj reached
      cases waits
      trivial
    · intro request waits
      cases some.inj reached
      cases waits
      rintro r runs -
      cases runs
      exact Nat.one_pos

/-! ## A second cancel -/

/-- A cancel waits for room that only the coordinator could make. -/
def Stuck (s : Leader S Spec B) : Prop :=
  ∃ n id, s.thread = .sendingCancel n id ∧ ∀ r ∈ s.queue.running, ¬ r.cancelTx.HasRoom

theorem stuck_step (stuck : s.Stuck)
    (taken : step setup s event = some s') : s'.Stuck := by
  obtain ⟨n, id, holds, full⟩ := stuck
  cases event with
  | arrive request | elapse time =>
    cases taken
    exact ⟨n, id, holds, full⟩
  | serve m drawn =>
    obtain ⟨free, -⟩ := step_serve.mp taken
    rw [holds] at free
    cases free
  | schedule world =>
    obtain ⟨free, -⟩ := step_schedule.mp taken
    rw [holds] at free
    cases free
  | wake =>
    have unsent : ¬ (s.queue.sendCancel id).1 = true := by
      intro sent
      obtain ⟨r, runs, -, room⟩ := sendCancel_eq_true.mp sent
      exact full r runs room
    simp only [step, wake, holds, if_neg unsent] at taken
    cases taken

/-- Once a cancel waits for room, the thread is never free again. -/
theorem stuck_of_run {more : List (LeaderEvent Spec)} (stuck : s.Stuck)
    (run : exec (step setup) s more = some s') : s'.thread ≠ .free := by
  have still : s'.Stuck := exec_invariant (I := fun _ s => s.Stuck) stuck stuck_step run
  obtain ⟨n, id, holds, -⟩ := still
  rw [holds]
  nofun

/-- Two cancels of the running test between two ticks: the second one holds the thread,
whatever comes after. -/
theorem second_cancel_blocks :
    ∃ s : Leader ℚ Unit Cell,
      exec (step staticSetup) (start (smallStore 1) ((smallStore 1).after []))
        (startedTest ++ [.arrive (.cancelTest testA), .serve 1 testB, .arrive (.cancelTest testA),
          .serve 2 testB]) = some s ∧
      ∀ more s', exec (step staticSetup) s more = some s' → s'.thread ≠ .free := by
  refine ⟨_, rfl, fun more s' run => stuck_of_run ?_ run⟩
  refine ⟨2, testA, rfl, fun r runs => ?_⟩
  cases runs
  exact Nat.lt_irrefl 1

end Leader

end Netanvil.Distributed
