/-
# The threads of a test and the factories they are made with

`run_test_core` gives each worker thread raw pointers to the factories it owns, runs the
coordinator, joins all threads and returns. It leaves without joining when a thread cannot be
spawned and when the coordinator panics. The threads it has spawned then go on by themselves.

A worker's thread is the list of what it has still to do. `dangling` is a history: the
pointers followed after the factories are gone.
-/
import Netanvil.Theory.Trace

namespace Netanvil.Core

open Theory Theory.Trace Option Fin Function

inductive Factory where
  | executor
  | generator
  | transformer
  | eventRecorder
  deriving DecidableEq

inductive WorkerAction where
  /-- Pin the thread and raise its priority. -/
  | pin
  /-- Follow the pointer to a factory. -/
  | deref (factory : Factory)
  | buildRuntime
  /-- `io_worker_loop`, until it exits. -/
  | loop

/-- The thread of a worker: references to all four factories, and then a call of each. -/
def workerThread : List WorkerAction :=
  [.pin, .deref .executor, .deref .generator, .deref .transformer, .deref .eventRecorder,
    .buildRuntime, .deref .generator, .deref .transformer, .deref .executor,
    .deref .eventRecorder, .loop]

/-- The pointers some actions follow. -/
def derefs (actions : List WorkerAction) : List Factory :=
  actions.filterMap fun
    | .deref factory => some factory
    | _ => none

inductive EngineStage where
  /-- About to spawn this worker, or after the last worker the timer thread. -/
  | spawning (k : Nat)
  | coordinating
  | joiningTimer
  /-- About to join this worker, or after the last worker to return. -/
  | joining (k : Nat)
  /-- Returned or unwound: the factories are gone. -/
  | left
  deriving DecidableEq

inductive TimerState where
  | unborn
  | running
  | exited
  deriving DecidableEq

structure Engine (n : Nat) where
  stage : EngineStage
  timer : TimerState
  /-- What each worker that has been spawned has still to do. -/
  workers : Fin n → Option (List WorkerAction)
  /-- The pointers followed after the engine had left. -/
  dangling : List (Fin n × Factory)

inductive EngineEvent (n : Nat) where
  | spawn
  | spawnFails
  | panic
  /-- The coordinator's loop ends. -/
  | complete
  | joinTimer
  | joinWorker
  | timerExits
  | worker (i : Fin n)
  /-- The runtime cannot be built, or a factory or the loop panics. -/
  | workerPanics (i : Fin n)

namespace Engine

variable {n : Nat}

def start (n : Nat) : Engine n := ⟨.spawning 0, .unborn, fun _ => none, []⟩

def setWorker (s : Engine n) (i : Fin n) (todo : List WorkerAction) : Engine n :=
  { s with workers := update s.workers i (some todo) }

def step (s : Engine n) : EngineEvent n → Option (Engine n)
  | .spawn =>
    match s.stage with
    | .spawning k =>
      if h : k < n then some { s.setWorker ⟨k, h⟩ workerThread with stage := .spawning (k + 1) }
      else some { s with stage := .coordinating, timer := .running }
    | _ => none
  | .spawnFails =>
    -- the handles are dropped, not joined
    match s.stage with
    | .spawning _ => some { s with stage := .left }
    | _ => none
  | .panic =>
    match s.stage with
    | .coordinating | .joiningTimer | .joining _ => some { s with stage := .left }
    | _ => none
  | .complete =>
    match s.stage with
    | .coordinating => some { s with stage := .joiningTimer }
    | _ => none
  | .joinTimer =>
    match s.stage, s.timer with
    | .joiningTimer, .exited => some { s with stage := .joining 0 }
    | _, _ => none
  | .joinWorker =>
    match s.stage with
    | .joining k =>
      if h : k < n then
        match s.workers ⟨k, h⟩ with
        | some [] => some { s with stage := .joining (k + 1) }
        | _ => none
      else some { s with stage := .left }
    | _ => none
  | .timerExits =>
    match s.timer with
    | .running => some { s with timer := .exited }
    | _ => none
  | .worker i =>
    match s.workers i with
    | some (.deref factory :: rest) =>
      let s' := s.setWorker i rest
      some (if s.stage = .left then { s' with dangling := s.dangling ++ [(i, factory)] } else s')
    | some (_ :: rest) => some (s.setWorker i rest)
    | _ => none
  | .workerPanics i =>
    match s.workers i with
    | some (_ :: _) => some (s.setWorker i [])
    | _ => none

/-- Every worker that has been spawned has made what it needs the factories for. -/
def PastFactories (s : Engine n) : Prop := ∀ i todo, s.workers i = some todo → derefs todo = []

/-- A spawn fails, or the coordinator panics, only when no worker needs the factories. -/
def Settled (s : Engine n) (event : EngineEvent n) : Prop :=
  event = .spawnFails ∨ event = .panic → s.PastFactories

/-! ## A step -/

structure Kept (s : Engine n) : Prop where
  left : s.stage = .left → s.PastFactories
  joined : ∀ k, s.stage = .joining k → ∀ i : Fin n, i.val < k → s.workers i = some []
  dangling : s.dangling = []

theorem kept_start : (start n).Kept :=
  ⟨by simp [start], by simp [start], rfl⟩

variable {s s' : Engine n} {i : Fin n} {event : EngineEvent n} {todo rest : List WorkerAction}

theorem step_early (early : event = .spawnFails ∨ event = .panic) (taken : step s event = some s') :
    s' = { s with stage := .left } := by
  rcases early with rfl | rfl <;> simp only [step] at taken <;> split at taken <;>
    first
    | exact (some.inj taken).symm
    | cases taken

/-- A worker does something, or is no more. -/
theorem kept_setWorker (kept : s.Kept) {action : WorkerAction}
    (here : s.workers i = some (action :: rest))
    (fewer : derefs (action :: rest) = [] → derefs todo = []) : (s.setWorker i todo).Kept := by
  refine ⟨fun stage j => ?_, fun k stage j before => ?_, kept.dangling⟩
  · by_cases mine : j = i
    · subst mine
      intro todo' there
      obtain rfl : todo = todo' := by simpa [setWorker] using there
      exact fewer (kept.left stage j _ here)
    · simp only [setWorker, update_of_ne mine]
      exact kept.left stage j
  · have exited := kept.joined k stage j before
    have mine : j ≠ i := by
      rintro rfl
      rw [here] at exited
      cases exited
    exact (update_of_ne mine _ _).trans exited

theorem kept_worker (kept : s.Kept) (taken : step s (.worker i) = some s') : s'.Kept := by
  simp only [step] at taken
  split at taken
  · rename_i factory rest here
    -- a worker that still follows pointers finds the engine there
    have there : s.stage ≠ .left := fun left => by simpa [derefs] using kept.left left i _ here
    rw [if_neg there] at taken
    cases taken
    exact kept_setWorker kept here (by simp [derefs])
  · rename_i action rest other here
    cases taken
    refine kept_setWorker kept here fun none => ?_
    cases action with
    | deref factory => exact absurd rfl (other factory)
    | pin | buildRuntime | loop => exact none
  · cases taken

theorem kept_step (kept : s.Kept) (settled : s.Settled event) (taken : step s event = some s') :
    s'.Kept := by
  cases event with
  | spawn =>
    simp only [step] at taken
    split at taken
    · split at taken <;> cases taken <;>
        exact ⟨by simp, by simp, kept.dangling⟩
    · cases taken
  | spawnFails | panic =>
    obtain rfl := step_early (by simp) taken
    exact ⟨fun _ => settled (by simp), by simp, kept.dangling⟩
  | complete =>
    simp only [step] at taken
    split at taken <;> cases taken
    exact ⟨by simp, by simp, kept.dangling⟩
  | joinTimer =>
    simp only [step] at taken
    split at taken <;> cases taken
    refine ⟨by simp, fun k stage i before => ?_, kept.dangling⟩
    obtain rfl := EngineStage.joining.inj stage
    exact absurd before (Nat.not_lt_zero _)
  | joinWorker =>
    simp only [step] at taken
    split at taken
    · rename_i k here
      split at taken
      · rename_i inside
        split at taken
        · rename_i exited
          cases taken
          refine ⟨by simp, fun k' stage i before => ?_, kept.dangling⟩
          obtain rfl := EngineStage.joining.inj stage
          rcases Nat.lt_succ_iff_lt_or_eq.mp before with earlier | rfl
          · exact kept.joined k here i earlier
          · exact exited
        · cases taken
      · rename_i all
        cases taken
        refine ⟨fun _ i todo there => ?_, by simp, kept.dangling⟩
        have exited := kept.joined k here i (by omega)
        obtain rfl : [] = todo := some.inj (exited.symm.trans there)
        rfl
    · cases taken
  | timerExits =>
    simp only [step] at taken
    split at taken <;> cases taken
    exact ⟨kept.left, kept.joined, kept.dangling⟩
  | worker i => exact kept_worker kept taken
  | workerPanics i =>
    simp only [step] at taken
    split at taken
    · rename_i here
      cases taken
      exact kept_setWorker kept here fun _ => rfl
    · cases taken

/-- Once the engine has left, a worker that has still a pointer to follow follows it. -/
theorem exists_dangling (left : s.stage = .left) (here : s.workers i = some todo)
    (needs : derefs todo ≠ []) :
    ∃ more s', exec step s more = some s' ∧ s'.dangling ≠ [] := by
  induction todo generalizing s with
  | nil => exact absurd rfl needs
  | cons action rest ih =>
    have there : (s.setWorker i rest).workers i = some rest := by simp [setWorker]
    -- an action that follows no pointer leaves the worker with the rest of them
    have onward (taken : step s (.worker i) = some (s.setWorker i rest))
        (needs : derefs rest ≠ []) :
        ∃ more s', exec step s more = some s' ∧ s'.dangling ≠ [] := by
      obtain ⟨more, s', run, dangling⟩ := ih (s := s.setWorker i rest) left there needs
      exact ⟨_, s', exec_first taken run, dangling⟩
    cases action with
    | deref factory =>
      refine ⟨[.worker i], { s.setWorker i rest with dangling := s.dangling ++ [(i, factory)] },
        ?_, by simp⟩
      simp [exec, step, here, left]
    | pin | buildRuntime | loop => exact onward (by simp [step, here]) needs

/-- **No worker follows a pointer to a factory that is gone if the engine leaves early only
when no worker needs them any more; and if it leaves while one does, the worker may.** -/
theorem factories_outlive (n : Nat) :
    (∀ events s, exec step (start n) events = some s →
      Allowed step Settled (start n) events → s.dangling = []) ∧
    ∀ (s : Engine n) event s', step s event = some s' → ¬ s.Settled event →
      ∃ more s'', exec step s' more = some s'' ∧ s''.dangling ≠ [] := by
  constructor
  · intro events s run allowed
    exact (allowed.invariant kept_start kept_step run).dangling
  · intro s event s' taken unsettled
    obtain ⟨early, needed⟩ := Classical.not_imp.mp unsettled
    simp only [PastFactories, not_forall] at needed
    obtain ⟨i, todo, here, needs⟩ := needed
    obtain rfl := step_early early taken
    exact exists_dangling rfl here needs

/-- The coordinator panics once the only worker is in its loop. -/
theorem panic_after_factories :
    ∃ s, exec step (start 1)
        ([.spawn, .spawn] ++ List.replicate 10 (.worker (last 0)) ++ [.panic] ++
          [.worker (last 0)]) = some s ∧ s.stage = .left ∧ s.dangling = [] := by
  have settled : ∀ events, Allowed step Settled (start 1) events →
      (exec step (start 1) events).map (·.stage) = some .left →
      ∃ s, exec step (start 1) events = some s ∧ s.stage = .left ∧ s.dangling = [] := by
    intro events allowed ends
    obtain ⟨s, run, stage⟩ := map_eq_some_iff.mp ends
    exact ⟨s, run, stage, (factories_outlive 1).1 events s run allowed⟩
  have past : (exec step (start 1)
      ([.spawn, .spawn] ++ List.replicate 10 (.worker (last 0)))).all
        (fun s => (s.workers (last 0)).all fun todo => derefs todo = []) := by decide +kernel
  have before : Allowed step Settled (start 1)
      ([.spawn, .spawn] ++ List.replicate 10 (.worker (last 0))) :=
    .of_forall (by simp [Settled])
  refine settled _ ((before.snoc ?_).append ?_) (by decide +kernel)
  · intro t reached _ i todo here
    rw [Subsingleton.elim i (last 0)] at here
    rw [reached, all_some, here, all_some, decide_eq_true_eq] at past
    exact past
  · simp [Settled]

/-- The second worker cannot be spawned. The first starts, and follows its pointers. -/
theorem spawn_fails_before_factories :
    ∃ s, exec step (start 2) [.spawn, .spawnFails, .worker ⟨0, Nat.zero_lt_two⟩,
        .worker ⟨0, Nat.zero_lt_two⟩] = some s ∧
      s.stage = .left ∧ s.dangling = [(⟨0, Nat.zero_lt_two⟩, .executor)] := by
  decide +kernel

end Engine

end Netanvil.Core
