/-
# The timer thread, the workers and what joins them

The timer thread, the workers and their request tasks, joined by one bounded fire channel for
each worker and given commands by the coordinator. A step of the machine is one of the timer
thread's turns (`TimerMoves`), or something beside it (`step_cases`).
-/
import Netanvil.Core.TimerThread
import Netanvil.Theory.Trace

namespace Netanvil.Core

open Netanvil.Types Metrics Theory Theory.Trace Function Option

/-- What is fixed for a test. -/
structure FireSetup (n : Nat) (H G T Spec : Type) where
  scheduler : RequestScheduler H
  pipeline : Pipeline G T Spec
  text : TextFunctions
  config : Fin n → IoWorkerConfig
  schedulers : Fin n → H
  generators : Fin n → G
  transformers : Fin n → T

structure FireSystem (n : Nat) (H G T Spec : Type) where
  clock : Nat
  /-- Commands on their way to the timer thread. -/
  commands : List TimerCommand
  timer : TimerThread n H
  fires : Fin n → Channel ScheduledRequest
  workers : Fin n → IoWorker G T Spec

inductive FireEvent (n : Nat) where
  | elapse (time : Nat)
  | command (command : TimerCommand)
  | timer
  /-- A step of a worker; if it generates a request, that takes `spent`. -/
  | worker (i : Fin n) (spent : Nat)
  | complete (i : Fin n) (k : Nat) (result : ExecutionResult)

/-- The command the event puts into the timer thread's channel. -/
def FireEvent.sent {n : Nat} : FireEvent n → List TimerCommand
  | .command told => [told]
  | _ => []

/-- Capacity of a fire channel. -/
def fireChannelCapacity : Nat := 1024

namespace FireSystem

variable {n : Nat} {H G T Spec : Type} (setup : FireSetup n H G T Spec)

def start : FireSystem n H G T Spec where
  clock := 0
  commands := []
  timer := .start setup.scheduler setup.schedulers
  fires := fun _ => .bounded fireChannelCapacity
  workers := fun i =>
    .start setup.pipeline (setup.config i) (setup.generators i) (setup.transformers i) 0

/-- The worker has dropped its end of the channel. -/
def gone (s : FireSystem n H G T Spec) (i : Fin n) : Bool := (s.workers i).stage.isExited

def setTimer (s : FireSystem n H G T Spec) (stage : TimerStage n) : FireSystem n H G T Spec :=
  { s with timer := { s.timer with stage := stage } }

def setFires (s : FireSystem n H G T Spec) (i : Fin n) (fires : Channel ScheduledRequest) :
    FireSystem n H G T Spec :=
  { s with fires := update s.fires i fires }

/-- The next step of the timer thread. -/
def timerStep (s : FireSystem n H G T Spec) : Option (FireSystem n H G T Spec) :=
  match s.timer.stage with
  | .commands =>
    match s.commands with
    | [] => some { s with timer := s.timer.next }
    | command :: rest =>
      some { s with
        commands := rest
        timer := s.timer.handleCommand setup.scheduler command }
  | .firing due =>
    if due.1 ≤ s.clock then
      let (timer, fires) :=
        s.timer.fire setup.scheduler s.clock (s.gone due.2) (s.fires due.2) due
      some { s.setFires due.2 fires with timer := timer }
    else none
  | .forwarding _ [] => some (s.setTimer .commands)
  | .forwarding update (i :: rest) =>
    if s.gone i then some (s.setTimer (.forwarding update rest))
    else
      -- a blocking send: no step until there is room
      ((s.fires i).trySend update.message).map fun fires =>
        (s.setFires i fires).setTimer (.forwarding update rest)
  | .stopping [] => some (s.setTimer .ended)
  | .stopping (i :: rest) =>
    if s.gone i then some (s.setTimer (.stopping rest))
    else
      some ((s.setFires i (((s.fires i).trySend .stop).getD (s.fires i))).setTimer (.stopping rest))
  | .ended => none

def workerStep (s : FireSystem n H G T Spec) (i : Fin n) (spent : Nat) :
    Option (FireSystem n H G T Spec) :=
  ((s.workers i).step setup.pipeline (setup.config i) s.clock spent (!s.timer.stage.isEnded)
      (s.fires i)).map fun (worker, fires) =>
    { s.setFires i fires with
      clock := s.clock + spent
      workers := update s.workers i worker }

def step (s : FireSystem n H G T Spec) : FireEvent n → Option (FireSystem n H G T Spec)
  | .elapse time => some { s with clock := s.clock + time }
  | .command command => some { s with commands := s.commands ++ [command] }
  | .timer => s.timerStep setup
  | .worker i spent => s.workerStep setup i spent
  | .complete i k result =>
    ((s.workers i).complete (setup.config i) setup.text k result).map fun worker =>
      { s with workers := update s.workers i worker }

/-! ## What a step can do -/

/-- A turn of the timer thread. -/
inductive TimerMoves (s : FireSystem n H G T Spec) : FireSystem n H G T Spec → Prop
  | handle {command : TimerCommand} {rest : List TimerCommand} (here : s.timer.stage = .commands)
      (waiting : s.commands = command :: rest) :
      TimerMoves s { s with
        commands := rest
        timer := s.timer.handleCommand setup.scheduler command }
  | next (here : s.timer.stage = .commands) (empty : s.commands = []) :
      TimerMoves s { s with timer := s.timer.next }
  | fire {due : Due n} (here : s.timer.stage = .firing due) (awake : due.1 ≤ s.clock) :
      TimerMoves s
        { s.setFires due.2
            (s.timer.fire setup.scheduler s.clock (s.gone due.2) (s.fires due.2) due).2 with
          timer := (s.timer.fire setup.scheduler s.clock (s.gone due.2) (s.fires due.2) due).1 }
  | forward {update : Update} {i : Fin n} {rest : List (Fin n)} {fires : Channel ScheduledRequest}
      (here : s.timer.stage = .forwarding update (i :: rest))
      (sent : fires = s.fires i ∨ (s.fires i).trySend update.message = some fires) :
      TimerMoves s ((s.setFires i fires).setTimer (.forwarding update rest))
  | forwarded {update : Update} (here : s.timer.stage = .forwarding update []) :
      TimerMoves s (s.setTimer .commands)
  | stop {i : Fin n} {rest : List (Fin n)} {fires : Channel ScheduledRequest}
      (here : s.timer.stage = .stopping (i :: rest))
      (sent : fires = s.fires i ∨ (s.fires i).trySend .stop = some fires) :
      TimerMoves s ((s.setFires i fires).setTimer (.stopping rest))
  | stopped (here : s.timer.stage = .stopping []) : TimerMoves s (s.setTimer .ended)

/-- What happens beside the timer thread: it may be sent commands. -/
structure Beside (s s' : FireSystem n H G T Spec) (sent : List TimerCommand) : Prop where
  timer : s'.timer = s.timer
  clock : s.clock ≤ s'.clock
  commands : s'.commands = s.commands ++ sent
  gone : ∀ i, s.gone i → s'.gone i

variable {setup}

theorem setFires_self (s : FireSystem n H G T Spec) (i : Fin n) : s.setFires i (s.fires i) = s := by
  simp [setFires]

variable {s s' : FireSystem n H G T Spec} {event : FireEvent n}

theorem timerStep_moves (taken : s.timerStep setup = some s') : TimerMoves setup s s' := by
  cases stage : s.timer.stage with
  | commands =>
    simp only [timerStep, stage] at taken
    split at taken
    · rename_i empty
      cases taken
      exact .next stage empty
    · rename_i command rest waiting
      cases taken
      exact .handle stage waiting
  | firing due =>
    simp only [timerStep, stage] at taken
    split at taken
    · rename_i awake
      cases taken
      exact .fire stage awake
    · cases taken
  | forwarding update workers =>
    cases workers with
    | nil =>
      simp only [timerStep, stage] at taken
      cases taken
      exact .forwarded stage
    | cons i rest =>
      simp only [timerStep, stage] at taken
      split at taken
      · cases taken
        have move : TimerMoves setup s _ := .forward stage (.inl rfl)
        rwa [setFires_self] at move
      · obtain ⟨fires, sent, rfl⟩ := map_eq_some_iff.mp taken
        exact .forward stage (.inr sent)
  | stopping workers =>
    cases workers with
    | nil =>
      simp only [timerStep, stage] at taken
      cases taken
      exact .stopped stage
    | cons i rest =>
      simp only [timerStep, stage] at taken
      split at taken
      · cases taken
        have move : TimerMoves setup s _ := .stop stage (.inl rfl)
        rwa [setFires_self] at move
      · cases taken
        refine .stop stage ?_
        cases (s.fires i).trySend .stop with
        | none => exact .inl rfl
        | some fires => exact .inr rfl
  | ended => simp [timerStep, stage] at taken

/-- Only a worker that has not exited moves. -/
theorem gone_update {i : Fin n} {worker : IoWorker G T Spec}
    (looping : (s.workers i).stage ≠ .exited) (j : Fin n) (gone : s.gone j) :
    (update s.workers i worker j).stage.isExited := by
  by_cases here : j = i
  · subst here
    exact absurd (WorkerStage.isExited_iff.mp gone) looping
  · rwa [update_of_ne here]

theorem step_cases (taken : step setup s event = some s') :
    event = .timer ∧ TimerMoves setup s s' ∨ event ≠ .timer ∧ Beside s s' event.sent := by
  cases event with
  | elapse time | command command =>
    cases taken
    exact .inr ⟨by simp, rfl, by simp, by simp [FireEvent.sent], fun _ => id⟩
  | timer => exact .inl ⟨rfl, timerStep_moves taken⟩
  | worker i spent =>
    obtain ⟨⟨worker, fires⟩, moved, rfl⟩ := map_eq_some_iff.mp taken
    have looping : (s.workers i).stage ≠ .exited := by
      intro exited
      simp [IoWorker.step, exited] at moved
    exact .inr ⟨by simp, rfl, Nat.le_add_right _ _, (List.append_nil _).symm, gone_update looping⟩
  | complete i k result =>
    obtain ⟨worker, moved, rfl⟩ := map_eq_some_iff.mp taken
    have looping : (s.workers i).stage ≠ .exited := by
      intro exited
      simp [IoWorker.complete, exited] at moved
    exact .inr ⟨by simp, rfl, le_rfl, (List.append_nil _).symm, gone_update looping⟩

theorem clock_step (taken : step setup s event = some s') : s.clock ≤ s'.clock := by
  rcases step_cases taken with ⟨-, move⟩ | ⟨-, beside⟩
  · cases move <;> exact le_rfl
  · exact beside.clock

end FireSystem

end Netanvil.Core
