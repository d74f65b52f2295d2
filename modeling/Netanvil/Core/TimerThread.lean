/-
# The thread that fires

One thread draws each scheduler's next time into a heap, sleeps until the earliest, and sends
the worker a fire event; a worker whose channel is full misses the event, one that is gone is
not asked again. Between two events it handles commands. `drawn` and `outcomes` are histories:
every time drawn is in the heap, in hand, or has one outcome (`Ledger`).
-/
import Netanvil.Core.Coordinator
import Netanvil.Core.IoWorker

namespace Netanvil.Core

open Netanvil.Types Theory List Function

/-- Schedulers with states in `H`. -/
structure RequestScheduler (H : Type) where
  nextRequestTime : H → Option Nat × H
  updateRate : H → ℚ → H

/-- A time drawn for a worker. -/
abbrev Due (n : Nat) := Nat × Fin n

namespace Due

variable {n : Nat}

/-- Earlier, or for a worker of lower index. -/
def le (a b : Due n) : Bool := a.1 < b.1 || (a.1 = b.1 && a.2 ≤ b.2)

/-- Take the least entry off a heap. -/
def pop : List (Due n) → Option (Due n × List (Due n))
  | [] => none
  | due :: rest =>
    match pop rest with
    | none => some (due, [])
    | some (least, others) =>
      if due.le least then some (due, rest) else some (least, due :: others)

theorem pop_eq_none {heap : List (Due n)} (empty : pop heap = none) : heap = [] := by
  cases heap with
  | nil => rfl
  | cons due rest =>
    unfold pop at empty
    split at empty
    · cases empty
    · split at empty <;> cases empty

theorem pop_perm {heap rest : List (Due n)} {due : Due n} (popped : pop heap = some (due, rest)) :
    heap.Perm (due :: rest) := by
  induction heap generalizing due rest with
  | nil => cases popped
  | cons first others ih =>
    unfold pop at popped
    split at popped
    · rename_i none
      cases popped
      rw [pop_eq_none none]
    · rename_i least left found
      split at popped
      · cases popped
        exact .refl _
      · cases popped
        exact ((ih found).cons _).trans (.swap _ _ _)

end Due

/-- What became of an event taken off the heap. -/
inductive Fate where
  | dispatched
  /-- The worker's channel was full. -/
  | dropped
  /-- The worker was gone. -/
  | discarded
  deriving DecidableEq

structure Outcome (n : Nat) where
  due : Due n
  sentTime : Nat
  fate : Fate

/-- What the timer thread passes on to every worker. -/
inductive Update where
  | targets (urls : List String)
  | metadata (headers : List (String × String))

def Update.message : Update → ScheduledRequest
  | .targets urls => .updateTargets urls
  | .metadata headers => .updateMetadata headers

inductive TimerStage (n : Nat) where
  /-- Draining commands; without one, on to the next event. -/
  | commands
  /-- Asleep until the event is due. -/
  | firing (due : Due n)
  /-- Passing an update on to these workers, waiting for room. -/
  | forwarding (update : Update) (workers : List (Fin n))
  /-- Telling these workers to stop, if there is room. -/
  | stopping (workers : List (Fin n))
  | ended

def TimerStage.isEnded {n : Nat} : TimerStage n → Bool
  | .ended => true
  | _ => false

/-- Telling the workers to stop, or done with it. -/
def TimerStage.isStopping {n : Nat} : TimerStage n → Bool
  | .stopping _ | .ended => true
  | _ => false

structure TimerThread (n : Nat) (H : Type) where
  stage : TimerStage n
  schedulers : Fin n → H
  heap : List (Due n)
  dispatched : Nat
  dropped : Nat
  drawn : List (Due n)
  outcomes : List (Outcome n)

namespace TimerThread

variable {n : Nat} {H : Type} (scheduler : RequestScheduler H)

/-- Ask a worker's scheduler for its next time. -/
def draw (t : TimerThread n H) (i : Fin n) : TimerThread n H :=
  match scheduler.nextRequestTime (t.schedulers i) with
  | (none, h) => { t with schedulers := update t.schedulers i h }
  | (some time, h) =>
    { t with
      schedulers := update t.schedulers i h
      heap := (time, i) :: t.heap
      drawn := t.drawn ++ [(time, i)] }

/-- The heap is seeded with each scheduler's first time. -/
def start (schedulers : Fin n → H) : TimerThread n H :=
  (finRange n).foldl (draw scheduler) ⟨.commands, schedulers, [], 0, 0, [], []⟩

/-- The event in hand has its outcome, and the loop goes on. -/
def settle (t : TimerThread n H) (due : Due n) (now : Nat) (fate : Fate) : TimerThread n H :=
  { t with stage := .commands, outcomes := t.outcomes ++ [⟨due, now, fate⟩] }

/-- A command taken off the channel. -/
def handleCommand (t : TimerThread n H) : TimerCommand → TimerThread n H
  | .updateRate rps =>
    { t with schedulers := fun i => scheduler.updateRate (t.schedulers i) (rps / n) }
  | .updateTargets targets => { t with stage := .forwarding (.targets targets) (finRange n) }
  | .updateMetadata headers => { t with stage := .forwarding (.metadata headers) (finRange n) }
  | .stop => { t with stage := .stopping (finRange n) }

/-- On to the next event; without one, the workers are told to stop. -/
def next (t : TimerThread n H) : TimerThread n H :=
  match Due.pop t.heap with
  | none => { t with stage := .stopping (finRange n) }
  | some (due, heap) => { t with heap := heap, stage := .firing due }

/-- Send the event in hand. A worker that is gone is not asked for another time. -/
def fire (t : TimerThread n H) (now : Nat) (gone : Bool) (fires : Channel ScheduledRequest)
    (due : Due n) : TimerThread n H × Channel ScheduledRequest :=
  if gone then (t.settle due now .discarded, fires)
  else
    match fires.trySend (.fire due.1 now) with
    | some fires =>
      (draw scheduler { t.settle due now .dispatched with dispatched := t.dispatched + 1 } due.2,
        fires)
    | none =>
      (draw scheduler { t.settle due now .dropped with dropped := t.dropped + 1 } due.2, fires)

variable {scheduler}

theorem draw_eq (t : TimerThread n H) (i : Fin n) :
    t.draw scheduler i =
      { t with
        schedulers :=
          update t.schedulers i (scheduler.nextRequestTime (t.schedulers i)).2
        heap :=
          (scheduler.nextRequestTime (t.schedulers i)).1.toList.map (·, i) ++ t.heap
        drawn :=
          t.drawn ++ (scheduler.nextRequestTime (t.schedulers i)).1.toList.map (·, i) } := by
  unfold draw
  split <;> rename_i asked <;> simp [asked]

theorem stage_fire (t : TimerThread n H) (now : Nat) (gone : Bool)
    (fires : Channel ScheduledRequest) (due : Due n) :
    (t.fire scheduler now gone fires due).1.stage = .commands := by
  unfold fire
  split
  · rfl
  · split <;> rw [draw_eq] <;> rfl

theorem outcomes_fire (t : TimerThread n H) (now : Nat) (gone : Bool)
    (fires : Channel ScheduledRequest) (due : Due n) :
    ∃ fate, (t.fire scheduler now gone fires due).1.outcomes = t.outcomes ++ [⟨due, now, fate⟩] ∧
      (fate = .discarded → gone) := by
  unfold fire
  split
  · rename_i isGone
    exact ⟨.discarded, rfl, fun _ => isGone⟩
  · split <;> rw [draw_eq]
    · exact ⟨.dispatched, rfl, by simp⟩
    · exact ⟨.dropped, rfl, by simp⟩

/-! ## Every event has one outcome -/

/-- The event taken off the heap and not yet sent. -/
def inHand (t : TimerThread n H) : List (Due n) :=
  match t.stage with
  | .firing due => [due]
  | _ => []

structure Ledger (t : TimerThread n H) : Prop where
  drawn : t.drawn.Perm (t.heap ++ (t.inHand ++ t.outcomes.map (·.due)))
  dispatched : t.dispatched = t.outcomes.countP (·.fate = .dispatched)
  dropped : t.dropped = t.outcomes.countP (·.fate = .dropped)

variable {t : TimerThread n H}

/-- A change of stage that takes no event up and puts none down. -/
theorem Ledger.turn (ledger : t.Ledger) {stage : TimerStage n} (idle : t.inHand = [])
    (idle' : inHand { t with stage := stage } = []) : Ledger { t with stage := stage } := by
  obtain ⟨drawn, dispatched, dropped⟩ := ledger
  refine ⟨?_, dispatched, dropped⟩
  rw [idle] at drawn
  rw [idle']
  exact drawn

theorem ledger_draw (ledger : t.Ledger) (i : Fin n) : (t.draw scheduler i).Ledger := by
  obtain ⟨drawn, dispatched, dropped⟩ := ledger
  unfold draw
  split
  · exact ⟨drawn, dispatched, dropped⟩
  · refine ⟨?_, dispatched, dropped⟩
    exact (perm_append_singleton _ _).trans (drawn.cons _)

/-- What drawing keeps, the seeded heap has. -/
theorem start_of_draw {P : TimerThread n H → Prop}
    (draws : ∀ t i, P t → P (t.draw scheduler i)) {schedulers : Fin n → H}
    (initial : P ⟨.commands, schedulers, [], 0, 0, [], []⟩) : P (start scheduler schedulers) :=
  foldlRecOn _ _ initial fun t kept i _ => draws t i kept

theorem ledger_next (ledger : t.Ledger) (idle : t.stage = .commands) : t.next.Ledger := by
  have none : t.inHand = [] := by rw [inHand, idle]
  unfold next
  split
  · exact ledger.turn none rfl
  · rename_i due heap popped
    obtain ⟨drawn, dispatched, dropped⟩ := ledger
    refine ⟨?_, dispatched, dropped⟩
    rw [none] at drawn
    -- from the heap into the hand
    refine drawn.trans (((Due.pop_perm popped).append_right _).trans ?_)
    exact perm_middle.symm

/-- The event in hand gets its outcome. -/
theorem settle_drawn (ledger : t.Ledger) {due : Due n} (here : t.stage = .firing due) (now : Nat)
    (fate : Fate) :
    t.drawn.Perm (t.heap ++ ([] ++ (t.outcomes ++ [Outcome.mk due now fate]).map (·.due))) := by
  have drawn := ledger.drawn
  rw [inHand, here] at drawn
  refine drawn.trans (Perm.append_left _ ?_)
  rw [map_append]
  exact (perm_append_singleton _ _).symm

/-! ## What has been sent to a worker -/

/-- The fire events dispatched to a worker, as it receives them. -/
def dispatchedTo (t : TimerThread n H) (i : Fin n) : List (Nat × Nat) :=
  t.outcomes.filterMap fun o =>
    if o.fate = .dispatched ∧ o.due.2 = i then some (o.due.1, o.sentTime) else none

theorem dispatchedTo_draw (t : TimerThread n H) (i j : Fin n) :
    (t.draw scheduler j).dispatchedTo i = t.dispatchedTo i := by
  unfold draw
  split <;> rfl

/-- A send adds the event to what its worker has been sent exactly if it goes through. -/
theorem dispatchedTo_fire (t : TimerThread n H) (now : Nat) (gone : Bool)
    (fires : Channel ScheduledRequest) (due : Due n) (i : Fin n) :
    ((t.fire scheduler now gone fires due).1.dispatchedTo i = t.dispatchedTo i ∧
        (t.fire scheduler now gone fires due).2 = fires) ∨
      gone = false ∧ (t.fire scheduler now gone fires due).1.dispatchedTo i =
          t.dispatchedTo i ++ (if due.2 = i then [(due.1, now)] else []) ∧
        (t.fire scheduler now gone fires due).2.queue = fires.queue ++ [.fire due.1 now] := by
  unfold fire
  split
  · exact .inl ⟨by simp [settle, dispatchedTo], rfl⟩
  · rename_i here
    split
    · rename_i sent
      refine .inr ⟨by simpa using here, ?_, Channel.queue_of_trySend sent⟩
      rw [dispatchedTo_draw]
      by_cases same : due.2 = i <;> simp [settle, dispatchedTo, same]
    · refine .inl ⟨?_, rfl⟩
      rw [dispatchedTo_draw]
      simp [settle, dispatchedTo]

end TimerThread

end Netanvil.Core
