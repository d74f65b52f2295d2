/-
# Every fire event is accounted for

In every interleaving, a time drawn from a scheduler ends up in exactly one place: in the
heap, in the timer's hand, dropped, discarded, or dispatched; a dispatched event is handled
once or left in the channel; a handled one is a spawned request or an in-flight drop.
-/
import Netanvil.Core.FireSystem

namespace Netanvil.Core.FireSystem

open Netanvil.Types Metrics Theory Theory.Trace TimerThread IoWorker Function

variable {n clock : Nat} {H G T Spec : Type} (setup : FireSetup n H G T Spec)

/-! ## The invariant -/

structure Books (s : FireSystem n H G T Spec) : Prop where
  ledger : s.timer.Ledger
  sound : ∀ i, (s.workers i).Sound (setup.config i)
  delivered : ∀ i, s.timer.dispatchedTo i = (s.workers i).flow (s.fires i)

variable {setup}

theorem books_start : (start setup).Books setup where
  ledger := start_of_draw (P := Ledger) (fun _ i ledger => ledger_draw ledger i)
    ⟨.refl _, rfl, rfl⟩
  sound := fun _ => ⟨⟨rfl, rfl, rfl, .refl _⟩, rfl, le_rfl, rfl⟩
  delivered := fun i => start_of_draw (P := fun t => t.dispatchedTo i = [])
    (fun t j none => (dispatchedTo_draw t i j).trans none) rfl

variable {fires : Channel ScheduledRequest} {s : FireSystem n H G T Spec} {i : Fin n}
  {message : ScheduledRequest} {s' : FireSystem n H G T Spec} {stage : TimerStage n}

section

variable (books : s.Books setup)
include books

theorem Books.setTimer (idle : s.timer.inHand = [])
    (idle' : (s.setTimer stage).timer.inHand = []) : (s.setTimer stage).Books setup :=
  ⟨books.ledger.turn idle idle', books.sound, books.delivered⟩

theorem Books.setFires (same : (s.workers i).flow fires = (s.workers i).flow (s.fires i)) :
    (s.setFires i fires).Books setup := by
  refine ⟨books.ledger, books.sound, fun j => ?_⟩
  by_cases here : j = i
  · subst here
    simp only [setFires, update_self, same]
    exact books.delivered j
  · simp only [FireSystem.setFires, update_of_ne here]
    exact books.delivered j

/-- One worker moves and loses no fire event. -/
theorem Books.setWorker {worker : IoWorker G T Spec}
    {fires : Fin n → Channel ScheduledRequest}
    (sound : worker.Sound (setup.config i)) (others : ∀ j, j ≠ i → fires j = s.fires j)
    (flow : worker.flow (fires i) = (s.workers i).flow (s.fires i)) : Books setup { s with
      clock := clock
      fires := fires
      workers := update s.workers i worker } := by
  refine ⟨books.ledger, ?_, ?_⟩
  · exact (forall_update_iff s.workers fun j w => w.Sound (setup.config j)).mpr
      ⟨sound, fun j _ => books.sound j⟩
  · refine (forall_update_iff s.workers fun j w =>
      s.timer.dispatchedTo j = w.flow (fires j)).mpr
        ⟨(books.delivered i).trans flow.symm, fun j other => ?_⟩
    rw [others j other]
    exact books.delivered j

theorem books_fire {due : Due n} (here : s.timer.stage = .firing due) :
    let sent := s.timer.fire setup.scheduler s.clock (s.gone due.2) (s.fires due.2) due
    Books setup { s.setFires due.2 sent.2 with timer := sent.1 } := by
  intro sent
  have ledger : sent.1.Ledger := by
    have ledger := books.ledger
    unfold sent fire
    split
    · refine ⟨settle_drawn ledger here _ .discarded, ?_, ?_⟩
      · simpa [settle, List.countP_append] using ledger.dispatched
      · simpa [settle, List.countP_append] using ledger.dropped
    · split
      · refine ledger_draw ⟨settle_drawn ledger here _ .dispatched, ?_, ?_⟩ due.2
        · simp [settle, List.countP_append, ledger.dispatched]
        · simpa [settle, List.countP_append] using ledger.dropped
      · refine ledger_draw ⟨settle_drawn ledger here _ .dropped, ?_, ?_⟩ due.2
        · simpa [settle, List.countP_append] using ledger.dispatched
        · simp [settle, List.countP_append, ledger.dropped]
  refine ⟨ledger, books.sound, fun i => ?_⟩
  rcases dispatchedTo_fire s.timer s.clock (s.gone due.2) (s.fires due.2) due i with
    ⟨none, kept⟩ | ⟨-, dispatched, queue⟩
  · show sent.1.dispatchedTo i = _
    rw [none, books.delivered i]
    by_cases mine : i = due.2
    · subst mine
      simp only [setFires, update_self]
      rw [kept]
    · simp only [setFires, update_of_ne mine]
  · show sent.1.dispatchedTo i = _
    rw [dispatched, books.delivered i]
    by_cases mine : i = due.2
    · subst mine
      simp only [setFires, update_self, if_true, flow]
      rw [queue, firesOf, firesOf, List.filterMap_append, List.append_assoc]
      rfl
    · simp only [setFires, update_of_ne mine, if_neg (Ne.symm mine), List.append_nil]

/-- Passing a message on to a worker that is no fire event. -/
theorem Books.pass (idle : s.timer.inHand = []) (other : firesOf [message] = [])
    (sent : fires = s.fires i ∨ (s.fires i).trySend message = some fires)
    (idle' : (s.setTimer stage).timer.inHand = []) :
    ((s.setFires i fires).setTimer stage).Books setup := by
  refine (books.setFires ?_).setTimer idle idle'
  rcases sent with rfl | sent
  · rfl
  · rw [flow, Channel.queue_of_trySend sent, firesOf, List.filterMap_append]
    rw [firesOf] at other
    rw [other, List.append_nil]
    rfl

theorem books_timerMoves (move : TimerMoves setup s s') : s'.Books setup := by
  cases move with
  | @handle command rest here waiting =>
    refine ⟨?_, books.sound, fun i => ?_⟩
    · have ledger := books.ledger
      have none : s.timer.inHand = [] := by rw [inHand, here]
      cases command with
      | updateRate rps => exact ⟨ledger.drawn, ledger.dispatched, ledger.dropped⟩
      | updateTargets targets | updateMetadata headers | stop => exact ledger.turn none rfl
    rw [← books.delivered i]
    show (s.timer.handleCommand setup.scheduler command).dispatchedTo i = _
    cases command <;> rfl
  | next here empty =>
    refine ⟨ledger_next books.ledger here, books.sound, fun i => ?_⟩
    rw [← books.delivered i]
    show s.timer.next.dispatchedTo i = _
    unfold next
    split <;> rfl
  | fire here awake => exact books_fire books here
  | @forward update i rest fires here sent =>
    have control : firesOf [update.message] = [] := by cases update <;> rfl
    exact books.pass (by rw [inHand, here]) control sent rfl
  | forwarded here => exact books.setTimer (by rw [inHand, here]) rfl
  | stop here sent => exact books.pass (by rw [inHand, here]) rfl sent rfl
  | stopped here => exact books.setTimer (by rw [inHand, here]) rfl

theorem books_step {event : FireEvent n}
    (taken : step setup s event = some s') : s'.Books setup := by
  cases event with
  | elapse time | command command =>
    cases taken
    exact ⟨books.ledger, books.sound, books.delivered⟩
  | timer => exact books_timerMoves books (timerStep_moves taken)
  | worker i spent =>
    obtain ⟨⟨worker, fires⟩, moved, rfl⟩ := Option.map_eq_some_iff.mp taken
    obtain ⟨sound, flow⟩ := sound_step (books.sound i) moved
    refine books.setWorker sound (fun j other => update_of_ne other _ _) ?_
    show worker.flow (update s.fires i fires i) = _
    rw [update_self, flow]
  | complete i k result =>
    obtain ⟨worker, moved, rfl⟩ := Option.map_eq_some_iff.mp taken
    refine books.setWorker (sound_complete (books.sound i) moved) (fun _ _ => rfl) ?_
    unfold complete at moved
    split at moved <;> cases moved
    rfl

end

theorem books_of_run {events : List (FireEvent n)}
    (run : exec (step setup) (start setup) events = some s) : s.Books setup :=
  exec_invariant (I := fun _ s => Books setup s) books_start
    (fun books taken => books_step books taken) run

/-! ## Conservation -/

/-- Where the events of one worker are. -/
structure WorkerConserved (dispatched : List (Nat × Nat)) (waiting : List ScheduledRequest)
    (w : IoWorker G T Spec) : Prop where
  /-- What was dispatched was handled once, in order, or is still in the channel. -/
  handledOnce : dispatched =
    w.handled.map (fun fire => (fire.intendedTime, fire.sentTime)) ++ firesOf waiting
  /-- What was handled is an in-flight drop or a spawned request. -/
  refused : w.inFlightDrops = w.handled.countP (·.request.isNone)
  /-- The requests spawned have ids of their own. -/
  distinct : (w.handled.filterMap (·.request)).Nodup
  /-- A spawned request is in flight or has completed. -/
  spawned : (w.handled.filterMap (·.request)).Perm
    (w.tasks.map (·.context.requestId) ++ w.completed)
  permits : w.limit.count = w.tasks.length
  /-- The snapshots of a worker that has exited tell all its drops. -/
  dropsTold : w.stage = .exited → (w.sent.map (·.inFlightDrops)).sum = w.inFlightDrops
  /-- They tell all requests that had completed, which were all recorded before the last of
  them: a worker that has exited completes nothing. -/
  requestsTold : w.stage = .exited → (w.sent.map (·.totalRequests)).sum = w.completed.length

structure Conserved (s : FireSystem n H G T Spec) : Prop where
  /-- A time drawn is in the heap, in hand, or has one outcome. -/
  drawn : s.timer.drawn.Perm
    (s.timer.heap ++ (s.timer.inHand ++ s.timer.outcomes.map (·.due)))
  dispatched : s.timer.dispatched = s.timer.outcomes.countP (·.fate = .dispatched)
  dropped : s.timer.dropped = s.timer.outcomes.countP (·.fate = .dropped)
  workers : ∀ i, WorkerConserved (s.timer.dispatchedTo i) (s.fires i).queue (s.workers i)

/-- **In every interleaving of the timer thread, the workers, their tasks and the
coordinator's commands, every fire event is in exactly one place.** -/
theorem fires_conserved (setup : FireSetup n H G T Spec) {events : List (FireEvent n)}
    {s : FireSystem n H G T Spec} (run : exec (step setup) (start setup) events = some s) :
    s.Conserved := by
  have books := books_of_run run
  refine ⟨books.ledger.drawn, books.ledger.dispatched, books.ledger.dropped, fun i => ?_⟩
  have sound := books.sound i
  have requests := sound.requests
  refine ⟨books.delivered i, requests.refused, ?_, requests.spawned, requests.permits, ?_, ?_⟩
  · rw [requests.numbered]
    refine List.nodup_range.map fun a b same => ?_
    simpa [requestId] using same
  all_goals
    intro exited
    simp only [Sound, exited] at sound
  · exact sound.stamped
  · exact sound.recorded

/-- One worker that may have one request in flight, fired every ten nanoseconds. -/
def oneWorker : FireSetup 1 Nat Unit Unit Unit where
  scheduler := ⟨fun fired => (some (fired * 10), fired + 1), fun fired _ => fired⟩
  pipeline := ⟨fun _ _ => ((), ()), fun _ _ => (), fun _ => false, fun _ _ => (),
    fun _ _ _ => ((), ()), fun _ _ => ()⟩
  text := Metrics.plainText
  config := fun _ => ⟨0, 1000, true, 1, ⟨0, [], false, []⟩⟩
  schedulers := fun _ => 0
  generators := fun _ => ()
  transformers := fun _ => ()

/-- Two events are dispatched; the second meets the limit. The request completes while the
worker, told to stop, waits for it. -/
def twoFires : List (FireEvent 1) :=
  [.timer, .timer, .elapse 10, .timer, .timer, .worker 0 1, .worker 0 1, .worker 0 1,
    .worker 0 1, .worker 0 1, .worker 0 1, .command .stop, .timer, .timer, .timer, .worker 0 1,
    .complete 0 0 ⟨0, 0, 0, 10, 11, 5, some 200, 1, 1, none, none, none⟩, .elapse 50000000,
    .worker 0 1]

theorem two_fires_conserved :
    ∃ s, exec (step oneWorker) (start oneWorker) twoFires = some s ∧
      ((s.workers 0).stage.isExited, s.timer.dispatched, (s.workers 0).inFlightDrops,
        (s.workers 0).completed) = (true, 2, 1, [0]) ∧ s.Conserved :=
  ⟨_, evaluates, by decide +kernel, fires_conserved oneWorker (evaluates _)⟩

/-! ## The in-flight limit -/

theorem limited_of_run {events : List (FireEvent n)}
    (run : exec (step setup) (start setup) events = some s) (i : Fin n) :
    (s.workers i).Limited (setup.config i) := by
  refine exec_invariant (I := fun _ s => ∀ i, (s.workers i).Limited (setup.config i))
    (fun i => ⟨rfl, fun _ => Nat.zero_le _⟩) ?_ run i
  intro _ s event s' limited taken
  have turn {j w} (kept : IoWorker.Limited (setup.config j) w) (i : Fin n) :
      (update s.workers j w i).Limited (setup.config i) :=
    (forall_update_iff s.workers fun j w => w.Limited (setup.config j)).mpr
      ⟨kept, fun j _ => limited j⟩ i
  cases event with
  | elapse | command =>
    cases taken
    exact limited
  | timer => cases timerStep_moves taken <;> exact limited
  | worker j spent =>
    obtain ⟨⟨worker, fires⟩, moved, rfl⟩ := Option.map_eq_some_iff.mp taken
    exact turn (limited_step (limited j) moved)
  | complete j k result =>
    obtain ⟨worker, moved, rfl⟩ := Option.map_eq_some_iff.mp taken
    refine turn ?_
    unfold complete at moved
    split at moved <;> cases moved
    exact (limited j).imp_right fun bound some => (Nat.sub_le _ _).trans (bound some)

/-- **The in-flight limit holds in every interleaving, and a fire event is refused only while
as many requests are in flight as it allows.** -/
theorem in_flight_limited {events : List (FireEvent n)}
    (run : exec (step setup) (start setup) events = some s) (i : Fin n)
    (limited : 0 < (setup.config i).maxInFlight) :
    (s.workers i).tasks.length ≤ (setup.config i).maxInFlight ∧
      ∀ spent s', step setup s (.worker i spent) = some s' →
        (s'.workers i).inFlightDrops ≠ (s.workers i).inFlightDrops →
          (s.workers i).tasks.length = (setup.config i).maxInFlight := by
  have permits := ((books_of_run run).sound i).requests.permits
  obtain ⟨max, bound⟩ := limited_of_run run i
  refine ⟨by omega, fun spent s' taken more => ?_⟩
  obtain ⟨⟨worker, fires⟩, moved, rfl⟩ := Option.map_eq_some_iff.mp taken
  simp only [update_self] at more
  rcases asks_step moved with ⟨-, same | refused⟩ | ⟨-, same⟩
  · exact absurd same more
  · rw [InFlightLimit.tryAcquire] at refused
    split at refused
    · omega
    · cases refused
  · exact absurd same more

theorem two_fires_limited : ∃ s, exec (step oneWorker) (start oneWorker) twoFires = some s ∧
    (s.workers 0).tasks.length ≤ 1 :=
  ⟨_, evaluates, (in_flight_limited (evaluates _) 0 (by decide)).1⟩

end Netanvil.Core.FireSystem
