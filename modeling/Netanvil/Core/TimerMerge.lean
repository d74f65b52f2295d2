/-
# The timer thread merges its schedulers

The heap holds at most one event for each worker: the one its scheduler answered last.
`Merging` says that the events have been taken off in order and that those of one worker are
what its scheduler has answered. A step of the system is a `HeapTurn` of the timer thread,
and each keeps `Merging`.
-/
import Netanvil.Core.FireSystem
import Netanvil.Core.Scheduler
import Netanvil.Theory.Merge

namespace Netanvil.Core

open Netanvil.Types Theory TimerThread RequestScheduler Function Merge

open List (append_nil nil_append)

namespace Due

variable {n : Nat}

/-- The times of one worker. -/
def timesOf (i : Fin n) (dues : List (Due n)) : List Nat :=
  dues.filterMap fun due => if due.2 = i then some due.1 else none

@[simp] theorem timesOf_nil (i : Fin n) : timesOf i [] = [] := rfl

@[simp] theorem timesOf_append (i : Fin n) (dues more : List (Due n)) :
    timesOf i (dues ++ more) = timesOf i dues ++ timesOf i more :=
  List.filterMap_append

theorem le_iff {a b : Due n} : a.le b ↔ toLex a ≤ toLex b := by
  simp [le, Prod.Lex.toLex_le_toLex]

/-- What is taken off is least. -/
theorem pop_least {heap rest : List (Due n)} {due : Due n} (popped : pop heap = some (due, rest)) :
    ∀ other ∈ rest, toLex due ≤ toLex other := by
  induction heap generalizing due rest with
  | nil => cases popped
  | cons first others ih =>
    unfold pop at popped
    split at popped
    · cases popped
      simp
    · rename_i least left found
      split at popped
      · rename_i before
        cases popped
        intro other waits
        have first := le_iff.mp before
        rcases List.mem_cons.mp ((pop_perm found).subset waits) with rfl | waits
        · exact first
        · exact first.trans (ih found other waits)
      · rename_i after
        cases popped
        intro other waits
        rcases List.mem_cons.mp waits with rfl | waits
        · exact (not_le.mp (mt le_iff.mpr after)).le
        · exact ih found other waits

end Due

/-- The rates asked for by some commands. -/
def ratesOf (commands : List TimerCommand) : List ℚ :=
  commands.filterMap fun
    | .updateRate rps => some rps
    | _ => none

theorem ratesOf_append (commands more : List TimerCommand) :
    ratesOf (commands ++ more) = ratesOf commands ++ ratesOf more :=
  List.filterMap_append

namespace TimerThread

open Due

variable {n : Nat} {H : Type} {scheduler : RequestScheduler H}

/-! ## What becomes of the heap -/

variable (scheduler) in
/-- What one step, which may handle a change of rate, does to the heap, the schedulers and
the event in hand. -/
inductive HeapTurn (t t' : TimerThread n H) : List ℚ → Prop
  | keep (heap : t'.heap = t.heap) (schedulers : t'.schedulers = t.schedulers)
      (hand : t'.inHand = t.inHand) (outcomes : t'.outcomes = t.outcomes) : HeapTurn t t' []
  | update {rps : ℚ} (heap : t'.heap = t.heap)
      (schedulers : t'.schedulers = fun i => scheduler.updateRate (t.schedulers i) (rps / n))
      (hand : t'.inHand = t.inHand) (outcomes : t'.outcomes = t.outcomes) : HeapTurn t t' [rps]
  | take {due : Due n} (least : pop t.heap = some (due, t'.heap))
      (schedulers : t'.schedulers = t.schedulers) (idle : t.inHand = [])
      (hand : t'.inHand = [due]) (outcomes : t'.outcomes = t.outcomes) : HeapTurn t t' []
  | discard {due : Due n} {now : Nat} (heap : t'.heap = t.heap)
      (schedulers : t'.schedulers = t.schedulers) (here : t.inHand = [due])
      (hand : t'.inHand = []) (outcomes : t'.outcomes = t.outcomes ++ [⟨due, now, .discarded⟩]) :
      HeapTurn t t' []
  | ask {due : Due n} {now : Nat} {fate : Fate}
      (heap : t'.heap =
        (scheduler.nextRequestTime (t.schedulers due.2)).1.toList.map (·, due.2) ++ t.heap)
      (schedulers : t'.schedulers =
        update t.schedulers due.2 (scheduler.nextRequestTime (t.schedulers due.2)).2)
      (here : t.inHand = [due]) (hand : t'.inHand = [])
      (outcomes : t'.outcomes = t.outcomes ++ [⟨due, now, fate⟩]) : HeapTurn t t' []

end TimerThread

namespace FireSystem

open TimerThread Due

variable {n : Nat} {H G T Spec : Type} {setup : FireSetup n H G T Spec}
  {s s' : FireSystem n H G T Spec}

/-- The rates handled and those still waiting are those sent. -/
theorem heapTurn_step {event : FireEvent n} (taken : step setup s event = some s') :
    ∃ updates, HeapTurn setup.scheduler s.timer s'.timer updates ∧
      ratesOf s.commands ++ ratesOf event.sent = updates ++ ratesOf s'.commands := by
  rcases step_cases taken with ⟨rfl, move⟩ | ⟨-, beside⟩
  · show ∃ updates, HeapTurn setup.scheduler s.timer s'.timer updates ∧
      ratesOf s.commands ++ [] = updates ++ ratesOf s'.commands
    rw [append_nil]
    cases move with
    | @handle command rest here waiting =>
      have idle : s.timer.inHand = [] := by rw [inHand, here]
      rw [waiting]
      cases command with
      | updateRate rps => exact ⟨[rps], .update rfl rfl rfl rfl, rfl⟩
      | updateTargets targets | updateMetadata headers | stop =>
        exact ⟨[], .keep rfl rfl idle.symm rfl, rfl⟩
    | next here empty =>
      have idle : s.timer.inHand = [] := by rw [inHand, here]
      refine ⟨[], ?_, rfl⟩
      show HeapTurn _ _ s.timer.next _
      unfold next
      split
      · exact .keep rfl rfl idle.symm rfl
      · rename_i popped
        exact .take popped rfl idle rfl rfl
    | @fire due here awake =>
      refine ⟨[], ?_, rfl⟩
      have hand : s.timer.inHand = [due] := by rw [inHand, here]
      unfold fire
      split
      · exact .discard rfl rfl hand rfl rfl
      · split <;> rw [draw_eq] <;> exact .ask rfl rfl hand rfl rfl
    | forward here sent | forwarded here | stop here sent | stopped here =>
      exact ⟨[], .keep rfl rfl (by rw [inHand, inHand, here]; rfl) rfl, rfl⟩
  · refine ⟨[], by rw [beside.timer]; exact .keep rfl rfl rfl rfl, ?_⟩
    rw [beside.commands, ratesOf_append, nil_append]

end FireSystem

namespace TimerThread

open Due

variable {n : Nat} {H : Type} (scheduler : RequestScheduler H)

/-! ## The merge -/

/-- The events taken off the heap, in order. -/
def popped (t : TimerThread n H) : List (Due n) := t.outcomes.map (·.due) ++ t.inHand

/-- The worker was gone when an event was due for it. -/
def FoundGone (t : TimerThread n H) (i : Fin n) : Prop :=
  ∃ o ∈ t.outcomes, o.due.2 = i ∧ o.fate = .discarded

/-- What worker `i`'s scheduler has answered, after some changes of the total rate, and
where it is. -/
structure Source (h₀ : H) (rates : List ℚ) (t : TimerThread n H) (i : Fin n)
    (answers : List (Option Nat)) : Prop where
  asked : ∃ calls, scheduler.replay h₀ calls = (answers, t.schedulers i) ∧
    SchedulerCall.rates calls = rates.map (· / (n : ℚ))
  /-- The times answered have been taken off the heap, but for those still there. -/
  output : answers.reduceOption = timesOf i t.popped ++ timesOf i t.heap
  one : (timesOf i (t.inHand ++ t.heap)).length ≤ 1
  /-- Without an event the scheduler is exhausted or the worker gone. -/
  served : timesOf i (t.inHand ++ t.heap) = [] → answers.getLast? = some none ∨ t.FoundGone i

structure Merging (schedulers : Fin n → H) (rates : List ℚ) (t : TimerThread n H) : Prop where
  ordered : Ordered (t.popped.map toLex) (t.heap.map toLex)
  sources : ∀ i, ∃ answers, Source scheduler (schedulers i) rates t i answers

variable {scheduler}

/-! ## Asking a scheduler -/

theorem timesOf_answer (i j : Fin n) (answer : Option Nat) :
    timesOf j (answer.toList.map (·, i)) = if i = j then answer.toList else [] := by
  cases answer <;> by_cases same : i = j <;> simp [timesOf, same]

variable {i : Fin n} {t t' : TimerThread n H} {due : Due n} {now : Nat} {fate : Fate} {h₀ : H}
  {schedulers₀ : Fin n → H}

theorem timesOf_perm {dues dues' : List (Due n)} (perm : dues.Perm dues')
    (one : (timesOf i dues).length ≤ 1) : timesOf i dues = timesOf i dues' := by
  have times : (timesOf i dues).Perm (timesOf i dues') := perm.filterMap _
  match here : timesOf i dues, one with
  | [], _ => exact (List.nil_perm.mp (here ▸ times)).symm
  | [time], _ => exact List.singleton_perm.mp (here ▸ times)

theorem FoundGone.more {more : List (Outcome n)} (outcomes : t'.outcomes = t.outcomes ++ more)
    (found : t.FoundGone i) : t'.FoundGone i := by
  obtain ⟨o, old, mine⟩ := found
  exact ⟨o, outcomes ▸ List.mem_append_left _ old, mine⟩

section

variable {rates : List ℚ} {answers : List (Option Nat)} (here : t.inHand = [due])
  (hand : t'.inHand = []) (outcomes : t'.outcomes = t.outcomes ++ [⟨due, now, fate⟩])

include here

/-- The event in hand is its worker's only one. -/
theorem Source.heap_of_hand (source : Source scheduler h₀ rates t due.2 answers) :
    timesOf due.2 t.heap = [] := by
  have one := source.one
  rw [here, timesOf_append] at one
  simpa [timesOf] using one

include hand outcomes

theorem popped_of_outcome : t'.popped = t.popped := by
  simp [popped, here, hand, outcomes]

/-- The source of another worker, where only the hand and one outcome change. -/
theorem Source.other (source : Source scheduler h₀ rates t i answers) (mine : i ≠ due.2)
    (heap : timesOf i t'.heap = timesOf i t.heap) (schedulers : t'.schedulers i = t.schedulers i) :
    Source scheduler h₀ rates t' i answers := by
  have none : timesOf i t.inHand = [] := by simp [here, timesOf, Ne.symm mine]
  obtain ⟨asked, output, one, served⟩ := source
  rw [timesOf_append, none, nil_append] at one served
  refine ⟨?_, ?_, ?_, ?_⟩
  · rwa [schedulers]
  · rw [popped_of_outcome here hand outcomes, heap, output]
  · rw [hand, nil_append, heap]
    exact one
  · rw [hand, nil_append, heap]
    exact fun idle => (served idle).imp_right (.more outcomes)

variable (heap : t'.heap =
      (scheduler.nextRequestTime (t.schedulers due.2)).1.toList.map (·, due.2) ++ t.heap)
  (schedulers : t'.schedulers =
    update t.schedulers due.2 (scheduler.nextRequestTime (t.schedulers due.2)).2)

include heap schedulers

theorem Source.ask (source : Source scheduler h₀ rates t due.2 answers) :
    Source scheduler h₀ rates t' due.2
      (answers ++ [(scheduler.nextRequestTime (t.schedulers due.2)).1]) := by
  have empty := source.heap_of_hand here
  have times : timesOf due.2 t'.heap =
      (scheduler.nextRequestTime (t.schedulers due.2)).1.toList := by
    rw [heap, timesOf_append, timesOf_answer, if_pos rfl, empty, append_nil]
  refine ⟨?_, ?_, ?_, ?_⟩
  · obtain ⟨calls, replayed, updated⟩ := source.asked
    refine ⟨calls ++ [.next], ?_, ?_⟩
    · rw [replay_append, replayed, schedulers, update_self]
      rfl
    · simpa [SchedulerCall.rates] using updated
  · rw [List.reduceOption_append, List.reduceOption_singleton, source.output, empty, times,
      popped_of_outcome here hand outcomes, append_nil]
  all_goals
    rw [hand, nil_append, times]
    cases (scheduler.nextRequestTime (t.schedulers due.2)).1 <;> simp

/-- A scheduler's times never go back, so neither does the merge. -/
theorem Merging.ordered_ask (merging : Merging scheduler schedulers₀ rates t)
    (monotone : scheduler.NonDecreasing (schedulers₀ due.2)) :
    Ordered (t'.popped.map toLex) (t'.heap.map toLex) := by
  have last : t.popped = t.outcomes.map (·.due) ++ [due] := by rw [popped, here]
  have ordered := merging.ordered
  rw [popped_of_outcome here hand outcomes, heap]
  rw [last, List.map_append] at ordered ⊢
  obtain ⟨answers, source⟩ := merging.sources due.2
  cases answer : (scheduler.nextRequestTime (t.schedulers due.2)).1 with
  | none => simpa using ordered
  | some time =>
    refine ordered.refill ?_
    -- the new time is one of the answers, after the event's own
    obtain ⟨calls, replayed, -⟩ := (source.ask here hand outcomes heap schedulers).asked
    have sorted := monotone calls
    rw [replayed, answer, List.reduceOption_append, source.output, last] at sorted
    have later : due.1 ≤ time := by
      refine (List.pairwise_append.mp sorted).2.2 due.1 ?_ time (by simp [List.reduceOption])
      simp [timesOf]
    exact Prod.Lex.toLex_le_toLex.mpr (later.lt_or_eq.imp_right fun eq => ⟨eq, le_rfl⟩)

end

theorem merging_turn {rates updates : List ℚ}
    (monotone : ∀ i, scheduler.NonDecreasing (schedulers₀ i))
    (merging : Merging scheduler schedulers₀ rates t) (turn : HeapTurn scheduler t t' updates) :
    Merging scheduler schedulers₀ (rates ++ updates) t' := by
  cases turn with
  | keep heap schedulers hand outcomes =>
    rw [append_nil]
    have popped : t'.popped = t.popped := by rw [popped, hand, outcomes]; rfl
    refine ⟨by rw [popped, heap]; exact merging.ordered, fun i => ?_⟩
    obtain ⟨answers, asked, output, one, served⟩ := merging.sources i
    refine ⟨answers, by rwa [schedulers], by rwa [popped, heap], by rwa [hand, heap], ?_⟩
    rw [hand, heap, FoundGone, outcomes]
    exact served
  | @update rps heap schedulers hand outcomes =>
    have popped : t'.popped = t.popped := by rw [popped, hand, outcomes]; rfl
    refine ⟨by rw [popped, heap]; exact merging.ordered, fun i => ?_⟩
    obtain ⟨answers, ⟨calls, replayed, updated⟩, output, one, served⟩ := merging.sources i
    refine ⟨answers, ⟨calls ++ [.updateRate (rps / n)], ?_, ?_⟩, by rwa [popped, heap],
      by rwa [hand, heap], ?_⟩
    · simp [replay_append, replay, replayed, schedulers]
    · rw [List.map_append, ← updated]
      simp [SchedulerCall.rates]
    · rw [hand, heap, FoundGone, outcomes]
      exact served
  | @take due least schedulers idle hand outcomes =>
    rw [append_nil]
    have perm := pop_perm least
    have popped : t'.popped = t.popped ++ [due] := by
      simp [popped, idle, hand, outcomes]
    refine ⟨?_, fun i => ?_⟩
    · rw [popped, List.map_append]
      refine merging.ordered.give (perm.map toLex) fun key waits => ?_
      obtain ⟨other, left, rfl⟩ := List.mem_map.mp waits
      exact pop_least least other left
    · obtain ⟨answers, asked, output, one, served⟩ := merging.sources i
      rw [idle, nil_append] at one served
      -- from the heap into the hand
      have moved : timesOf i t.heap = timesOf i [due] ++ timesOf i t'.heap := by
        rw [timesOf_perm perm one, ← timesOf_append]
        rfl
      refine ⟨answers, by rwa [schedulers], ?_, ?_, ?_⟩
      · rw [popped, timesOf_append, List.append_assoc, ← moved, output]
      · rw [hand, timesOf_append, ← moved]
        exact one
      · rw [hand, timesOf_append, ← moved, FoundGone, outcomes]
        exact served
  | @discard due now heap schedulers here hand outcomes =>
    rw [append_nil]
    have popped := popped_of_outcome here hand outcomes
    refine ⟨by rw [popped, heap]; exact merging.ordered, fun i => ?_⟩
    obtain ⟨answers, source⟩ := merging.sources i
    by_cases mine : i = due.2
    · subst mine
      refine ⟨answers, by rw [schedulers]; exact source.asked,
        by rw [popped, heap]; exact source.output, ?_, fun _ => .inr ?_⟩
      · rw [hand, nil_append, heap, source.heap_of_hand here]
        simp
      · exact ⟨⟨due, now, .discarded⟩, by simp [outcomes], rfl, rfl⟩
    · exact ⟨answers, source.other here hand outcomes mine (by rw [heap]) (by rw [schedulers])⟩
  | @ask due now fate heap schedulers here hand outcomes =>
    rw [append_nil]
    refine ⟨merging.ordered_ask here hand outcomes heap schedulers (monotone _), fun i => ?_⟩
    obtain ⟨answers, source⟩ := merging.sources i
    by_cases mine : i = due.2
    · subst mine
      exact ⟨_, source.ask here hand outcomes heap schedulers⟩
    · refine ⟨answers, source.other here hand outcomes mine ?_ ?_⟩
      · rw [heap, timesOf_append, timesOf_answer, if_neg (Ne.symm mine), nil_append]
      · rw [schedulers, update_of_ne mine]

variable (schedulers : Fin n → H)
include schedulers

variable (scheduler) in
/-- Each scheduler that has been asked was asked once. -/
theorem seeded (workers : List (Fin n)) (distinct : workers.Nodup) :
    let t := workers.foldl (draw scheduler) ⟨.commands, schedulers, [], 0, 0, [], []⟩
    t.stage = .commands ∧ t.outcomes = [] ∧
      (∀ i ∈ workers, t.schedulers i = (scheduler.nextRequestTime (schedulers i)).2 ∧
        timesOf i t.heap = (scheduler.nextRequestTime (schedulers i)).1.toList) ∧
      ∀ i ∉ workers, t.schedulers i = schedulers i ∧ timesOf i t.heap = [] := by
  induction workers using List.reverseRecOn with
  | nil => exact ⟨rfl, rfl, by simp, fun i _ => ⟨rfl, rfl⟩⟩
  | append_singleton workers last ih =>
    obtain ⟨distinct, -, apart⟩ := List.nodup_append.mp distinct
    have fresh : last ∉ workers := fun old => apart last old last (by simp) rfl
    obtain ⟨stage, outcomes, asked, idle⟩ := ih distinct
    obtain ⟨first, none⟩ := idle last fresh
    simp only [List.foldl_append, List.foldl_cons, List.foldl_nil, draw_eq]
    refine ⟨stage, outcomes, fun i mem => ?_, fun i out => ?_⟩
    · by_cases here : i = last
      · subst here
        simp [first, none, timesOf_answer]
      · have old : i ∈ workers := by simpa [here] using mem
        simp [here, timesOf_answer, Ne.symm here, asked i old]
    · have here : i ≠ last := by
        rintro rfl
        simp at out
      have new : i ∉ workers := fun old => out (List.mem_append_left _ old)
      simp [here, timesOf_answer, Ne.symm here, idle i new]

variable (scheduler) in
theorem inHand_start : (start scheduler schedulers).inHand = [] := by
  rw [inHand, start, (seeded scheduler schedulers _ (List.nodup_finRange n)).1]

variable (scheduler) in
/-- Every scheduler was asked once. -/
theorem asked_start (i : Fin n) :
    (start scheduler schedulers).schedulers i = (scheduler.nextRequestTime (schedulers i)).2 ∧
      timesOf i (start scheduler schedulers).heap =
        (scheduler.nextRequestTime (schedulers i)).1.toList :=
  (seeded scheduler schedulers _ (List.nodup_finRange n)).2.2.1 i (List.mem_finRange i)

theorem merging_start : Merging scheduler schedulers [] (start scheduler schedulers) := by
  have hand := inHand_start scheduler schedulers
  have popped : (start scheduler schedulers).popped = [] := by
    rw [popped, hand, start, (seeded scheduler schedulers _ (List.nodup_finRange n)).2.1]
    rfl
  constructor
  · rw [popped]
    exact ordered_nil _
  · intro i
    obtain ⟨reached, times⟩ := asked_start scheduler schedulers i
    refine ⟨[(scheduler.nextRequestTime (schedulers i)).1], ⟨[.next], ?_, rfl⟩, ?_, ?_, ?_⟩
    · rw [reached]
      rfl
    · rw [popped, times, List.reduceOption_singleton]
      rfl
    all_goals
      rw [hand, nil_append, times]
      cases (scheduler.nextRequestTime (schedulers i)).1 <;> simp

end TimerThread

/-! ## Runs -/

namespace FireSystem

open TimerThread Theory.Trace

variable {n : Nat} {H G T Spec : Type} {setup : FireSetup n H G T Spec}
  {s : FireSystem n H G T Spec}

theorem merging_of_run (monotone : ∀ i, setup.scheduler.NonDecreasing (setup.schedulers i))
    {events : List (FireEvent n)} (run : exec (step setup) (start setup) events = some s) :
    ∃ rates, Merging setup.scheduler setup.schedulers rates s.timer ∧
      ratesOf (events.flatMap (·.sent)) = rates ++ ratesOf s.commands := by
  refine exec_invariant (I := fun events s => ∃ rates,
    Merging setup.scheduler setup.schedulers rates s.timer ∧
      ratesOf (events.flatMap (·.sent)) = rates ++ ratesOf s.commands) ?_ ?_ run
  · exact ⟨[], merging_start _, rfl⟩
  · rintro events s event s' ⟨rates, merging, sent⟩ taken
    obtain ⟨updates, turn, handled⟩ := heapTurn_step taken
    refine ⟨rates ++ updates, merging_turn monotone merging turn, ?_⟩
    rw [List.flatMap_append, List.flatMap_singleton, ratesOf_append, sent, List.append_assoc,
      handled, List.append_assoc]

/-- Constant-rate schedulers that share a rate, as the engine makes them, and workers whose
requests are all alike. -/
def constantSetup (n : Nat) (rps : ℚ) (duration : Option Nat) :
    FireSetup n (BoxedScheduler Unit) Unit Unit Unit where
  scheduler := BoxedScheduler.requestScheduler fun rate rng => (1 / rate, rng)
  pipeline := ⟨fun _ _ => ((), ()), fun _ _ => (), fun _ => false, fun _ _ => (),
    fun _ _ _ => ((), ()), fun _ _ => ()⟩
  text := Metrics.plainText
  config := fun i => ⟨i, 1000000000, true, 0, ⟨0, [], false, []⟩⟩
  schedulers := fun _ => .constantRate (.new (rps / n) 0 duration)
  generators := fun _ => ()
  transformers := fun _ => ()

end FireSystem

end Netanvil.Core
