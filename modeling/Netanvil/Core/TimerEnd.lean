/-
# The timer thread ends when its schedulers do

An infinite run in which the timer thread gets its turns and time goes on (`TimerRuns`).
If each scheduler has only so many times to give and only so many changes of rate are sent
(`RatesEnd`), the timer thread ends (`stops`), and it has taken off every event of every worker
that is still there (`timer_merges`). A change of rate that comes whenever the thread looks
keeps it from the heap for ever (`flood_never_pops`).
-/
import Netanvil.Core.TimerMerge
import Netanvil.Theory.Fairness

namespace Netanvil.Core

open Netanvil.Types Theory Trace List Option Channel Function Nat IoWorker Run TimerStage
  BoxedScheduler

namespace TimerThread

open Due

variable {n : Nat} {H : Type} {scheduler : RequestScheduler H}

/-! ## One worker's scheduler -/

variable (scheduler) in
/-- The scheduler of a worker with an event in hand has given another time. -/
def Answered (t t' : TimerThread n H) (i : Fin n) : Prop :=
  timesOf i t.inHand ≠ [] ∧
    ∃ time, scheduler.nextRequestTime (t.schedulers i) = (some time, t'.schedulers i)

variable {t t' : TimerThread n H}

/-- A scheduler has its rate changed or answers, or its worker has no event any more. -/
theorem source_turn {h₀ : H} {rates updates : List ℚ} {i : Fin n} {answers : List (Option Nat)}
    (source : Source scheduler h₀ rates t i answers) (turn : HeapTurn scheduler t t' updates) :
    t'.schedulers i = (updates.map (· / (n : ℚ))).foldl scheduler.updateRate (t.schedulers i) ∨
      Answered scheduler t t' i ∨ timesOf i (t'.inHand ++ t'.heap) = [] := by
  cases turn with
  | keep heap schedulers hand outcomes | update heap schedulers hand outcomes
  | take least schedulers idle hand outcomes | discard heap schedulers here hand outcomes =>
    exact .inl (by rw [schedulers]; rfl)
  | @ask due now fate heap schedulers here hand outcomes =>
    by_cases mine : i = due.2
    · subst mine
      have empty := source.heap_of_hand here
      cases answer : (scheduler.nextRequestTime (t.schedulers due.2)).1 with
      | none =>
        refine .inr (.inr ?_)
        rw [hand, heap, answer]
        exact empty
      | some time =>
        refine .inr (.inl ⟨by simp [here, timesOf], time, ?_⟩)
        rw [schedulers, update_self, ← answer]
    · exact .inl (by rw [schedulers, update_of_ne mine]; rfl)

end TimerThread

namespace FireSystem

open TimerThread Due Filter

variable {n : Nat} {H G T Spec : Type} {setup : FireSetup n H G T Spec}

/-- The timer thread gets its turns, time goes on, and all that it is sent are changes of the
rate. -/
structure TimerRuns (run : Run (step setup)) : Prop where
  timer : run.Fair (· = .timer)
  time : ∀ t, ∃ k, t ≤ (run.state k).clock
  rates : ∀ k, ∀ command ∈ (run.event k).sent, ∃ rps, command = .updateRate rps

/-- From some time on no more of them are sent. -/
def RatesEnd (run : Run (step setup)) : Prop := ∃ m, ∀ k ≥ m, (run.event k).sent = []

/-- Worker `i`'s scheduler gives another time in the step after `k`. -/
def AnswersAt (run : Run (step setup)) (i : Fin n) (k : Nat) : Prop :=
  Answered setup.scheduler (run.state k).timer (run.state (k + 1)).timer i

/-- The rates that the workers are told to fire at. -/
def ratesTold (run : Run (step setup)) : Set ℚ :=
  {share | ∃ k rps, run.event k = .command (.updateRate rps) ∧ share = rps / n}

section

variable {run : Run (step setup)} (initial : run.state 0 = start setup)
  (monotone : ∀ i, setup.scheduler.NonDecreasing (setup.schedulers i))

include initial monotone

theorem exists_merging (k : Nat) :
    ∃ rates, Merging setup.scheduler setup.schedulers rates (run.state k).timer ∧
      ratesOf (((range k).map run.event).flatMap (·.sent)) =
        rates ++ ratesOf (run.state k).commands := by
  have reached := run.exec_state k
  rw [initial] at reached
  exact merging_of_run monotone reached

/-- The changes of rate handled were told. -/
theorem exists_turn (k : Nat) :
    ∃ updates, HeapTurn setup.scheduler (run.state k).timer (run.state (k + 1)).timer updates ∧
      ∀ rps ∈ updates, rps / n ∈ ratesTold run := by
  obtain ⟨updates, turn, handled⟩ := heapTurn_step (run.taken k)
  refine ⟨updates, turn, fun rps update => ?_⟩
  obtain ⟨rates, -, sent⟩ := exists_merging initial monotone k
  have told : rps ∈ ratesOf (((range (k + 1)).map run.event).flatMap (·.sent)) := by
    have waits : rps ∈ ratesOf (run.state k).commands ++ ratesOf (run.event k).sent := by
      rw [handled]
      exact mem_append_left _ update
    rw [range_succ, map_append, flatMap_append, ratesOf_append, sent, append_assoc]
    exact mem_append_right _ (by simpa using waits)
  obtain ⟨command, mem, rate⟩ := mem_filterMap.mp told
  obtain ⟨event, mem, sends⟩ := mem_flatMap.mp mem
  obtain ⟨j, -, rfl⟩ := mem_map.mp mem
  cases event : run.event j with
  | command told =>
    rw [event, FireEvent.sent, mem_singleton] at sends
    subst sends
    cases command with
    | updateRate rate' => exact ⟨j, rps, by rw [event, ← some.inj rate], rfl⟩
    | updateTargets targets | updateMetadata headers | stop => cases rate
  | elapse time | timer | worker i spent | complete i k result => rw [event] at sends; cases sends

variable {i : Fin n} {k spent j : Nat} {s s' : FireSystem n H G T Spec} {event : FireEvent n}
  {rest workers : List (Fin n)} {update : Update}

/-- A worker without an event never has its scheduler asked again. -/
theorem unanswered_of_idle
    (idle : timesOf i ((run.state k).timer.inHand ++ (run.state k).timer.heap) = []) :
    ∀ᶠ j in atTop, ¬ AnswersAt run i j := by
  refine eventually_atTop.mpr ⟨k, fun j later => ?_⟩
  have still : timesOf i ((run.state j).timer.inHand ++ (run.state j).timer.heap) = [] := by
    induction j, later using le_induction with
    | base => exact idle
    | succ j later ih =>
      obtain ⟨updates, turn, -⟩ := exists_turn initial monotone j
      -- a worker without an event gets none
      cases turn with
      | keep heap schedulers hand outcomes | update heap schedulers hand outcomes =>
        rwa [hand, heap]
      | @take due least schedulers free hand outcomes =>
        rw [free, nil_append] at ih
        rw [hand, singleton_append, ← timesOf_perm (pop_perm least) (by simp [ih]), ih]
      | discard heap schedulers here hand outcomes =>
        rw [timesOf_append] at ih
        rw [hand, heap, nil_append]
        exact (append_eq_nil_iff.mp ih).2
      | @ask due now fate heap schedulers here hand outcomes =>
        rw [here, timesOf_append] at ih
        obtain ⟨other, rest⟩ := append_eq_nil_iff.mp ih
        have other : due.2 ≠ i := by
          rintro rfl
          simp [timesOf] at other
        rw [hand, heap, nil_append, timesOf_append, timesOf_answer, if_neg other, rest]
        rfl
  rw [timesOf_append] at still
  exact fun answered => answered.1 (append_eq_nil_iff.mp still).1

/-- From some time on a finite scheduler gives no more times. -/
theorem answers_end {h : H} (finite : setup.scheduler.Finite (ratesTold run) h) {updates : List ℚ}
    (told : ∀ rps ∈ updates, rps ∈ ratesTold run)
    (here : (run.state k).timer.schedulers i = updates.foldl setup.scheduler.updateRate h) :
    ∀ᶠ j in atTop, ¬ AnswersAt run i j := by
  -- induction on the answers still to come, from whatever time the scheduler was last asked
  induction finite generalizing k updates with
  | intro h _ ih =>
    have asked : ∀ m (updates : List ℚ), (∀ rps ∈ updates, rps ∈ ratesTold run) →
        (run.state m).timer.schedulers i = updates.foldl setup.scheduler.updateRate h →
        AnswersAt run i m →
        ∀ᶠ j in atTop, ¬ AnswersAt run i j := by
      rintro m updates told at_m ⟨-, time, answer⟩
      rw [at_m] at answer
      exact ih _ ⟨updates, time, told, answer⟩ (forall_mem_nil _) rfl
    have waits : ∀ m, k ≤ m →
        (∃ updates : List ℚ, (∀ rps ∈ updates, rps ∈ ratesTold run) ∧
          (run.state m).timer.schedulers i = updates.foldl setup.scheduler.updateRate h) ∨
        ∀ᶠ j in atTop, ¬ AnswersAt run i j := by
      intro m later
      induction m, later using le_induction with
      | base => exact .inl ⟨updates, told, here⟩
      | succ m later before =>
        rcases before with ⟨updates, told, at_m⟩ | ended
        · obtain ⟨more, turn, moreTold⟩ := exists_turn initial monotone m
          obtain ⟨rates, merging, -⟩ := exists_merging initial monotone m
          obtain ⟨answers, source⟩ := merging.sources i
          rcases source_turn source turn with same | answered | idle
          · refine .inl ⟨updates ++ more.map (· / (n : ℚ)), ?_, ?_⟩
            · exact forall_mem_append.mpr ⟨told, forall_mem_map.mpr moreTold⟩
            · rw [foldl_append, ← at_m, same]
          · exact .inr (asked m updates told at_m answered)
          · exact .inr (unanswered_of_idle initial monotone idle)
        · exact .inr ended
    by_cases ever : ∃ m ≥ k, AnswersAt run i m
    · obtain ⟨m, later, answered⟩ := ever
      rcases waits m later with ⟨updates, told, at_m⟩ | ended
      · exact asked m updates told at_m answered
      · exact ended
    · exact eventually_atTop.mpr ⟨k, fun m later answered => ever ⟨m, later, answered⟩⟩

/-- The heap grows only for so long. -/
theorem heap_settles (finite : ∀ i, setup.scheduler.Finite (ratesTold run) (setup.schedulers i)) :
    ∃ m, ∀ j ≥ m, ∀ k ≥ j, (run.state k).timer.heap.length ≤ (run.state j).timer.heap.length := by
  have ends : ∀ᶠ j in atTop, ∀ i, ¬ AnswersAt run i j := by
    refine eventually_all.mpr fun i => ?_
    obtain ⟨reached, times⟩ := asked_start setup.scheduler setup.schedulers i
    cases answer : setup.scheduler.nextRequestTime (setup.schedulers i) with
    | mk time h =>
      rw [answer] at reached times
      cases time with
      | none =>
        -- the first call already finds it exhausted
        refine unanswered_of_idle initial monotone (k := 0) ?_
        rw [initial]
        exact (congrArg (fun dues => timesOf i (dues ++ _)) (inHand_start _ _)).trans times
      | some time =>
        have later : setup.scheduler.Finite (ratesTold run) h :=
          (finite i).inv ⟨[], time, by simp, answer⟩
        refine answers_end initial monotone (k := 0) later (forall_mem_nil _) ?_
        rw [initial]
        exact reached
  obtain ⟨m, settled⟩ := eventually_atTop.mp ends
  refine ⟨m, fun j later k after => ?_⟩
  induction k, after using le_induction with
  | base => exact le_rfl
  | succ k after ih =>
    obtain ⟨updates, turn, -⟩ := exists_turn initial monotone k
    refine le_trans ?_ ih
    -- the heap grows only by an answer
    cases turn with
    | keep heap schedulers hand outcomes | update heap schedulers hand outcomes => rw [heap]
    | take least schedulers free hand outcomes =>
      have := (pop_perm least).length_eq
      rw [length_cons] at this
      omega
    | discard heap schedulers here hand outcomes => rw [heap]
    | @ask due now fate heap schedulers here hand outcomes =>
      cases answer : (setup.scheduler.nextRequestTime ((run.state k).timer.schedulers due.2)).1 with
      | none =>
        rw [heap, answer]
        exact le_rfl
      | some time =>
        refine absurd ⟨by simp [here, timesOf], time, ?_⟩ (settled k (later.trans after) due.2)
        rw [schedulers, update_self, ← answer]

omit initial monotone

/-! ## Back to the commands -/

omit run in
theorem stage_of_firing {due : Due n} (here : s.timer.stage = .firing due)
    (taken : step setup s .timer = some s') : s'.timer.stage = .commands := by
  simp only [step, timerStep, here] at taken
  split at taken
  · rw [← some.inj taken]
    exact stage_fire _ _ _ _ _
  · cases taken

theorem clock_le (later : j ≤ k) : (run.state j).clock ≤ (run.state k).clock := by
  induction k, later using le_induction with
  | base => exact le_rfl
  | succ k later ih => exact ih.trans (clock_step (run.taken k))

/-- A step that the timer thread can take as long as `P` holds, which what happens beside it
keeps, it takes. -/
theorem timer_acts (runs : TimerRuns run) {P : FireSystem n H G T Spec → Prop}
    (here : P (run.state k))
    (goes : ∀ j, P (run.state j) → (step setup (run.state j) .timer).isSome)
    (keeps : ∀ j ≥ k, P (run.state j) → run.event j ≠ .timer →
      Beside (run.state j) (run.state (j + 1)) (run.event j).sent → P (run.state (j + 1))) :
    ∃ j ≥ k, P (run.state j) ∧ step setup (run.state j) .timer = some (run.state (j + 1)) := by
  obtain ⟨j, later, isTimer, here⟩ := runs.timer.taken (P := P) here
    (by
      intro j here
      obtain ⟨s, taken⟩ := isSome_iff_exists.mp (goes j here)
      exact ⟨.timer, s, rfl, taken⟩)
    (by
      intro j later here notTimer
      rcases step_cases (run.taken j) with ⟨isTimer, -⟩ | ⟨-, beside⟩
      · exact absurd isTimer notTimer
      · exact keeps j later here notTimer beside)
  exact ⟨j, later, here, isTimer ▸ run.taken j⟩

theorem timer_acts_at (runs : TimerRuns run) {stage u : TimerStage n}
    (here : (run.state k).timer.stage = stage)
    (goes : ∀ s : FireSystem n H G T Spec, s.timer.stage = stage →
      ∃ s', step setup s .timer = some s' ∧ s'.timer.stage = u) :
    ∃ j ≥ k, (run.state j).timer.stage = u := by
  obtain ⟨j, later, here, taken⟩ := timer_acts (P := fun s => s.timer.stage = stage) runs here
    (fun j here => isSome_iff_exists.mpr ((goes _ here).imp fun _ => And.left))
    (fun _ _ here _ beside => by rw [beside.timer, here])
  obtain ⟨s', same, there⟩ := goes _ here
  cases taken.symm.trans same
  exact ⟨j + 1, by omega, there⟩

/-- All that waits are changes of the rate, nothing is being forwarded, and a thread that
stops has emptied its heap. -/
structure OnlyRates (s : FireSystem n H G T Spec) : Prop where
  waiting : ∀ command ∈ s.commands, ∃ rps, command = .updateRate rps
  forwards : ∀ update workers, s.timer.stage ≠ .forwarding update workers
  emptied : s.timer.stage.isStopping → s.timer.heap = []

omit run in
theorem onlyRates_step (rates : ∀ command ∈ event.sent, ∃ rps, command = .updateRate rps)
    (only : OnlyRates s) (taken : step setup s event = some s') : OnlyRates s' := by
  rcases step_cases taken with ⟨-, move⟩ | ⟨-, beside⟩
  · cases move with
    | @handle command rest here waiting =>
      obtain ⟨waits, -, -⟩ := only
      rw [waiting, forall_mem_cons] at waits
      obtain ⟨⟨rps, rfl⟩, later⟩ := waits
      exact ⟨later, by simp [handleCommand, here], by simp [handleCommand, here, isStopping]⟩
    | next here idle =>
      have next : (∀ update workers, s.timer.next.stage ≠ .forwarding update workers) ∧
          (s.timer.next.stage.isStopping → s.timer.next.heap = []) := by
        unfold TimerThread.next
        split
        · rename_i empty
          exact ⟨by simp, fun _ => Due.pop_eq_none empty⟩
        · exact ⟨by simp, by simp [isStopping]⟩
      exact ⟨only.waiting, next.1, next.2⟩
    | @fire due here awake =>
      have back :
          (s.timer.fire setup.scheduler s.clock (s.gone due.2) (s.fires due.2) due).1.stage =
            .commands := stage_fire _ _ _ _ _
      exact ⟨only.waiting, fun _ _ => by simp [back], by simp [back, isStopping]⟩
    | forward here sent | forwarded here => exact absurd here (only.forwards _ _)
    | stop here sent | stopped here =>
      exact ⟨only.waiting, by simp [setTimer], fun _ => only.emptied (by rw [here]; rfl)⟩
  · refine ⟨?_, beside.timer ▸ only.forwards, beside.timer ▸ only.emptied⟩
    rw [beside.commands]
    exact forall_mem_append.mpr ⟨only.waiting, rates⟩

variable (runs : TimerRuns run)
include runs

theorem stopping_ends (here : (run.state k).timer.stage = .stopping workers) :
    ∃ j, (run.state j).timer.stage = .ended := by
  induction workers generalizing k with
  | nil =>
    obtain ⟨j, -, ended⟩ := timer_acts_at runs here fun s here => by
      simp only [step, timerStep, here]
      exact ⟨_, rfl, rfl⟩
    exact ⟨j, ended⟩
  | cons i rest ih =>
    obtain ⟨j, -, here⟩ := timer_acts_at (u := .stopping rest) runs here fun s here => by
      simp only [step, timerStep, here]
      split <;> exact ⟨_, rfl, rfl⟩
    exact ih here

include initial

theorem onlyRates (k : Nat) : OnlyRates (run.state k) := by
  induction k with
  | zero =>
    have stage : (start setup).timer.stage = .commands :=
      (seeded setup.scheduler setup.schedulers _ (nodup_finRange n)).1
    rw [initial]
    exact ⟨by simp [start], by simp [stage], by simp [stage, isStopping]⟩
  | succ k ih => exact onlyRates_step (runs.rates k) ih (run.taken k)

/-- With nothing more sent, the thread gets through the commands that wait. -/
theorem drains {m : Nat} (quiet : ∀ k ≥ m, (run.event k).sent = []) (late : m ≤ k)
    (here : (run.state k).timer.stage = .commands) :
    ∃ j ≥ k, (run.state j).timer.stage = .commands ∧ (run.state j).commands = [] ∧
      step setup (run.state j) .timer = some (run.state (j + 1)) := by
  have acts : ∀ {r k : Nat}, m ≤ k → (run.state k).timer.stage = .commands →
      (run.state k).commands.length = r →
      ∃ j ≥ k, ((run.state j).timer.stage = .commands ∧ (run.state j).commands.length = r) ∧
        step setup (run.state j) .timer = some (run.state (j + 1)) := by
    intro r k late here count
    refine timer_acts runs (P := fun s => s.timer.stage = .commands ∧ s.commands.length = r)
      ⟨here, count⟩ ?_ ?_
    · rintro j ⟨here, -⟩
      simp only [step, timerStep, here]
      split <;> rfl
    · rintro j later ⟨here, count⟩ - beside
      rw [beside.timer, beside.commands, quiet j (late.trans later), append_nil]
      exact ⟨here, count⟩
  induction count : (run.state k).commands.length generalizing k with
  | zero =>
    obtain ⟨j, later, ⟨here, count⟩, taken⟩ := acts late here count
    exact ⟨j, later, here, length_eq_zero_iff.mp count, taken⟩
  | succ r ih =>
    obtain ⟨j, later, ⟨here, count⟩, taken⟩ := acts late here count
    obtain ⟨command, rest, waiting⟩ := exists_cons_of_length_eq_add_one count
    obtain ⟨rps, rfl⟩ := (onlyRates initial runs j).waiting command (by simp [waiting])
    simp only [step, timerStep, here, waiting] at taken
    have same := some.inj taken
    obtain ⟨i, after, next⟩ := ih (k := j + 1) (by omega)
      (by rw [← same]; simp [handleCommand, here]) (by rw [← same]; simpa [waiting] using count)
    exact ⟨i, by omega, next⟩

theorem next_or_stops {m : Nat} (quiet : ∀ k ≥ m, (run.event k).sent = []) (late : m ≤ k) :
    (∃ j, (run.state j).timer.stage = .ended) ∨
      ∃ j ≥ k, (run.state j).timer.stage = .commands ∧ (run.state j).commands = [] ∧
        step setup (run.state j) .timer = some (run.state (j + 1)) := by
  have back : (∃ j, (run.state j).timer.stage = .ended) ∨
      ∃ j ≥ k, (run.state j).timer.stage = .commands := by
    cases stage : (run.state k).timer.stage with
    | commands => exact .inr ⟨k, le_rfl, stage⟩
    | firing due =>
      -- the event becomes due and has its outcome
      right
      have keeps : ∀ j, (run.state j).timer.stage = .firing due →
          (run.state (j + 1)).timer.stage = .firing due ∨
            (run.state (j + 1)).timer.stage = .commands := by
        intro j here
        rcases step_cases (run.taken j) with ⟨isTimer, -⟩ | ⟨-, beside⟩
        · exact .inr (stage_of_firing here (isTimer ▸ run.taken j))
        · exact .inl (by rw [beside.timer, here])
      obtain ⟨m, awake⟩ := runs.time due.1
      rcases run.stays_or (P := fun s => s.timer.stage = .firing due)
        (Q := fun s => s.timer.stage = .commands) stage (le_max_left k m) keeps with
        asleep | back
      · have awake := awake.trans (clock_le (le_max_right k m))
        obtain ⟨j, later, ⟨here, -⟩, taken⟩ := timer_acts runs
          (P := fun s => s.timer.stage = .firing due ∧ due.1 ≤ s.clock) ⟨asleep, awake⟩
          (fun j now => by simp [step, timerStep, now.1, now.2])
          (fun j _ now _ beside => ⟨by rw [beside.timer, now.1], now.2.trans beside.clock⟩)
        exact ⟨j + 1, by omega, stage_of_firing here taken⟩
      · exact back
    | forwarding update workers =>
      exact absurd stage ((onlyRates initial runs k).forwards update workers)
    | stopping workers => exact .inl (stopping_ends runs stage)
    | ended => exact .inl ⟨k, stage⟩
  refine back.imp_right ?_
  rintro ⟨i, after, here⟩
  obtain ⟨j, later, next⟩ := drains initial runs quiet (late.trans after) here
  exact ⟨j, after.trans later, next⟩

theorem stops (monotone : ∀ i, setup.scheduler.NonDecreasing (setup.schedulers i))
    (ends : RatesEnd run)
    (finite : ∀ i, setup.scheduler.Finite (ratesTold run) (setup.schedulers i)) :
    ∃ k, (run.state k).timer.stage = .ended := by
  obtain ⟨m₁, settles⟩ := heap_settles initial monotone finite
  obtain ⟨m₂, quiet⟩ := ends
  -- each event taken off leaves one less
  suffices below : ∀ r, ∀ k ≥ max m₁ m₂, (run.state k).timer.heap.length = r →
      ∃ j, (run.state j).timer.stage = .ended from below _ _ le_rfl rfl
  intro r
  induction r using Nat.strong_induction_on with
  | _ r ih =>
    intro k later small
    rcases next_or_stops initial runs quiet ((le_max_right _ _).trans later) with
      ended | ⟨j, after, here, empty, taken⟩
    · exact ended
    · simp only [step, timerStep, here, empty, TimerThread.next] at taken
      split at taken
      · exact stopping_ends (k := j + 1) runs (by rw [← some.inj taken])
      · rename_i due heap popped
        have shorter := (Due.pop_perm popped).length_eq
        have before := settles k ((le_max_left _ _).trans later) j after
        have same : (run.state (j + 1)).timer.heap = heap := by rw [← some.inj taken]
        rw [length_cons, ← same] at shorter
        exact ih _ (by omega) (j + 1) (by omega) rfl

end

/-! ## The merge and its end -/

/-- What the timer thread has made of worker `i`'s scheduler, on which it has made these
calls, when the total rates `told` have been sent. -/
structure WorkerMerged (setup : FireSetup n H G T Spec) (told : List ℚ)
    (s : FireSystem n H G T Spec) (i : Fin n) (calls : List SchedulerCall) : Prop where
  state : (setup.scheduler.replay (setup.schedulers i) calls).2 = s.timer.schedulers i
  rates : SchedulerCall.rates calls <+: told.map (· / (n : ℚ))
  /-- The events taken off the heap are the first of the scheduler's. -/
  output : timesOf i s.timer.popped <+:
    (setup.scheduler.replay (setup.schedulers i) calls).1.reduceOption
  atMostOne : (timesOf i s.timer.heap).length ≤ 1
  /-- There is an event in the heap, unless it is the one in hand, the scheduler had no other
  or the worker was found gone. -/
  present : timesOf i s.timer.inHand = [] →
    (setup.scheduler.replay (setup.schedulers i) calls).1.getLast? ≠ some none →
    ¬ s.timer.FoundGone i → (timesOf i s.timer.heap).length = 1

variable {s : FireSystem n H G T Spec} {events : List (FireEvent n)}

theorem workerMerged_of_source {rates told : List ℚ} {i : Fin n} {calls : List SchedulerCall}
    {answers : List (Option Nat)} (handled : rates <+: told)
    (source : Source setup.scheduler (setup.schedulers i) rates s.timer i answers)
    (replayed : setup.scheduler.replay (setup.schedulers i) calls = (answers, s.timer.schedulers i))
    (updated : SchedulerCall.rates calls = rates.map (· / (n : ℚ))) :
    WorkerMerged setup told s i calls := by
  have one := source.one
  rw [timesOf_append, length_append] at one
  refine ⟨by rw [replayed], ?_, ?_, by omega, ?_⟩
  · rw [updated]
    exact handled.map _
  · rw [replayed, source.output]
    exact prefix_append _ _
  · rw [replayed]
    intro free more found
    have some : timesOf i (s.timer.inHand ++ s.timer.heap) ≠ [] := fun idle =>
      (source.served idle).elim more found
    rw [timesOf_append, free, nil_append] at some
    have := length_pos_iff.mpr some
    omega

theorem foundGone_of_run (run : exec (step setup) (start setup) events = some s) (i : Fin n)
    (found : s.timer.FoundGone i) : s.gone i := by
  refine exec_invariant (I := fun _ s => ∀ i, s.timer.FoundGone i → s.gone i) ?_
    (fun {_ s event s'} found taken => ?_) run i found
  swap
  · rcases step_cases taken with ⟨-, move⟩ | ⟨-, beside⟩
    · cases move with
      | handle here waiting =>
        rename_i command rest
        cases command <;> exact found
      | next here empty =>
        show ∀ i, s.timer.next.FoundGone i → s.gone i
        unfold TimerThread.next
        split <;> exact found
      | fire here awake =>
        rename_i due
        obtain ⟨fate, more, isGone⟩ :=
          outcomes_fire s.timer s.clock (s.gone due.2) (s.fires due.2) due
        rintro i ⟨o, mem, mine, discarded⟩
        rcases mem_append.mp (more ▸ mem) with old | last
        · exact found i ⟨o, old, mine, discarded⟩
        · rw [mem_singleton.mp last] at mine discarded
          exact mine ▸ isGone discarded
      | forward here sent | forwarded here | stop here sent | stopped here => exact found
    · intro i foundGone
      rw [beside.timer] at foundGone
      exact beside.gone i (found i foundGone)
  rintro i ⟨o, out, -⟩
  have none : (start setup).timer.outcomes = [] :=
    (seeded setup.scheduler setup.schedulers _ (nodup_finRange n)).2.1
  simp [none] at out

/-- **The timer thread merges its schedulers, and ends when they do.**  In every run the
events taken off the heap are ordered by time and then by worker, and those of a worker are
the first of its scheduler's. If each scheduler has only so many times and only so many
changes of the rate are sent, the thread ends, and the events it has taken off for a worker it
has not found gone are all its scheduler had. -/
theorem timer_merges (setup : FireSetup n H G T Spec)
    (monotone : ∀ i, setup.scheduler.NonDecreasing (setup.schedulers i)) :
    (∀ events s, exec (step setup) (start setup) events = some s →
      (s.timer.popped.map toLex).Pairwise (· ≤ ·) ∧
        ∀ i, (∃ calls, WorkerMerged setup (ratesOf (events.flatMap (·.sent))) s i calls) ∧
          (s.timer.FoundGone i → s.gone i)) ∧
    ∀ run : Run (step setup), run.state 0 = start setup → TimerRuns run → RatesEnd run →
      (∀ i, setup.scheduler.Finite (ratesTold run) (setup.schedulers i)) →
      ∃ k, (run.state k).timer.stage = .ended ∧
        ∀ i, ¬ (run.state k).timer.FoundGone i →
          ∃ calls, WorkerMerged setup
              (ratesOf (((range k).map run.event).flatMap (·.sent))) (run.state k) i calls ∧
            (setup.scheduler.replay (setup.schedulers i) calls).1.getLast? = some none ∧
            timesOf i (run.state k).timer.popped =
              (setup.scheduler.replay (setup.schedulers i) calls).1.reduceOption := by
  constructor
  · intro events s run
    obtain ⟨rates, merging, sent⟩ := merging_of_run monotone run
    refine ⟨merging.ordered.sorted, fun i => ⟨?_, foundGone_of_run run i⟩⟩
    obtain ⟨answers, source⟩ := merging.sources i
    obtain ⟨calls, replayed, updated⟩ := source.asked
    exact ⟨calls, workerMerged_of_source (sent ▸ prefix_append _ _) source replayed updated⟩
  · intro run initial runs ends finite
    obtain ⟨k, ended⟩ := stops initial runs monotone ends finite
    refine ⟨k, ended, fun i present => ?_⟩
    have none : (run.state k).timer.heap = [] :=
      (onlyRates initial runs k).emptied (by rw [ended]; rfl)
    have hand : (run.state k).timer.inHand = [] := by rw [inHand, ended]
    obtain ⟨rates, merging, sent⟩ := exists_merging initial monotone k
    obtain ⟨answers, source⟩ := merging.sources i
    obtain ⟨calls, replayed, updated⟩ := source.asked
    refine ⟨calls, workerMerged_of_source (sent ▸ prefix_append _ _) source replayed updated,
      ?_, ?_⟩
    · rw [replayed]
      exact (source.served (by rw [hand, none]; rfl)).resolve_right present
    · rw [replayed, source.output, none, timesOf_nil, append_nil]

/-- One worker, with a scheduler that has two times to give in fifteen nanoseconds. -/
abbrev twoTimes : FireSetup 1 (BoxedScheduler Unit) Unit Unit Unit :=
  constantSetup 1 100000000 (some 15)

/-- Its rate is set once, and the worker takes both events and the stop. -/
def served : List (FireEvent 1) :=
  [.timer, .command (.updateRate 100000000), .timer, .timer, .timer, .elapse 10, .timer, .timer,
    .timer, .timer, .worker (.last 0) 1, .worker (.last 0) 1, .worker (.last 0) 1,
    .worker (.last 0) 1]

theorem exec_idle (s : FireSystem n H G T Spec) (time : Nat) :
    exec (step setup) s (replicate time (.elapse 1)) = some { s with clock := s.clock + time } := by
  induction time with
  | zero => rfl
  | succ time ih =>
    rw [replicate_succ', exec_snoc, ih]
    rfl

theorem sent_of_thenEver {command : TimerCommand} {k : Nat}
    (sent : command ∈ (thenEver events (.elapse 1) k).sent) : ∃ a ∈ events, command ∈ a.sent := by
  rw [thenEver, getD_eq_getElem?_getD] at sent
  cases found : events[k]? with
  | none => rw [found] at sent; cases sent
  | some a => exact ⟨a, mem_of_getElem? found, by rwa [found] at sent⟩

/-- Its scheduler stays finite if the rate is only set to what it is. -/
theorem finite_twoTimes {run : Run (step twoTimes)}
    (same : ∀ k, ∀ command ∈ (run.event k).sent, command = .updateRate 100000000) (i : Fin 1) :
    twoTimes.scheduler.Finite (ratesTold run) (twoTimes.schedulers i) := by
  refine finite_constantRate ?_ rfl (by decide +kernel)
  rintro share ⟨k, rps, told, rfl⟩
  cases same k (.updateRate rps) (by rw [told]; exact mem_singleton_self _)
  decide +kernel

theorem two_times_merged :
    (∀ i, twoTimes.scheduler.NonDecreasing (twoTimes.schedulers i)) ∧
    ∃ run : Run (step twoTimes), run.state 0 = start twoTimes ∧ TimerRuns run ∧ RatesEnd run ∧
      (∀ i, twoTimes.scheduler.Finite (ratesTold run) (twoTimes.schedulers i)) ∧
      (run.state 14).timer.popped = [(0, Fin.last 0), (10, Fin.last 0)] ∧
      ∃ k, (run.state k).timer.stage = .ended := by
  refine ⟨fun i => nonDecreasing _, ?_⟩
  obtain ⟨s, ends, isEnded, popped⟩ : ∃ s, exec (step twoTimes) (start twoTimes) served = some s ∧
      s.timer.stage.isEnded ∧ s.timer.popped = [(0, Fin.last 0), (10, Fin.last 0)] := by
    decide +kernel
  obtain ⟨run, initial, event, late⟩ := exists_thenEver ends (exec_idle s)
  have same : ∀ k, ∀ command ∈ (run.event k).sent, command = .updateRate 100000000 := by
    intro k command sent
    rw [event] at sent
    obtain ⟨a, mem, sent⟩ := sent_of_thenEver sent
    revert a command
    simp [served, FireEvent.sent]
  have ended : s.timer.stage = .ended := by
    cases stage : s.timer.stage <;> simp [stage, TimerStage.isEnded] at isEnded
    rfl
  have runs : TimerRuns run := by
    refine ⟨?_, ?_, fun k command sent => ⟨_, same k command sent⟩⟩
    · intro k possible
      obtain ⟨a, s', rfl, taken⟩ := possible (max k served.length) (le_max_left _ _)
      rw [late _ (le_max_right _ _)] at taken
      simp [step, timerStep, ended] at taken
    · intro t
      refine ⟨served.length + t, ?_⟩
      rw [late _ (Nat.le_add_right _ _), Nat.add_sub_cancel_left]
      exact Nat.le_add_left _ _
  have quiet : RatesEnd run := by
    refine ⟨served.length, fun k after => ?_⟩
    rw [event, thenEver, getD_eq_getElem?_getD, getElem?_eq_none after]
    rfl
  refine ⟨run, initial, runs, quiet, finite_twoTimes same, ?_, ?_⟩
  · rw [late 14 le_rfl]
    exact popped
  · exact ((timer_merges _ fun i => nonDecreasing _).2 run initial runs quiet
      (finite_twoTimes same)).imp fun _ => And.left

/-- A change of the rate, a turn of the timer thread and a nanosecond, over and over. -/
def flood (k : Nat) : FireEvent 1 :=
  if k % 3 = 0 then .command (.updateRate 100000000) else if k % 3 = 1 then .timer else .elapse 1

/-- What the flood has come to before its event `k`. -/
structure Flooded (k : Nat) (s : FireSystem 1 H G T Spec) : Prop where
  stage : s.timer.stage = .commands
  popped : s.timer.popped = []
  commands : s.commands = if k % 3 = 1 then [.updateRate 100000000] else []
  clock : s.clock = k / 3

theorem flooded_step {setup : FireSetup 1 H G T Spec} {s : FireSystem 1 H G T Spec} {k : Nat}
    (flooded : Flooded k s) : ∃ s', step setup s (flood k) = some s' ∧ Flooded (k + 1) s' := by
  obtain ⟨stage, popped, commands, clock⟩ := flooded
  have turn : k % 3 = 0 ∨ k % 3 = 1 ∨ k % 3 = 2 := by omega
  rcases turn with turn | turn | turn
  · rw [turn, if_neg (by decide)] at commands
    rw [flood, if_pos turn]
    refine ⟨_, rfl, ?_⟩
    refine ⟨stage, popped, ?_, ?_⟩
    · rw [if_pos (by omega), commands]
      rfl
    · simp only
      omega
  · rw [turn, if_pos rfl] at commands
    rw [flood, if_neg (by omega), if_pos turn]
    refine ⟨_, by simp only [step, timerStep, stage, commands]; rfl, ?_⟩
    refine ⟨stage, popped, ?_, ?_⟩
    · rw [if_neg (by omega)]
    · simp only
      omega
  · rw [turn, if_neg (by decide)] at commands
    rw [flood, if_neg (by omega), if_neg (by omega)]
    refine ⟨_, rfl, ?_⟩
    refine ⟨stage, popped, ?_, ?_⟩
    · rw [if_neg (by omega)]
      exact commands
    · simp only
      omega

theorem sent_flood {k : Nat} {command : TimerCommand} (sent : command ∈ (flood k).sent) :
    command = .updateRate 100000000 := by
  unfold flood at sent
  split at sent
  · exact mem_singleton.mp sent
  · split at sent <;> cases sent

/-- The timer thread gets its turns in the flood, and it never takes an event off its heap. -/
theorem flood_never_pops :
    (∀ i, twoTimes.scheduler.NonDecreasing (twoTimes.schedulers i)) ∧
    ∃ run : Run (step twoTimes), run.state 0 = start twoTimes ∧ TimerRuns run ∧
      (∀ i, twoTimes.scheduler.Finite (ratesTold run) (twoTimes.schedulers i)) ∧
      ∀ k, (run.state k).timer.stage = .commands ∧ (run.state k).timer.popped = [] := by
  refine ⟨fun i => nonDecreasing _, ?_⟩
  have start : Flooded 0 (start twoTimes) :=
    ⟨(seeded _ _ _ (nodup_finRange 1)).1, by decide +kernel, rfl, rfl⟩
  obtain ⟨run, initial, event, flooded⟩ := exists_ofEvents start flooded_step
  have same : ∀ k, ∀ command ∈ (run.event k).sent, command = .updateRate 100000000 := by
    intro k command sent
    rw [event] at sent
    exact sent_flood sent
  refine ⟨run, initial, ⟨?_, ?_, fun k command sent => ⟨_, same k command sent⟩⟩,
    finite_twoTimes same, fun k => ⟨(flooded k).stage, (flooded k).popped⟩⟩
  · intro k _
    exact ⟨3 * k + 1, by omega, by rw [event]; simp [flood]⟩
  · intro t
    exact ⟨3 * t, by rw [(flooded _).clock]; omega⟩

end FireSystem

end Netanvil.Core
