/-
# How soon the timer thread stops

The timer thread looks for commands between two events, not while it is asleep. A stop is
prompt exactly if the thread was not asleep for a later event when it arrived
(`prompt_iff_awake`).
-/
import Netanvil.Core.TimerMerge

namespace Netanvil.Core.FireSystem

open Netanvil.Types Theory Theory.Trace List TimerStage

open TimerThread

variable {n : Nat} {H G T Spec : Type} {setup : FireSetup n H G T Spec}

/-- From one state to the next. -/
structure StopView (s s' : FireSystem n H G T Spec) (event : FireEvent n) : Prop where
  /-- Only an event that is due has an outcome. -/
  outcomes : ∀ o ∈ s'.timer.outcomes,
    o ∈ s.timer.outcomes ∨ s.timer.stage = .firing o.due ∧ o.due.1 ≤ s.clock
  /-- No event is taken up while a command waits. -/
  firing : ∀ due, s'.timer.stage = .firing due → s.timer.stage = .firing due ∨
    s.timer.stage = .commands ∧ s.commands = []
  stays : .stop ∈ s.commands → .stop ∈ s'.commands ∨ s'.timer.stage.isStopping
  stopping : s.timer.stage.isStopping → s'.timer.stage.isStopping
  told : .stop ∈ s'.commands → .stop ∈ s.commands ∨ event = .command .stop

variable {s s' : FireSystem n H G T Spec} {event : FireEvent n}

theorem stopView_moves (move : TimerMoves setup s s') : StopView s s' event := by
  cases move with
  | @handle command rest here waiting =>
    have before : ¬ s.timer.stage.isStopping := by simp [here, isStopping]
    cases command with
    | updateRate rps | updateTargets targets | updateMetadata headers =>
      exact ⟨fun o => .inl, fun due there => (by first | exact .inl there | cases there),
        fun stop => .inl (by simpa [waiting] using stop),
        fun stopping => absurd stopping before, fun stop => .inl (by simp [waiting, stop])⟩
    | stop =>
      exact ⟨fun o => .inl, fun due there => (by cases there), fun _ => .inr rfl,
        fun _ => rfl, fun stop => .inl (by simp [waiting, stop])⟩
  | next here empty =>
    have before : ¬ s.timer.stage.isStopping := by simp [here, isStopping]
    refine ⟨fun o old => .inl ?_, fun due _ => .inr ⟨here, empty⟩, fun stop => .inl stop,
      fun stopping => absurd stopping before, .inl⟩
    have same : s.timer.next.outcomes = s.timer.outcomes := by
      unfold TimerThread.next
      split <;> rfl
    exact same ▸ old
  | @fire due here awake =>
    have before : ¬ s.timer.stage.isStopping := by simp [here, isStopping]
    refine ⟨fun o mem => ?_, fun due there => ?_, .inl, fun stopping => absurd stopping before,
      .inl⟩
    · obtain ⟨fate, more, -⟩ := outcomes_fire s.timer s.clock (s.gone due.2) (s.fires due.2) due
      rcases mem_append.mp (more ▸ mem) with old | last
      · exact .inl old
      · rw [mem_singleton.mp last]
        exact .inr ⟨here, awake⟩
    · exact absurd ((stage_fire _ _ _ _ _).symm.trans there) (by simp)
  | forward here sent | forwarded here =>
    exact ⟨fun o => .inl, fun due there => (by cases there), .inl,
      fun stopping => (by simp [here, isStopping] at stopping), .inl⟩
  | stop here sent | stopped here =>
    exact ⟨fun o => .inl, fun due there => (by cases there), .inl, fun _ => rfl, .inl⟩

theorem stopView_step (taken : step setup s event = some s') : StopView s s' event := by
  rcases step_cases taken with ⟨-, move⟩ | ⟨-, beside⟩
  · exact stopView_moves move
  · obtain ⟨timer, -, commands, -⟩ := beside
    refine ⟨?_, ?_, ?_, ?_, ?_⟩
    · rw [timer]
      exact fun o => .inl
    · rw [timer]
      exact fun due => .inl
    · rw [commands]
      exact fun stop => .inl (mem_append_left _ stop)
    · rw [timer]
      exact id
    · rw [commands, mem_append]
      refine Or.imp_right fun sent => ?_
      cases event with
      | command told => rw [mem_singleton.mp sent]
      | elapse time | timer | worker i spent | complete i k result => cases sent

/-! ## A prompt stop -/

/-- No event due after a stop was in the channel is sent or waited for. -/
def Prompt (setup : FireSetup n H G T Spec) (events : List (FireEvent n)) : Prop :=
  ∀ earlier more later s s', events = earlier ++ more ++ later →
    exec (step setup) (start setup) earlier = some s → .stop ∈ s.commands →
    exec (step setup) (start setup) (earlier ++ more) = some s' →
    (∀ o ∈ s'.timer.outcomes, o.fate = .dispatched → o.due.1 ≤ s.clock) ∧
      ∀ due, s'.timer.stage = .firing due → due.1 ≤ s.clock

/-- When a stop is sent, the timer thread is not asleep for a later event. -/
def Awake (s : FireSystem n H G T Spec) (event : FireEvent n) : Prop :=
  event = .command .stop → ∀ due, s.timer.stage = .firing due → due.1 ≤ s.clock

/-- What has been sent was due, and while a stop waits nothing later is waited for. -/
structure Punctual (s : FireSystem n H G T Spec) : Prop where
  outcomes : ∀ o ∈ s.timer.outcomes, o.due.1 ≤ s.clock
  firing : .stop ∈ s.commands → ∀ due, s.timer.stage = .firing due → due.1 ≤ s.clock

theorem punctual_step (punctual : s.Punctual) (awake : s.Awake event)
    (taken : step setup s event = some s') : s'.Punctual := by
  have view := stopView_step taken
  have later := clock_step taken
  constructor
  · intro o mem
    rcases view.outcomes o mem with old | ⟨-, due⟩
    · exact (punctual.outcomes o old).trans later
    · exact due.trans later
  · intro stop due there
    rcases view.told stop with waits | arrives
    · rcases view.firing due there with here | ⟨-, empty⟩
      · exact (punctual.firing waits due here).trans later
      · rw [empty] at waits
        cases waits
    · rcases view.firing due there with here | ⟨here, empty⟩
      · exact (awake arrives due here).trans later
      · -- a command sent takes no event up
        subst arrives
        cases taken
        rw [show s.timer.stage = .firing due from there] at here
        cases here

/-- Since a stop was in the channel at time `t`. -/
structure Halting (t : Nat) (s : FireSystem n H G T Spec) : Prop where
  outcomes : ∀ o ∈ s.timer.outcomes, o.due.1 ≤ t
  firing : ∀ due, s.timer.stage = .firing due → due.1 ≤ t
  stop : .stop ∈ s.commands ∨ s.timer.stage.isStopping

theorem halting_step {t : Nat} (halting : s.Halting t) (taken : step setup s event = some s') :
    s'.Halting t := by
  have view := stopView_step taken
  refine ⟨fun o mem => ?_, fun due there => ?_, ?_⟩
  · rcases view.outcomes o mem with old | ⟨here, -⟩
    · exact halting.outcomes o old
    · exact halting.firing o.due here
  · rcases view.firing due there with here | ⟨here, empty⟩
    · exact halting.firing due here
    · -- with the stop in the channel the next event is not taken up
      rcases halting.stop with waits | stopping
      · rw [empty] at waits
        cases waits
      · rw [here] at stopping
        cases stopping
  · rcases halting.stop with waits | stopping
    · exact view.stays waits
    · exact .inr (view.stopping stopping)

theorem punctual_start : (start setup).Punctual := by
  refine ⟨fun o mem => ?_, fun stop => by cases stop⟩
  have none : (start setup).timer.outcomes = [] :=
    (seeded setup.scheduler setup.schedulers _ (nodup_finRange n)).2.1
  rw [none] at mem
  cases mem

/-- **A stop is prompt exactly if it does not find the timer thread asleep for a later
event.** -/
theorem prompt_iff_awake (setup : FireSetup n H G T Spec) {events : List (FireEvent n)}
    {s : FireSystem n H G T Spec} (run : exec (step setup) (start setup) events = some s) :
    Prompt setup events ↔ Allowed (step setup) Awake (start setup) events := by
  constructor
  · rintro prompt earlier event later rfl t reached rfl due here
    obtain ⟨t', told, clock, timer, waits⟩ : ∃ t' : FireSystem n H G T Spec,
        exec (step setup) (start setup) (earlier ++ [.command .stop]) = some t' ∧
          t'.clock = t.clock ∧ t'.timer = t.timer ∧ .stop ∈ t'.commands := by
      rw [exec_snoc, reached]
      exact ⟨_, rfl, rfl, rfl, by simp⟩
    have bound := (prompt (earlier ++ [.command .stop]) [] later t' t' (by simp) told waits
      (by rwa [append_nil])).2 due
    rw [timer, clock] at bound
    exact bound here
  · rintro allowed earlier more later s s' rfl reached waits run'
    have before : Allowed (step setup) Awake (start setup) earlier :=
      allowed.restrict ⟨more ++ later, by simp⟩
    have punctual : s.Punctual := before.invariant punctual_start punctual_step reached
    have halting : s'.Halting s.clock :=
      exec_invariant_from reached
        ⟨punctual.outcomes, punctual.firing waits, .inl waits⟩ halting_step run'
    exact ⟨fun o mem _ => halting.outcomes o mem, halting.firing⟩

/-- A stop between two events. -/
theorem stop_between_events :
    ∃ s, exec (step (constantSetup 1 (1 / 100) none)) (start (constantSetup 1 (1 / 100) none))
        [.timer, .timer, .command .stop, .timer, .timer, .timer] = some s ∧
      s.timer.stage.isEnded ∧
      Prompt (constantSetup 1 (1 / 100) none)
        [.timer, .timer, .command .stop, .timer, .timer, .timer] := by
  have idle : ∀ t, exec (step (constantSetup 1 (1 / 100) none))
      (start (constantSetup 1 (1 / 100) none)) [.timer, .timer] = some t →
        t.timer.inHand.isEmpty := by decide +kernel
  refine ⟨_, evaluates, by decide +kernel, (prompt_iff_awake _ evaluates).mpr ?_⟩
  show Allowed _ _ _
    (([.timer, .timer] ++ [.command .stop] ++ [.timer, .timer, .timer] : List (FireEvent 1)))
  refine ((Allowed.of_forall ?_).snoc ?_).append ?_
  · simp [Awake]
  · intro t reached _ due here
    simpa [inHand, here] using idle t reached
  · simp [Awake]

/-- One event every hundred seconds. A stop arrives at once and the next event is sent a
hundred seconds later. -/
theorem stop_waits_for_event :
    ∃ s s', exec (step (constantSetup 1 (1 / 100) none)) (start (constantSetup 1 (1 / 100) none))
        [.timer, .timer, .timer, .command .stop] = some s ∧
      exec (step (constantSetup 1 (1 / 100) none)) (start (constantSetup 1 (1 / 100) none))
        [.timer, .timer, .timer, .command .stop, .elapse 100000000000, .timer] = some s' ∧
      .stop ∈ s.commands ∧ s.clock = 0 ∧
      ∃ o ∈ s'.timer.outcomes, o.fate = .dispatched ∧ o.due.1 = 100000000000 :=
  ⟨_, _, rfl, evaluates, mem_singleton_self _, rfl, by decide +kernel⟩

end Netanvil.Core.FireSystem
