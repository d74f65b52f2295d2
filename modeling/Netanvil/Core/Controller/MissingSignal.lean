/-
# An external signal that stays away

A constraint on an external signal counts the evaluations without it, and from `staleAfterTicks`
of them on counts again: the second count has to reach the persistence before the absence is acted
on (`missing_signal`). With a persistence of zero that is so from the first on, stale or not.
-/
import Netanvil.Core.Controller.Persistence
import Netanvil.Theory.Streak

namespace Netanvil.Core.ThresholdConstraint

open Netanvil.Types Theory.Trace Theory.Streak ConstraintAction
open Config (MissingSignalBehavior)

variable {config : ThresholdConfig} {external : ExternalConstraintConfig}
  {c c' : ThresholdConstraint} {ctx : EvalContext} {n : Nat} {call : Call}
  {ext : ExternalSignalState}

/-! ## Absences -/

/-- The window has no signal of that name. -/
def absent (name : String) (ctx : EvalContext) : Bool :=
  !ctx.summary.externalSignals.any (·.1 = name)

def absenceShown (name : String) : Call → List Bool
  | .evaluate ctx => [absent name ctx]
  | _ => []

/-- How many of the last evaluations in a row were without the signal. -/
def absentFor (name : String) (calls : List Call) : Nat :=
  streak (· = true) (calls.flatMap (absenceShown name))

theorem absentFor_other (name : String) (calls : List Call) (other : absenceShown name call = []) :
    absentFor name (calls ++ [call]) = absentFor name calls := by
  simp [absentFor, other]

/-! ## The counters -/

/-- The signal has been away for `n` evaluations. The counters are 32 bits wide. -/
structure Away (external : ExternalConstraintConfig) (n : Nat) (ext : ExternalSignalState) :
    Prop where
  config : ext.config = external
  seen : n < 2 ^ 32 → ext.ticksSinceSeen.toNat = n
  stale : n < 2 ^ 32 → ext.missingStreak.toNat = n - external.staleAfterTicks.toNat

theorem Away.absent (away : Away external n ext) : Away external (n + 1) ext.absent := by
  have width : external.staleAfterTicks.toNat < 2 ^ 32 := external.staleAfterTicks.toNat_lt
  refine ⟨away.config, fun fits => ?_, fun fits => ?_⟩
  · have before := away.seen (by omega)
    simp only [ExternalSignalState.absent, UInt32.toNat_add, before]
    exact Nat.mod_eq_of_lt fits
  · have seen := away.seen (by omega)
    have stale := away.stale (by omega)
    have now : (ext.ticksSinceSeen + 1).toNat = n + 1 := by
      rw [UInt32.toNat_add, seen]
      exact Nat.mod_eq_of_lt fits
    simp only [ExternalSignalState.absent, away.config, UInt32.lt_iff_toNat_lt, now]
    split
    · rw [UInt32.toNat_add, stale]
      show (n - external.staleAfterTicks.toNat + 1) % 2 ^ 32 = _
      omega
    · omega

/-- What the answer to an absence depends on. -/
structure Tracks (config : ThresholdConfig) (external : ExternalConstraintConfig) (n : Nat)
    (c : ThresholdConstraint) : Prop where
  away : ∃ ext, c.externalState = some ext ∧ Away external n ext
  persistence : c.state.persistence = config.persistence
  backoff : c.backoff = config.backoff

section

variable (tracks : Tracks config external n c)
include tracks

theorem Tracks.congr (away : c'.externalState = c.externalState)
    (persistence : c'.state.persistence = c.state.persistence) (backoff : c'.backoff = c.backoff) :
    Tracks config external n c' :=
  ⟨away ▸ tracks.away, persistence.trans tracks.persistence, backoff.trans tracks.backoff⟩

theorem Tracks.judgeMetric (ctx : EvalContext) :
    Tracks config external n (c.judgeMetric ctx).2 := by
  unfold ThresholdConstraint.judgeMetric
  split
  · exact tracks
  · simp only [judge]
    split
    · exact tracks.congr rfl rfl rfl
    · exact tracks.congr rfl rfl rfl

theorem Tracks.missing (here : c.externalState = some ext) (ctx : EvalContext) :
    Tracks config external (n + 1) (c.missing ctx ext).2 := by
  obtain ⟨⟨ext', same, away⟩, persistence, backoff⟩ := tracks
  obtain rfl : ext' = ext := Option.some.inj (same.symm.trans here)
  have counted : Tracks config external (n + 1) { c with externalState := some ext'.absent } :=
    ⟨⟨_, rfl, away.absent⟩, persistence, backoff⟩
  simp only [ThresholdConstraint.missing]
  split
  · exact counted
  · split
    · exact counted
    · exact counted.congr rfl rfl rfl
    · exact counted.congr rfl rfl rfl

theorem Tracks.evaluate (ctx : EvalContext) :
    Tracks config external (if absent external.signalName ctx then n + 1 else 0)
      (c.evaluate ctx).2 := by
  obtain ⟨ext, here, away⟩ := tracks.away
  have name : external.signalName = ext.config.signalName := by rw [away.config]
  rw [name]
  by_cases there : ctx.summary.externalSignals.any (·.1 = ext.config.signalName)
  · have fresh : Tracks config external 0 { c with
        externalState := some { ext with ticksSinceSeen := 0, missingStreak := 0 } } :=
      ⟨⟨_, rfl, away.config, fun _ => rfl, fun _ => by simp⟩, tracks.persistence, tracks.backoff⟩
    simp only [ThresholdConstraint.evaluate, here, absent, there, if_true, Bool.not_true,
      Bool.false_eq_true, if_false]
    exact fresh.judgeMetric ctx
  · simp only [ThresholdConstraint.evaluate, here, absent, there, Bool.not_false, if_true]
    exact tracks.missing here ctx

omit tracks in
theorem tracks_step {calls : List Call}
    (tracks : Tracks config external (absentFor external.signalName calls) c)
    (taken : c.step call = some c') :
    Tracks config external (absentFor external.signalName (calls ++ [call])) c' := by
  cases call with
  | evaluate ctx =>
    cases taken
    simpa [absentFor, absenceShown, streak_snoc] using tracks.evaluate ctx
  | postSelect isBinding =>
    cases taken
    obtain ⟨ema, samples, ticks, same⟩ := c.postSelect_frame isBinding
    rw [absentFor_other _ _ rfl, same]
    exact tracks.congr rfl rfl rfl
  | applyUpdate action params =>
    cases taken
    obtain ⟨threshold, mapping, same⟩ := c.applyUpdate_frame action params
    rw [absentFor_other _ _ rfl, same]
    exact tracks.congr rfl rfl rfl
  | onWarmupComplete baseline =>
    cases taken
    obtain ⟨threshold, same⟩ := c.onWarmupComplete_frame baseline
    rw [absentFor_other _ _ rfl, same]
    exact tracks.congr rfl rfl rfl

/-! ## The answer -/

/-- What an absence that is acted on comes to. -/
def onAbsence (behavior : MissingSignalBehavior) (hard currentRate : ℚ) :
    Option ConstraintIntent :=
  match behavior with
  | .ignore => none
  | .hold => some (.hold currentRate)
  | .backoff => some (.desireRate (hard * currentRate))

/-- The intent of an evaluation without the signal, the `n + 1`-st in a row. -/
theorem intent_of_absent (fits : n + 1 < 2 ^ 32) (away : absent external.signalName ctx) :
    (c.evaluate ctx).1.map (·.intent) =
      if config.persistence.toNat ≤ n + 1 - external.staleAfterTicks.toNat then
        onAbsence external.onMissing config.backoff.hard ctx.currentRate
      else none := by
  obtain ⟨⟨ext, here, gone⟩, persistence, backoff⟩ := tracks
  have unseen : ctx.summary.externalSignals.any (·.1 = external.signalName) = false := by
    simpa [absent] using away
  have early : ext.absent.missingStreak < c.state.persistence ↔
      ¬ config.persistence.toNat ≤ n + 1 - external.staleAfterTicks.toNat := by
    rw [UInt32.lt_iff_toNat_lt, gone.absent.stale fits, persistence, not_le]
  simp only [evaluate, here, gone.config, unseen, Bool.false_eq_true, if_false, missing, early]
  by_cases due : config.persistence.toNat ≤ n + 1 - external.staleAfterTicks.toNat
  · rw [if_neg (not_not.mpr due), if_pos due]
    cases external.onMissing with
    | ignore | hold => rfl
    | backoff =>
      -- the severity of a backoff is above the bypass, so the persistence gate lets it through
      have bypass : severityBypassPersistence < severityBypassPersistence + 1 := by
        decide +kernel
      simp only [gate, applyPersistence, isBackoff, bypass, or_true, if_true,
        Bool.not_true, Bool.false_eq_true, if_false, actionToIntent, Option.map_some,
        backoffFactor, onAbsence, backoff]
      rw [mul_comm]
  · rw [if_pos due, if_neg due]
    rfl

end

/-- What the configuration asks for, of an absence that is the `n`-th in a row: nothing before it
is stale and has persisted. -/
def dueOnAbsence (config : ThresholdConfig) (external : ExternalConstraintConfig) (n : Nat)
    (currentRate : ℚ) : Option ConstraintIntent :=
  if external.staleAfterTicks.toNat < n ∧
      external.staleAfterTicks.toNat + config.persistence.toNat ≤ n then
    onAbsence external.onMissing config.backoff.hard currentRate
  else none

/-- **After every sequence of calls, an evaluation without the signal answers what the configuration
asks for, exactly if the constraint ignores missing signals, or is to wait for one absence at least,
or the absence is stale.** -/
theorem missing_signal (watches : config.external = some external) {calls : List Call}
    (run : exec step (new config) calls = some c) (away : absent external.signalName ctx)
    (fits : absentFor external.signalName calls + 1 < 2 ^ 32) :
    (c.evaluate ctx).1.map (·.intent) =
        dueOnAbsence config external (absentFor external.signalName calls + 1) ctx.currentRate ↔
      external.onMissing = .ignore ∨ 1 ≤ config.persistence.toNat ∨
        external.staleAfterTicks.toNat < absentFor external.signalName calls + 1 := by
  have tracks := exec_invariant (I := fun calls c =>
      Tracks config external (absentFor external.signalName calls) c) ⟨⟨⟨external, 0, 0⟩,
        by simp [new, watches], rfl, fun _ => rfl, fun _ => (Nat.zero_sub _).symm⟩, rfl, rfl⟩
    (fun {_ _ _ _} tracks taken => tracks_step tracks taken) run
  rw [intent_of_absent tracks fits away, dueOnAbsence]
  generalize absentFor external.signalName calls + 1 = n
  cases ignores : external.onMissing with
  | ignore => simp [onAbsence]
  | hold | backoff =>
    simp only [onAbsence, reduceCtorEq, false_or]
    split <;> split <;> simp <;> omega

/-! A constraint on the length of a queue, and windows without it. -/

def queueConfig (persistence staleAfterTicks : UInt32) : ThresholdConfig where
  id := "queue"
  class_ := .operatingPoint
  metric := .external "queue" .higherIsWorse
  smoother := .plain
  threshold := 80
  severityMapping := .graduated
  persistence := persistence
  recoverySeed := 5
  backoff := .default
  external := some ⟨"queue", .backoff, staleAfterTicks⟩
  selfCausedCap := none
  direction := .higherIsWorse
  baselineMultiplier := none
  baselineFloorMs := none

/-- Stale from the second absence on, and acted on at the third. -/
theorem backoff_on_third_absence : ∃ c,
    exec step (new (queueConfig 2 1))
        [.evaluate (p99Window 50 1), .evaluate (p99Window 50 1)] = some c ∧
      (c.evaluate (p99Window 50 1)).1.map (·.intent) =
        dueOnAbsence (queueConfig 2 1) ⟨"queue", .backoff, 1⟩ 3 100 := by
  have run : exec step (new (queueConfig 2 1))
      [.evaluate (p99Window 50 1), .evaluate (p99Window 50 1)] = some _ := rfl
  exact ⟨_, run, (missing_signal rfl run rfl (by decide)).mpr (.inr (.inl (by decide)))⟩

/-- Stale from the fourth absence on, but without persistence the first is acted on. -/
theorem backoff_on_first_absence :
    ((new (queueConfig 0 3)).evaluate (p99Window 50 1)).1.map (·.intent) =
        some (.desireRate 50) ∧
      absent "queue" (p99Window 50 1) ∧
      dueOnAbsence (queueConfig 0 3) ⟨"queue", .backoff, 3⟩ 1 100 = none := by
  decide +kernel

end Netanvil.Core.ThresholdConstraint
