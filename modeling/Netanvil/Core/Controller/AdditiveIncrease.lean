/-
# An increment that is not used

The builder makes an additive increase a multiplication by one, so a tick without an opinion leaves
the rate where it is, unless the known-good floor is above it (`rate_of_clean`). That is the rate
the increment would give only where there is no room for an increment (`additive_increase`).
-/
import Netanvil.Core.Controller.Builder
import Netanvil.Core.Controller.ConstraintCalls
import Netanvil.Core.Controller.Recovery
import Netanvil.Core.Controller.ThresholdUpdate

namespace Netanvil.Core.Arbiter

open Netanvil.Types Theory Theory.Trace Option ThresholdConstraint
open Config (AdaptiveConfig)

variable {C Q : Type} {parts : ArbiterParts C Q} {a a' b b' : Arbiter C Q} {now : Nat}
  {summary window : MetricsSummary} {decision : RateDecision} {increment : ℚ}

/-! ## The increase policy of a run -/

theorem increase_finishExploration (parts : ArbiterParts C Q) (a : Arbiter C Q) (now : Nat)
    (manager : ExplorationManager) :
    (a.finishExploration parts now manager).increase = a.increase := by
  unfold finishExploration transitionPostExploration
  split <;> rfl

theorem config_of_activeTick (taken : a.activeTick parts now summary = some (a', decision)) :
    a'.increase.config = a.increase.config := by
  obtain ⟨-, -, -, increase, -⟩ := activeTick_policies_after taken
  rw [increase]
  split <;> rfl

theorem config_of_tick (tick : Tick parts now summary a' decision a) :
    a'.increase.config = a.increase.config := by
  induction tick with
  | active _ taken => exact config_of_activeTick taken
  | waiting _ _ same _ => rw [same]
  | warmed _ _ taken => rw [config_of_activeTick taken, warmedUp]
  | exploring _ _ _ _ same _ => rw [same, watched]
  | aborted _ _ _ _ same _ => rw [same, increase_finishExploration, watched]
  | explored _ _ _ ih => rw [ih, increase_finishExploration]

theorem config_of_call {made : ArbiterCall} (taken : a.call parts made = some a') :
    a'.increase.config = a.increase.config := by
  cases made with
  | update now summary =>
    obtain ⟨⟨after, decision⟩, updated, rfl⟩ := map_eq_some_iff.mp taken
    exact config_of_tick (tick_of_update updated)
  | setRate now rps =>
    obtain ⟨rate, -, taken⟩ := map_eq_some_iff.mp taken
    dsimp only at taken
    split at taken <;> subst taken
    · rw [increase_finishExploration]
    · rfl
  | setMaxRps maxRps =>
    cases taken
    rfl
  | applyUpdate action params =>
    cases taken
    rcases applyUpdate_cases parts a action params with ⟨constraints, same⟩ | ⟨maxRps, same⟩ |
      ⟨minRps, -, -, same⟩ <;> rw [same]
    rfl

theorem update_of_entersActive (enters : a.entersActive parts now summary = some b) :
    a.update parts now summary = b.activeTick parts now summary ∧ b.increase = a.increase := by
  unfold entersActive at enters
  unfold update
  cases phase : a.phase with
  | active =>
    simp only [phase] at enters
    cases enters
    exact ⟨rfl, rfl⟩
  | warmup rps duration start samples =>
    simp only [phase] at enters
    split at enters
    · rename_i ends
      cases enters
      exact ⟨if_pos ends, rfl⟩
    · cases enters
  | exploration manager =>
    simp only [phase] at enters
    cases enters

theorem update_of_activeIn (enters : a.activeIn parts (.update now summary) = some (b, window)) :
    a.update parts now summary = b.activeTick parts now summary ∧ b.increase = a.increase := by
  cases phase : a.phase with
  | exploration manager =>
    cases ticked : manager.tick summary with
    | mk rate manager' =>
      simp only [activeIn, phase, ticked] at enters
      cases rate with
      | some rate => cases enters
      | none =>
        obtain ⟨b', entered, same⟩ := map_eq_some_iff.mp enters
        cases same
        obtain ⟨ticks, increase⟩ := update_of_entersActive entered
        refine ⟨?_, increase.trans (increase_finishExploration _ _ _ _)⟩
        have explored := (finishExploration_spec parts a now manager').2.1
        rw [← ticks, update, phase, update]
        simp only [explorationTick, ticked]
        cases next : (a.finishExploration parts now manager').phase with
        | exploration m => exact absurd next (explored m)
        | warmup rps duration start samples | active => rfl
  | warmup rps duration start samples | active =>
    simp only [activeIn, phase] at enters
    obtain ⟨b', entered, same⟩ := map_eq_some_iff.mp enters
    cases same
    exact update_of_entersActive entered

/-! ## A clean tick -/

/-- No constraint has an opinion on the rate, and no cooldown is active. -/
structure Clean (parts : ArbiterParts C Q) (a : Arbiter C Q) (summary : MetricsSummary) : Prop where
  evals : (a.compose parts summary).evals = []
  ended : a.cooldown.remaining = 0

/-- The highest rate that limits, ceiling and upper bound allow. -/
def highest (a : Arbiter C Q) (now : Nat) : ℚ :=
  min a.maxUp (min (a.ceiling.ceiling now) a.maxRps)

/-- The rate an increment is to give. -/
def incremented (a : Arbiter C Q) (increment : ℚ) (now : Nat) : ℚ :=
  max (min (a.currentRps + increment) (a.highest now)) (a.floorAt now)

/-- The current rate, or the downward limit if that points up. -/
def keptRate (a : Arbiter C Q) : ℚ := max a.currentRps a.maxDown

/-- The policy that an additive one is built as. -/
def Flat (p : IncreasePolicy) : Prop := p.config = ⟨1, none⟩

/-- A clean tick keeps the rate, within what is allowed, or raises it to the floor. -/
theorem rate_of_clean (falls : parts.strategy.FallsBack) (flat : Flat a.increase)
    (clean : a.Clean parts summary) (taken : a.activeTick parts now summary = some (a', decision)) :
    decision.targetRps = max (min a.keptRate (a.highest now)) (min (a.floorAt now) a.maxRps) := by
  have unnamed := unnamed_of_evals clean.evals
  have composed : a.composedRate parts summary = a.currentRps := by
    rw [composedRate_of_unnamed falls unnamed, IncreasePolicy.compute, flat]
    simp [CooldownState.isActive, clean.ended]
  have holds : ¬ a.Bypasses parts summary := by
    rw [Bypasses, unnamed]
    rintro ⟨c, found, -⟩
    cases found
  have floor : a.minRps ≤ a.floorAt now := le_max_right _ _
  obtain ⟨bounds, limits⟩ := ordered_of_activeTick taken
  refine eq_of_forall_le_iff fun z => ?_
  rw [le_rate_iff taken, composed, le_limited_iff, le_max_iff, le_min_iff, keptRate, le_max_iff,
    highest, le_min_iff, le_min_iff, le_min_iff]
  constructor
  · rintro (low | ⟨max, ⟨ceiling, down | ⟨up, current⟩⟩ | ⟨-, low⟩⟩)
    · exact .inr ⟨low.trans floor, low.trans bounds⟩
    · exact .inl ⟨.inr down, down.trans limits, ceiling, max⟩
    · exact .inl ⟨.inl current, up, ceiling, max⟩
    · exact .inr ⟨low, max⟩
  · rintro (⟨current | down, up, ceiling, max⟩ | ⟨low, max⟩)
    · exact .inr ⟨max, .inl ⟨ceiling, .inr ⟨up, current⟩⟩⟩
    · exact .inr ⟨max, .inl ⟨ceiling, .inl down⟩⟩
    · exact .inr ⟨max, .inr ⟨holds, low⟩⟩

/-- Where there is no room for an increment: the floor decides, or the limits. -/
structure NoRoom (a : Arbiter C Q) (increment : ℚ) (now : Nat) : Prop where
  floor : a.floorAt now ≤ a.maxRps
  room : a.currentRps + increment = a.keptRate ∨ a.highest now ≤ a.floorAt now ∨
    (a.currentRps + increment ≤ a.floorAt now ∧ a.keptRate ≤ a.floorAt now) ∨
    (a.highest now ≤ a.currentRps + increment ∧ a.highest now ≤ a.keptRate)

theorem incremented_iff (falls : parts.strategy.FallsBack) (flat : Flat a.increase)
    (clean : a.Clean parts summary) (taken : a.activeTick parts now summary = some (a', decision)) :
    decision.targetRps = a.incremented increment now ↔ a.NoRoom increment now := by
  rw [rate_of_clean falls flat clean taken, incremented]
  rcases le_or_gt (a.floorAt now) a.maxRps with within | above
  · rw [min_eq_left within, eq_comm, max_min_eq_iff]
    exact ⟨fun room => ⟨within, room⟩, NoRoom.room⟩
  · refine iff_of_false (fun same => ?_) fun noRoom => absurd noRoom.floor above.not_ge
    have high : a.floorAt now ≤ a.maxRps := by
      calc a.floorAt now ≤ max (min (a.currentRps + increment) (a.highest now)) (a.floorAt now) :=
            le_max_right _ _
        _ = max (min a.keptRate (a.highest now)) (min (a.floorAt now) a.maxRps) := same.symm
        _ ≤ a.maxRps := max_le ((min_le_right _ _).trans ((min_le_right _ _).trans
            (min_le_right _ _))) (min_le_right _ _)
    exact above.not_ge high

/-! ## Clean runs -/

/-- No more than an increment within the limits adds to a rate in bounds. -/
def leastIncrement (a : Arbiter C Q) (increment : ℚ) : ℚ :=
  min increment (a.minRps * a.rateChangeLimits.maxIncreasePct)

theorem le_incremented (up : 0 < a.rateChangeLimits.maxIncreasePct)
    (above : a.minRps ≤ a.currentRps) (ceiling : a.ceiling.ceiling now = a.maxRps) :
    min a.maxRps (a.currentRps + a.leastIncrement increment) ≤ a.incremented increment now := by
  refine le_trans (le_min ?_ (le_min ?_ ?_)) (le_max_left _ _)
  · exact (min_le_right _ _).trans (add_le_add_right (min_le_left _ _) _)
  · have limit := mul_le_mul_of_nonneg_right above up.le
    have step : a.leastIncrement increment ≤ a.minRps * a.rateChangeLimits.maxIncreasePct :=
      min_le_right _ _
    refine (min_le_right _ _).trans ?_
    rw [maxUp]
    linarith
  · rw [ceiling, min_self]
    exact min_le_left _ _

/-! ## Additive configurations -/

variable {config : AdaptiveConfig} {built : ArbiterConfig AnyConstraint Unit} {scale : LogScale ℚ}
  {controlInterval testDuration start m : Nat} {calls : List ArbiterCall}

/-- **In every run of an arbiter with an additive increase, a clean tick gives the rate of the
increment exactly if there is no room for one; and a clean run all of whose ticks are such reaches
the upper bound.** -/
theorem additive_increase {a : Arbiter AnyConstraint Unit}
    (additive : config.increase = some (.additive increment)) (increases : 0 < increment)
    (builds : buildArbiterConfig config controlInterval testDuration = some built)
    (run : exec (call (builtParts scale)) (new built start) calls = some a) :
    (∀ now summary b a' decision,
      a.activeIn (builtParts scale) (.update now summary) = some (b, summary) →
      b.Clean (builtParts scale) summary →
      a.update (builtParts scale) now summary = some (a', decision) →
      (decision.targetRps = b.incremented increment now ↔ b.NoRoom increment now)) ∧
    (a.phase = .active → 0 < a.minRps → a.minRps ≤ a.maxRps → a.maxDown ≤ a.maxUp →
      0 < a.rateChangeLimits.maxIncreasePct →
      0 ≤ a.rateChangeLimits.maxIncreasePct + a.rateChangeLimits.maxDecreasePct →
      ∀ (window : Nat → Nat × MetricsSummary) (j n : Nat),
        (∀ m < n, ∀ b, a.before (builtParts scale) window m = some b →
          b.Silent (builtParts scale) (window m) ∧ b.NoRoom increment (window m).1) →
        (a.maxRps - a.minRps) / a.leastIncrement increment ≤ j → a.cooldown.remaining + 1 + j ≤ n →
        ∃ b, a.before (builtParts scale) window n = some b ∧ b.currentRps = a.maxRps) := by
  have flat : Flat a.increase := by
    refine exec_invariant (I := fun _ a => Flat a.increase) ?_
      (fun {_ _ _ _} flat taken => by rw [Flat, config_of_call taken, flat]) run
    obtain ⟨⟨constraints, explorations⟩, -, rfl⟩ := map_eq_some_iff.mp builds
    show (config.increase.map mapIncreasePolicy).getD _ = _
    rw [additive]
    rfl
  constructor
  · intro now summary b a' decision enters clean updated
    obtain ⟨ticks, increase⟩ := update_of_activeIn enters
    rw [ticks] at updated
    exact incremented_iff minSelector_fallsBack (increase ▸ flat) clean updated
  · intro active positive ordered first up limits window j n clean enough late
    refine (recovered active positive (fun m within b reached => (clean m within b reached).1)
      ordered first limits (lt_min increases (mul_pos positive up)) ?_ enough late).imp
      fun b found => ⟨found.1, found.2.2⟩
    rintro m within b b' decision later reached ⟨-, same, increase, remaining, -, inside⟩ taken
    obtain ⟨silent, noRoom⟩ := clean m within b reached
    have rate := (incremented_iff minSelector_fallsBack (increase ▸ flat)
      ⟨silent.evals, by omega⟩ taken).mpr noRoom
    have gains : _ ≤ b.incremented increment (window m).1 :=
      le_incremented (same.limits ▸ up) (same.min ▸ (inside (by omega)).1) silent.ceiling
    rwa [← rate, leastIncrement, same.min, same.max, same.limits] at gains

/-- Increments from an initial rate, and 100 ms at the 99th percentile. -/
def incrementsFrom (initialRps increment : ℚ) (bounds : Config.BoundsConfig) : AdaptiveConfig where
  bounds := bounds
  warmup := none
  initialRps := some initialRps
  constraints := [.threshold (absoluteOn .latencyP99 100)]
  increase := some (.additive increment)
  cooldown := none
  floor := none
  rateChangeLimits := none

/-- The arbiter of a configuration, for a minute. -/
def builtFrom (config : AdaptiveConfig) : Arbiter AnyConstraint Unit :=
  new ((buildArbiterConfig config 1000000000 60000000000).getD (.new [] 0 0 0 0)) 0

/-- 10 ms each second. -/
def calmWindow (n : Nat) : Nat × MetricsSummary :=
  ((n + 1) * 1000000000, (p99Window 10 0).summary)

/-- From the upper bound. -/
def fromTop : Arbiter AnyConstraint Unit := builtFrom (incrementsFrom 1000 100 ⟨900, 1000⟩)

theorem noRoom_fromTop (within : m < 2) {b : Arbiter AnyConstraint Unit}
    (reached : fromTop.before (builtParts .hyperbolic) calmWindow m = some b) :
    b.cooldown.remaining = 0 ∧ b.Silent (builtParts .hyperbolic) (calmWindow m) ∧
      b.NoRoom 100 (calmWindow m).1 := by
  have shown : ∀ m < 2, (fromTop.before (builtParts .hyperbolic) calmWindow m).all (fun b =>
      (b.compose (builtParts .hyperbolic) (calmWindow m).2).evals.isEmpty &&
        decide (b.cooldown.remaining = 0 ∧ b.ceiling.ceiling (calmWindow m).1 = b.maxRps ∧
          b.floorAt (calmWindow m).1 ≤ b.maxRps ∧ b.highest (calmWindow m).1 ≤ b.currentRps)) := by
    decide +kernel
  have here := shown m within
  rw [reached, all_some, Bool.and_eq_true, List.isEmpty_iff, decide_eq_true_eq] at here
  obtain ⟨evals, ended, ceiling, floor, low⟩ := here
  refine ⟨ended, ⟨evals, ceiling⟩, floor, .inr (.inr (.inr ⟨?_, low.trans (le_max_left _ _)⟩))⟩
  exact low.trans (le_add_of_nonneg_right (by norm_num))

/-- There the increment makes no difference. -/
theorem no_room_at_upper_bound :
    (∃ a' decision, fromTop.update (builtParts .hyperbolic) (calmWindow 0).1 (calmWindow 0).2 =
        some (a', decision) ∧ decision.targetRps = fromTop.incremented 100 (calmWindow 0).1) ∧
    ∃ b, fromTop.before (builtParts .hyperbolic) calmWindow 2 = some b ∧
      b.currentRps = fromTop.maxRps := by
  have builds : buildArbiterConfig (incrementsFrom 1000 100 ⟨900, 1000⟩) 1000000000 60000000000 =
      some _ := rfl
  have run : exec (call (builtParts .hyperbolic)) fromTop [] = some fromTop := rfl
  obtain ⟨tick, reaches⟩ := additive_increase rfl (by norm_num) builds run
  have runs : (fromTop.update (builtParts .hyperbolic) (calmWindow 0).1
      (calmWindow 0).2).isSome := by decide +kernel
  obtain ⟨⟨a', decision⟩, updated⟩ := isSome_iff_exists.mp runs
  obtain ⟨ended, silent, noRoom⟩ := noRoom_fromTop (m := 0) (by norm_num) rfl
  refine ⟨⟨a', decision, updated,
    (tick _ _ fromTop a' decision rfl ⟨silent.evals, ended⟩ updated).mpr noRoom⟩, ?_⟩
  refine reaches rfl (by decide +kernel) (by decide +kernel) (by decide +kernel)
    (by decide +kernel) (by decide +kernel) calmWindow 1 2 ?_ (by decide +kernel)
    (by decide +kernel)
  intro m within b reached
  exact (noRoom_fromTop within reached).2

/-- From 100 by 10: the rate stays where it is, for the whole minute. -/
theorem increment_not_added :
    (builtFrom (incrementsFrom 100 10 ⟨10, 1000⟩)).Clean (builtParts .hyperbolic)
        (calmWindow 0).2 ∧
      (builtFrom (incrementsFrom 100 10 ⟨10, 1000⟩)).incremented 10 (calmWindow 0).1 = 110 ∧
      ∀ n ≤ 60, ∃ b, (builtFrom (incrementsFrom 100 10 ⟨10, 1000⟩)).before
        (builtParts .hyperbolic) calmWindow n = some b ∧ b.currentRps = 100 := by
  refine ⟨⟨List.isEmpty_iff.mp (by decide +kernel), rfl⟩, by decide +kernel, ?_⟩
  decide +kernel

end Netanvil.Core.Arbiter
