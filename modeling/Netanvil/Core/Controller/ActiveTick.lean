/-
# The rate of one tick of active control

The rate the constraints came to is limited by the change limits and then by the ceiling
(`limited`), raised to the known-good floor unless the constraint that decided is catastrophic,
and last clamped to the absolute bounds. The floor knows nothing of the change limits, so a
tick keeps to the upward limit only if the floor is not above it (`slew_limited`).
-/
import Netanvil.Core.Controller.ArbiterBounds

namespace Netanvil.Core.Arbiter

open Netanvil.Types Theory Theory.Trace Option

variable {C Q : Type} {parts : ArbiterParts C Q} {a a' : Arbiter C Q} {now : Nat}
  {summary : MetricsSummary} {decision : RateDecision} {made : ArbiterCall} {rate z : ℚ}

/-! ## What goes into a tick -/

/-- The highest rate the change limits allow. -/
def maxUp (a : Arbiter C Q) : ℚ := a.currentRps * (1 + a.rateChangeLimits.maxIncreasePct)

/-- The lowest rate the change limits allow. -/
def maxDown (a : Arbiter C Q) : ℚ := a.currentRps * (1 - a.rateChangeLimits.maxDecreasePct)

/-- What the change limits and the ceiling leave of a rate. -/
def limited (a : Arbiter C Q) (now : Nat) (rate : ℚ) : ℚ :=
  min (max a.maxDown (min a.maxUp rate)) (a.ceiling.ceiling now)

/-- The known-good floor of a tick: the tracker has seen the current rate. -/
def floorAt (a : Arbiter C Q) (now : Nat) : ℚ :=
  (a.knownGood.update now a.currentRps).floor a.minRps

/-- The rate the strategy made of what the constraints said. -/
def composedRate (parts : ArbiterParts C Q) (a : Arbiter C Q) (summary : MetricsSummary) : ℚ :=
  (a.compose parts summary).result.rate

/-- The constraint that decided is catastrophic, so that the floor does not hold. -/
def Bypasses (parts : ArbiterParts C Q) (a : Arbiter C Q) (summary : MetricsSummary) : Prop :=
  ∃ c, bound (a.compose parts summary).constraints (a.compose parts summary).result.binding =
    some (some c) ∧ parts.constraint.class_ c = .catastrophic

theorem limited_le_iff :
    a.limited now rate ≤ z ↔
      a.ceiling.ceiling now ≤ z ∨ (a.maxDown ≤ z ∧ (a.maxUp ≤ z ∨ rate ≤ z)) := by
  rw [limited, min_le_iff, max_le_iff, min_le_iff, or_comm]

theorem le_limited_iff :
    z ≤ a.limited now rate ↔
      z ≤ a.ceiling.ceiling now ∧ (z ≤ a.maxDown ∨ (z ≤ a.maxUp ∧ z ≤ rate)) := by
  rw [limited, le_min_iff, le_max_iff, le_min_iff, and_comm]

/-! ## The rate -/

/-- What the policies make of a rate; a panic is a pair of bounds the wrong way round. -/
theorem applyPolicies_eq {rate rate' : ℚ} {catastrophic : Bool}
    (given : a.applyPolicies now rate catastrophic = some rate') :
    a.maxDown ≤ a.maxUp ∧ clamp a.minRps a.maxRps
      (if catastrophic then a.limited now rate else max (a.limited now rate) (a.floorAt now)) =
        some rate' := by
  obtain ⟨slewed, given, bounded⟩ := bind_eq_some_iff.mp given
  obtain ⟨ordered, rfl⟩ := clamp_eq_some.mp given
  exact ⟨ordered, bounded⟩

/-- An active tick is the policies applied to the composed rate. -/
theorem activeTick_policies (taken : a.activeTick parts now summary = some (a', decision)) :
    ∃ catastrophic : Bool, (catastrophic = true ↔ a.Bypasses parts summary) ∧
      a.applyPolicies now (a.composedRate parts summary) catastrophic =
        some decision.targetRps := by
  obtain ⟨binding, named, taken⟩ := bind_eq_some_iff.mp taken
  obtain ⟨rate, policies, same⟩ := map_eq_some_iff.mp taken
  cases same
  refine ⟨_, ?_, policies⟩
  rw [Bypasses, named]
  cases binding <;> simp

section

variable (taken : a.activeTick parts now summary = some (a', decision)) {z : ℚ}

include taken

theorem ordered_of_activeTick : a.minRps ≤ a.maxRps ∧ a.maxDown ≤ a.maxUp := by
  obtain ⟨catastrophic, -, policies⟩ := activeTick_policies taken
  obtain ⟨ordered, given⟩ := applyPolicies_eq policies
  exact ⟨(clamp_eq_some.mp given).1, ordered⟩

theorem rate_le_iff :
    decision.targetRps ≤ z ↔ a.minRps ≤ z ∧
      min a.maxRps (a.limited now (a.composedRate parts summary)) ≤ z ∧
        (a.Bypasses parts summary ∨ min a.maxRps (a.floorAt now) ≤ z) := by
  obtain ⟨catastrophic, bypasses, policies⟩ := activeTick_policies taken
  obtain ⟨-, given⟩ := applyPolicies_eq policies
  rw [clamp_le_iff given, ← bypasses, min_le_iff, min_le_iff]
  cases catastrophic with
  | true => simp
  | false => simp [or_and_left]

theorem le_rate_iff :
    z ≤ decision.targetRps ↔ z ≤ a.minRps ∨ (z ≤ a.maxRps ∧
      (z ≤ a.limited now (a.composedRate parts summary) ∨
        (¬ a.Bypasses parts summary ∧ z ≤ a.floorAt now))) := by
  obtain ⟨catastrophic, bypasses, policies⟩ := activeTick_policies taken
  obtain ⟨-, given⟩ := applyPolicies_eq policies
  rw [le_clamp_iff given, ← bypasses]
  cases catastrophic <;> simp

/-- The rate compared with what is within the upper bound. -/
theorem le_rate_iff_of_le (within : z ≤ a.maxRps) :
    z ≤ decision.targetRps ↔ z ≤ a.minRps ∨
      z ≤ a.limited now (a.composedRate parts summary) ∨
        (¬ a.Bypasses parts summary ∧ z ≤ a.floorAt now) := by
  rw [le_rate_iff taken]
  tauto

end

/-! ## The state after a tick -/

/-- A constraint decided, for much less than the current rate. -/
def backsOff (parts : ArbiterParts C Q) (a : Arbiter C Q) (summary : MetricsSummary) : Bool :=
  (a.compose parts summary).result.binding.isSome &&
    a.composedRate parts summary < a.currentRps * a.backoffDetectionThreshold

/-- What a tick does to the policies: it tells them the rate before, and of a backoff. -/
theorem activeTick_policies_after (taken : a.activeTick parts now summary = some (a', decision)) :
    a'.initialRps = a.initialRps ∧ a'.ceiling = a.ceiling ∧
      a'.knownGood = a.knownGood.update now a.currentRps ∧
      a'.increase = (if a.backsOff parts summary then a.increase.recordBackoff a.currentRps
        else a.increase) ∧
      ∃ estimates, a'.cooldown =
        if a.backsOff parts summary then a.cooldown.engage estimates else a.cooldown.tick := by
  obtain ⟨binding, -, taken⟩ := bind_eq_some_iff.mp taken
  obtain ⟨rate, -, same⟩ := map_eq_some_iff.mp taken
  cases same
  exact ⟨rfl, rfl, rfl, rfl, _, rfl⟩

theorem setRate_of_explored (explored : a.Explored) {rps : ℚ}
    (taken : a.setRate parts now rps = some a') :
    ∃ rate constraints, clamp a.minRps a.maxRps rps = some rate ∧
      a' = { a with constraints := constraints, currentRps := rate } := by
  obtain ⟨rate, given, taken⟩ := map_eq_some_iff.mp taken
  dsimp only at taken
  split at taken
  · rename_i manager here
    exact absurd here (explored manager)
  · exact ⟨rate, _, given, taken.symm⟩

section

variable (active : a.phase = .active)
include active

theorem update_of_active : a.update parts now summary = a.activeTick parts now summary := by
  rw [update, active]

theorem explored_of_active : a.Explored := by
  simp [Explored, active]

/-- A tick, not an override. -/
def isTick : ArbiterCall → Bool
  | .update _ _ => true
  | _ => false

/-- In active control a call is an active tick, or changes the constraints, the rate and the
bounds. -/
theorem call_of_active (taken : a.call parts made = some a') :
    (∃ now summary decision, made = .update now summary ∧
        a.activeTick parts now summary = some (a', decision)) ∨
      (isTick made = false ∧ ∃ constraints currentRps minRps maxRps endValue,
        a' = { a with
          constraints := constraints
          currentRps := currentRps
          minRps := minRps
          maxRps := maxRps
          ceiling := { a.ceiling with endValue := endValue } }) := by
  cases made with
  | update now summary =>
    obtain ⟨⟨after, decision⟩, updated, rfl⟩ := map_eq_some_iff.mp taken
    rw [update_of_active active] at updated
    exact .inl ⟨now, summary, decision, rfl, updated⟩
  | setRate now rps =>
    obtain ⟨rate, constraints, -, rfl⟩ :=
      setRate_of_explored (explored_of_active active) taken
    exact .inr ⟨rfl, _, _, _, _, _, rfl⟩
  | setMaxRps maxRps =>
    cases taken
    exact .inr ⟨rfl, _, _, _, _, _, rfl⟩
  | applyUpdate action params =>
    cases taken
    refine .inr ⟨rfl, ?_⟩
    rcases applyUpdate_cases parts a action params with ⟨constraints, same⟩ | ⟨maxRps, same⟩ |
      ⟨minRps, -, -, same⟩ <;> rw [same] <;> exact ⟨_, _, _, _, _, rfl⟩

/-- Active control does not end. -/
theorem call_active (taken : a.call parts made = some a') : a'.phase = .active := by
  rcases call_of_active active taken with
    ⟨now, summary, decision, -, ticked⟩ | ⟨-, _, _, _, _, _, rfl⟩
  · exact (activeTick_spec ticked).2.1.trans active
  · exact active

end

/-! ## The change limits -/

/-- **A tick never falls below what the downward limit, the ceiling and the upper bound leave.
It keeps to the upward limit exactly if the constraint that decided is catastrophic or the
known-good floor keeps to it.** -/
theorem slew_limited (active : a.phase = .active)
    (taken : a.update parts now summary = some (a', decision)) :
    min (min a.maxDown (a.ceiling.ceiling now)) a.maxRps ≤ decision.targetRps ∧
      (decision.targetRps ≤ max a.minRps a.maxUp ↔
        a.Bypasses parts summary ∨ min a.maxRps (a.floorAt now) ≤ max a.minRps a.maxUp) := by
  rw [update_of_active active] at taken
  constructor
  · refine (le_rate_iff taken).mpr (.inr ⟨min_le_right _ _, .inl ?_⟩)
    refine le_limited_iff.mpr ⟨(min_le_left _ _).trans (min_le_right _ _), .inl ?_⟩
    exact (min_le_left _ _).trans (min_le_left _ _)
  · -- what the limits leave is within the upward limit, so only the floor is left to compare
    have within : min a.maxRps (a.limited now (a.composedRate parts summary)) ≤
        max a.minRps a.maxUp := by
      obtain ⟨-, ordered⟩ := ordered_of_activeTick taken
      refine (min_le_right _ _).trans (limited_le_iff.mpr (.inr ⟨?_, .inl (le_max_right _ _)⟩))
      exact ordered.trans (le_max_right _ _)
    rw [rate_le_iff taken]
    exact ⟨fun held => held.2.2, fun held => ⟨le_max_left _ _, within, held⟩⟩

/-! A constraint that says what it is told to, tick by tick, and then nothing. -/

structure Script where
  class_ : ConstraintClass
  outputs : List ConstraintOutput

def scriptedConstraint : Constraint Script where
  evaluate script _ := (script.outputs.head?, { script with outputs := script.outputs.tail })
  postSelect script _ _ _ := script
  id _ := "scripted"
  class_ := Script.class_
  recoveryEstimateTicks _ := none
  applyUpdate script _ _ := (.error "no updates supported", script)
  requiresExploration _ := false
  onExplorationComplete script _ := script
  onWarmupComplete script _ := script
  onRateOverride script _ := script

def scripted : ArbiterParts Script Unit := ⟨scriptedConstraint, minSelector⟩

/-- A catastrophic constraint that wants 100 once, at a rate of 1000. -/
def backsOffOnce : ArbiterConfig Script Unit :=
  .new [⟨.catastrophic, [⟨.desireRate 100, 2⟩]⟩] 1000 10 10000 60000000000

/-- The tick that backs off keeps to the limits: it halves the rate. -/
theorem back_off_limited :
    ∃ a' decision,
      (new backsOffOnce 0).update scripted 1000000000 emptyWindow = some (a', decision) ∧
      500 ≤ decision.targetRps ∧ decision.targetRps ≤ 1200 := by
  have taken := evaluates (x := (new backsOffOnce 0).update scripted 1000000000 emptyWindow)
  obtain ⟨lower, upper⟩ := slew_limited rfl taken
  exact ⟨_, _, taken, le_trans (by decide +kernel) lower,
    (upper.mpr (.inr (by decide +kernel))).trans (by decide +kernel)⟩

/-- The tick after it goes from 500 to 800, by 60 percent. -/
theorem floor_jumps :
    ∃ a, exec (call scripted) (new backsOffOnce 0) [.update 1000000000 emptyWindow] = some a ∧
      a.phase = .active ∧
      ∃ a' decision, a.update scripted 2000000000 emptyWindow = some (a', decision) ∧
        max a.minRps a.maxUp < decision.targetRps := by
  have called := evaluates
    (x := call scripted (new backsOffOnce 0) (.update 1000000000 emptyWindow))
  exact ⟨_, exec_first called rfl, call_active rfl called, _, _, evaluates, by decide +kernel⟩

end Netanvil.Core.Arbiter
