/-
# After a backoff

A backoff engages a cooldown of some ticks, and every tick without a backoff counts one off.
While it lasts the arbiter does not raise the rate of itself. It says nothing of a constraint
that wants more, nor of the known-good floor (`cooldown_suppresses`).
-/
import Netanvil.Core.Controller.ActiveTick

namespace Netanvil.Core

open Netanvil.Types Theory Theory.Trace CooldownState

namespace IncreasePolicy

/-- The rate grows if nothing holds it. -/
structure Grows (p : IncreasePolicy) : Prop where
  factor : 1 < p.config.increaseFactor
  additive : ∀ ca, p.config.congestionAvoidance = some ca → 0 < ca.additiveFraction

end IncreasePolicy

namespace Arbiter

variable {C Q : Type} {parts : ArbiterParts C Q} {a a' : Arbiter C Q} {now : Nat}
  {summary : MetricsSummary} {decision : RateDecision}

/-! ## The count -/

/-- A tick that is no backoff. -/
def Quiet (parts : ArbiterParts C Q) (a : Arbiter C Q) (made : ArbiterCall) : Prop :=
  ∀ now summary, made = .update now summary → a.backsOff parts summary = false

theorem quiet_update (held : a.backsOff parts summary = false) (now : Nat) :
    a.Quiet parts (.update now summary) := by
  rintro time window same
  cases same
  exact held

theorem remaining_of_call (active : a.phase = .active) {made : ArbiterCall}
    (quiet : a.Quiet parts made) (taken : a.call parts made = some a') :
    a'.cooldown.remaining = a.cooldown.remaining - if isTick made then 1 else 0 := by
  rcases call_of_active active taken with
    ⟨now, summary, decision, rfl, ticked⟩ | ⟨other, _, _, _, _, _, rfl⟩
  · obtain ⟨-, -, -, -, estimates, cooldown⟩ := activeTick_policies_after ticked
    rw [quiet now summary rfl] at cooldown
    exact congrArg remaining cooldown
  · rw [other]
    rfl

/-- Every tick that is no backoff counts one off. -/
theorem remaining_of_run (active : a.phase = .active) {calls : List ArbiterCall}
    (quiet : Allowed (call parts) (Quiet parts) a calls)
    (run : exec (call parts) a calls = some a') :
    a'.phase = .active ∧ a'.cooldown.remaining = a.cooldown.remaining - calls.countP isTick := by
  induction calls using List.reverseRecOn generalizing a' with
  | nil =>
    obtain rfl : a = a' := Option.some.inj run
    exact ⟨active, rfl⟩
  | append_singleton calls made ih =>
    obtain ⟨before, last⟩ := along_snoc.mp quiet
    obtain ⟨b, earlier, taken⟩ := exec_snoc_iff.mp run
    obtain ⟨activeThen, remaining⟩ := ih before earlier
    refine ⟨call_active activeThen taken, ?_⟩
    rw [remaining_of_call activeThen (last b earlier) taken, remaining, List.countP_append,
      List.countP_singleton, Nat.sub_sub]

/-! ## While it lasts, and after -/

/-- Nothing but the increase policy raises the rate in this tick: not the constraint that
decides, if one does, nor the known-good floor, nor a downward limit that points up. -/
structure Suppressed (parts : ArbiterParts C Q) (a : Arbiter C Q) (now : Nat)
    (summary : MetricsSummary) : Prop where
  decided : (a.compose parts summary).result.binding ≠ none →
    a.composedRate parts summary ≤ max a.minRps a.currentRps
  floor : a.Bypasses parts summary ∨ a.floorAt now ≤ max a.minRps a.currentRps
  limits : a.maxDown ≤ max a.minRps a.currentRps

/-- There is a higher rate the tick could return. -/
structure Roomy (a : Arbiter C Q) (now : Nat) : Prop where
  limit : max a.minRps a.currentRps < a.maxUp
  ceiling : max a.minRps a.currentRps < a.ceiling.ceiling now
  bound : max a.minRps a.currentRps < a.maxRps

theorem composedRate_of_unnamed (falls : parts.strategy.FallsBack)
    (unnamed : (a.compose parts summary).result.binding = none) :
    a.composedRate parts summary = a.increase.compute a.currentRps a.cooldown :=
  falls _ _ _ _ unnamed

/-- **A backoff engages a cooldown. In each of its ticks, counted without backoffs, the rate is
held if neither the constraint that decides nor the floor raises it, and where there is room
only then; in the tick after them it rises if nobody has an opinion.** -/
theorem cooldown_suppresses (falls : parts.strategy.FallsBack) (active : a.phase = .active)
    (taken : a.activeTick parts now summary = some (a', decision))
    (engages : a.backsOff parts summary = true) {calls : List ArbiterCall} {b : Arbiter C Q}
    (quiet : Allowed (call parts) (Quiet parts) a' calls)
    (run : exec (call parts) a' calls = some b) :
    (∃ estimates, a'.cooldown = a.cooldown.engage estimates) ∧
    (calls.countP isTick < a'.cooldown.remaining →
      ∀ time window b' next, b.update parts time window = some (b', next) →
        (b.Suppressed parts time window → next.targetRps ≤ max b.minRps b.currentRps) ∧
        (b.Roomy time → next.targetRps ≤ max b.minRps b.currentRps →
          b.Suppressed parts time window)) ∧
    (a'.cooldown.remaining ≤ calls.countP isTick → b.Steerable → b.increase.Grows →
      0 < b.currentRps → ∀ time window, b.Roomy time →
        (b.compose parts window).result.binding = none →
        ∃ b' next, b.update parts time window = some (b', next) ∧
          b.currentRps < next.targetRps) := by
  have activeThen : a'.phase = .active := (activeTick_spec taken).2.1.trans active
  obtain ⟨activeNow, remaining⟩ := remaining_of_run activeThen quiet run
  refine ⟨?_, fun early time window b' next updated => ?_,
    fun late steerable grows positive time window roomy unnamed => ?_⟩
  · obtain ⟨-, -, -, -, estimates, cooldown⟩ := activeTick_policies_after taken
    rw [if_pos engages] at cooldown
    exact ⟨estimates, cooldown⟩
  · rw [update_of_active activeNow] at updated
    have cooling : 0 < b.cooldown.remaining := by omega
    refine ⟨?_, fun roomy held => ?_⟩
    swap
    · obtain ⟨-, limits, floor⟩ := (rate_le_iff updated).mp held
      have within := (min_le_iff.mp limits).resolve_left roomy.bound.not_ge
      obtain ⟨down, up⟩ := (limited_le_iff.mp within).resolve_left roomy.ceiling.not_ge
      refine ⟨fun _ => up.resolve_left roomy.limit.not_ge, floor.imp_right fun floor => ?_, down⟩
      exact (min_le_iff.mp floor).resolve_left roomy.bound.not_ge
    rintro ⟨decided, floor, limits⟩
    have composed : b.composedRate parts window ≤ max b.minRps b.currentRps := by
      by_cases unnamed : (b.compose parts window).result.binding = none
      · rw [composedRate_of_unnamed falls unnamed, IncreasePolicy.compute, if_pos]
        · exact le_max_right _ _
        · exact decide_eq_true cooling
      · exact decided unnamed
    refine (rate_le_iff updated).mpr ⟨le_max_left _ _, ?_, ?_⟩
    · exact (min_le_right _ _).trans (limited_le_iff.mpr (.inr ⟨limits, .inr composed⟩))
    · exact floor.imp_right ((min_le_right _ _).trans ·)
  · obtain ⟨⟨b', next⟩, updated⟩ := Option.isSome_iff_exists.mp (activeTick_isSome steerable)
    have ended : b.cooldown.remaining = 0 := by omega
    refine ⟨b', next, (update_of_active activeNow).trans updated, ?_⟩
    have composed : b.currentRps < b.composedRate parts window := by
      rw [composedRate_of_unnamed falls unnamed]
      have multiplied : b.currentRps < b.currentRps * b.increase.config.increaseFactor :=
        lt_mul_of_one_lt_right positive grows.factor
      rw [IncreasePolicy.compute, if_neg (by simp [isActive, ended])]
      split
      · rename_i ca avoids
        split
        · rename_i near
          exact lt_add_of_pos_right _ (mul_pos near.1 (grows.additive ca avoids))
        · exact multiplied
      · exact multiplied
    have below : ∀ {z : ℚ}, max b.minRps b.currentRps < z → b.currentRps < z :=
      (le_max_right _ _).trans_lt
    by_contra held
    obtain ⟨-, limits, -⟩ := (rate_le_iff updated).mp (not_lt.mp held)
    have within := (min_le_iff.mp limits).resolve_left (below roomy.bound).not_ge
    obtain ⟨-, up⟩ := (limited_le_iff.mp within).resolve_left (below roomy.ceiling).not_ge
    exact (up.resolve_left (below roomy.limit).not_ge).not_gt composed

/-- An operating point of 700, once, at a rate of 1000. -/
def wants700 : ArbiterConfig Script Unit :=
  .new [⟨.operatingPoint, [⟨.desireRate 700, 1⟩]⟩] 1000 10 10000 60000000000

/-- The two ticks of its cooldown. -/
def coolingTicks : List ArbiterCall :=
  [.update 2000000000 emptyWindow, .update 3000000000 emptyWindow]

/-- The first tick of the cooldown stays at the floor, and the first after it goes up. -/
theorem cooldown_runs_out :
    ∃ a decision, (new wants700 0).activeTick scripted 1000000000 emptyWindow = some (a, decision) ∧
      (new wants700 0).backsOff scripted emptyWindow = true ∧
      (∃ a' next, a.update scripted 2000000000 emptyWindow = some (a', next) ∧
        next.targetRps ≤ max a.minRps a.currentRps) ∧
      ∃ b, exec (call scripted) a coolingTicks = some b ∧
        ∃ b' next, b.update scripted 4000000000 emptyWindow = some (b', next) ∧
          b.currentRps < next.targetRps := by
  have taken := evaluates (x := (new wants700 0).activeTick scripted 1000000000 emptyWindow)
  have backs : (new wants700 0).backsOff scripted emptyWindow = true := by decide +kernel
  refine ⟨_, _, taken, backs, ⟨_, _, evaluates, ?_⟩, _, evaluates, ?_⟩
  · have suppresses := cooldown_suppresses minSelector_fallsBack rfl taken backs (along_nil _) rfl
    refine (suppresses.2.1 (by decide +kernel) _ _ _ _ (evaluates _)).1 ⟨?_, ?_, ?_⟩
    · exact fun named => absurd (by decide +kernel) named
    · exact .inr (by decide +kernel)
    · decide +kernel
  · refine (cooldown_suppresses minSelector_fallsBack rfl taken backs ?_
      (evaluates _)).2.2 (by decide +kernel)
      ⟨by decide +kernel, by decide +kernel, by decide +kernel, by decide +kernel⟩
      ⟨by decide +kernel, by decide +kernel⟩ (by decide +kernel) _ _
      ⟨by decide +kernel, by decide +kernel, by decide +kernel⟩ (by decide +kernel)
    refine .cons (quiet_update (by decide +kernel) _) fun s called =>
      .cons (quiet_update ?_ _) fun _ _ => .nil
    revert s
    decide +kernel

/-- An operating point of 700, and then of 2000. -/
def wantsMore : ArbiterConfig Script Unit :=
  .new [⟨.operatingPoint, [⟨.desireRate 700, 1⟩, ⟨.desireRate 2000, 1⟩]⟩] 1000 10 10000 60000000000

/-- The first tick backs off, and the second, in its cooldown, goes up. -/
def RisesInCooldown (config : ArbiterConfig Script Unit) : Prop :=
  (new config 0).backsOff scripted emptyWindow = true ∧
    ∃ a decision, (new config 0).update scripted 1000000000 emptyWindow = some (a, decision) ∧
      0 < a.cooldown.remaining ∧
      ∃ a' next, a.update scripted 2000000000 emptyWindow = some (a', next) ∧
        max a.minRps a.currentRps < next.targetRps

/-- To the floor after a catastrophic backoff, and to what a constraint wants. -/
theorem cooldown_overruled : RisesInCooldown backsOffOnce ∧ RisesInCooldown wantsMore := by
  unfold RisesInCooldown
  decide +kernel

end Arbiter

end Netanvil.Core
