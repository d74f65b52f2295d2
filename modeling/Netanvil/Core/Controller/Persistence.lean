/-
# A backoff follows violations in a row

The streak of a threshold constraint is meant to count the violations since the last severity below
0.7, so that a backoff below the bypass is only let through after `persistence` of them. It does,
provided that no severity below 0.7 is taken for noise while a streak is pending: the early return
for noise leaves the streak as it is (`persistence_gate`).
-/
import Netanvil.Core.Controller.Threshold
import Netanvil.Theory.Trace

namespace Netanvil.Core.ThresholdConstraint

open Netanvil.Types Theory.Trace ConstraintAction ConstraintState
open Config (SignalDirection)

variable {c c' : ThresholdConstraint} {ctx : EvalContext}

/-! ## One evaluation -/

/-- The output went through the persistence gate. -/
structure Gated (c : ThresholdConstraint) (output : ConstraintOutput) (c' : ThresholdConstraint) :
    Prop where
  streak : c'.state.violationStreak = updateStreak c.state.violationStreak output.severity
  persistence : c'.state.persistence = c.state.persistence
  persisted : ∀ rate, output.intent = .desireRate rate →
    3 < output.severity ∨ c.state.persistence ≤ c'.state.violationStreak

theorem gated_gate (c : ThresholdConstraint) (action : ConstraintAction)
    (severity currentRate : ℚ) :
    Gated c (c.gate action severity currentRate).1 (c.gate action severity currentRate).2 where
  streak := rfl
  persistence := rfl
  persisted := by
    intro rate desires
    by_cases persists : c.state.persistence ≤ updateStreak c.state.violationStreak severity ∨
        severityBypassPersistence < severity
    · exact persists.symm
    · simp only [gate, applyPersistence, if_neg persists] at desires
      cases action <;> simp [isBackoff, actionToIntent] at desires

/-- The gate only looks at the streak and the persistence. -/
theorem Gated.of_state {d : ThresholdConstraint} {output : ConstraintOutput}
    (gated : Gated d output c') (same : d.state = c.state) : Gated c output c' :=
  ⟨same ▸ gated.streak, same ▸ gated.persistence, same ▸ gated.persisted⟩

theorem missing_cases (c : ThresholdConstraint) (ctx : EvalContext) (ext : ExternalSignalState) :
    ((c.missing ctx ext).1 = none ∧ (c.missing ctx ext).2.state = c.state) ∨
      ∃ output, (c.missing ctx ext).1 = some output ∧ Gated c output (c.missing ctx ext).2 := by
  by_cases early : ext.absent.missingStreak < c.state.persistence
  · exact .inl (by simp [missing, early])
  · cases behavior : ext.config.onMissing with
    | ignore => exact .inl (by simp [missing, early, behavior])
    | hold | backoff =>
      simp only [missing, early, if_false, behavior]
      exact .inr ⟨_, rfl, (gated_gate _ _ _ _).of_state rfl⟩

/-- An evaluation says nothing, goes through the gate, or is taken for noise. -/
theorem evaluate_cases (c : ThresholdConstraint) (ctx : EvalContext) :
    ((c.evaluate ctx).1 = none ∧ (c.evaluate ctx).2.state = c.state) ∨
      (∃ output, (c.evaluate ctx).1 = some output ∧ Gated c output (c.evaluate ctx).2) ∨
      ∃ rawValue output, c.Sees ctx rawValue ∧ c.IsNoise ctx (c.severityOf rawValue) ∧
        (c.evaluate ctx).1 = some output ∧ output.severity = c.severityOf rawValue ∧
        (∀ rate, output.intent ≠ .desireRate rate) ∧ (c.evaluate ctx).2.state = c.state := by
  by_cases sees : ∃ rawValue, c.Sees ctx rawValue
  · obtain ⟨rawValue, sees⟩ := sees
    rw [evaluate_of_sees sees]
    by_cases noise : c.IsNoise ctx (c.severityOf rawValue)
    · refine .inr (.inr ⟨rawValue, _, sees, noise, rfl, ?_⟩)
      have taken : c.refreshed.judge ctx rawValue = _ := if_pos noise
      rw [taken]
      refine ⟨rfl, ?_, rfl⟩
      generalize c.refreshed.severityMapping.mapToAction _ _ = action
      cases action <;> simp [cappedAtHold, actionToIntent]
    · refine .inr (.inl ⟨_, rfl, ?_⟩)
      have passed : c.refreshed.judge ctx rawValue = _ := if_neg noise
      rw [passed]
      exact (gated_gate _ _ _ _).of_state rfl
  · rcases evaluate_of_not_sees (not_exists.mp sees) with none | ⟨ext, -, absent⟩
    · exact .inl (by rw [none]; exact ⟨rfl, rfl⟩)
    · rw [absent]
      exact (c.missing_cases ctx ext).imp_right .inl

/-! ## The history of severities -/

/-- The violations since the last severity below 0.7. -/
def violations (severities : List ℚ) : Nat :=
  (severities.reverse.takeWhile (7 / 10 ≤ ·)).countP (1 ≤ ·)

theorem violations_snoc (severities : List ℚ) (severity : ℚ) :
    violations (severities ++ [severity]) =
      if severity < 7 / 10 then 0
      else if 1 ≤ severity then violations severities + 1 else violations severities := by
  by_cases low : severity < 7 / 10
  · simp [violations, low, not_le.mpr low]
  · by_cases violation : 1 ≤ severity
    · simp [violations, low, not_lt.mp low, violation]
    · simp [violations, low, not_lt.mp low, violation]

theorem toNat_updateStreak_le {streak : UInt32} {severities : List ℚ}
    (counted : streak.toNat ≤ violations severities) (severity : ℚ) :
    (updateStreak streak severity).toNat ≤ violations (severities ++ [severity]) := by
  rw [violations_snoc, updateStreak]
  by_cases low : severity < 7 / 10
  · have mild : ¬ 1 ≤ severity := by
      intro high
      linarith
    simp [low, mild]
  · by_cases violation : 1 ≤ severity
    · simp only [violation, if_true, low, if_false]
      have bound := UInt32.toNat_add streak 1
      have wrap := Nat.mod_le (streak.toNat + (1 : UInt32).toNat) (2 ^ 32)
      have one : (1 : UInt32).toNat = 1 := rfl
      omega
    · simpa [low, violation] using counted

/-- The severity an evaluation reports, if any. -/
def severityShown (c : ThresholdConstraint) : Call → List ℚ
  | .evaluate ctx => ((c.evaluate ctx).1.map (·.severity)).toList
  | _ => []

/-- The severities reported in the course of these calls. -/
def severities (c : ThresholdConstraint) (calls : List Call) : List ℚ :=
  observed step severityShown c calls

/-! ## Every sequence of calls -/

/-- No severity below 0.7 is taken for noise while a streak is pending. -/
def EndsStreak (c : ThresholdConstraint) : Call → Prop
  | .evaluate ctx => ∀ rawValue, c.Sees ctx rawValue → c.IsNoise ctx (c.severityOf rawValue) →
      c.severityOf rawValue < 7 / 10 → c.state.violationStreak = 0
  | _ => True

theorem streak_postSelect (c : ThresholdConstraint) (isBinding : Bool) :
    (c.postSelect isBinding).state.violationStreak = c.state.violationStreak ∧
      (c.postSelect isBinding).state.persistence = c.state.persistence := by
  simp only [postSelect, advanceRecovery]
  cases isBinding <;> simp only [if_true, startRecoveryTracking] <;>
    split <;> (try split) <;> exact ⟨rfl, rfl⟩

theorem state_applyUpdate (c : ThresholdConstraint) (action : String) (params : Json) :
    (c.applyUpdate action params).2.state = c.state := by
  unfold applyUpdate setMaxErrorRate
  split
  · split <;> rfl
  · split
    · split
      · rfl
      · split <;> rfl
    · rfl

theorem state_onWarmupComplete (c : ThresholdConstraint) (baseline : WarmupBaseline) :
    (c.onWarmupComplete baseline).state = c.state := by
  unfold onWarmupComplete
  split
  · rfl
  · split <;> rfl

/-- The streak counts no more than the violations, and the persistence is the configured one. -/
structure Counting (persistence : UInt32) (severities : List ℚ) (c : ThresholdConstraint) :
    Prop where
  streak : c.state.violationStreak.toNat ≤ violations severities
  persistence : c.state.persistence = persistence

theorem counting_step {persistence : UInt32} {severities : List ℚ} {call : Call}
    (counting : Counting persistence severities c) (ends : EndsStreak c call)
    (taken : c.step call = some c') :
    Counting persistence (severities ++ severityShown c call) c' := by
  cases call with
  | evaluate ctx =>
    cases taken
    simp only [severityShown]
    rcases evaluate_cases c ctx with ⟨silent, same⟩ | ⟨output, said, gated⟩ |
      ⟨rawValue, output, sees, noise, said, severity, -, same⟩
    · rw [silent]
      exact ⟨by simpa [same] using counting.streak, by rw [same]; exact counting.persistence⟩
    · rw [said]
      refine ⟨?_, gated.persistence.trans counting.persistence⟩
      rw [gated.streak]
      exact toNat_updateStreak_le counting.streak _
    · rw [said]
      refine ⟨?_, by rw [same]; exact counting.persistence⟩
      have shown : ((some output).map (·.severity)).toList = [c.severityOf rawValue] := by
        simp [severity]
      rw [same, shown, violations_snoc]
      by_cases low : c.severityOf rawValue < 7 / 10
      · simp [ends rawValue sees noise low]
      · rw [if_neg low]
        have counted := counting.streak
        split <;> omega
  | postSelect isBinding =>
    cases taken
    obtain ⟨streak, persists⟩ := c.streak_postSelect isBinding
    exact ⟨by simpa [severityShown, streak] using counting.streak,
      persists.trans counting.persistence⟩
  | applyUpdate action params =>
    cases taken
    have same := c.state_applyUpdate action params
    exact ⟨by simpa [severityShown, same] using counting.streak,
      by rw [same]; exact counting.persistence⟩
  | onWarmupComplete baseline =>
    cases taken
    have same := c.state_onWarmupComplete baseline
    exact ⟨by simpa [severityShown, same] using counting.streak,
      by rw [same]; exact counting.persistence⟩

/-- In every sequence of calls in which no severity below 0.7 is taken for noise while a streak
is pending, an evaluation that asks for a lower rate has a severity above 3, or follows, counting
itself, at least as many violations as are to persist since the last severity below 0.7. -/
theorem persistence_gate {config : ThresholdConfig} {calls : List Call} {ctx : EvalContext}
    (ends : Allowed step EndsStreak (new config) (calls ++ [.evaluate ctx]))
    (run : exec step (new config) calls = some c) {output : ConstraintOutput} {rate : ℚ}
    (said : (c.evaluate ctx).1 = some output) (desires : output.intent = .desireRate rate) :
    3 < output.severity ∨
      config.persistence.toNat ≤
        violations (severities (new config) calls ++ [output.severity]) := by
  obtain ⟨before, last⟩ := along_snoc.mp ends
  have counting := exec_invariant_along (I := fun calls c => Allowed step EndsStreak (new config)
    calls → Counting config.persistence (severities (new config) calls) c)
    (fun _ => ⟨Nat.zero_le _, rfl⟩) (by
      intro calls c call c' reached counting taken ends
      obtain ⟨before, last⟩ := along_snoc.mp ends
      rw [severities, observed_snoc severityShown reached call]
      exact counting_step (counting before) (last c reached) taken) run before
  rcases evaluate_cases c ctx with ⟨silent, -⟩ | ⟨output', said', gated⟩ |
    ⟨rawValue, output', -, -, said', -, none, -⟩
  · rw [silent] at said
    cases said
  · obtain rfl : output' = output := Option.some.inj (said'.symm.trans said)
    rcases gated.persisted rate desires with bypass | persisted
    · exact .inl bypass
    · right
      have counted := toNat_updateStreak_le counting.streak output'.severity
      rw [← gated.streak] at counted
      rw [counting.persistence] at persisted
      exact (UInt32.le_iff_toNat_le.mp persisted).trans counted
  · obtain rfl : output' = output := Option.some.inj (said'.symm.trans said)
    exact absurd desires (none rate)

/-- A window with this p99, in milliseconds, so many ticks after the last raise of the rate. -/
def p99Window (p99Ms ticksSinceIncrease : Nat) : EvalContext where
  summary := ⟨1000, 0, 0, 100, 0, 0, p99Ms * 1000000, 1000000000, 0, 0, 0, 0, [], 0, 0⟩
  currentRate := 100
  ticksSinceIncrease := ticksSinceIncrease
  minRps := 1
  maxRps := 1000

/-- 100 ms at the 99th percentile, to be exceeded twice; the cap of the latency constraints. -/
def latencyTwice : ThresholdConfig where
  id := "latency"
  class_ := .operatingPoint
  metric := .latencyP99Ms
  smoother := .plain
  threshold := 100
  severityMapping := .graduated
  persistence := 2
  recoverySeed := 5
  backoff := .default
  external := none
  selfCausedCap := some (3 / 2)
  direction := .higherIsWorse
  baselineMultiplier := none
  baselineFloorMs := none

/-- The second violation in a row is followed by a backoff. -/
theorem persistence_gate_twice : ∃ c output rate,
    exec step (new latencyTwice) [.evaluate (p99Window 200 1)] = some c ∧
      (c.evaluate (p99Window 200 1)).1 = some output ∧ output.intent = .desireRate rate ∧
      (3 < output.severity ∨ 2 ≤ violations
        (severities (new latencyTwice) [.evaluate (p99Window 200 1)] ++ [output.severity])) := by
  have ends : Allowed step EndsStreak (new latencyTwice)
      ([.evaluate (p99Window 200 1)] ++ [.evaluate (p99Window 200 1)]) := by
    apply Allowed.of_forall
    intro call mem c
    obtain rfl : call = .evaluate (p99Window 200 1) := by simpa using mem
    rintro rawValue - ⟨cap, -, late, -⟩
    simp [p99Window] at late
  exact ⟨_, ⟨.desireRate 50, 2⟩, 50, rfl, by decide +kernel, rfl,
    persistence_gate ends rfl (by decide +kernel) rfl⟩

/-- Between two violations the metric is at half the threshold. That is taken for noise, and the
second violation is followed by a backoff all the same. -/
theorem backoff_after_one_violation : ∃ c,
    exec step (new latencyTwice) [.evaluate (p99Window 200 1), .evaluate (p99Window 50 5)] =
        some c ∧
      (c.evaluate (p99Window 200 1)).1 = some ⟨.desireRate 50, 2⟩ ∧
      severities (new latencyTwice) [.evaluate (p99Window 200 1), .evaluate (p99Window 50 5)] =
        [2, 1 / 2] ∧
      violations [2, 1 / 2, 2] < latencyTwice.persistence.toNat :=
  ⟨_, rfl, by decide +kernel⟩

end Netanvil.Core.ThresholdConstraint
