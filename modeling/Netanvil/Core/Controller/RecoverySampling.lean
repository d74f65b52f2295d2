/-
# What a recovery is measured from

A threshold constraint measures for how many ticks it takes to recover. It starts to count when it
decided, whatever it asked for: a constraint that only holds the rate also counts. So what it counts
from is the last tick it decided at (`Counts`), with that tick, and a sample is the number of ticks
since the last backoff only by chance.
-/
import Netanvil.Core.Controller.Builder
import Netanvil.Core.Controller.ConstraintCalls
import Netanvil.Theory.Streak

namespace Netanvil.Core

open Netanvil.Types Theory Theory.Trace Theory.Streak Option ThresholdConstraint UInt32

/-- An active tick, as a constraint has it. -/
structure Moment where
  /-- It decided. -/
  binds : Bool
  /-- And asked for less than the current rate. -/
  backsOff : Bool
  /-- It took a sample. -/
  samples : Bool

/-- Threshold constraints and others, under any strategy. -/
def thresholdsAnd {D Q : Type} (others : Constraint D) (strategy : CompositionStrategy Q) :
    ArbiterParts (ThresholdConstraint ⊕ D) Q :=
  ⟨constraint.sum others, strategy⟩

/-- An output asks for a rate below this one. -/
def asksBelow (currentRate : ℚ) : Option ConstraintOutput → Bool
  | some ⟨.desireRate rate, _⟩ => rate < currentRate
  | _ => false

namespace Arbiter

variable {D Q : Type} (others : Constraint D) (strategy : CompositionStrategy Q) (i : Nat)

/-- An active tick, as the threshold constraint at an index has it. -/
def moment (b : Arbiter (ThresholdConstraint ⊕ D) Q) (summary : MetricsSummary)
    (c : ThresholdConstraint) : Moment :=
  let binds := (b.compose (thresholdsAnd others strategy) summary).result.binding == some i
  let asked := c.evaluate (b.context summary)
  { binds := binds
    backsOff := binds && asksBelow b.currentRps asked.1
    samples := (asked.2.postSelect binds).state.recoverySamples != c.state.recoverySamples }

/-- What a call shows of it: its active tick, if it has one. -/
def moments (a : Arbiter (ThresholdConstraint ⊕ D) Q) (made : ArbiterCall) : List Moment :=
  match a.activeIn (thresholdsAnd others strategy) made with
  | none => []
  | some (b, summary) =>
    match (b.constraints[i]? : Option (ThresholdConstraint ⊕ D)) with
    | some (.inl c) => [b.moment others strategy i summary c]
    | _ => []

/-- The active ticks of a run. -/
def history (init : Arbiter (ThresholdConstraint ⊕ D) Q) (calls : List ArbiterCall) : List Moment :=
  observed (call (thresholdsAnd others strategy)) (moments others strategy i) init calls

end Arbiter

/-! ## One tick of the count -/

namespace ConstraintState

/-- What is kept of a recovery. -/
def recovery (s : ConstraintState) : ℚ × UInt32 × Option UInt32 :=
  (s.recoveryEmaTicks, s.recoverySamples, s.ticksSinceBackoff)

theorem advanceRecovery_cases (s : ConstraintState) (severity : ℚ) :
    (s.ticksSinceBackoff = none ∧ s.advanceRecovery severity = s) ∨
      ∃ ticks, s.ticksSinceBackoff = some ticks ∧
        ((s.advanceRecovery severity = { s with ticksSinceBackoff := some (ticks + 1) }) ∨
          (3 ≤ ticks + 1 ∧ s.advanceRecovery severity = { s with
            recoverySamples := s.recoverySamples + 1
            recoveryEmaTicks :=
              3 / 10 * ((ticks + 1).toNat : ℚ) + (1 - 3 / 10) * s.recoveryEmaTicks
            ticksSinceBackoff := none })) := by
  unfold advanceRecovery
  cases counts : s.ticksSinceBackoff with
  | none => exact .inl ⟨rfl, rfl⟩
  | some ticks =>
    refine .inr ⟨ticks, rfl, ?_⟩
    dsimp only
    split
    · rename_i recovered
      exact .inr ⟨recovered.1, rfl⟩
    · exact .inl rfl

/-- The count of a state that is the one of a history. -/
def Counts (moments : List Moment) (s : ConstraintState) : Prop :=
  s.ticksSinceBackoff =
    (lastAgo (·.binds) (since (·.samples) moments)).map fun ago => ofNat (ago + 1)

variable {s : ConstraintState} {moments : List Moment} {m : Moment}

/-- A state that is told whether it decided, and then counts the tick. -/
def told (s : ConstraintState) (binds : Bool) (severity : ℚ) : ConstraintState :=
  (if binds then s.startRecoveryTracking else s).advanceRecovery severity

variable (counts : Counts moments s)
include counts

/-- The ticks it has counted then, the last included. -/
theorem ticks_of_counts (m : Moment) :
    (if m.binds then s.startRecoveryTracking else s).ticksSinceBackoff.map (· + 1) =
      (lastAgo (·.binds) (since (·.samples) moments ++ [m])).map fun ago =>
        ofNat (ago + 1) := by
  rw [lastAgo_snoc]
  cases m.binds with
  | true => rfl
  | false =>
    simp only [Bool.false_eq_true, if_false]
    rw [counts, map_map, map_map]
    congr 1
    funext ago
    rw [Function.comp_apply, Function.comp_apply, ofNat_add (ago + 1) 1]
    rfl

/-- It goes on counting, or takes a sample of what it has counted. -/
theorem told_cases (m : Moment) (severity : ℚ) :
    ((s.told m.binds severity).recoverySamples = s.recoverySamples ∧
      (s.told m.binds severity).ticksSinceBackoff =
        (lastAgo (·.binds) (since (·.samples) moments ++ [m])).map fun ago =>
          ofNat (ago + 1)) ∨
    ∃ ago, lastAgo (·.binds) (since (·.samples) moments ++ [m]) = some ago ∧
      (s.told m.binds severity).recoverySamples = s.recoverySamples + 1 ∧
      (s.told m.binds severity).ticksSinceBackoff = none ∧
      (s.told m.binds severity).recoveryEmaTicks =
        3 / 10 * ((ofNat (ago + 1)).toNat : ℚ) + (1 - 3 / 10) * s.recoveryEmaTicks := by
  have counted := ticks_of_counts counts m
  have samples : (if m.binds then s.startRecoveryTracking else s).recoverySamples =
      s.recoverySamples := by split <;> rfl
  have ema : (if m.binds then s.startRecoveryTracking else s).recoveryEmaTicks =
      s.recoveryEmaTicks := by split <;> rfl
  unfold told
  rcases advanceRecovery_cases (if m.binds then s.startRecoveryTracking else s) severity with
    ⟨idle, same⟩ | ⟨ticks, counting, same | ⟨-, same⟩⟩
  · rw [idle] at counted
    rw [same, ← counted, idle]
    exact .inl ⟨samples, rfl⟩
  · rw [counting] at counted
    rw [same, ← counted]
    exact .inl ⟨samples, rfl⟩
  · rw [counting, map_some] at counted
    obtain ⟨ago, last, sum⟩ := map_eq_some_iff.mp counted.symm
    refine .inr ⟨ago, last, ?_, ?_, ?_⟩
    · rw [same, samples]
    · rw [same]
    · rw [same, sum, ema]

theorem counts_told {severity : ℚ}
    (shown : m.samples = ((s.told m.binds severity).recoverySamples != s.recoverySamples)) :
    Counts (moments ++ [m]) (s.told m.binds severity) := by
  unfold Counts
  rw [since_snoc, shown]
  rcases told_cases counts m severity with ⟨same, ticks⟩ | ⟨ago, -, samples, ticks, -⟩
  · rw [ticks, same]
    simp
  · rw [ticks, samples]
    simp [lastAgo]

end ConstraintState

/-! ## Every run -/

namespace Arbiter

variable {D Q : Type} {others : Constraint D} {strategy : CompositionStrategy Q} {i start : Nat}
  {config : ArbiterConfig (ThresholdConstraint ⊕ D) Q} {cfg : ThresholdConfig}
  {a a' : Arbiter (ThresholdConstraint ⊕ D) Q} {c c' : ThresholdConstraint}
  {calls : List ArbiterCall} {made : ArbiterCall}

/-- What a threshold constraint keeps of a recovery. -/
def ofThreshold (x : ThresholdConstraint ⊕ D) : Option (ℚ × UInt32 × Option UInt32) :=
  x.getLeft?.map (·.state.recovery)

theorem threshold_of_alike {y : ThresholdConstraint ⊕ D} (alike : Alike ofThreshold (.inl c) y) :
    ∃ c', y = .inl c' ∧ c'.state.recovery = c.state.recovery := by
  obtain ⟨c', is, same⟩ := map_eq_some_iff.mp alike
  exact ⟨c', Sum.getLeft?_eq_some_iff.mp is, same⟩

theorem recovery_evaluate (c : ThresholdConstraint) (ctx : EvalContext) :
    (c.evaluate ctx).2.state.recovery = c.state.recovery := by
  obtain ⟨_, _, _, _, _, same, -⟩ := c.evaluate_frame ctx
  rw [same]
  rfl

/-- Only a selection changes it. -/
theorem callsKeep_recovery :
    (thresholdsAnd others strategy).constraint.CallsKeep (Alike ofThreshold) where
  refl _ := rfl
  trans first second := second.trans first
  evaluate
    | .inl c, ctx => congrArg some (recovery_evaluate c ctx)
    | .inr _, _ => rfl
  onWarmupComplete
    | .inl c, baseline => by
      obtain ⟨_, same⟩ := c.onWarmupComplete_frame baseline
      exact congrArg (some ·.state.recovery) same
    | .inr _, _ => rfl
  applyUpdate
    | .inl c, action, params => by
      obtain ⟨_, _, same⟩ := c.applyUpdate_frame action params
      exact congrArg (some ·.state.recovery) same
    | .inr _, _, _ => rfl
  onRateOverride
    | .inl _, _ => rfl
    | .inr _, _ => rfl

/-- A call without an active tick leaves a recovery as it is; one with an active tick shows it, and
tells the constraint. -/
theorem recovery_of_call (taken : a.call (thresholdsAnd others strategy) made = some a')
    (here : a.constraints[i]? = some (.inl c)) :
    (a.moments others strategy i made = [] ∧
      ∃ c', a'.constraints[i]? = some (.inl c') ∧ c'.state.recovery = c.state.recovery) ∨
    ∃ (asked : ThresholdConstraint) (m : Moment), asked.state.recovery = c.state.recovery ∧
      a.moments others strategy i made = [m] ∧
      m.samples = ((asked.state.told m.binds asked.lastSeverity).recoverySamples !=
        asked.state.recoverySamples) ∧
      a'.constraints[i]? = some (.inl (asked.postSelect m.binds)) := by
  rcases reaches_of_call callsKeep_recovery (fun x _ => by cases x <;> rfl) taken here with
    ⟨silent, x, there, kept⟩ | ⟨b, now, summary, decision, x, active, taken, there, kept⟩
  · obtain ⟨c', rfl, same⟩ := threshold_of_alike kept
    exact .inl ⟨by rw [moments, silent], c', there, same⟩
  · obtain ⟨d, rfl, same⟩ := threshold_of_alike kept
    have asked := recovery_evaluate d (b.context summary)
    have unchanged : (d.evaluate (b.context summary)).2.state.recoverySamples =
        d.state.recoverySamples := congrArg (·.2.1) asked
    refine .inr ⟨(d.evaluate (b.context summary)).2, b.moment others strategy i summary d,
      asked.trans same, ?_, ?_, constraint_of_activeTick taken there⟩
    · simp only [moments, active, there]
    · rw [unchanged]
      rfl

/-- After every run the count is the one of its active ticks. -/
theorem counts_of_run (here : config.constraints[i]? = some (.inl (.new cfg)))
    (run : exec (call (thresholdsAnd others strategy)) (new config start) calls = some a) :
    ∃ c, a.constraints[i]? = some (.inl c) ∧
      c.state.Counts (history others strategy i (new config start) calls) := by
  induction calls using List.reverseRecOn generalizing a with
  | nil =>
    obtain rfl : new config start = a := some.inj run
    exact ⟨_, here, rfl⟩
  | append_singleton calls made ih =>
    obtain ⟨b, earlier, taken⟩ := exec_snoc_iff.mp run
    obtain ⟨c, there, counts⟩ := ih earlier
    rw [history, observed_snoc (moments others strategy i) earlier]
    rcases recovery_of_call taken there with
      ⟨silent, c', after, same⟩ | ⟨asked, m, same, shows, samples, after⟩
    · refine ⟨c', after, ?_⟩
      have ticks : c'.state.ticksSinceBackoff = c.state.ticksSinceBackoff :=
        congrArg (·.2.2) same
      rw [silent, List.append_nil, ConstraintState.Counts, ticks]
      exact counts
    · refine ⟨_, after, ?_⟩
      have ticks : asked.state.ticksSinceBackoff = c.state.ticksSinceBackoff :=
        congrArg (·.2.2) same
      rw [shows]
      exact ConstraintState.counts_told (ticks.trans counts) samples

/-- The active ticks since the last sample, up to this call's. -/
def sinceSample (others : Constraint D) (strategy : CompositionStrategy Q) (i : Nat)
    (init a : Arbiter (ThresholdConstraint ⊕ D) Q) (calls : List ArbiterCall) (made : ArbiterCall) :
    List Moment :=
  since (·.samples) (history others strategy i init calls) ++ a.moments others strategy i made

/-- A call has one active tick at most. -/
theorem length_moments_le (a : Arbiter (ThresholdConstraint ⊕ D) Q) (made : ArbiterCall) :
    (a.moments others strategy i made).length ≤ 1 := by
  unfold moments
  split
  · exact Nat.zero_le _
  · split
    · exact le_rfl
    · exact Nat.zero_le _

/-- So the count fits in every run of fewer than 2^32 calls. -/
theorem length_sinceSample_le (init a : Arbiter (ThresholdConstraint ⊕ D) Q)
    (calls : List ArbiterCall) (made : ArbiterCall) :
    (sinceSample others strategy i init a calls made).length ≤ calls.length + 1 := by
  rw [sinceSample, List.length_append]
  have before : (since (·.samples) (history others strategy i init calls)).length ≤ calls.length :=
    (List.rtakeWhile_suffix _ _).length_le.trans (length_observed_le _ (length_moments_le) calls)
  have last : (a.moments others strategy i made).length ≤ 1 := length_moments_le a made
  omega

/-- **In every run, a sample that a threshold constraint takes is the number of active ticks since
its last backoff since its previous sample exactly if it last decided one tick after that backoff.**
The count starts over when the constraint decides, and that tick is counted. -/
theorem recovery_sampling (here : config.constraints[i]? = some (.inl (.new cfg)))
    (run : exec (call (thresholdsAnd others strategy)) (new config start) calls = some a)
    (taken : a.call (thresholdsAnd others strategy) made = some a')
    (before : a.constraints[i]? = some (.inl c)) (after : a'.constraints[i]? = some (.inl c'))
    (sampled : c'.state.recoverySamples ≠ c.state.recoverySamples)
    (fits : (sinceSample others strategy i (new config start) a calls made).length < 2 ^ 32) :
    (∃ ago,
        lastAgo (·.backsOff) (sinceSample others strategy i (new config start) a calls made) =
          some ago ∧
        c'.state.recoveryEmaTicks =
          3 / 10 * (ago : ℚ) + (1 - 3 / 10) * c.state.recoveryEmaTicks) ↔
      ∃ ago,
        lastAgo (·.binds) (sinceSample others strategy i (new config start) a calls made) =
          some ago ∧
        lastAgo (·.backsOff) (sinceSample others strategy i (new config start) a calls made) =
          some (ago + 1) := by
  obtain ⟨d, there, counts⟩ := counts_of_run here run
  obtain rfl : d = c := Sum.inl.inj (some.inj (there.symm.trans before))
  rcases recovery_of_call taken before with
    ⟨-, d', there', same⟩ | ⟨asked, m, same, shows, -, there'⟩
  · -- without an active tick there is no sample
    obtain rfl : d' = c' := Sum.inl.inj (some.inj (there'.symm.trans after))
    exact absurd (congrArg (·.2.1) same) sampled
  · obtain rfl : asked.postSelect m.binds = c' :=
      Sum.inl.inj (some.inj (there'.symm.trans after))
    have ticks : asked.state.ticksSinceBackoff = d.state.ticksSinceBackoff := congrArg (·.2.2) same
    have samples : asked.state.recoverySamples = d.state.recoverySamples := congrArg (·.2.1) same
    have ema : asked.state.recoveryEmaTicks = d.state.recoveryEmaTicks := congrArg (·.1) same
    rw [sinceSample, shows] at fits ⊢
    rcases ConstraintState.told_cases (ticks.trans counts) m asked.lastSeverity with
      ⟨none, -⟩ | ⟨last, binds, -, -, recorded⟩
    · exact absurd (none.trans samples) sampled
    · have small : last + 1 < 2 ^ 32 :=
        lt_of_le_of_lt (lt_length_of_lastAgo _ binds) fits
      rw [toNat_ofNat_of_lt' small, ema] at recorded
      have sample : (asked.postSelect m.binds).state.recoveryEmaTicks =
          3 / 10 * ((last + 1 : Nat) : ℚ) + (1 - 3 / 10) * d.state.recoveryEmaTicks := recorded
      rw [sample, binds]
      constructor
      · rintro ⟨ago, backsOff, equal⟩
        have same : ((last + 1 : Nat) : ℚ) = ago := by linarith
        obtain rfl : last + 1 = ago := Nat.cast_injective same
        exact ⟨last, rfl, backsOff⟩
      · rintro ⟨ago, same, backsOff⟩
        obtain rfl : last = ago := some.inj same
        exact ⟨last + 1, backsOff, rfl⟩

/-- 100 ms at the 99th percentile, acted on at once, and no other constraint. -/
def watchesLatency : ArbiterConfig AnyConstraint Unit :=
  .new [.inl (.new { latencyTwice with persistence := 1, selfCausedCap := none })]
    100 10 1000 60000000000

/-- A window with this latency in milliseconds, after so many seconds. -/
def tickWith (seconds p99Ms : Nat) : ArbiterCall :=
  .update (seconds * 1000000000) (p99Window p99Ms 0).summary

/-- A window each second, with these latencies. -/
def eachSecond (p99s : List Nat) : List ArbiterCall :=
  p99s.zipIdx.map fun (p99Ms, k) => tickWith (k + 1) p99Ms

/-- These windows and then one of 10 ms: the last two arbiters, and the constraint in each. -/
structure Recovers (p99s : List Nat) (a a' : Arbiter AnyConstraint Unit)
    (c c' : ThresholdConstraint) : Prop where
  run : exec (call (builtParts .hyperbolic)) (new watchesLatency 0) (eachSecond p99s) = some a
  taken : a.call (builtParts .hyperbolic) (tickWith (p99s.length + 1) 10) = some a'
  before : a.constraints[0]? = some (.inl c)
  after : a'.constraints[0]? = some (.inl c')

/-- The ticks since its last sample then. -/
def recentMoments (p99s : List Nat) (a : Arbiter AnyConstraint Unit) : List Moment :=
  sinceSample (PidConstraint.constraint .hyperbolic) minSelector 0 (new watchesLatency 0) a
    (eachSecond p99s) (tickWith (p99s.length + 1) 10)

/-- What there is to see of them: the samples taken, and how many ticks ago the constraint decided
and backed off. -/
def sampling (p99s : List Nat) : Option (UInt32 × UInt32 × Option Nat × Option Nat) :=
  (exec (call (builtParts .hyperbolic)) (new watchesLatency 0) (eachSecond p99s)).bind fun a =>
      (a.call (builtParts .hyperbolic) (tickWith (p99s.length + 1) 10)).bind fun a' =>
        match (a.constraints[0]? : Option AnyConstraint),
            (a'.constraints[0]? : Option AnyConstraint) with
        | some (.inl c), some (.inl c') =>
          some (c.state.recoverySamples, c'.state.recoverySamples,
            lastAgo (·.binds) (recentMoments p99s a),
            lastAgo (·.backsOff) (recentMoments p99s a))
        | _, _ => none

theorem recovers_of_sampling {p99s : List Nat} {samples samples' : UInt32}
    {binds backsOff : Option Nat}
    (shown : sampling p99s = some (samples, samples', binds, backsOff)) :
    ∃ a a' c c', Recovers p99s a a' c c' ∧ c.state.recoverySamples = samples ∧
      c'.state.recoverySamples = samples' ∧ lastAgo (·.binds) (recentMoments p99s a) = binds ∧
      lastAgo (·.backsOff) (recentMoments p99s a) = backsOff := by
  obtain ⟨a, run, shown⟩ := bind_eq_some_iff.mp shown
  obtain ⟨a', taken, shown⟩ := bind_eq_some_iff.mp shown
  split at shown
  · rename_i c c' before after
    cases shown
    exact ⟨a, a', c, c', ⟨run, taken, before, after⟩, rfl, rfl, rfl, rfl⟩
  · cases shown

/-- A backoff at 150 ms, the rate held at 80 ms and two windows of 10 ms: the sample is of the
three ticks since the backoff. -/
theorem sample_after_backoff : ∃ a a' c c', Recovers [150, 80, 10] a a' c c' ∧
    c'.state.recoverySamples ≠ c.state.recoverySamples ∧
    lastAgo (·.backsOff) (recentMoments [150, 80, 10] a) = some 3 ∧
    c'.state.recoveryEmaTicks = 3 / 10 * 3 + (1 - 3 / 10) * c.state.recoveryEmaTicks := by
  have shown : sampling [150, 80, 10] = some (0, 1, some 2, some 3) := by decide +kernel
  obtain ⟨a, a', c, c', windows, none, one, binds, backsOff⟩ := recovers_of_sampling shown
  have sampled : c'.state.recoverySamples ≠ c.state.recoverySamples := by
    rw [none, one]
    decide
  have fits : (recentMoments [150, 80, 10] a).length < 2 ^ 32 :=
    (length_sinceSample_le _ _ _ _).trans_lt (by decide)
  obtain ⟨ago, found, sample⟩ := (recovery_sampling (i := 0) rfl windows.run windows.taken
    windows.before windows.after sampled fits).mpr ⟨2, binds, backsOff⟩
  obtain rfl : 3 = ago := some.inj (backsOff.symm.trans found)
  exact ⟨a, a', c, c', windows, sampled, backsOff, sample⟩

/-- At 80 ms the constraint holds the rate, which decides but is no backoff: two windows of 10 ms
later there is a sample with no backoff before it. -/
theorem sample_after_hold : ∃ a a' c c', Recovers [80, 10] a a' c c' ∧
    c.state.recoverySamples = 0 ∧ c'.state.recoverySamples = 1 ∧
    lastAgo (·.backsOff) (recentMoments [80, 10] a) = none := by
  have shown : sampling [80, 10] = some (0, 1, some 2, none) := by decide +kernel
  obtain ⟨a, a', c, c', windows, none, one, -, backsOff⟩ := recovers_of_sampling shown
  exact ⟨a, a', c, c', windows, none, one, backsOff⟩

end Arbiter

end Netanvil.Core
