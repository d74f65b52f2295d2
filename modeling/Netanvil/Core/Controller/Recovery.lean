/-
# Back to the full rate

If nobody has an opinion the rate grows by at least a fixed amount each tick once the cooldown
is over (`leastStep`). So it reaches the upper bound and stays there, unless bounds or limits
that are the wrong way round make a call panic (`recovers_iff`).
-/
import Netanvil.Core.Controller.Ceiling
import Netanvil.Core.Controller.Cooldown
import Netanvil.Core.Controller.StepExperiment

namespace Netanvil.Core

open Netanvil.Types Theory Theory.Trace Option List

/-! ## How much the rate grows -/

namespace IncreasePolicy

variable {p : IncreasePolicy} {lowest currentRps : ℚ}

/-- At rates from `lowest` on. -/
def leastGain (p : IncreasePolicy) (lowest : ℚ) : ℚ :=
  let multiplied := lowest * (p.config.increaseFactor - 1)
  match p.config.congestionAvoidance with
  | some ca =>
    if 0 < p.failureRateEma then min multiplied (p.failureRateEma * ca.additiveFraction)
    else multiplied
  | none => multiplied

theorem leastGain_pos (grows : p.Grows) (positive : 0 < lowest) : 0 < p.leastGain lowest := by
  have multiplied : 0 < lowest * (p.config.increaseFactor - 1) :=
    mul_pos positive (sub_pos.mpr grows.factor)
  unfold leastGain
  dsimp only
  split
  · rename_i ca avoids
    split
    · rename_i failed
      exact lt_min multiplied (mul_pos failed (grows.additive ca avoids))
    · exact multiplied
  · exact multiplied

theorem add_leastGain_le (grows : p.Grows) (above : lowest ≤ currentRps)
    {cooldown : CooldownState} (ended : cooldown.remaining = 0) :
    currentRps + p.leastGain lowest ≤ p.compute currentRps cooldown := by
  have multiplied : currentRps + lowest * (p.config.increaseFactor - 1) ≤
      currentRps * p.config.increaseFactor := by
    have gain := mul_le_mul_of_nonneg_right above (sub_pos.mpr grows.factor).le
    linarith
  rw [compute, if_neg (by simp [CooldownState.isActive, ended]), leastGain]
  cases p.config.congestionAvoidance with
  | none => exact multiplied
  | some ca =>
    dsimp only
    by_cases near : 0 < p.failureRateEma ∧ p.failureRateEma * ca.triggerThreshold < currentRps
    · rw [if_pos near, if_pos near.1]
      exact add_le_add_right (min_le_right _ _) _
    · rw [if_neg near]
      refine le_trans (add_le_add_right ?_ _) multiplied
      split
      · exact min_le_left _ _
      · exact le_rfl

end IncreasePolicy

namespace Arbiter

variable {C Q : Type} {parts : ArbiterParts C Q} {a a' b : Arbiter C Q} {now n m : Nat}
  {summary : MetricsSummary} {decision : RateDecision}

/-! ## Ticks without an opinion -/

/-- No constraint has an opinion on this window, and the ceiling is at the upper bound. -/
structure Silent (parts : ArbiterParts C Q) (a : Arbiter C Q) (window : Nat × MetricsSummary) :
    Prop where
  evals : (a.compose parts window.2).evals = []
  ceiling : a.ceiling.ceiling window.1 = a.maxRps

theorem unnamed_of_evals (evals : (a.compose parts summary).evals = []) :
    (a.compose parts summary).result.binding = none := by
  cases decided : (a.compose parts summary).result.binding with
  | none => rfl
  | some i =>
    obtain ⟨e, asked, -⟩ := parts.strategy.binds decided
    have mem : e ∈ (a.compose parts summary).evals := asked
    rw [evals] at mem
    cases mem

/-- The rate is what the increase policy gives, within the upward limit and the upper bound. -/
theorem le_rate_of_silent (falls : parts.strategy.FallsBack)
    (silent : a.Silent parts (now, summary))
    (taken : a.activeTick parts now summary = some (a', decision)) :
    min a.maxRps (min a.maxUp (a.increase.compute a.currentRps a.cooldown)) ≤
      decision.targetRps := by
  have composed := composedRate_of_unnamed falls (unnamed_of_evals silent.evals)
  refine (le_rate_iff taken).mpr (.inr ⟨min_le_left _ _, .inl ?_⟩)
  refine le_limited_iff.mpr ⟨?_, .inr ⟨?_, ?_⟩⟩
  · rw [silent.ceiling]
    exact min_le_left _ _
  · exact (min_le_right _ _).trans (min_le_left _ _)
  · rw [composed]
    exact (min_le_right _ _).trans (min_le_right _ _)

/-- No more than every tick from the lower bound on gains. -/
def leastStep (a : Arbiter C Q) : ℚ :=
  min (a.increase.leastGain a.minRps) (a.minRps * a.rateChangeLimits.maxIncreasePct)

/-- A tick after the cooldown gains that much, or is at the upper bound. -/
theorem gains_of_silent (falls : parts.strategy.FallsBack) (grows : a.increase.Grows)
    (up : 0 < a.rateChangeLimits.maxIncreasePct) (above : a.minRps ≤ a.currentRps)
    (ended : a.cooldown.remaining = 0) (silent : a.Silent parts (now, summary))
    (taken : a.activeTick parts now summary = some (a', decision)) :
    min a.maxRps (a.currentRps + a.leastStep) ≤ decision.targetRps := by
  refine le_trans (min_le_min_left _ (le_min ?_ ?_)) (le_rate_of_silent falls silent taken)
  · have limit : a.minRps * a.rateChangeLimits.maxIncreasePct ≤
        a.currentRps * a.rateChangeLimits.maxIncreasePct :=
      mul_le_mul_of_nonneg_right above up.le
    have step : a.leastStep ≤ a.minRps * a.rateChangeLimits.maxIncreasePct := min_le_right _ _
    rw [maxUp]
    linarith
  · have step : a.leastStep ≤ a.increase.leastGain a.minRps := min_le_left _ _
    exact (add_le_add_right step _).trans (IncreasePolicy.add_leastGain_le grows above ended)

/-! ## Runs without an opinion -/

/-- `b` after `n` such ticks of `a`. -/
structure Recovering (a b : Arbiter C Q) (n : Nat) : Prop where
  active : b.phase = .active
  same : SameBounds a b
  increase : b.increase = a.increase
  remaining : b.cooldown.remaining = a.cooldown.remaining - n
  limits : b.maxDown ≤ b.maxUp
  inside : 1 ≤ n → a.InBounds b.currentRps

theorem Recovering.tick {b b' : Arbiter C Q} (recovering : Recovering a b n)
    (positive : 0 < a.minRps)
    (limits : 0 ≤ a.rateChangeLimits.maxIncreasePct + a.rateChangeLimits.maxDecreasePct)
    (silent : b.Silent parts (now, summary))
    (taken : b.activeTick parts now summary = some (b', decision)) : Recovering a b' (n + 1) := by
  obtain ⟨active, same, increase, remaining, -, -⟩ := recovering
  obtain ⟨same', phase, current, between⟩ := activeTick_spec taken
  obtain ⟨-, -, -, increase', estimates, cooldown⟩ := activeTick_policies_after taken
  have quiet : b.backsOff parts summary = false := by
    rw [backsOff, unnamed_of_evals silent.evals]
    rfl
  rw [quiet] at increase' cooldown
  have inside : a.InBounds b'.currentRps := by
    rw [current]
    exact same.inBounds.mp between
  refine ⟨phase.trans active, ⟨same'.min.trans same.min, same'.max.trans same.max,
    same'.limits.trans same.limits⟩, increase'.trans increase, ?_, ?_, fun _ => inside⟩
  · rw [cooldown, ← Nat.sub_sub, ← remaining]
    rfl
  · rw [maxDown, maxUp, same'.limits, same.limits]
    exact mul_le_mul_of_nonneg_left (by linarith) (positive.le.trans inside.1)

section

variable {window : Nat → Nat × MetricsSummary}

/-- The state before the `n`-th tick. -/
def before (parts : ArbiterParts C Q) (a : Arbiter C Q) (window : Nat → Nat × MetricsSummary)
    (n : Nat) : Option (Arbiter C Q) :=
  exec (tickOn parts) a ((List.range n).map window)

theorem before_succ (n : Nat) :
    a.before parts window (n + 1) =
      (a.before parts window n).bind fun b => b.tickOn parts (window n) := by
  rw [before, range_succ, map_append, map_singleton, exec_snoc]
  rfl

/-- A tick before which there is a state. -/
theorem before_of_le (reached : a.before parts window m = some b)
    (le : n ≤ m) : ∃ c, a.before parts window n = some c := by
  induction m, le using Nat.le_induction generalizing b with
  | base => exact ⟨b, reached⟩
  | succ m le ih =>
    rw [before_succ] at reached
    obtain ⟨c, earlier, -⟩ := bind_eq_some_iff.mp reached
    exact ih earlier

theorem tickOn_of_active {at_ : Nat × MetricsSummary} (active : a.phase = .active)
    (taken : a.tickOn parts at_ = some a') :
    ∃ decision, a.activeTick parts at_.1 at_.2 = some (a', decision) := by
  obtain ⟨⟨after, decision⟩, updated, rfl⟩ := map_eq_some_iff.mp taken
  rw [update_of_active active] at updated
  exact ⟨decision, updated⟩

variable (active : a.phase = .active) (positive : 0 < a.minRps)

section

variable {N j n : Nat}
  (silent : ∀ n < N, ∀ b, a.before parts window n = some b → b.Silent parts (window n))
  (ordered : a.minRps ≤ a.maxRps) (first : a.maxDown ≤ a.maxUp)
  (limits : 0 ≤ a.rateChangeLimits.maxIncreasePct + a.rateChangeLimits.maxDecreasePct)

include active positive silent ordered first limits

/-- Nothing panics, if bounds and limits are in order. -/
theorem recovering_of_ordered (within : n ≤ N) :
    ∃ b, a.before parts window n = some b ∧ Recovering a b n := by
  induction n with
  | zero => exact ⟨a, rfl, active, ⟨rfl, rfl, rfl⟩, rfl, rfl, first, by simp⟩
  | succ n ih =>
    obtain ⟨b, reached, recovering⟩ := ih (by omega)
    have runs : (b.activeTick parts (window n).1 (window n).2).isSome :=
      activeTick_isSome_of_ordered (recovering.same.ordered ordered) recovering.limits
    obtain ⟨⟨b', decision⟩, taken⟩ := isSome_iff_exists.mp runs
    refine ⟨b', ?_, recovering.tick positive limits (silent n within b reached) taken⟩
    rw [before_succ, reached, bind_some, tickOn, update_of_active recovering.active, taken]
    rfl

variable {least : ℚ} (positiveGain : 0 < least)
  (gains : ∀ n < N, ∀ b b' decision, a.cooldown.remaining < n →
    a.before parts window n = some b → Recovering a b n →
    b.activeTick parts (window n).1 (window n).2 = some (b', decision) →
    min a.maxRps (b.currentRps + least) ≤ decision.targetRps)

include positiveGain gains

/-- What was gained `j` ticks after the cooldown. -/
theorem gained (within : a.cooldown.remaining + 1 + j ≤ N)
    (reached : a.before parts window (a.cooldown.remaining + 1 + j) = some b) :
    min a.maxRps (a.minRps + j * least) ≤ b.currentRps := by
  induction j generalizing b with
  | zero =>
    obtain ⟨c, reached', recovering⟩ :=
      recovering_of_ordered active positive silent ordered first limits within
    obtain rfl : c = b := some.inj (reached'.symm.trans reached)
    rw [Nat.cast_zero, zero_mul, add_zero]
    exact (min_le_right _ _).trans (recovering.inside (by omega)).1
  | succ j ih =>
    obtain ⟨c, earlier, recovering⟩ : ∃ c, a.before parts window (a.cooldown.remaining + 1 + j) =
        some c ∧ Recovering a c (a.cooldown.remaining + 1 + j) :=
      recovering_of_ordered active positive silent ordered first limits (by omega)
    have before := ih (by omega) earlier
    rw [← Nat.add_assoc, before_succ, earlier, bind_some] at reached
    obtain ⟨decision, taken⟩ := tickOn_of_active recovering.active reached
    rw [(activeTick_spec taken).2.2.1]
    refine le_trans (le_min (min_le_left _ _) ?_)
      (gains (a.cooldown.remaining + 1 + j) (by omega) c b decision (by omega) earlier recovering
        taken)
    rcases min_le_iff.mp before with full | grown
    · exact (min_le_left _ _).trans (full.trans (le_add_of_nonneg_right positiveGain.le))
    · refine (min_le_right _ _).trans ?_
      push_cast
      linarith

/-- By then the rate has gained the whole distance. -/
theorem recovered (enough : (a.maxRps - a.minRps) / least ≤ j)
    (late : a.cooldown.remaining + 1 + j ≤ N) :
    ∃ b, a.before parts window N = some b ∧ Recovering a b N ∧ b.currentRps = a.maxRps := by
  obtain ⟨i, rfl⟩ : ∃ i, N = a.cooldown.remaining + 1 + i :=
    ⟨N - (a.cooldown.remaining + 1), by omega⟩
  obtain ⟨b, reached, recovering⟩ :=
    recovering_of_ordered active positive silent ordered first limits le_rfl
  have grown := gained active positive silent ordered first limits positiveGain gains le_rfl reached
  have whole : a.maxRps ≤ a.minRps + i * least := by
    have ticks : (j : ℚ) ≤ i := Nat.cast_le.mpr (by omega)
    have distance := (div_le_iff₀ positiveGain).mp (enough.trans ticks)
    linarith
  rw [min_eq_left whole] at grown
  exact ⟨b, reached, recovering, le_antisymm (recovering.inside (by omega)).2 grown⟩

end

variable (silent : ∀ n b, a.before parts window n = some b → b.Silent parts (window n))

include active positive silent

/-- **If nobody has an opinion from some tick on, and the ceiling is at the upper bound, the rate
reaches the upper bound and stays there, exactly if the bounds are in order and the change limits
do not cross.** -/
theorem recovers_iff (falls : parts.strategy.FallsBack) (grows : a.increase.Grows)
    (up : 0 < a.rateChangeLimits.maxIncreasePct) :
    (∃ start, ∀ n ≥ start, ∃ b b' decision, a.before parts window n = some b ∧
      b.update parts (window n).1 (window n).2 = some (b', decision) ∧
      decision.targetRps = b.maxRps ∧ b.maxRps = a.maxRps) ↔
    a.minRps ≤ a.maxRps ∧ a.maxDown ≤ a.maxUp ∧
      0 ≤ a.rateChangeLimits.maxIncreasePct + a.rateChangeLimits.maxDecreasePct := by
  constructor
  · rintro ⟨start, recovered⟩
    obtain ⟨b, -, -, reached, -⟩ := recovered (start + 2) (Nat.le_add_right _ _)
    obtain ⟨second, two⟩ := before_of_le reached (Nat.le_add_left 2 start)
    rw [before_succ] at two
    obtain ⟨c, one, tick⟩ := bind_eq_some_iff.mp two
    rw [before_succ] at one
    obtain ⟨a₀, zero, tick₀⟩ := bind_eq_some_iff.mp one
    obtain rfl : a = a₀ := some.inj zero
    obtain ⟨decision, taken⟩ := tickOn_of_active active tick₀
    obtain ⟨ordered, first⟩ := ordered_of_activeTick taken
    obtain ⟨same, phase, current, between⟩ := activeTick_spec taken
    obtain ⟨decision', taken'⟩ := tickOn_of_active (phase.trans active) tick
    obtain ⟨-, limits⟩ := ordered_of_activeTick taken'
    have rate : 0 < c.currentRps := by
      rw [current]
      exact positive.trans_le between.1
    rw [maxDown, maxUp, same.limits] at limits
    exact ⟨ordered, first, by linarith [le_of_mul_le_mul_left limits rate]⟩
  · rintro ⟨ordered, first, limits⟩
    obtain ⟨j, enough⟩ := exists_nat_ge ((a.maxRps - a.minRps) / a.leastStep)
    have full : ∀ N, a.cooldown.remaining + 1 + j ≤ N →
        ∃ b, a.before parts window N = some b ∧ Recovering a b N ∧ b.currentRps = a.maxRps := by
      intro N late
      refine recovered active positive (fun n _ => silent n) ordered first limits
        (lt_min (IncreasePolicy.leastGain_pos grows positive) (mul_pos positive up)) ?_ enough late
      rintro n - b b' decision later reached ⟨-, same, increase, remaining, -, inside⟩ taken
      have step : b.leastStep = a.leastStep := by
        rw [leastStep, increase, same.min, same.limits, leastStep]
      have gains := gains_of_silent falls (increase ▸ grows) (same.limits ▸ up)
        (same.min ▸ (inside (by omega)).1) (by omega) (silent _ b reached) taken
      rwa [step, same.max] at gains
    refine ⟨a.cooldown.remaining + 1 + j, fun n late => ?_⟩
    obtain ⟨b, reached, recovering, -⟩ := full n late
    obtain ⟨b', next, -, top⟩ := full (n + 1) (Nat.le_succ_of_le late)
    rw [before_succ, reached, bind_some] at next
    obtain ⟨decision, taken⟩ := tickOn_of_active recovering.active next
    refine ⟨b, b', decision, reached, ?_, ?_, recovering.same.max⟩
    · rw [update_of_active recovering.active]
      exact taken
    · rw [← (activeTick_spec taken).2.2.1, top, recovering.same.max]

end

/-! Without constraints nobody has an opinion. -/

theorem evals_of_none (none : a.constraints = []) : (a.compose parts summary).evals = [] := by
  simp [compose, none, evaluateAll]

/-- From 1000 up to 10000, in a test of a minute. -/
def unopposed : ArbiterConfig Script Unit := .new [] 1000 10 10000 60000000000

/-- A window every second, from half the test on. -/
def secondHalf (n : Nat) : Nat × MetricsSummary := ((n + 30) * 1000000000, emptyWindow)

/-- It reaches 10000. -/
theorem unopposed_recovers :
    (new unopposed 0).phase = .active ∧
      ∃ start, ∀ n ≥ start, ∃ b b' decision,
        (new unopposed 0).before scripted secondHalf n = some b ∧
        b.update scripted (secondHalf n).1 (secondHalf n).2 = some (b', decision) ∧
        decision.targetRps = b.maxRps ∧ b.maxRps = (new unopposed 0).maxRps :=
  ⟨rfl, (recovers_iff rfl (by decide +kernel) (by
      intro n b reached
      have frame : b.phase = .active ∧ b.constraints = [] ∧
          b.ceiling = (new unopposed 0).ceiling ∧ b.maxRps = (new unopposed 0).maxRps := by
        refine exec_invariant (I := fun _ b => b.phase = .active ∧ b.constraints = [] ∧
          b.ceiling = (new unopposed 0).ceiling ∧ b.maxRps = (new unopposed 0).maxRps)
          ⟨rfl, rfl, rfl, rfl⟩ ?_ reached
        rintro events s window s' ⟨active, none, ceiling, max⟩ taken
        obtain ⟨decision, taken⟩ := tickOn_of_active active taken
        obtain ⟨same, phase, -, -⟩ := activeTick_spec taken
        refine ⟨phase.trans active, ?_,
          (activeTick_policies_after taken).2.1.trans ceiling, same.max.trans max⟩
        obtain ⟨binding, -, taken⟩ := bind_eq_some_iff.mp taken
        obtain ⟨rate, -, same⟩ := map_eq_some_iff.mp taken
        cases same
        simp [settle, postSelectAll, compose, none, evaluateAll]
      obtain ⟨-, none, ceiling, max⟩ := frame
      refine ⟨evals_of_none none, ?_⟩
      rw [ceiling, max]
      refine ProgressiveCeiling.ceiling_of_ramped rfl ?_
      have half : (new unopposed 0).ceiling.rampDuration = 30000000000 := rfl
      rw [half, secondHalf]
      omega) minSelector_fallsBack
    ⟨by decide +kernel, by simp [new, unopposed, ArbiterConfig.new, IncreasePolicyConfig.default]⟩
    (by decide +kernel)).mpr
    ⟨by decide +kernel, by decide +kernel, by decide +kernel⟩⟩

/-- With a lower bound of 20000 every update panics. -/
theorem no_recovery_above_upper_bound :
    ∃ a, exec (call scripted) (new unopposed 0) [setMin 20000] = some a ∧ a.phase = .active ∧
      0 < a.minRps ∧ a.increase.Grows ∧ 0 < a.rateChangeLimits.maxIncreasePct ∧
      a.Silent scripted (secondHalf 0) ∧ ∀ n, a.before scripted secondHalf (n + 1) = none := by
  have run := evaluates (x := exec (call scripted) (new unopposed 0) [setMin 20000])
  obtain ⟨s, called, done⟩ := exec_cons_iff.mp run
  cases done
  have active := call_active rfl called
  refine ⟨_, run, active, by decide +kernel, ⟨by decide +kernel, by decide +kernel⟩,
    by decide +kernel, ⟨evals_of_none (isEmpty_iff.mp (by decide +kernel)), by decide +kernel⟩,
    fun n => ?_⟩
  induction n with
  | zero =>
    rw [before_succ]
    refine eq_none_iff_forall_ne_some.mpr fun s' ticked => ?_
    obtain ⟨decision, taken⟩ := tickOn_of_active active ticked
    exact absurd (ordered_of_activeTick taken).1 (by decide +kernel)
  | succ n ih =>
    rw [before_succ, ih]
    rfl

end Arbiter

end Netanvil.Core
