/-
# The arbiter's bounds, and the rate between them

The bounds stay in order as long as a new lower bound is not above the upper one, and then no
clamp panics (`arbiter_never_panics`). The rate stays between them as long as what is taken
from the configuration without a clamp lies there, and the upper bound is not lowered below
the current rate (`rate_bounded`). `Tick` lists what an update can be (`tick_of_update`).
-/
import Netanvil.Core.Controller.Arbiter
import Netanvil.Theory.Trace

namespace Netanvil.Core.Arbiter

open Netanvil.Types Theory Theory.Trace Option List

variable {C Q : Type} {parts : ArbiterParts C Q} {a a' b : Arbiter C Q} {now duration start : Nat}
  {summary : MetricsSummary} {decision : RateDecision}

/-- Between the bounds in force. -/
def InBounds (a : Arbiter C Q) (rate : ℚ) : Prop := a.minRps ≤ rate ∧ rate ≤ a.maxRps

/-- Nothing but a call of its own changes a bound or a limit. -/
structure SameBounds (a a' : Arbiter C Q) : Prop where
  min : a'.minRps = a.minRps
  max : a'.maxRps = a.maxRps
  limits : a'.rateChangeLimits = a.rateChangeLimits

variable {rate rps rate' : ℚ} {manager : ExplorationManager} {config : ArbiterConfig C Q}

theorem SameBounds.inBounds (same : SameBounds a a') : a'.InBounds rate ↔ a.InBounds rate := by
  rw [InBounds, InBounds, same.min, same.max]

theorem SameBounds.ordered (same : SameBounds a a') (ordered : a.minRps ≤ a.maxRps) :
    a'.minRps ≤ a'.maxRps := by
  rwa [same.min, same.max]

theorem inBounds_clamp (given : clamp a.minRps a.maxRps rate = some rate') :
    a.InBounds rate' :=
  ⟨(le_clamp_iff given).mpr (.inl le_rfl),
    (clamp_le_iff given).mpr ⟨(clamp_eq_some.mp given).1, .inl le_rfl⟩⟩

/-! ## One tick -/

theorem activeTick_spec (taken : a.activeTick parts now summary = some (a', decision)) :
    SameBounds a a' ∧ a'.phase = a.phase ∧ a'.currentRps = decision.targetRps ∧
      a.InBounds decision.targetRps := by
  obtain ⟨binding, -, taken⟩ := bind_eq_some_iff.mp taken
  obtain ⟨rate, policies, same⟩ := map_eq_some_iff.mp taken
  cases same
  obtain ⟨limited, -, given⟩ := bind_eq_some_iff.mp policies
  exact ⟨⟨rfl, rfl, rfl⟩, rfl, rfl, inBounds_clamp given⟩

/-- Bounds in order, limits that do not cross, and a rate they do not turn round. -/
structure Steerable (a : Arbiter C Q) : Prop where
  ordered : a.minRps ≤ a.maxRps
  increase : 0 ≤ a.rateChangeLimits.maxIncreasePct
  decrease : 0 ≤ a.rateChangeLimits.maxDecreasePct
  rate : 0 ≤ a.currentRps

theorem Steerable.of_same (steerable : a.Steerable) (same : SameBounds a a')
    (current : a'.currentRps = a.currentRps) : a'.Steerable := by
  obtain ⟨ordered, increase, decrease, rate⟩ := steerable
  refine ⟨same.ordered ordered, ?_, ?_, ?_⟩
  · rwa [same.limits]
  · rwa [same.limits]
  · rwa [current]

theorem Steerable.limits (steerable : a.Steerable) :
    a.currentRps * (1 - a.rateChangeLimits.maxDecreasePct) ≤
      a.currentRps * (1 + a.rateChangeLimits.maxIncreasePct) := by
  refine mul_le_mul_of_nonneg_left ?_ steerable.rate
  linarith [steerable.increase, steerable.decrease]

theorem activeTick_isSome_of_ordered (ordered : a.minRps ≤ a.maxRps)
    (limits : a.currentRps * (1 - a.rateChangeLimits.maxDecreasePct) ≤
      a.currentRps * (1 + a.rateChangeLimits.maxIncreasePct)) :
    (a.activeTick parts now summary).isSome := by
  obtain ⟨binding, named⟩ := isSome_iff_exists.mp <|
    show (bound (a.compose parts summary).constraints
        (a.compose parts summary).result.binding).isSome by
      cases decided : (a.compose parts summary).result.binding with
      | none => rfl
      | some i =>
        -- the constraint a strategy names is there
        obtain ⟨e, asked, rfl⟩ := parts.strategy.binds decided
        have inside : e.constraintIndex < 0 + (a.compose parts summary).constraints.length :=
          (index_of_evaluateAll parts.constraint _ rfl).2 e asked
        rw [Nat.zero_add] at inside
        rw [bound, getElem?_eq_getElem inside]
        rfl
  rw [activeTick, named, bind_some, isSome_map, applyPolicies]
  obtain ⟨limited, given⟩ := isSome_iff_exists.mp (clamp_isSome.mpr limits)
  rw [RateChangeLimits.clamp, given]
  exact clamp_isSome.mpr ordered

theorem activeTick_isSome (steerable : a.Steerable) : (a.activeTick parts now summary).isSome :=
  activeTick_isSome_of_ordered steerable.ordered steerable.limits

/-! ## Phases -/

/-- The rate that follows the step experiment. -/
def afterExploration (a : Arbiter C Q) : ℚ := (a.warmupConfig.map (·.1)).getD a.initialRps

/-- The rates still to be taken from the configuration. -/
def pending (a : Arbiter C Q) : List ℚ :=
  match a.phase with
  | .exploration _ => [a.afterExploration]
  | .warmup warmupRps _ _ _ => [warmupRps]
  | .active => []

/-- The experiment is over. -/
def Explored (a : Arbiter C Q) : Prop := ∀ manager, a.phase ≠ .exploration manager

theorem finishExploration_spec (parts : ArbiterParts C Q) (a : Arbiter C Q) (now : Nat)
    (manager : ExplorationManager) :
    SameBounds a (a.finishExploration parts now manager) ∧
      (a.finishExploration parts now manager).Explored ∧
      (a.finishExploration parts now manager).currentRps = a.afterExploration ∧
      ∀ rate ∈ (a.finishExploration parts now manager).pending, rate = a.afterExploration := by
  unfold finishExploration transitionPostExploration afterExploration
  split
  all_goals
    rename_i configured
    rw [configured]
    exact ⟨⟨rfl, rfl, rfl⟩, by simp [Explored], rfl, by simp [pending]⟩

/-! ## Ticks -/

/-- Long enough, with enough samples. -/
def WarmupEnds (now : Nat) (summary : MetricsSummary) (duration start : Nat) (samples : List ℚ) :
    Prop :=
  duration ≤ now - start ∧ 3 ≤ (collectSample summary samples).length

/-- The arbiter as the warm-up leaves it to active control. -/
def warmedUp (parts : ArbiterParts C Q) (a : Arbiter C Q) (now : Nat) (warmupRps : ℚ)
    (samples : List ℚ) : Arbiter C Q :=
  { a with
    constraints := a.constraints.map
      (parts.constraint.onWarmupComplete · ⟨baselineOf samples, samples.length⟩)
    ceiling := a.ceiling.startNow now
    knownGood := ⟨warmupRps, now, a.knownGood.floorFraction, a.knownGood.window⟩
    phase := .active }

/-- The catastrophic constraints, asked at a rate of the experiment. -/
def watch (parts : ArbiterParts C Q) (a : Arbiter C Q) (summary : MetricsSummary) (rate : ℚ) :
    List C × ℚ × Bool :=
  checkAborts parts ⟨summary, a.currentRps, 0, a.minRps, a.maxRps⟩ rate false a.constraints

/-- The arbiter after they were asked. -/
def watched (parts : ArbiterParts C Q) (a : Arbiter C Q) (summary : MetricsSummary) (rate : ℚ)
    (manager : ExplorationManager) (clamped : ℚ) : Arbiter C Q :=
  { a with
    constraints := (a.watch parts summary rate).1
    currentRps := clamped
    phase := .exploration manager }

/-- The update of `a` at `now` gives `a'` and `decision`. -/
inductive Tick (parts : ArbiterParts C Q) (now : Nat) (summary : MetricsSummary)
    (a' : Arbiter C Q) (decision : RateDecision) : Arbiter C Q → Prop
  | active {a : Arbiter C Q} (here : a.phase = .active)
      (taken : a.activeTick parts now summary = some (a', decision)) :
      Tick parts now summary a' decision a
  | waiting {a : Arbiter C Q} {rps : ℚ} {duration start : Nat} {samples : List ℚ}
      (here : a.phase = .warmup rps duration start samples)
      (waits : ¬ WarmupEnds now summary duration start samples)
      (same : a' = { a with phase := .warmup rps duration start (collectSample summary samples) })
      (decided : decision = ⟨rps⟩) : Tick parts now summary a' decision a
  | warmed {a : Arbiter C Q} {rps : ℚ} {duration start : Nat} {samples : List ℚ}
      (here : a.phase = .warmup rps duration start samples)
      (ends : WarmupEnds now summary duration start samples)
      (taken : (a.warmedUp parts now rps (collectSample summary samples)).activeTick parts now
        summary = some (a', decision)) : Tick parts now summary a' decision a
  | exploring {a : Arbiter C Q} {manager manager' : ExplorationManager} {rate clamped : ℚ}
      (here : a.phase = .exploration manager)
      (ticked : manager.tick summary = (some rate, manager'))
      (goes : (a.watch parts summary rate).2.2 = false)
      (given : clamp a.minRps a.maxRps (a.watch parts summary rate).2.1 = some clamped)
      (same : a' = a.watched parts summary rate manager' clamped)
      (decided : decision = ⟨clamped⟩) : Tick parts now summary a' decision a
  | aborted {a : Arbiter C Q} {manager manager' : ExplorationManager} {rate clamped : ℚ}
      (here : a.phase = .exploration manager)
      (ticked : manager.tick summary = (some rate, manager'))
      (aborts : (a.watch parts summary rate).2.2 = true)
      (given : clamp a.minRps a.maxRps (a.watch parts summary rate).2.1 = some clamped)
      (same : a' =
        (a.watched parts summary rate manager' clamped).finishExploration parts now manager')
      (decided : decision = ⟨a'.currentRps⟩) : Tick parts now summary a' decision a
  | explored {a : Arbiter C Q} {manager manager' : ExplorationManager}
      (here : a.phase = .exploration manager) (ticked : manager.tick summary = (none, manager'))
      (next : Tick parts now summary a' decision (a.finishExploration parts now manager')) :
      Tick parts now summary a' decision a

theorem tick_of_warmupTick {samples : List ℚ} (here : a.phase = .warmup rps duration start samples)
    (taken : a.warmupTick parts now summary rps duration start samples = some (a', decision)) :
    Tick parts now summary a' decision a := by
  simp only [warmupTick] at taken
  split at taken
  · rename_i ends
    exact .warmed here ends taken
  · rename_i waits
    cases taken
    exact .waiting here waits rfl rfl

/-- An update that returns is one of the ticks. -/
theorem tick_of_update (taken : a.update parts now summary = some (a', decision)) :
    Tick parts now summary a' decision a := by
  cases here : a.phase <;> simp only [update, here] at taken
  case exploration =>
    unfold explorationTick at taken
    split at taken
    · rename_i rate manager' ticked
      obtain ⟨clamped, given, taken⟩ := map_eq_some_iff.mp taken
      cases taken
      split
      · rename_i aborts
        exact .aborted here ticked aborts given rfl rfl
      · rename_i goes
        exact .exploring here ticked (Bool.eq_false_iff.mpr goes) given rfl rfl
    · rename_i manager' ticked
      refine .explored here ticked ?_
      dsimp only at taken
      cases next : (a.finishExploration parts now manager').phase with
      | exploration manager =>
        exact absurd next ((finishExploration_spec parts a now manager').2.1 manager)
      | warmup rps duration start samples =>
        rw [next] at taken
        exact tick_of_warmupTick next taken
      | active =>
        rw [next] at taken
        exact .active next taken
  case warmup => exact tick_of_warmupTick here taken
  case active => exact .active here taken

/-! ## Where rates come from

Every rate is between the bounds or from the configuration. So what holds of all rates
between the bounds and of those the configuration still has to give goes on to hold. -/

/-- `P` holds of the current rate, once the experiment is over, and of the pending ones. -/
structure Keeps (P : ℚ → Prop) (a : Arbiter C Q) : Prop where
  current : a.Explored → P a.currentRps
  pending : ∀ rate ∈ a.pending, P rate

/-- What a tick keeps. While the experiment goes on the current rate is between the bounds. -/
structure Ticks (P : ℚ → Prop) (a a' : Arbiter C Q) (decision : RateDecision) : Prop where
  same : SameBounds a a'
  keeps : a'.Keeps P
  target : P decision.targetRps
  exploring : ∀ manager, a'.phase = .exploration manager → a.InBounds a'.currentRps

section

variable {P : ℚ → Prop}

/-- The experiment ends, with the rate the configuration has for the next phase. -/
theorem finishExploration_ticks (parts : ArbiterParts C Q) (after : P a.afterExploration)
    (now : Nat) (manager : ExplorationManager) :
    Ticks P a (a.finishExploration parts now manager)
      ⟨(a.finishExploration parts now manager).currentRps⟩ := by
  obtain ⟨same, explored, current, pending⟩ := finishExploration_spec parts a now manager
  have rate : P (a.finishExploration parts now manager).currentRps := current ▸ after
  refine ⟨same, ⟨fun _ => rate, fun rate mem => pending rate mem ▸ after⟩, rate, ?_⟩
  intro manager here
  exact absurd here (explored manager)

theorem activeTick_ticks (taken : a.activeTick parts now summary = some (a', decision))
    (here : a.phase = .active) (inside : ∀ rate, a.InBounds rate → P rate) :
    Ticks P a a' decision := by
  obtain ⟨same, phase, current, between⟩ := activeTick_spec taken
  rw [here] at phase
  refine ⟨same, ⟨fun _ => ?_, ?_⟩, inside _ between, ?_⟩
  · rw [current]
    exact inside _ between
  · simp [pending, phase]
  · simp [phase]

/-- A tick after the experiment, from bounds that are the same. -/
theorem Ticks.of_same (same : SameBounds a b) (ticks : Ticks P b a' decision) :
    Ticks P a a' decision := by
  obtain ⟨same', keeps, target, exploring⟩ := ticks
  refine ⟨⟨same'.min.trans same.min, same'.max.trans same.max, same'.limits.trans same.limits⟩,
    keeps, target, fun manager here => ?_⟩
  exact same.inBounds.mp (exploring manager here)

/-- The rates after an update, and the rate it returns. -/
theorem tick_ticks (tick : Tick parts now summary a' decision a)
    (inside : ∀ rate, a.InBounds rate → P rate) (keeps : a.Keeps P) : Ticks P a a' decision := by
  induction tick with
  | active here taken => exact activeTick_ticks taken here inside
  | @waiting a rps duration start samples here waits same decided =>
    subst same decided
    have warm := keeps.pending rps (by simp [pending, here])
    exact ⟨⟨rfl, rfl, rfl⟩, ⟨fun _ => keeps.current (by simp [Explored, here]),
      by simpa [pending] using warm⟩, warm, by simp⟩
  | warmed here ends taken =>
    refine .of_same ?_ (activeTick_ticks taken ?_ inside)
    · exact ⟨rfl, rfl, rfl⟩
    · rfl
  | exploring here ticked goes given same decided =>
    subst same decided
    have between := inBounds_clamp given
    refine ⟨⟨rfl, rfl, rfl⟩, ⟨fun _ => inside _ between, ?_⟩, inside _ between, fun _ _ => between⟩
    simpa [pending, here, watched, afterExploration] using keeps.pending
  | aborted here ticked aborts given same decided =>
    -- the rate is the next phase's
    subst same decided
    refine .of_same ?_ (finishExploration_ticks parts ?_ now _)
    · exact ⟨rfl, rfl, rfl⟩
    · exact keeps.pending _ (by simp [pending, here, afterExploration, watched])
  | @explored a manager manager' here ticked next ih =>
    have after := keeps.pending a.afterExploration (by simp [pending, here])
    obtain ⟨same, keeps, -, -⟩ := finishExploration_ticks parts after now _
    exact .of_same same (ih (fun rate between => inside rate (same.inBounds.mp between)) keeps)

/-- The rates after an override: the same, but for the target. -/
theorem setRate_ticks (taken : a.setRate parts now rps = some a')
    (inside : ∀ rate, a.InBounds rate → P rate) (keeps : a.Keeps P) :
    Ticks P a a' ⟨a'.currentRps⟩ := by
  obtain ⟨rate, given, taken⟩ := map_eq_some_iff.mp taken
  have between := inBounds_clamp given
  dsimp only at taken
  split at taken
  · rename_i manager here
    obtain rfl := taken
    refine .of_same ?_ (finishExploration_ticks parts ?_ now manager)
    · exact ⟨rfl, rfl, rfl⟩
    · exact keeps.pending _ (by simp [pending, here, afterExploration])
  · rename_i other
    obtain rfl := taken
    refine ⟨⟨rfl, rfl, rfl⟩, ⟨fun _ => inside _ between, keeps.pending⟩, inside _ between, ?_⟩
    exact fun manager here => absurd here (other manager)

end

theorem warmupTick_isSome (steerable : a.Steerable) (warmupRps : ℚ) (duration start : Nat)
    (samples : List ℚ) :
    (a.warmupTick parts now summary warmupRps duration start samples).isSome := by
  simp only [warmupTick]
  split
  · exact activeTick_isSome (steerable.of_same ⟨rfl, rfl, rfl⟩ rfl)
  · rfl

/-! ## No call panics -/

/-- The rate configured for what follows the step experiment, if there is one. -/
def nextRps (config : ArbiterConfig C Q) : ℚ := (config.warmup.map (·.1)).getD config.initialRps

theorem keeps_new {P : ℚ → Prop} (next : P (nextRps config)) (now : Nat) :
    (new config now).Keeps P := by
  unfold nextRps at next
  cases explores : config.explorationManager with
  | some manager =>
    exact ⟨by simp [Explored, new, startPhase, explores],
      by simpa [pending, new, startPhase, explores, afterExploration] using next⟩
  | none =>
    cases warms : config.warmup with
    | some warmup | none =>
      simp only [warms, map_some, map_none, getD_some, getD_none] at next
      exact ⟨fun _ => by simpa [new, startPhase, explores, warms] using next,
        by simp [pending, new, startPhase, explores, warms, next]⟩

/-- Bounds in order, limits that do not cross, and no rate that is or will be negative. -/
structure Safe (a : Arbiter C Q) : Prop where
  lower : 0 ≤ a.minRps
  ordered : a.minRps ≤ a.maxRps
  increase : 0 ≤ a.rateChangeLimits.maxIncreasePct
  decrease : 0 ≤ a.rateChangeLimits.maxDecreasePct
  rates : a.Keeps (0 ≤ ·)

section

variable (safe : a.Safe)
include safe

theorem Safe.of_ticks (ticks : Ticks (0 ≤ ·) a a' decision) : a'.Safe := by
  obtain ⟨same, keeps, -, -⟩ := ticks
  refine ⟨?_, same.ordered safe.ordered, ?_, ?_, keeps⟩
  · exact same.min ▸ safe.lower
  · exact same.limits ▸ safe.increase
  · exact same.limits ▸ safe.decrease

theorem Safe.inside (rate : ℚ) (between : a.InBounds rate) : 0 ≤ rate :=
  safe.lower.trans between.1

theorem Safe.steerable (explored : a.Explored) : a.Steerable :=
  ⟨safe.ordered, safe.increase, safe.decrease, safe.rates.current explored⟩

theorem update_isSome : (a.update parts now summary).isSome := by
  cases here : a.phase <;> simp only [update, here]
  case exploration =>
    unfold explorationTick
    split
    · rw [isSome_map]
      exact clamp_isSome.mpr safe.ordered
    · rename_i manager' ticked
      have after : 0 ≤ a.afterExploration := safe.rates.pending _ (by simp [pending, here])
      have finished := safe.of_ticks (finishExploration_ticks parts after now manager')
      have steerable := finished.steerable (finishExploration_spec parts a now manager').2.1
      dsimp only
      split
      · exact warmupTick_isSome steerable _ _ _ _
      · exact activeTick_isSome steerable
  case warmup => exact warmupTick_isSome (safe.steerable (by simp [Explored, here])) _ _ _ _
  case active => exact activeTick_isSome (safe.steerable (by simp [Explored, here]))

theorem Safe.setMaxRps (maxRps : ℚ) : (a.setMaxRps maxRps).Safe :=
  ⟨safe.lower, le_max_right _ _, safe.increase, safe.decrease, safe.rates.current,
    safe.rates.pending⟩

end

/-- What an update from the API can do. -/
theorem applyUpdate_cases (parts : ArbiterParts C Q) (a : Arbiter C Q) (action : String)
    (params : Json) :
    (∃ constraints, (a.applyUpdate parts action params).1 = { a with constraints := constraints }) ∨
      (∃ maxRps, (a.applyUpdate parts action params).1 = a.setMaxRps maxRps) ∨
      ∃ minRps, action = "set_min_rps" ∧ (params.get "min_rps").bind Json.asF64 = some minRps ∧
        (a.applyUpdate parts action params).1 = { a with minRps := minRps } := by
  unfold applyUpdate
  split
  · split
    · exact .inl ⟨_, rfl⟩
    · exact .inr (.inl ⟨_, rfl⟩)
  · split
    · rename_i setMin
      split
      · exact .inl ⟨_, rfl⟩
      · rename_i minRps given
        exact .inr (.inr ⟨minRps, setMin, given, rfl⟩)
    · left
      split
      · split <;> exact ⟨_, rfl⟩
      · exact ⟨_, rfl⟩
      · exact ⟨_, rfl⟩

/-- A new lower bound is neither negative nor above the upper one. -/
def Sane (a : Arbiter C Q) : ArbiterCall → Prop
  | .applyUpdate action params => action = "set_min_rps" →
      ∀ minRps, (params.get "min_rps").bind Json.asF64 = some minRps →
        0 ≤ minRps ∧ minRps ≤ a.maxRps
  | _ => True

theorem safe_call (safe : a.Safe) {made : ArbiterCall} (sane : a.Sane made) :
    ∃ a', a.call parts made = some a' ∧ a'.Safe := by
  cases made with
  | update now summary =>
    obtain ⟨⟨a', decision⟩, taken⟩ := isSome_iff_exists.mp (update_isSome safe)
    exact ⟨a', by rw [call, taken]; rfl,
      safe.of_ticks (tick_ticks (tick_of_update taken) safe.inside safe.rates)⟩
  | setRate now rps =>
    have given : (a.setRate parts now rps).isSome := by
      rw [setRate, isSome_map]
      exact clamp_isSome.mpr safe.ordered
    obtain ⟨a', taken⟩ := isSome_iff_exists.mp given
    exact ⟨a', taken, safe.of_ticks (setRate_ticks taken safe.inside safe.rates)⟩
  | setMaxRps maxRps => exact ⟨_, rfl, safe.setMaxRps maxRps⟩
  | applyUpdate action params =>
    refine ⟨_, rfl, ?_⟩
    rcases applyUpdate_cases parts a action params with ⟨constraints, same⟩ | ⟨maxRps, same⟩ |
      ⟨minRps, setMin, given, same⟩ <;> rw [same]
    · exact ⟨safe.lower, safe.ordered, safe.increase, safe.decrease, safe.rates.current,
        safe.rates.pending⟩
    · exact safe.setMaxRps maxRps
    · obtain ⟨lower, ordered⟩ := sane setMin minRps given
      exact ⟨lower, ordered, safe.increase, safe.decrease, safe.rates.current, safe.rates.pending⟩

/-- Constraints that want a fixed rate each. -/
def fixedRates : ArbiterParts ℚ Unit where
  constraint :=
    { evaluate := fun rate _ => (some ⟨.desireRate rate, 1⟩, rate)
      postSelect := fun rate _ _ _ => rate
      id := fun _ => "fixed"
      class_ := fun _ => .operatingPoint
      recoveryEstimateTicks := fun _ => none
      applyUpdate := fun rate _ _ => (.error "no updates supported", rate)
      requiresExploration := fun _ => false
      onExplorationComplete := fun rate _ => rate
      onWarmupComplete := fun rate _ => rate
      onRateOverride := fun rate _ => rate }
  strategy := minSelector

/-- From 100 requests a second, between 10 and 1000, towards 200. -/
def towards200 : ArbiterConfig ℚ Unit := .new [200] 100 10 1000 60000000000

/-- A window without requests. -/
def emptyWindow : MetricsSummary := ⟨0, 0, 0, 0, 0, 0, 0, 1000000000, 0, 0, 0, 0, [], 0, 0⟩

def setMin (minRps : ℚ) : ArbiterCall :=
  .applyUpdate "set_min_rps" (.obj [("min_rps", .float minRps)])

/-- The bounds in order, and between them the current rate and those still to come. -/
structure Bounded (a : Arbiter C Q) : Prop where
  ordered : a.minRps ≤ a.maxRps
  current : a.InBounds a.currentRps
  pending : ∀ rate ∈ a.pending, a.InBounds rate

theorem Bounded.of_ticks (bounded : a.Bounded) (ticks : Ticks a.InBounds a a' decision) :
    a'.Bounded := by
  obtain ⟨same, keeps, -, exploring⟩ := ticks
  refine ⟨same.ordered bounded.ordered, same.inBounds.mpr ?_,
    fun rate mem => same.inBounds.mpr (keeps.pending rate mem)⟩
  by_cases explored : a'.Explored
  · exact keeps.current explored
  · obtain ⟨manager, here⟩ := not_forall_not.mp explored
    exact exploring manager here

theorem Bounded.keeps (bounded : a.Bounded) : a.Keeps a.InBounds :=
  ⟨fun _ => bounded.current, bounded.pending⟩

/-- An upper bound is not set below the current rate or one still to come, and nothing else
is set. -/
def Fits (a : Arbiter C Q) : ArbiterCall → Prop
  | .setMaxRps maxRps => ∀ rate ∈ a.currentRps :: a.pending, rate ≤ max maxRps a.minRps
  | .applyUpdate _ _ => False
  | _ => True

/-- The rates an arbiter takes from its configuration without a clamp. -/
def configRates (config : ArbiterConfig C Q) : List ℚ :=
  nextRps config :: config.explorationManager.toList.map (·.initialRps / 2)

/-- **The rate and the rate each update returns are between the bounds in force, if the rates
configured are, and no upper bound is set below a rate that is or will be taken.** -/
theorem rate_bounded {config : ArbiterConfig C Q} {now : Nat}
    (ordered : config.minRps ≤ config.maxRps)
    (rates : ∀ rate ∈ configRates config, config.minRps ≤ rate ∧ rate ≤ config.maxRps)
    {calls : List ArbiterCall} {a : Arbiter C Q}
    (fits : Allowed (call parts) Fits (new config now) calls)
    (run : exec (call parts) (new config now) calls = some a) :
    a.InBounds a.currentRps ∧
      ∀ time summary a' decision, a.update parts time summary = some (a', decision) →
        a'.InBounds decision.targetRps := by
  have bounded : a.Bounded :=
    fits.invariant (by
      have next : (new config now).InBounds (nextRps config) := rates _ mem_cons_self
      have keeps := keeps_new next now
      refine ⟨ordered, ?_, keeps.pending⟩
      cases explores : config.explorationManager with
      | some manager =>
        have half := rates (manager.initialRps / 2) (by simp [configRates, explores])
        simpa [InBounds, new, startPhase, explores] using half
      | none =>
        refine keeps.current ?_
        cases warms : config.warmup <;> simp [Explored, new, startPhase, explores, warms])
      (fun {a made a'} bounded fits taken => by
        cases made with
        | update now summary =>
          obtain ⟨⟨after, decision⟩, updated, rfl⟩ := map_eq_some_iff.mp taken
          exact bounded.of_ticks (tick_ticks (tick_of_update updated) (fun _ => id) bounded.keeps)
        | setRate now rps =>
          exact bounded.of_ticks (setRate_ticks taken (fun _ => id) bounded.keeps)
        | setMaxRps maxRps =>
          cases taken
          refine ⟨le_max_right _ _, ⟨bounded.current.1, fits _ mem_cons_self⟩, ?_⟩
          intro rate mem
          exact ⟨(bounded.pending rate mem).1, fits rate (mem_cons_of_mem _ mem)⟩
        | applyUpdate action params => exact fits.elim) run
  refine ⟨bounded.current, fun time summary a' decision taken => ?_⟩
  obtain ⟨same, -, target, -⟩ := tick_ticks (tick_of_update taken) (fun _ => id) bounded.keeps
  exact same.inBounds.mpr target

/-- The upper bound is lowered to 500, above the rate. -/
def loweredTo500 : List ArbiterCall :=
  [.update 1000000000 emptyWindow, .setRate 1000000000 150, .setMaxRps 500]

theorem upper_bound_lowered :
    Allowed (call fixedRates) Fits (new towards200 0) loweredTo500 ∧
      ∃ a, exec (call fixedRates) (new towards200 0) loweredTo500 = some a ∧
        a.InBounds a.currentRps ∧
        ∀ time summary a' decision, a.update fixedRates time summary = some (a', decision) →
          a'.InBounds decision.targetRps := by
  have first : Allowed (call fixedRates) Fits (new towards200 0)
      [.update 1000000000 emptyWindow, .setRate 1000000000 150] := .of_forall (by simp [Fits])
  have fits : Allowed (call fixedRates) Fits (new towards200 0) loweredTo500 :=
    first.snoc (show ∀ a : Arbiter ℚ Unit, _ = some a → ∀ rate ∈ a.currentRps :: a.pending,
      rate ≤ max 500 a.minRps by decide +kernel)
  exact ⟨fits, _, evaluates,
    rate_bounded (by decide +kernel) (by decide +kernel) fits (evaluates _)⟩

/-- A warm-up rate of 5000. -/
def warmedUpAt5000 : ArbiterConfig ℚ Unit :=
  { towards200 with warmup := some (5000, 10000000000) }

/-- An upper bound of 50 leaves the rate at 100, and a warm-up above the upper bound is both the
current rate and the one that an update returns. -/
theorem rate_above_upper_bound :
    (∃ a, exec (call fixedRates) (new towards200 0) [.setMaxRps 50] = some a ∧
      a.maxRps < a.currentRps) ∧
    (new warmedUpAt5000 0).maxRps < (new warmedUpAt5000 0).currentRps ∧
    ∃ a' decision, (new warmedUpAt5000 0).update fixedRates 1000000000 emptyWindow =
      some (a', decision) ∧ a'.maxRps < decision.targetRps := by
  decide +kernel

end Netanvil.Core.Arbiter
