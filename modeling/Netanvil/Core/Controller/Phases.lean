/-
# What an update does in each phase

The end of the step experiment assigns the rate of the phase that follows. So the rate an
abort had come to is lost (`abort_safe`), and so is one that is set from outside
(`override_adopted`).
-/
import Netanvil.Core.Controller.ActiveTick

namespace Netanvil.Core.Arbiter

open Netanvil.Types Theory Theory.Trace Option ArbiterPhase

variable {C Q : Type} {parts : ArbiterParts C Q} {a a' : Arbiter C Q} {now : Nat}
  {summary : MetricsSummary} {decision : RateDecision}

/-- What follows the step experiment. -/
theorem finishExploration_cases (parts : ArbiterParts C Q) (a : Arbiter C Q) (now : Nat)
    (manager : ExplorationManager) :
    ∃ constraints,
      (∃ rps duration, a.warmupConfig = some (rps, duration) ∧
        a.finishExploration parts now manager =
          { a with
            constraints := constraints
            warmupConfig := none
            currentRps := rps
            phase := .warmup rps duration now [] }) ∨
      (a.warmupConfig = none ∧
        a.finishExploration parts now manager =
          { a with
            constraints := constraints
            currentRps := a.initialRps
            ceiling := a.ceiling.startNow now
            phase := .active }) := by
  refine ⟨a.constraints.map (parts.constraint.onExplorationComplete · manager), ?_⟩
  cases configured : a.warmupConfig with
  | none =>
    exact .inr ⟨rfl, by simp only [finishExploration, transitionPostExploration, configured]⟩
  | some warmup =>
    refine .inl ⟨warmup.1, warmup.2, rfl, ?_⟩
    simp only [finishExploration, transitionPostExploration, configured]

/-! ## An aborted experiment -/

/-- What one constraint does to the rate that is safe so far, and to whether to abort. -/
def askOne (parts : ArbiterParts C Q) (ctx : EvalContext) (soFar : ℚ × Bool) (c : C) : ℚ × Bool :=
  if parts.constraint.requiresExploration c || parts.constraint.class_ c != .catastrophic then soFar
  else
    match (parts.constraint.evaluate c ctx).1.bind (abortsAt soFar.1) with
    | some safeRate => (safeRate, true)
    | none => soFar

/-- The constraints are asked one after the other. -/
theorem checkAborts_eq_foldl (parts : ArbiterParts C Q) (ctx : EvalContext) (soFar : ℚ × Bool)
    (cs : List C) :
    (checkAborts parts ctx soFar.1 soFar.2 cs).2 = cs.foldl (askOne parts ctx) soFar := by
  induction cs generalizing soFar with
  | nil => rfl
  | cons c rest ih =>
    rw [List.foldl_cons, ← ih, checkAborts, askOne]
    split
    · rfl
    · rcases parts.constraint.evaluate c ctx with ⟨output, asked⟩
      dsimp only
      cases output.bind (abortsAt soFar.1) <;> rfl

/-- A constraint that does not abort changes nothing. -/
theorem askOne_cases (parts : ArbiterParts C Q) (ctx : EvalContext) (soFar : ℚ × Bool) (c : C) :
    askOne parts ctx soFar c = soFar ∨ (askOne parts ctx soFar c).2 = true := by
  unfold askOne
  split
  · exact .inl rfl
  · split
    · exact .inr rfl
    · exact .inl rfl

/-- Once aborted is aborted. -/
theorem aborted_of_foldl (ctx : EvalContext) {soFar : ℚ × Bool} (aborted : soFar.2 = true)
    (cs : List C) : (cs.foldl (askOne parts ctx) soFar).2 = true := by
  induction cs generalizing soFar with
  | nil => exact aborted
  | cons c rest ih =>
    refine ih ?_
    rcases askOne_cases parts ctx soFar c with same | aborts
    · rw [same]
      exact aborted
    · exact aborts

/-- In this tick of the experiment a catastrophic constraint wants `wanted`, too much less than
the rate that is safe when it is asked. -/
def AbortsFor (parts : ArbiterParts C Q) (a : Arbiter C Q) (summary : MetricsSummary)
    (wanted : ℚ) : Prop :=
  ∃ manager manager' rate before c after severity,
    a.phase = .exploration manager ∧ manager.tick summary = (some rate, manager') ∧
    a.constraints = before ++ c :: after ∧
    parts.constraint.requiresExploration c = false ∧
    parts.constraint.class_ c = .catastrophic ∧
    (parts.constraint.evaluate c ⟨summary, a.currentRps, 0, a.minRps, a.maxRps⟩).1 =
      some ⟨.desireRate wanted, severity⟩ ∧
    wanted < (before.foldl (askOne parts ⟨summary, a.currentRps, 0, a.minRps, a.maxRps⟩)
      (rate, false)).1 * explorationAbortThreshold

theorem watch_of_abortsFor {wanted : ℚ} (aborts : a.AbortsFor parts summary wanted) :
    ∃ manager manager' rate, a.phase = .exploration manager ∧
      manager.tick summary = (some rate, manager') ∧ (a.watch parts summary rate).2.2 = true := by
  obtain ⟨manager, manager', rate, before, c, after, severity, here, ticked, split, asked, class_,
    wants, low⟩ := aborts
  refine ⟨manager, manager', rate, here, ticked, ?_⟩
  rw [watch, split, checkAborts_eq_foldl parts _ (rate, false), List.foldl_append, List.foldl_cons]
  refine aborted_of_foldl _ ?_ after
  simp only [askOne, asked, class_, wants, bind_some, abortsAt, if_pos low]
  rfl

/-- **An update in which a catastrophic constraint's desire aborts the experiment returns, and
leaves, the rate of the phase that follows; that respects the desire only if it happens to be
low enough.** -/
theorem abort_safe {wanted : ℚ} (aborts : a.AbortsFor parts summary wanted)
    (taken : a.update parts now summary = some (a', decision)) :
    (decision.targetRps ≤ max a.minRps wanted ∧ a'.currentRps ≤ max a.minRps wanted) ↔
      a.afterExploration ≤ max a.minRps wanted := by
  obtain ⟨manager, manager', rate, here, ticked, aborted⟩ := watch_of_abortsFor aborts
  have both : decision.targetRps = a.afterExploration ∧ a'.currentRps = a.afterExploration := by
    cases tick_of_update taken with
    | aborted here' ticked' aborts' given same decided =>
      have current : a'.currentRps = a.afterExploration := by
        rw [same]
        exact (finishExploration_spec _ _ _ _).2.2.1
      rw [decided]
      exact ⟨current, current⟩
    | active other | waiting other | warmed other => rw [here] at other; cases other
    | exploring here' ticked' goes =>
      obtain rfl : manager = _ := exploration.inj (here.symm.trans here')
      rw [ticked] at ticked'
      cases ticked'
      rw [aborted] at goes
      cases goes
    | explored here' ticked' =>
      obtain rfl : manager = _ := exploration.inj (here.symm.trans here')
      rw [ticked] at ticked'
      cases ticked'
  rw [both.1, both.2, and_self]

/-- A step experiment up to 1000. -/
def stepTo1000 : ExplorationManager :=
  .new [⟨.latencyP99, 100, [], [], none⟩] 1000 5000000000 1000000000

/-- It has a catastrophic constraint that wants 200 once, and this rate follows as a warm-up. -/
def warmsAfterwards (warmup : Option ℚ) : ArbiterConfig Script Unit :=
  { ArbiterConfig.new [⟨.catastrophic, [⟨.desireRate 200, 2⟩]⟩] 1000 10 10000 60000000000 with
    warmup := warmup.map (·, 10000000000)
    explorationManager := some stepTo1000 }

theorem abortsFor_200 (warmup : Option ℚ) :
    (new (warmsAfterwards warmup) 0).AbortsFor scripted emptyWindow 200 := by
  have ticked : (stepTo1000.tick emptyWindow).1 = some 500 := by decide +kernel
  have low : (200 : ℚ) < 500 * explorationAbortThreshold := by decide +kernel
  exact ⟨stepTo1000, (stepTo1000.tick emptyWindow).2, 500, [], ⟨.catastrophic, _⟩, [], 2, rfl,
    Prod.ext ticked rfl, rfl, rfl, rfl, rfl, low⟩

/-- A warm-up at 100 follows. -/
theorem abort_to_low_warmup :
    (new (warmsAfterwards (some 100)) 0).AbortsFor scripted emptyWindow 200 ∧
      ∃ a' decision, (new (warmsAfterwards (some 100)) 0).update scripted 1000000000 emptyWindow =
          some (a', decision) ∧
        decision.targetRps ≤ 200 ∧ a'.currentRps ≤ 200 := by
  have taken := evaluates
    (x := (new (warmsAfterwards (some 100)) 0).update scripted 1000000000 emptyWindow)
  have safe := (abort_safe (abortsFor_200 (some 100)) taken).mpr (by decide +kernel)
  exact ⟨abortsFor_200 _, _, _, taken, safe⟩

/-- The abort returns 1000, or the 800 of a warm-up. -/
def AbortsHigh (warmup : Option ℚ) : Prop :=
  (new (warmsAfterwards warmup) 0).AbortsFor scripted emptyWindow 200 ∧
    ∃ a' decision, (new (warmsAfterwards warmup) 0).update scripted 1000000000 emptyWindow =
        some (a', decision) ∧
      max (new (warmsAfterwards warmup) 0).minRps 200 < decision.targetRps ∧
      max (new (warmsAfterwards warmup) 0).minRps 200 < a'.currentRps

theorem abort_above_desire : AbortsHigh none ∧ AbortsHigh (some 800) :=
  ⟨⟨abortsFor_200 _, by decide +kernel⟩, abortsFor_200 _, by decide +kernel⟩

/-! ## A rate from outside -/

/-- The rate a tick returns is the current one but in a warm-up that goes on at another. -/
theorem target_eq_current_iff (tick : Tick parts now summary a' decision a) :
    decision.targetRps = a'.currentRps ↔
      ∀ rps duration start samples, a.phase = .warmup rps duration start samples →
        WarmupEnds now summary duration start samples ∨ a.currentRps = rps := by
  induction tick with
  | active here taken => exact ⟨by simp [here], fun _ => (activeTick_spec taken).2.2.1.symm⟩
  | waiting here waits same decided =>
    subst same decided
    constructor
    · intro current rps duration start samples here'
      rw [here] at here'
      cases here'
      exact .inr current.symm
    · intro held
      exact ((held _ _ _ _ here).resolve_left waits).symm
  | warmed here ends taken =>
    refine ⟨fun _ rps duration start samples here' => ?_,
      fun _ => (activeTick_spec taken).2.2.1.symm⟩
    rw [here] at here'
    cases here'
    exact .inl ends
  | exploring here ticked goes given same decided
  | aborted here ticked aborts given same decided =>
    subst same decided
    exact ⟨by simp [here], fun _ => rfl⟩
  | explored here ticked next ih =>
    -- the phase that follows starts at the rate it has
    refine ⟨by simp [here], fun _ => ih.mpr fun rps duration start samples follows => ?_⟩
    obtain ⟨-, -, current, pending⟩ := finishExploration_spec parts _ now _
    rw [current]
    exact .inr (pending rps (by simp [Arbiter.pending, follows])).symm

/-- **An override is adopted, in every state but one of a step experiment that is followed by a
phase at another rate. An update returns the rate that is then the current one, in every
state but one of a warm-up that goes on and is not at its own rate.** -/
theorem override_adopted (parts : ArbiterParts C Q) (a : Arbiter C Q) :
    (∀ now rps a', a.setRate parts now rps = some a' →
      (clamp a.minRps a.maxRps rps = some a'.currentRps ↔
        a.Explored ∨ clamp a.minRps a.maxRps rps = some a.afterExploration)) ∧
    ∀ now summary a' decision, a.update parts now summary = some (a', decision) →
      (decision.targetRps = a'.currentRps ↔
        ∀ rps duration start samples, a.phase = .warmup rps duration start samples →
          WarmupEnds now summary duration start samples ∨ a.currentRps = rps) := by
  refine ⟨fun _ _ a' taken => ?_, fun _ _ _ _ taken => target_eq_current_iff (tick_of_update taken)⟩
  by_cases explored : a.Explored
  · obtain ⟨rate, constraints, given, rfl⟩ := setRate_of_explored explored taken
    exact ⟨fun _ => .inl explored, fun _ => given⟩
  · obtain ⟨manager, here⟩ := not_forall_not.mp explored
    obtain ⟨rate, given, taken⟩ := map_eq_some_iff.mp taken
    have current : a'.currentRps = a.afterExploration := by
      simp only [here] at taken
      rw [← taken]
      exact (finishExploration_spec _ _ _ _).2.2.1
    rw [current, or_iff_right explored]

/-- In active control the 300 is adopted, and the next update returns the current rate. -/
theorem active_override :
    ∃ a, (new backsOffOnce 0).setRate scripted 500000000 300 = some a ∧
      clamp (new backsOffOnce 0).minRps (new backsOffOnce 0).maxRps 300 = some a.currentRps ∧
      ∃ a' decision, a.update scripted 1000000000 emptyWindow = some (a', decision) ∧
        decision.targetRps = a'.currentRps := by
  obtain ⟨a, taken, runs⟩ : ∃ a, (new backsOffOnce 0).setRate scripted 500000000 300 = some a ∧
      (a.update scripted 1000000000 emptyWindow).isSome := by decide +kernel
  obtain ⟨⟨a', decision⟩, updated⟩ := isSome_iff_exists.mp runs
  have explored : (new backsOffOnce 0).Explored := explored_of_active rfl
  obtain ⟨rate, constraints, -, same⟩ := setRate_of_explored explored taken
  have active : a.phase = .active := by
    rw [same]
    rfl
  exact ⟨a, taken, ((override_adopted scripted _).1 _ _ _ taken).mpr (.inl explored), a', decision,
    updated, ((override_adopted scripted a).2 _ _ _ _ updated).mpr (by simp [active])⟩

/-- A warm-up of ten seconds at 500. -/
def warmsAt500 : ArbiterConfig Script Unit :=
  { backsOffOnce with warmup := some (500, 10000000000) }

/-- Set to 300, an arbiter in the step experiment goes to 1000, and one in a warm-up at 500 goes
on to return 500. -/
theorem override_lost :
    (∃ a, (new (warmsAfterwards none) 0).setRate scripted 500000000 300 = some a ∧
      clamp (new (warmsAfterwards none) 0).minRps (new (warmsAfterwards none) 0).maxRps 300 ≠
        some a.currentRps) ∧
    ∃ a, (new warmsAt500 0).setRate scripted 500000000 300 = some a ∧
      ∃ a' decision, a.update scripted 1000000000 emptyWindow = some (a', decision) ∧
        decision.targetRps ≠ a'.currentRps := by
  decide +kernel

end Netanvil.Core.Arbiter
