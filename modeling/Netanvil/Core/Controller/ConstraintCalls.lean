/-
# What an arbiter does to each of its constraints

An arbiter keeps its constraints in their places. An active tick asks each of them and tells it what
was selected (`constraint_of_activeTick`); the other calls reach some of them. So a relation that
each call on a constraint keeps, holds between the constraint at an index before and after
(`kept_of_tick`, `kept_while_exploring`).
-/
import Netanvil.Core.Controller.StepExperiment

namespace Netanvil.Core

open Netanvil.Types Theory Theory.Trace Option List

variable {C Q : Type}

theorem constraints_evaluateAll (k : Constraint C) (ctx : EvalContext) (i : Nat) (cs : List C) :
    (evaluateAll k ctx i cs).1 = cs.map fun c => (k.evaluate c ctx).2 := by
  induction cs generalizing i with
  | nil => rfl
  | cons c rest ih =>
    rw [map_cons, ← ih (i + 1)]
    simp only [evaluateAll]
    split <;> rfl

/-- A relation between a constraint and what it is after being asked. -/
structure Constraint.AsksKeep (k : Constraint C) (R : C → C → Prop) : Prop where
  refl : ∀ c, R c c
  trans : ∀ {c d e}, R c d → R d e → R c e
  evaluate : ∀ c ctx, R c (k.evaluate c ctx).2
  onWarmupComplete : ∀ c baseline, R c (k.onWarmupComplete c baseline)

/-- Or told what was selected: all that a tick does after the step experiment. -/
structure Constraint.TicksKeep (k : Constraint C) (R : C → C → Prop) : Prop
    extends k.AsksKeep R where
  postSelect : ∀ c selectedRate currentRate isBinding,
    R c (k.postSelect c selectedRate currentRate isBinding)

/-- Or changed from outside. -/
structure Constraint.CallsKeep (k : Constraint C) (R : C → C → Prop) : Prop
    extends k.AsksKeep R where
  applyUpdate : ∀ c action params, R c (k.applyUpdate c action params).2
  onRateOverride : ∀ c newRate, R c (k.onRateOverride c newRate)

/-- What is seen of a constraint is the same. -/
def Alike {β : Type} (see : C → β) (c d : C) : Prop := see d = see c

namespace Arbiter

variable {parts : ArbiterParts C Q} {a a' b : Arbiter C Q} {now i : Nat} {summary : MetricsSummary}
  {decision : RateDecision} {R : C → C → Prop} {c : C}

/-- What the constraints are asked with. -/
def context (a : Arbiter C Q) (summary : MetricsSummary) : EvalContext :=
  ⟨summary, a.currentRps, a.ticksSinceIncrease, a.minRps, a.maxRps⟩

/-- An active tick asks a constraint, and tells it what was selected and whether it decided. -/
theorem constraint_of_activeTick (taken : a.activeTick parts now summary = some (a', decision))
    (here : a.constraints[i]? = some c) :
    a'.constraints[i]? = some (parts.constraint.postSelect
      (parts.constraint.evaluate c (a.context summary)).2 decision.targetRps a.currentRps
      ((a.compose parts summary).result.binding == some i)) := by
  obtain ⟨binding, -, taken⟩ := bind_eq_some_iff.mp taken
  obtain ⟨rate, -, same⟩ := map_eq_some_iff.mp taken
  cases same
  have asked : (a.compose parts summary).constraints =
      a.constraints.map fun c => (parts.constraint.evaluate c (a.context summary)).2 :=
    constraints_evaluateAll _ _ _ _
  simp only [settle, postSelectAll, getElem?_mapIdx, asked, getElem?_map, here, map_some]

/-! ## The step experiment -/

theorem kept_of_checkAborts (keeps : parts.constraint.AsksKeep R) (ctx : EvalContext)
    (safeRate : ℚ) (abort : Bool) {cs : List C} (here : cs[i]? = some c) :
    ∃ c', (checkAborts parts ctx safeRate abort cs).1[i]? = some c' ∧ R c c' := by
  induction cs generalizing i safeRate abort with
  | nil => simp at here
  | cons d rest ih =>
    -- what becomes of the first, and that the others are gone through
    have split : ∃ d' safeRate' abort', R d d' ∧ (checkAborts parts ctx safeRate abort
        (d :: rest)).1 = d' :: (checkAborts parts ctx safeRate' abort' rest).1 := by
      by_cases skips : (parts.constraint.requiresExploration d ||
          parts.constraint.class_ d != .catastrophic) = true
      · refine ⟨d, safeRate, abort, keeps.refl d, ?_⟩
        rw [checkAborts, if_pos skips]
      · cases aborts : (parts.constraint.evaluate d ctx).1.bind (abortsAt safeRate) with
        | none =>
          refine ⟨_, safeRate, abort, keeps.evaluate d ctx, ?_⟩
          rw [checkAborts, if_neg skips]
          simp only [aborts]
        | some lower =>
          refine ⟨_, lower, true, keeps.evaluate d ctx, ?_⟩
          rw [checkAborts, if_neg skips]
          simp only [aborts]
    obtain ⟨d', safeRate', abort', kept, same⟩ := split
    rw [same]
    cases i with
    | zero =>
      cases here
      exact ⟨d', rfl, kept⟩
    | succ i => exact ih safeRate' abort' here

theorem kept_of_updateConstraint (keeps : parts.constraint.CallsKeep R) {id action : String}
    {params : Json} {cs cs' : List C} {result : Except String Json}
    (updated : updateConstraint parts id action params cs = some (cs', result))
    (here : cs[i]? = some c) : ∃ c', cs'[i]? = some c' ∧ R c c' := by
  induction cs generalizing i cs' with
  | nil => simp at here
  | cons d rest ih =>
    unfold updateConstraint at updated
    split at updated
    · cases updated
      cases i with
      | zero =>
        cases here
        exact ⟨_, rfl, keeps.applyUpdate _ _ _⟩
      | succ i => exact ⟨c, here, keeps.refl c⟩
    · obtain ⟨⟨rest', result'⟩, found, same⟩ := map_eq_some_iff.mp updated
      cases same
      cases i with
      | zero =>
        cases here
        exact ⟨_, rfl, keeps.refl _⟩
      | succ i =>
        obtain ⟨c', there, kept⟩ := ih found here
        exact ⟨c', there, kept⟩

theorem kept_of_applyUpdate (keeps : parts.constraint.CallsKeep R) (action : String) (params : Json)
    (here : a.constraints[i]? = some c) :
    ∃ c', (a.applyUpdate parts action params).1.constraints[i]? = some c' ∧ R c c' := by
  unfold applyUpdate
  split
  · split <;> exact ⟨c, here, keeps.refl c⟩
  · split
    · split <;> exact ⟨c, here, keeps.refl c⟩
    · split
      · split
        · rename_i updated
          exact kept_of_updateConstraint keeps updated here
        · exact ⟨c, here, keeps.refl c⟩
      · exact ⟨c, here, keeps.refl c⟩
      · exact ⟨c, here, keeps.refl c⟩

theorem constraints_finishExploration (parts : ArbiterParts C Q) (a : Arbiter C Q) (now : Nat)
    (manager : ExplorationManager) :
    (a.finishExploration parts now manager).constraints =
      a.constraints.map (parts.constraint.onExplorationComplete · manager) := by
  unfold finishExploration transitionPostExploration
  split <;> rfl

variable {made : ArbiterCall}

/-- A call after which the experiment goes on: it went on before, and got one window at most. -/
theorem kept_while_exploring (keeps : parts.constraint.CallsKeep R)
    {manager' : ExplorationManager} (taken : a.call parts made = some a')
    (after : a'.phase = .exploration manager') : ∃ manager, a.phase = .exploration manager ∧
      (manager' = manager ∨ ∃ summary rate, manager.tick summary = (some rate, manager')) ∧
      ∀ (i : Nat) (c : C), a.constraints[i]? = some c →
        ∃ c', a'.constraints[i]? = some c' ∧ R c c' := by
  cases made with
  | update now summary =>
    obtain ⟨⟨a'', decision⟩, updated, rfl⟩ := map_eq_some_iff.mp taken
    cases tick_of_update updated with
    | active phase taken =>
      rw [(activeTick_spec taken).2.1, phase] at after
      cases after
    | waiting phase _ same _ =>
      rw [same] at after
      cases after
    | warmed phase _ taken =>
      rw [(activeTick_spec taken).2.1] at after
      cases after
    | exploring phase ticked _ _ same _ =>
      rw [same] at after ⊢
      cases after
      exact ⟨_, phase, .inr ⟨summary, _, ticked⟩,
        fun i c here => kept_of_checkAborts keeps.toAsksKeep _ _ _ here⟩
    | aborted phase _ _ _ same _ =>
      rw [same] at after
      exact absurd after ((finishExploration_spec _ _ _ _).2.1 _)
    | explored phase _ next =>
      obtain ⟨-, manager, -, again, -⟩ := exploring_of_tick next after
      exact absurd again ((finishExploration_spec _ _ _ _).2.1 manager)
  | setRate now rps =>
    obtain ⟨rate, -, rfl⟩ := map_eq_some_iff.mp taken
    cases phase : a.phase with
    | exploration manager =>
      simp only [phase] at after
      exact absurd after ((finishExploration_spec _ _ _ _).2.1 _)
    | warmup rps duration start samples | active => simp [phase] at after
  | setMaxRps maxRps =>
    cases taken
    exact ⟨_, after, .inl rfl, fun i c here => ⟨c, here, keeps.refl c⟩⟩
  | applyUpdate action params =>
    cases taken
    have same : (a.applyUpdate parts action params).1.phase = a.phase := by
      rcases applyUpdate_cases parts a action params with ⟨constraints, same⟩ | ⟨maxRps, same⟩ |
        ⟨minRps, -, -, same⟩
      · rw [same]
      · rw [same, setMaxRps]
      · rw [same]
    exact ⟨_, same.symm.trans after, .inl rfl,
      fun i c here => kept_of_applyUpdate keeps action params here⟩

/-! ## The active tick of a call -/

instance (now : Nat) (summary : MetricsSummary) (duration start : Nat) (samples : List ℚ) :
    Decidable (WarmupEnds now summary duration start samples) := inferInstanceAs (Decidable (_ ∧ _))

/-- The arbiter as it is when a tick after the step experiment asks the constraints, if it does. -/
def entersActive (parts : ArbiterParts C Q) (a : Arbiter C Q) (now : Nat)
    (summary : MetricsSummary) : Option (Arbiter C Q) :=
  match a.phase with
  | .active => some a
  | .warmup rps duration start samples =>
    if WarmupEnds now summary duration start samples then
      some (a.warmedUp parts now rps (collectSample summary samples))
    else none
  | .exploration _ => none

/-- The active tick of a call: the arbiter that takes it, and the window. -/
def activeIn (parts : ArbiterParts C Q) (a : Arbiter C Q) :
    ArbiterCall → Option (Arbiter C Q × MetricsSummary)
  | .update now summary =>
    match a.phase with
    | .exploration manager =>
      match manager.tick summary with
      | (some _, _) => none
      | (none, manager) =>
        ((a.finishExploration parts now manager).entersActive parts now summary).map
          (·, summary)
    | _ => (a.entersActive parts now summary).map (·, summary)
  | _ => none

theorem entersActive_of_tick (keeps : parts.constraint.AsksKeep R)
    (tick : Tick parts now summary a' decision a) (explored : ∀ m, a.phase ≠ .exploration m)
    (here : a.constraints[i]? = some c) :
    (a.entersActive parts now summary = none ∧ a'.constraints[i]? = some c) ∨
      ∃ b c', a.entersActive parts now summary = some b ∧
        b.activeTick parts now summary = some (a', decision) ∧ b.constraints[i]? = some c' ∧
        R c c' := by
  cases tick with
  | active phase taken =>
    exact .inr ⟨a, c, by rw [entersActive, phase], taken, here, keeps.refl c⟩
  | waiting phase waits same =>
    refine .inl ⟨?_, by rw [same]; exact here⟩
    simp only [entersActive, phase, if_neg waits]
  | @warmed _ rps _ _ samples phase ends taken =>
    refine .inr ⟨_, _, ?_, taken, ?_, keeps.onWarmupComplete c
      ⟨baselineOf (collectSample summary samples), (collectSample summary samples).length⟩⟩
    · simp only [entersActive, phase, if_pos ends]
    · rw [warmedUp, getElem?_map, here, map_some]
  | exploring phase | aborted phase | explored phase => exact absurd phase (explored _)

/-- A tick after the step experiment. -/
theorem kept_of_tick (keeps : parts.constraint.TicksKeep R)
    (tick : Tick parts now summary a' decision a) (explored : ∀ m, a.phase ≠ .exploration m)
    (here : a.constraints[i]? = some c) : ∃ c', a'.constraints[i]? = some c' ∧ R c c' := by
  rcases entersActive_of_tick keeps.toAsksKeep tick explored here with
    ⟨-, same⟩ | ⟨b, d, -, taken, there, kept⟩
  · exact ⟨c, same, keeps.refl c⟩
  · exact ⟨_, constraint_of_activeTick taken there,
      keeps.trans kept (keeps.trans (keeps.evaluate _ _) (keeps.postSelect _ _ _ _))⟩

/-- A call has an active tick, or does not tell the constraint what was selected. -/
def Reaches (parts : ArbiterParts C Q) (R : C → C → Prop) (a : Arbiter C Q) (made : ArbiterCall)
    (a' : Arbiter C Q) (i : Nat) (c : C) : Prop :=
  (a.activeIn parts made = none ∧ ∃ c', a'.constraints[i]? = some c' ∧ R c c') ∨
    ∃ b now summary decision c', a.activeIn parts made = some (b, summary) ∧
      b.activeTick parts now summary = some (a', decision) ∧ b.constraints[i]? = some c' ∧ R c c'

theorem reaches_of_tick (keeps : parts.constraint.AsksKeep R) {d : C}
    (tick : Tick parts now summary a' decision b) (explored : ∀ m, b.phase ≠ .exploration m)
    (there : b.constraints[i]? = some d) (kept : R c d)
    (shows : a.activeIn parts made = (b.entersActive parts now summary).map (·, summary)) :
    Reaches parts R a made a' i c := by
  rcases entersActive_of_tick keeps tick explored there with
    ⟨silent, same⟩ | ⟨b', e, enters, taken, there', kept'⟩
  · exact .inl ⟨by rw [shows, silent, map_none], d, same, kept⟩
  · exact .inr ⟨b', now, summary, decision, e, by rw [shows, enters, map_some], taken,
      there', keeps.trans kept kept'⟩

theorem reaches_of_call (keeps : parts.constraint.CallsKeep R)
    (explores : ∀ c manager, R c (parts.constraint.onExplorationComplete c manager))
    (taken : a.call parts made = some a') (here : a.constraints[i]? = some c) :
    Reaches parts R a made a' i c := by
  have finished : ∀ (b : Arbiter C Q) (now : Nat) (manager : ExplorationManager) (d : C),
      b.constraints[i]? = some d →
      ∃ d', (b.finishExploration parts now manager).constraints[i]? = some d' ∧ R d d' := by
    intro b now manager d there
    refine ⟨_, ?_, explores d manager⟩
    rw [constraints_finishExploration, getElem?_map, there, map_some]
  cases made with
  | update now summary =>
    obtain ⟨⟨a'', decision⟩, updated, rfl⟩ := map_eq_some_iff.mp taken
    have tick := tick_of_update updated
    have direct : (∀ m, a.phase ≠ .exploration m) → a.activeIn parts (.update now summary) =
        (a.entersActive parts now summary).map (·, summary) →
        Reaches parts R a (.update now summary) a'' i c := fun explored =>
      reaches_of_tick keeps.toAsksKeep tick explored here (keeps.refl c)
    cases tick with
    | active phase | waiting phase | warmed phase =>
      exact direct (by simp [phase]) (by simp only [activeIn, phase])
    | exploring phase ticked _ _ same _ =>
      refine .inl ⟨by simp only [activeIn, phase, ticked], ?_⟩
      rw [same]
      exact kept_of_checkAborts keeps.toAsksKeep _ _ _ here
    | @aborted _ _ manager rate clamped phase ticked _ _ same _ =>
      refine .inl ⟨by simp only [activeIn, phase, ticked], ?_⟩
      obtain ⟨d, asked, kept⟩ : ∃ d,
          (a.watched parts summary rate manager clamped).constraints[i]? = some d ∧ R c d :=
        kept_of_checkAborts keeps.toAsksKeep _ _ _ here
      obtain ⟨d', there, kept'⟩ := finished _ now manager d asked
      rw [same]
      exact ⟨d', there, keeps.trans kept kept'⟩
    | @explored _ _ manager phase ticked next =>
      obtain ⟨d, there, kept⟩ := finished a now manager c here
      exact reaches_of_tick keeps.toAsksKeep next
        (fun m => (finishExploration_spec _ _ _ _).2.1 m) there kept
        (by simp only [activeIn, phase, ticked])
  | setRate now rps =>
    refine .inl ⟨rfl, ?_⟩
    obtain ⟨rate, -, rfl⟩ := map_eq_some_iff.mp taken
    -- all are told of the rate, or none
    obtain ⟨d, there, kept⟩ : ∃ d, (if f64Epsilon < |rate - a.currentRps| then
        a.constraints.map (parts.constraint.onRateOverride · rate) else a.constraints)[i]? =
          some d ∧ R c d := by
      split
      · exact ⟨_, by rw [getElem?_map, here, map_some], keeps.onRateOverride c rate⟩
      · exact ⟨c, here, keeps.refl c⟩
    cases phase : a.phase with
    | exploration manager =>
      obtain ⟨d', there', kept'⟩ := finished { a with
        constraints := if f64Epsilon < |rate - a.currentRps| then
          a.constraints.map (parts.constraint.onRateOverride · rate) else a.constraints
        currentRps := rate } now manager d there
      exact ⟨d', by simpa only [phase] using there', keeps.trans kept kept'⟩
    | warmup rps duration start samples | active =>
      exact ⟨d, by simpa only [phase] using there, kept⟩
  | setMaxRps maxRps =>
    cases taken
    exact .inl ⟨rfl, c, here, keeps.refl c⟩
  | applyUpdate action params =>
    cases taken
    exact .inl ⟨rfl, kept_of_applyUpdate keeps action params here⟩

end Arbiter

end Netanvil.Core
