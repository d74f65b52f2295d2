/-
# Constraints and how they are composed

A constraint reads the window and says what rate it wants, if any. A strategy makes one rate
of what they say, and names the constraint that decided. Both are trait objects in the
source; here they are records of functions over state types of their own, so that results
about the arbiter hold for all constraints and all strategies.
-/
import Netanvil.Core.Controller.Exploration
import Netanvil.Types.Json

namespace Netanvil.Core

open Netanvil.Types List

structure EvalContext where
  summary : MetricsSummary
  currentRate : ℚ
  ticksSinceIncrease : Nat
  minRps : ℚ
  maxRps : ℚ

inductive ConstraintIntent where
  | noObjection
  | hold (rate : ℚ)
  | desireRate (rate : ℚ)

structure ConstraintOutput where
  intent : ConstraintIntent
  /-- 0 is relaxed, 1 is at the threshold. -/
  severity : ℚ

inductive ConstraintClass where
  | operatingPoint
  /-- The known-good floor does not hold it back. -/
  | catastrophic
  deriving DecidableEq

structure WarmupBaseline where
  baselineP99Ms : ℚ
  sampleCount : Nat

/-- Constraints with states in `C`. -/
structure Constraint (C : Type) where
  /-- No output from a constraint that is inactive. -/
  evaluate : C → EvalContext → Option ConstraintOutput × C
  postSelect : C → (selectedRate currentRate : ℚ) → (isBinding : Bool) → C
  id : C → String
  class_ : C → ConstraintClass
  recoveryEstimateTicks : C → Option ℚ
  applyUpdate : C → String → Json → Except String Json × C
  requiresExploration : C → Bool
  onExplorationComplete : C → ExplorationManager → C
  onWarmupComplete : C → WarmupBaseline → C
  onRateOverride : C → ℚ → C

/-! ## Composition -/

/-- What a constraint with an opinion said. -/
structure ConstraintEval where
  constraintIndex : Nat
  desiredRate : ℚ
  severity : ℚ
  class_ : ConstraintClass

structure CompositionResult where
  rate : ℚ
  /-- The index of the constraint that decided. -/
  binding : Option Nat

/-- Strategies with states in `Q`. The constraint that decides is one that was asked. -/
structure CompositionStrategy (Q : Type) where
  compose : Q → List ConstraintEval → (abstainers : Nat) → (defaultRate : ℚ) → CompositionResult × Q
  binds : ∀ {q evals abstainers defaultRate i},
    (compose q evals abstainers defaultRate).1.binding = some i → ∃ e ∈ evals, e.constraintIndex = i

/-- A strategy that names no constraint gives the rate it was to fall back on. -/
def CompositionStrategy.FallsBack {Q : Type} (s : CompositionStrategy Q) : Prop :=
  ∀ q evals abstainers defaultRate, (s.compose q evals abstainers defaultRate).1.binding = none →
    (s.compose q evals abstainers defaultRate).1.rate = defaultRate

/-- The lowest rate, of the first that wants it. -/
def minBy : List ConstraintEval → Option ConstraintEval
  | [] => none
  | e :: rest =>
    match minBy rest with
    | none => some e
    | some least => if least.desiredRate < e.desiredRate then some least else some e

variable {evals : List ConstraintEval} {defaultRate : ℚ} (q : Unit) (abstainers : Nat)

theorem mem_of_minBy {least : ConstraintEval} (found : minBy evals = some least) :
    least ∈ evals := by
  induction evals generalizing least with
  | nil => cases found
  | cons e rest ih =>
    unfold minBy at found
    split at found
    · cases found
      exact mem_cons_self
    · rename_i least' found'
      split at found
      · cases found
        exact mem_cons_of_mem _ (ih found')
      · cases found
        exact mem_cons_self

/-- The most conservative constraint wins. -/
def minSelector : CompositionStrategy Unit where
  compose _ evals _ defaultRate :=
    (match minBy evals with
      | some e => ⟨e.desiredRate, some e.constraintIndex⟩
      | none => ⟨defaultRate, none⟩, ())
  binds := by
    intro q evals abstainers defaultRate i bound
    dsimp only at bound
    split at bound
    · rename_i e found
      exact ⟨e, mem_of_minBy found, Option.some.inj bound⟩
    · cases bound

theorem minSelector_of_none (empty : minBy evals = none) :
    (minSelector.compose q evals abstainers defaultRate).1 = ⟨defaultRate, none⟩ := by
  simp only [minSelector, empty]

theorem minSelector_of_some {e : ConstraintEval}
    (least : minBy evals = some e) : (minSelector.compose q evals abstainers defaultRate).1 =
      ⟨e.desiredRate, some e.constraintIndex⟩ := by
  simp only [minSelector, least]

theorem minSelector_fallsBack : minSelector.FallsBack := by
  intro q evals abstainers defaultRate unnamed
  cases least : minBy evals with
  | none => rw [minSelector_of_none q abstainers least]
  | some e =>
    rw [minSelector_of_some q abstainers least] at unnamed
    cases unnamed

/-! ## Asking all of them -/

variable {C : Type} (k : Constraint C) (ctx : EvalContext)

/-- Ask the constraints, from index `i` on: what they said, and how many abstain. -/
def evaluateAll (i : Nat) : List C → List C × List ConstraintEval × Nat
  | [] => ([], [], 0)
  | c :: rest =>
    let (output, c) := k.evaluate c ctx
    let (rest, evals, abstainers) := evaluateAll (i + 1) rest
    match output with
    | none => (c :: rest, evals, abstainers)
    | some ⟨.noObjection, _⟩ => (c :: rest, evals, abstainers + 1)
    | some ⟨.hold rate, severity⟩ =>
      (c :: rest, ⟨i, rate, severity, k.class_ c⟩ :: evals, abstainers)
    | some ⟨.desireRate rate, severity⟩ =>
      (c :: rest, ⟨i, rate, severity, k.class_ c⟩ :: evals, abstainers)

/-- Every answer is of one of the constraints. -/
theorem index_of_evaluateAll {i : Nat} {cs cs' : List C}
    {abstainers : Nat} (asked : evaluateAll k ctx i cs = (cs', evals, abstainers)) :
    cs'.length = cs.length ∧ ∀ e ∈ evals, e.constraintIndex < i + cs'.length := by
  induction cs generalizing i cs' evals abstainers with
  | nil =>
    cases asked
    exact ⟨rfl, by simp⟩
  | cons c rest ih =>
    obtain ⟨same, bound⟩ := ih (i := i + 1) rfl
    simp only [evaluateAll] at asked
    split at asked <;> cases asked <;> refine ⟨congrArg (· + 1) same, ?_⟩ <;>
      intro e mem <;> simp only [length_cons]
    · have := bound e mem
      omega
    · have := bound e mem
      omega
    all_goals
      rcases mem_cons.mp mem with rfl | mem
      · show i < _
        omega
      · have := bound e mem
        omega

end Netanvil.Core
