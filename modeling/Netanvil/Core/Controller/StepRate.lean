/-
# Rates at predefined offsets

The controller looks the rate up by the time since its start, with every update. So a rate that
was set from outside is gone with the next update, not at the next step (`override_lasts_iff`).
-/
import Netanvil.Config.Wire
import Netanvil.Types.Control

namespace Netanvil.Core

open Netanvil.Types Config List Json

/-- Instants are in nanoseconds from the earliest one there is. -/
structure StepRateController where
  steps : List (Nat × ℚ)
  currentRps : ℚ
  startTime : Nat
  nonempty : steps ≠ []

namespace StepRateController

/-- `none` where the difference of instant and offset panics. -/
def jumpToStep (c : StepRateController) (now index : Nat) :
    Option (StepRateController × Except String ℚ) :=
  match c.steps[index]? with
  | none => some (c, .error s!"step_index {index} out of range (0..{c.steps.length})")
  | some (offset, rps) =>
    if now < offset then none
    else some ({ c with currentRps := rps, startTime := now - offset }, .ok rps)

/-- The loop of `update_from_time`. -/
def scan (elapsed : Nat) : List (Nat × ℚ) → ℚ → ℚ
  | [], rps => rps
  | (offset, stepRps) :: steps, rps => if offset ≤ elapsed then scan elapsed steps stepRps else rps

def updateFromTime (c : StepRateController) (now : Nat) : StepRateController :=
  { c with currentRps := scan (now - c.startTime) c.steps (c.steps.head c.nonempty).2 }

def update (c : StepRateController) (now : Nat) : StepRateController × RateDecision :=
  (c.updateFromTime now, ⟨(c.updateFromTime now).currentRps⟩)

def setRate (c : StepRateController) (rps : ℚ) : StepRateController := { c with currentRps := rps }

/-- The answer to a rate set from outside. -/
def overridden : Json :=
  .obj [("ok", .bool true), ("note", .str "overrides current step until next time boundary")]

def applyUpdate (c : StepRateController) (now : Nat) (action : String) (params : Json) :
    Option (StepRateController × Except String Json) :=
  if action = "jump_to_step" then
    match (params.get "step_index").bind asU64 with
    | none => some (c, .error "missing 'step_index' field")
    | some index => (c.jumpToStep now index).map fun (c, jumped) => (c, jumped.map fun rps =>
        .obj [("ok", .bool true), ("step_index", .int index), ("step_rps", .float rps)])
  else if action = "set_step_rps" then
    match (params.get "rps").bind asF64 with
    | none => some (c, .error "missing 'rps' field")
    | some rps => some (c.setRate rps, .ok overridden)
  else if action = "set_max_rps" then
    -- there is no upper bound to set
    match (params.get "max_rps").bind asF64 with
    | none => some (c, .error "missing 'max_rps' field")
    | some max => some (c, .ok (.obj [("ok", .bool true), ("new_max_rps", .float max)]))
  else some (c, .error s!"action '{action}' is not valid for controller type 'step'")

/-! ## The schedule -/

/-- The rate of the last step that has begun, or of the first one if none has. -/
def scheduledRate (c : StepRateController) (now : Nat) : ℚ :=
  ((c.steps.filter (·.1 ≤ now - c.startTime)).getLast?.getD (c.steps.head c.nonempty)).2

/-- No step begins between the two times. -/
def SameStep (c : StepRateController) (t now : Nat) : Prop :=
  ∀ step ∈ c.steps, step.1 ≤ now - c.startTime → step.1 ≤ t - c.startTime

variable {c : StepRateController} {t now : Nat}

theorem scan_of_sorted {elapsed : Nat} {steps : List (Nat × ℚ)}
    (sorted : steps.Pairwise (·.1 ≤ ·.1)) (first : Nat × ℚ) : scan elapsed steps first.2 =
      ((steps.filter (·.1 ≤ elapsed)).getLast?.getD first).2 := by
  induction steps generalizing first with
  | nil => rfl
  | cons step steps ih =>
    obtain ⟨later, rest⟩ := pairwise_cons.mp sorted
    rw [scan]
    split
    · rename_i begun
      rw [ih rest step, filter_cons_of_pos (by simpa using begun), List.getLast?_cons]
      rfl
    · rename_i waits
      have none_begun : (step :: steps).filter (·.1 ≤ elapsed) = [] := by
        rw [filter_eq_nil_iff, forall_mem_cons]
        simp only [decide_eq_true_eq]
        exact ⟨waits, fun other mem passed => waits ((later other mem).trans passed)⟩
      rw [none_begun]
      rfl

theorem scheduledRate_of_sameStep (le : t ≤ now) (same : c.SameStep t now) :
    c.scheduledRate now = c.scheduledRate t := by
  unfold scheduledRate
  congr 3
  refine filter_congr fun step mem => decide_eq_decide.mpr ⟨same step mem, fun passed => ?_⟩
  exact passed.trans (Nat.sub_le_sub_right le _)

/-- The state after updates at these times. -/
def updates (c : StepRateController) (times : List Nat) : StepRateController :=
  times.foldl (fun c now => (c.update now).1) c

theorem updates_frame (c : StepRateController) (times : List Nat) :
    ∃ rps, c.updates times = c.setRate rps := by
  refine List.foldlRecOn (motive := fun c' => ∃ rps, c' = c.setRate rps) times _
    ⟨c.currentRps, rfl⟩ ?_
  rintro _ ⟨rps, rfl⟩ now -
  exact ⟨_, rfl⟩

/-- **A rate that is set lasts until the next step exactly if it is the scheduled one.** -/
theorem override_lasts_iff (sorted : c.steps.Pairwise (·.1 ≤ ·.1)) (t : Nat) {params : Json}
    {rps : ℚ} (given : (params.get "rps").bind asF64 = some rps) :
    ∃ c', c.applyUpdate t "set_step_rps" params = some (c', .ok overridden) ∧
      ((∀ times, ∀ now ≥ t,
        (c.SameStep t now → ((c'.updates times).update now).2.targetRps = rps) ∧
        (¬ c.SameStep t now →
          ((c'.updates times).update now).2.targetRps = c.scheduledRate now)) ↔
      rps = c.scheduledRate t) := by
  refine ⟨c.setRate rps, by simp [applyUpdate, given], ?_⟩
  have looked : ∀ times now, (((c.setRate rps).updates times).update now).2.targetRps =
      c.scheduledRate now := by
    intro times now
    obtain ⟨rps', frame⟩ := updates_frame (c.setRate rps) times
    rw [frame]
    exact scan_of_sorted sorted _
  simp only [looked]
  constructor
  · intro lasts
    exact ((lasts [] t le_rfl).1 fun _ _ passed => passed).symm
  · intro scheduled times now late
    refine ⟨fun same => ?_, fun _ => trivial⟩
    rw [scheduledRate_of_sameStep late same, scheduled]

/-- 100 requests a second, after ten seconds 200. -/
def twoSteps : StepRateController := ⟨[(0, 100), (10000000000, 200)], 100, 0, by simp⟩

theorem scheduled_rate_lasts : ∃ c', twoSteps.applyUpdate 1000000000 "set_step_rps"
      (.obj [("rps", .float 100)]) = some (c', .ok overridden) ∧
    (c'.update 9000000000).2.targetRps = 100 := by
  obtain ⟨c', set, lasts⟩ := @override_lasts_iff twoSteps (by decide +kernel) 1000000000
    (.obj [("rps", .float 100)]) 100 rfl
  have kept := lasts.mpr (by decide +kernel) [] 9000000000 (by decide)
  exact ⟨c', set, kept.1 (by simp [SameStep, twoSteps])⟩

/-- A second after the rate was set to 500, it is 100 again. -/
theorem override_reclaimed : ∃ c', twoSteps.applyUpdate 1000000000 "set_step_rps"
      (.obj [("rps", .float 500)]) = some (c', .ok overridden) ∧
    (c'.update 2000000000).2.targetRps = 100 :=
  ⟨twoSteps.setRate 500, rfl, by decide +kernel⟩

end StepRateController

end Netanvil.Core
