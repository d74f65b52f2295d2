/-
# Rate controllers and the commands that reach them

A rate controller is a trait object in the source. Here it is a record of functions
over a state type of its own, so that every result about the coordinators holds for
every controller.
-/
import Netanvil.Types.Metrics
import Netanvil.Types.Json

namespace Netanvil.Types

inductive ControllerType where
  | static
  | step
  | pid
  | pidAutotune
  | compositePid
  | ramp
  | arbiter
  deriving DecidableEq

structure ControllerInfo where
  controllerType : ControllerType
  currentRps : ℚ
  editableActions : List String
  params : Json

/-- Hold state of a coordinator. -/
inductive HoldState where
  | released
  | held (rps : ℚ)
  deriving DecidableEq

inductive HoldCommand where
  | hold (rps : ℚ)
  | release

def HoldCommand.apply : HoldCommand → HoldState
  | .hold rps => .held rps
  | .release => .released

/-- The held rate, if the rate is held. -/
def HoldState.heldRps : HoldState → Option ℚ
  | .released => none
  | .held rps => some rps

structure ControllerView where
  info : ControllerInfo
  held : Bool
  heldRps : Option ℚ

/-- A rate controller with states in `S`. -/
structure RateController (S : Type) where
  update : S → MetricsSummary → S × RateDecision
  currentRate : S → ℚ
  controllerState : S → List (String × ℚ)
  controllerInfo : S → ControllerInfo
  applyUpdate : S → String → Json → S × Except String Json

/-- Add signals by name, over those of the same name. -/
def upsertSignal (signals : List (String × ℚ)) (signal : String × ℚ) : List (String × ℚ) :=
  match signals with
  | [] => [signal]
  | first :: rest =>
    if first.1 = signal.1 then (first.1, signal.2) :: rest else first :: upsertSignal rest signal

end Netanvil.Types
