/-
# The constant rate controller
-/
import Netanvil.Types.Control

namespace Netanvil.Core

open Netanvil.Types

/-- `apply_update` of the static controller. -/
def staticApplyUpdate (rps : ℚ) (action : String) (params : Json) : ℚ × Except String Json :=
  if action = "set_rate" then
    match (params.get "rps").bind Json.asF64 with
    | none => (rps, .error "missing 'rps' field")
    | some new =>
      (new, .ok (.obj [("ok", .bool true), ("previous_rps", .float rps), ("new_rps", .float new)]))
  else if action = "set_max_rps" then
    -- there is no upper bound to set
    match (params.get "max_rps").bind Json.asF64 with
    | none => (rps, .error "missing 'max_rps' field")
    | some max => (rps, .ok (.obj [("ok", .bool true), ("new_max_rps", .float max)]))
  else (rps, .error s!"action '{action}' is not valid for controller type 'static'")

/-- The controller that keeps a constant rate; its state is that rate. -/
def staticRateController : RateController ℚ where
  update rps _ := (rps, ⟨rps⟩)
  currentRate rps := rps
  controllerState _ := []
  controllerInfo rps :=
    ⟨.static, rps, ["set_rate", "set_max_rps"], .obj [("rps", .float rps)]⟩
  applyUpdate := staticApplyUpdate

end Netanvil.Core
