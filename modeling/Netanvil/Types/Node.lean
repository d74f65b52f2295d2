/-
# Nodes of the cluster and the test they run

Numbers that are `f64` in the source are exact rationals, durations are nanoseconds.
-/
import Mathlib.Data.Rat.Defs

namespace Netanvil.Types

structure NodeId where
  name : String
  deriving DecidableEq

inductive NodeState where
  | idle
  | running
  | completed
  | failed
  deriving DecidableEq

structure NodeInfo where
  id : NodeId
  /-- "host:port" of the agent's API. -/
  addr : String
  cores : Nat
  state : NodeState
  deriving DecidableEq

/-- How the request rate is controlled; of the adaptive controller's settings only the
starting rate is kept. -/
inductive RateConfig where
  | static (rps : ℚ)
  | step (steps : List (Nat × ℚ))
  | adaptive (initialRps : Option ℚ)
  deriving DecidableEq

/-- The settings that the leader and an agent's start path read. -/
structure TestConfig where
  duration : Nat
  rate : RateConfig
  /-- Worker cores; 0 asks for auto-detection. -/
  numCores : Nat
  controlInterval : Nat
  deriving DecidableEq

end Netanvil.Types
