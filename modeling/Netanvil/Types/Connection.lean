/-
# Connection policy and connection lifetime

The policy a protocol executor follows when a request is done with its connection,
and the counter that closes a connection after a sampled number of requests.
Sampling is an input: a function of the source that draws from its generator takes
the draw as an argument here.
-/
import Mathlib.Data.Rat.Defs

namespace Netanvil.Types

structure WeightedValue (T : Type) where
  value : T
  weight : ℚ

/-- How values of type `T` are drawn. -/
inductive ValueDistribution (T : Type) where
  | fixed (value : T)
  | uniform (min max : T)
  | normal (mean stddev : ℚ)
  | weighted (entries : List (WeightedValue T))
  | exponential (mean : ℚ)
  | logNormal (mu sigma : ℚ)
  | pareto (scale shape : ℚ)
  | zipf (n : Nat) (exponent : ℚ)

inductive ConnectionPolicy where
  | keepAlive
  | alwaysNew
  | noReuse
  /-- A fraction of the requests reuse connections; each connection may also close
  after a sampled number of requests. -/
  | mixed (persistentRatio : ℚ) (connectionLifetime : Option (ValueDistribution Nat))

/-- Counts requests up to a sampled limit. -/
structure LifecycleCounter where
  count : Nat
  limit : Nat

namespace LifecycleCounter

/-- A new counter; `sample` is the first limit drawn. -/
def new (sample : Nat) : LifecycleCounter := ⟨0, sample⟩

/-- Count one request; true once the count exceeds the limit. -/
def tick (lc : LifecycleCounter) : LifecycleCounter × Bool :=
  ({ lc with count := lc.count + 1 }, decide (lc.count + 1 > lc.limit))

def reset (_ : LifecycleCounter) (sample : Nat) : LifecycleCounter := ⟨0, sample⟩

end LifecycleCounter

end Netanvil.Types
