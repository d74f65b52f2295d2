/-
# Counters of a window beside its requests

Scheduling delays, CPU affinity, TCP health and packet counters. Two windows' counters
add up: sums add, maxima take the larger one. With that addition each kind is a
commutative monoid, the empty window being zero.
-/
import Mathlib.Algebra.BigOperators.Group.List.Basic
import Mathlib.Order.Lattice

namespace Netanvil.Types

open Nat

/-! ## Scheduling delays -/

/-- One component of the scheduling delay: its sum and its maximum over a window. -/
@[ext] structure DelayStats where
  sumNs : Nat
  maxNs : Nat

namespace DelayStats

instance : Zero DelayStats := ⟨⟨0, 0⟩⟩

instance : Add DelayStats := ⟨fun a b => ⟨a.sumNs + b.sumNs, max a.maxNs b.maxNs⟩⟩

instance : AddCommMonoid DelayStats where
  add_assoc a b c := DelayStats.ext (add_assoc _ _ _) (max_assoc _ _ _)
  zero_add a := DelayStats.ext (Nat.zero_add _) (Nat.zero_max _)
  add_zero a := DelayStats.ext (Nat.add_zero _) (Nat.max_zero _)
  add_comm a b := DelayStats.ext (Nat.add_comm _ _) (max_comm _ _)
  nsmul := nsmulRec

def record (d : DelayStats) (ns : Nat) : DelayStats where
  sumNs := d.sumNs + ns
  maxNs := if ns > d.maxNs then ns else d.maxNs

theorem record_eq (d : DelayStats) (ns : Nat) : d.record ns = d + ⟨ns, ns⟩ := by
  refine DelayStats.ext rfl ?_
  show (if ns > d.maxNs then ns else d.maxNs) = max d.maxNs ns
  split <;> omega

end DelayStats

/-! ## CPU affinity -/

/-- Sampled reads by where they arrived: on the worker's own CPU, on another, unknown. -/
@[ext] structure CpuAffinityCounters where
  hits : Nat
  misses : Nat
  unknown : Nat

namespace CpuAffinityCounters

instance : Zero CpuAffinityCounters := ⟨⟨0, 0, 0⟩⟩

instance : Add CpuAffinityCounters :=
  ⟨fun a b => ⟨a.hits + b.hits, a.misses + b.misses, a.unknown + b.unknown⟩⟩

instance : AddCommMonoid CpuAffinityCounters where
  add_assoc a b c :=
    CpuAffinityCounters.ext (add_assoc _ _ _) (add_assoc _ _ _) (add_assoc _ _ _)
  zero_add a := CpuAffinityCounters.ext (zero_add _) (zero_add _) (zero_add _)
  add_zero a := CpuAffinityCounters.ext (add_zero _) (add_zero _) (add_zero _)
  add_comm a b := CpuAffinityCounters.ext (add_comm _ _) (add_comm _ _) (add_comm _ _)
  nsmul := nsmulRec

/-- A negative `incomingCpu` means the kernel did not say. -/
def record (c : CpuAffinityCounters) (incomingCpu : Int) (workerCpu : Nat) : CpuAffinityCounters :=
  if incomingCpu < 0 then { c with unknown := c.unknown + 1 }
  else if incomingCpu.toNat = workerCpu then { c with hits := c.hits + 1 }
  else { c with misses := c.misses + 1 }

theorem record_eq (c : CpuAffinityCounters) (incomingCpu : Int) (workerCpu : Nat) :
    c.record incomingCpu workerCpu = c + record 0 incomingCpu workerCpu := by
  unfold record
  split
  · rfl
  · split <;> rfl

end CpuAffinityCounters

/-! ## TCP health -/

/-- Of one `TCP_INFO` sample, what is counted. -/
structure TcpInfo where
  rtt : Nat
  totalRetrans : Nat
  lost : Nat

@[ext] structure TcpHealthCounters where
  rttSumUs : Nat
  rttCount : Nat
  rttMaxUs : Nat
  retransmits : Nat
  lost : Nat

namespace TcpHealthCounters

instance : Zero TcpHealthCounters := ⟨⟨0, 0, 0, 0, 0⟩⟩

instance : Add TcpHealthCounters :=
  ⟨fun a b => ⟨a.rttSumUs + b.rttSumUs, a.rttCount + b.rttCount, max a.rttMaxUs b.rttMaxUs,
    a.retransmits + b.retransmits, a.lost + b.lost⟩⟩

instance : AddCommMonoid TcpHealthCounters where
  add_assoc a b c :=
    TcpHealthCounters.ext (add_assoc _ _ _) (add_assoc _ _ _) (max_assoc _ _ _)
      (add_assoc _ _ _) (add_assoc _ _ _)
  zero_add a :=
    TcpHealthCounters.ext (Nat.zero_add _) (Nat.zero_add _) (Nat.zero_max _) (Nat.zero_add _)
      (Nat.zero_add _)
  add_zero a :=
    TcpHealthCounters.ext (Nat.add_zero _) (Nat.add_zero _) (Nat.max_zero _) (Nat.add_zero _)
      (Nat.add_zero _)
  add_comm a b :=
    TcpHealthCounters.ext (add_comm _ _) (add_comm _ _) (max_comm _ _) (add_comm _ _)
      (add_comm _ _)
  nsmul := nsmulRec

def record (c : TcpHealthCounters) (info : TcpInfo) : TcpHealthCounters where
  rttSumUs := c.rttSumUs + info.rtt
  rttCount := c.rttCount + 1
  rttMaxUs := if info.rtt > c.rttMaxUs then info.rtt else c.rttMaxUs
  retransmits := c.retransmits + info.totalRetrans
  lost := c.lost + info.lost

theorem record_eq (c : TcpHealthCounters) (info : TcpInfo) :
    c.record info = c + ⟨info.rtt, 1, info.rtt, info.totalRetrans, info.lost⟩ := by
  refine TcpHealthCounters.ext rfl rfl ?_ rfl rfl
  show (if info.rtt > c.rttMaxUs then info.rtt else c.rttMaxUs) = max c.rttMaxUs info.rtt
  split <;> omega

end TcpHealthCounters

/-! ## Packets -/

/-- What a packet counter source has counted since it was last asked. -/
@[ext] structure PacketCounterDeltas where
  sent : Nat
  received : Nat
  lost : Nat

namespace PacketCounterDeltas

instance : Zero PacketCounterDeltas := ⟨⟨0, 0, 0⟩⟩

instance : Add PacketCounterDeltas :=
  ⟨fun a b => ⟨a.sent + b.sent, a.received + b.received, a.lost + b.lost⟩⟩

instance : AddCommMonoid PacketCounterDeltas where
  add_assoc a b c :=
    PacketCounterDeltas.ext (add_assoc _ _ _) (add_assoc _ _ _) (add_assoc _ _ _)
  zero_add a := PacketCounterDeltas.ext (zero_add _) (zero_add _) (zero_add _)
  add_zero a := PacketCounterDeltas.ext (add_zero _) (add_zero _) (add_zero _)
  add_comm a b := PacketCounterDeltas.ext (add_comm _ _) (add_comm _ _) (add_comm _ _)
  nsmul := nsmulRec

end PacketCounterDeltas

end Netanvil.Types
