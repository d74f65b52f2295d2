/-
# The nodes of a distributed test

A fixed list of nodes, less those marked as failed. Marking is by id and for good:
`discover` never returns a node again once a node of its id was marked.
-/
import Netanvil.Types.Node
import Mathlib.Data.List.Nodup

namespace Netanvil.Distributed

open Netanvil.Types List

structure StaticDiscovery where
  nodes : List NodeInfo
  failed : List NodeId

namespace StaticDiscovery

def discover (d : StaticDiscovery) : List NodeInfo :=
  d.nodes.filter fun n => !d.failed.contains n.id

def markFailed (d : StaticDiscovery) (id : NodeId) : StaticDiscovery :=
  if d.failed.contains id then d else { d with failed := d.failed ++ [id] }

@[simp] theorem markFailed_nodes (d : StaticDiscovery) (id : NodeId) :
    (d.markFailed id).nodes = d.nodes := by
  unfold markFailed
  split <;> rfl

@[simp] theorem mem_markFailed_failed (d : StaticDiscovery) (id x : NodeId) :
    x ∈ (d.markFailed id).failed ↔ x ∈ d.failed ∨ x = id := by
  unfold markFailed
  split
  · rename_i known
    constructor
    · exact .inl
    · rintro (member | rfl)
      · exact member
      · exact contains_iff_mem.mp known
  · simp

variable {d d' : StaticDiscovery}

theorem mem_discover {n : NodeInfo} : n ∈ d.discover ↔ n ∈ d.nodes ∧ n.id ∉ d.failed := by
  simp [discover]

theorem nodup_discover (distinct : (d.nodes.map NodeInfo.id).Nodup) :
    (d.discover.map NodeInfo.id).Nodup :=
  distinct.sublist (filter_sublist.map NodeInfo.id)

theorem eq_of_id_eq (distinct : (d.nodes.map NodeInfo.id).Nodup) {n m : NodeInfo}
    (known : n ∈ d.nodes) (there : m ∈ d.discover) (sameId : m.id = n.id) : m = n :=
  inj_on_of_nodup_map distinct (mem_discover.mp there).1 known sameId

/-- What is left when, of the nodes there, those without `kept` get marked. -/
theorem discover_eq_filter {kept : NodeInfo → Bool}
    (nodes : d'.nodes = d.nodes) (grows : ∀ id ∈ d.failed, id ∈ d'.failed)
    (marks : ∀ n ∈ d.discover, n.id ∈ d'.failed ↔ kept n = false) :
    d'.discover = d.discover.filter kept := by
  rw [discover, discover, nodes, filter_filter]
  refine filter_congr fun n known => ?_
  by_cases marked : n.id ∈ d.failed
  · simp [marked, grows n.id marked]
  · have later := marks n (mem_discover.mpr ⟨known, marked⟩)
    cases answer : kept n with
    | true => simp [later, answer, marked]
    | false => simp [later, answer]

end StaticDiscovery

end Netanvil.Distributed
