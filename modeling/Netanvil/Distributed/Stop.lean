/-
# Which nodes are told to stop

Before `run` returns it sends `stop_test` to every node that `discover` still returns. A node
whose metrics could not be fetched once was marked as failed, so it is not among them, although
its test may well be running. `stopsStarted_iff` says exactly when every started node is stopped.
-/
import Netanvil.Core.StaticRate
import Netanvil.Distributed.Run

namespace Netanvil.Distributed

open Netanvil.Types Netanvil.Core DistributedCoordinator List

open StaticDiscovery (mem_discover)

variable {S : Type} {c : RateController S}

/-! ## The tick loop -/

/-- The inputs a run ticks on while it has nodes: up to the one that ends it. -/
def ticked (duration : Nat) : List TickInput → List TickInput
  | [] => []
  | input :: rest => if input.ends duration then [input] else input :: ticked duration rest

section

variable {l : DistributedCoordinator S} {inputs : List TickInput} {t : Tick S} {n : NodeInfo}
  {id : NodeId}

theorem loop_failed :
    id ∈ (loop c l inputs).leader.discovery.failed ↔
      id ∈ l.discovery.failed ∨
        ∃ t ∈ (loop c l inputs).ticks, ∃ n ∈ t.nodes, n.id = id ∧ t.input.fetch n = none := by
  fun_induction loop c l inputs with
  | case1 l | case2 l input rest empty => simp
  | case3 l input rest nonempty t ends =>
    simp [t, tick_discovery, mem_foldl_markMissing]
  | case4 l input rest nonempty t goesOn next ih =>
    rw [tick_discovery, mem_foldl_markMissing] at ih
    simp [next, ih, t, or_assoc]

/-- A node that is not marked by the end was there at every tick. -/
theorem mem_tick_nodes (ran : t ∈ (loop c l inputs).ticks) (known : n ∈ l.discovery.nodes)
    (kept : n.id ∉ (loop c l inputs).leader.discovery.failed) : n ∈ t.nodes := by
  have unmarked : n.id ∉ l.discovery.failed := fun marked => kept (loop_failed.mpr (.inl marked))
  have here : n ∈ l.discover := mem_discover.mpr ⟨known, unmarked⟩
  fun_induction loop c l inputs with
  | case1 l | case2 l input rest empty => cases ran
  | case3 l input rest nonempty first ends =>
    obtain rfl := mem_singleton.mp ran
    exact here
  | case4 l input rest nonempty first goesOn next ih =>
    rcases mem_cons.mp ran with rfl | later
    · exact here
    · have knownNext : n ∈ first.after.discovery.nodes := by
        rw [tick_nodes_eq]
        exact known
      have unmarkedNext : n.id ∉ first.after.discovery.failed :=
        fun marked => kept (loop_failed.mpr (.inl marked))
      exact ih later knownNext kept unmarkedNext (mem_discover.mpr ⟨knownNext, unmarkedNext⟩)

theorem mem_discover_of_tick {input : TickInput} {nodes : List NodeInfo}
    (still : n ∈ (l.tick c nodes input).after.discover) : n ∈ l.discover := by
  obtain ⟨known, unmarked⟩ := mem_discover.mp still
  rw [tick_nodes_eq] at known
  rw [tick_discovery, mem_foldl_markMissing] at unmarked
  exact mem_discover.mpr ⟨known, fun marked => unmarked (.inl marked)⟩

theorem tick_reached (ran : t ∈ (loop c l inputs).ticks) :
    (∀ m ∈ t.nodes, m ∈ l.discover) ∧ t.input ∈ ticked l.config.duration inputs := by
  fun_induction loop c l inputs with
  | case1 l | case2 l input rest empty => cases ran
  | case3 l input rest nonempty first ends =>
    obtain rfl := mem_singleton.mp ran
    exact ⟨fun m member => member, by simp [ticked, ends, first]⟩
  | case4 l input rest nonempty first goesOn next ih =>
    rw [ticked, if_neg goesOn]
    rcases mem_cons.mp ran with rfl | later
    · exact ⟨fun m member => member, mem_cons_self⟩
    · obtain ⟨discovered, reached⟩ := ih later
      rw [tick_config] at reached
      exact ⟨fun m member => mem_discover_of_tick (discovered m member), mem_cons_of_mem _ reached⟩

theorem loop_inputs (left : (loop c l inputs).leader.discover ≠ []) :
    (loop c l inputs).ticks.map Tick.input = ticked l.config.duration inputs := by
  fun_induction loop c l inputs with
  | case1 l => rfl
  | case2 l input rest empty => exact absurd empty left
  | case3 l input rest nonempty first ends =>
    rw [ticked, if_pos ends]
    rfl
  | case4 l input rest nonempty first goesOn next ih =>
    rw [ticked, if_neg goesOn, map_cons, ih left, tick_config]
    rfl

end

/-! ## The run -/

section

variable {l : DistributedCoordinator S} {input : RunInput}

theorem run_stopped (returned : (l.run c input).result.isSome) :
    (l.run c input).stopped = (loop c (launched c l input) input.ticks).leader.discover := by
  rw [run_eq] at returned ⊢
  by_cases empty : (launched c l input).discover = []
  · rw [loop_alone empty]
    rfl
  · simp only [if_neg empty] at returned ⊢
    split at returned
    · rename_i ended
      rw [if_pos ended]
    · cases returned

/-- A node is still there at the end exactly if no node with its id was ever marked. -/
theorem mem_end_iff {n : NodeInfo} (there : n ∈ l.discover) :
    n ∈ (loop c (launched c l input) input.ticks).leader.discover ↔
      ∀ m ∈ l.discover, m.id = n.id →
        started c l input m = true ∧
          ∀ tick ∈ ticked l.config.duration input.ticks, (tick.fetch m).isSome := by
  have unmarked : n ∈ (loop c (launched c l input) input.ticks).leader.discover ↔
      n.id ∉ (loop c (launched c l input) input.ticks).leader.discovery.failed := by
    rw [discover, mem_discover, loop_leader, afterTicks_nodes (append_nil _).symm, launched_nodes]
    exact and_iff_right (mem_discover.mp there).1
  constructor
  · intro inEnd m thereM sameId
    have kept := unmarked.mp inEnd
    rw [← sameId] at kept
    refine ⟨?_, ?_⟩
    · cases startedM : started c l input m with
      | true => rfl
      | false =>
        exact absurd (loop_failed.mpr (.inl (mem_launched_failed.mpr
          (.inr ⟨m, thereM, rfl, startedM⟩)))) kept
    · intro tick reached
      rw [← launched_config, ← loop_inputs (ne_nil_of_mem inEnd)] at reached
      obtain ⟨t, ran, rfl⟩ := mem_map.mp reached
      have known : m ∈ (launched c l input).discovery.nodes := by
        rw [launched_nodes]
        exact (mem_discover.mp thereM).1
      have inTick := mem_tick_nodes ran known kept
      cases answer : t.input.fetch m with
      | some x => rfl
      | none => exact absurd (loop_failed.mpr (.inr ⟨t, ran, m, inTick, rfl, answer⟩)) kept
  · intro reliable
    refine unmarked.mpr fun marked => ?_
    rcases loop_failed.mp marked with before | ⟨t, ran, m, inTick, sameId, missing⟩
    · rcases mem_launched_failed.mp before with early | ⟨m, thereM, sameId, refused⟩
      · exact (mem_discover.mp there).2 early
      · have accepted := (reliable m thereM sameId).1
        rw [refused] at accepted
        cases accepted
    · obtain ⟨discovered, reached⟩ := tick_reached ran
      rw [launched_config] at reached
      have answered := (reliable m (mem_launched_discover (discovered m inTick)) sameId).2 _ reached
      rw [missing] at answered
      cases answered

/-- **A run stops every node it has started if and only if no node with the id of a
started one refuses the start or fails a fetch at a tick the run reaches.** -/
theorem stopsStarted_iff (returned : (l.run c input).result.isSome) :
    (∀ s ∈ (l.run c input).starts, s.ok = true → s.node ∈ (l.run c input).stopped) ↔
      ∀ n ∈ l.discover, started c l input n = true →
        ∀ m ∈ l.discover, m.id = n.id →
          started c l input m = true ∧
            ∀ tick ∈ ticked l.config.duration input.ticks, (tick.fetch m).isSome := by
  have starts : (l.run c input).starts =
      l.discover.map fun n => ⟨n, startConfig c l n, started c l input n⟩ := by rw [run_eq]
  rw [starts, run_stopped returned, forall_mem_map]
  exact forall₃_congr fun n there _ => mem_end_iff there

end

theorem stopsStarted_oneTick :
    (twoNodes.run staticRateController oneTick).result.isSome ∧
      ∀ s ∈ (twoNodes.run staticRateController oneTick).starts, s.ok = true →
        s.node ∈ (twoNodes.run staticRateController oneTick).stopped := by
  have returned : (twoNodes.run staticRateController oneTick).result.isSome :=
    run_returns ⟨_, mem_cons_self, rfl⟩
  refine ⟨returned, (stopsStarted_iff returned).mpr ?_⟩
  intro n there startedN m thereM sameId
  refine ⟨rfl, ?_⟩
  intro tick reached
  obtain rfl := mem_singleton.mp reached
  rfl

/-- The run returns, the first node's test was started, and only the second is stopped. -/
theorem not_stopped_missedFetch :
    (twoNodes.run staticRateController missedFetch).result.isSome ∧
      (∃ s ∈ (twoNodes.run staticRateController missedFetch).starts, s.node = nodeA ∧ s.ok = true) ∧
      (twoNodes.run staticRateController missedFetch).stopped = [nodeB] := by
  refine ⟨by decide +kernel, ?_, by decide +kernel⟩
  rw [run_eq]
  have first : nodeA ∈ twoNodes.discover := by decide
  exact ⟨_, mem_map.mpr ⟨nodeA, first, rfl⟩, rfl, rfl⟩

end Netanvil.Distributed
