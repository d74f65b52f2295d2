/-
# What the nodes' rates add up to

A tick sends each node it ran over its share of the decided rate, by core count. The weights
are computed over the nodes discovered before the tick. So after it the rates add up to the
decided rate exactly if no fetch failed in the tick, or the rate is 0 (`ratesConserved_iff`).
-/
import Netanvil.Core.StaticRate
import Netanvil.Theory.Share
import Netanvil.Distributed.Run

namespace Netanvil.Distributed

open Netanvil.Types Netanvil.Core Theory.Share Theory.Tally DistributedCoordinator List
  StaticDiscovery

variable {S : Type} {c : RateController S}

/-- The rate of the last of these `set_rate` calls to the node; 0 without one. -/
def lastRate (calls : List (NodeInfo × ℚ)) (n : NodeInfo) : ℚ :=
  (calls.reverse.find? fun call => call.1.id = n.id).elim 0 Prod.snd

/-- The calls of one round are the last ones, for the nodes they go to. -/
theorem lastRate_append {nodes : List NodeInfo} (distinct : (nodes.map NodeInfo.id).Nodup)
    (calls : List (NodeInfo × ℚ)) (rate : NodeInfo → ℚ) {n : NodeInfo} (member : n ∈ nodes) :
    lastRate (calls ++ nodes.map fun m => (m, rate m)) n = rate n := by
  have found : ((nodes.map fun m => (m, rate m)).reverse.find? fun call => call.1.id = n.id) =
      some (n, rate n) := by
    cases search : (nodes.map fun m => (m, rate m)).reverse.find? fun call => call.1.id = n.id with
    | none =>
      have := find?_eq_none.mp search (n, rate n) (by simp [member])
      simp at this
    | some call =>
      have sameId := find?_some search
      have among := mem_of_find?_eq_some search
      simp only [mem_reverse, mem_map] at among
      obtain ⟨m, inNodes, rfl⟩ := among
      have : m = n := inj_on_of_nodup_map distinct inNodes member (by simpa using sameId)
      rw [this]
  rw [lastRate, reverse_append, find?_append, found]
  rfl

/-! ## One tick -/

section

variable {l : DistributedCoordinator S} {nodes : List NodeInfo} {n : NodeInfo} {input : TickInput}

theorem weight_computeWeights (distinct : (nodes.map NodeInfo.id).Nodup)
    (cores : totalCores nodes ≠ 0) (member : n ∈ nodes) :
    (l.computeWeights nodes).weight n = (n.cores : ℚ) / totalCores nodes := by
  rw [weight, computeWeights, if_neg cores]
  have frame : ∀ (m : Finmap fun _ : NodeId => ℚ) (a : NodeInfo) (k : NodeId), k ≠ a.id →
      (m.insert a.id ((a.cores : ℚ) / totalCores nodes)).lookup k = m.lookup k :=
    fun m _ _ different => Finmap.lookup_insert_of_ne m different
  rw [lookup_foldl_of_mem (g := fun _ => some ((n.cores : ℚ) / totalCores nodes)) frame distinct
    member fun m => Finmap.lookup_insert m]
  rfl

/-- The `set_rate` calls of a tick: each node's share of the decided rate. -/
theorem tick_rates (distinct : (nodes.map NodeInfo.id).Nodup) (cores : totalCores nodes ≠ 0) :
    (l.tick c nodes input).rates = nodes.map fun n =>
      (n, share (fun n => (n.cores : ℚ)) nodes (l.tick c nodes input).decision.targetRps n) := by
  simp only [tick, distributeRate]
  refine map_congr_left fun n member => ?_
  rw [weight_computeWeights distinct cores member, share]
  simp [totalCores, Nat.cast_list_sum, Function.comp_def]

end

/-! ## Every tick of a run -/

section

variable {l : DistributedCoordinator S} {input : RunInput} {earlier later : List (Tick S)}
  {t : Tick S}

/-- The rates last sent to the nodes that are still there after a tick. -/
def currentRates (run : Run S) (earlier : List (Tick S)) (t : Tick S) : List ℚ :=
  t.after.discover.map (lastRate (run.initialRates ++ earlier.flatMap Tick.rates ++ t.rates))

/-- They are shares of the decided rate among all nodes the tick ran over. -/
theorem currentRates_eq (distinct : (l.discovery.nodes.map NodeInfo.id).Nodup)
    (cores : ∀ n ∈ l.discovery.nodes, 0 < n.cores)
    (split : (l.run c input).ticks = earlier ++ t :: later) :
    (t.nodes ≠ [] ∧ ∀ n ∈ t.nodes, 0 < n.cores) ∧
      currentRates (l.run c input) earlier t =
        (t.nodes.filter fun n => (t.input.fetch n).isSome).map
          (share (fun n => (n.cores : ℚ)) t.nodes t.decision.targetRps) := by
  rw [run_ticks] at split
  obtain ⟨nonempty, step⟩ := loop_split split
  -- the leader before the tick
  generalize before : afterTicks (launched c l input) earlier = l' at nonempty step
  have nodes : l'.discovery.nodes = l.discovery.nodes := by
    rw [← before, afterTicks_nodes split, launched_nodes]
  have distinct' : (l'.discover.map NodeInfo.id).Nodup := by
    refine nodup_discover ?_
    rw [nodes]
    exact distinct
  have cores' : ∀ n ∈ l'.discover, 0 < n.cores := by
    intro n there
    refine cores n ?_
    rw [← nodes]
    exact (mem_discover.mp there).1
  have someCores : totalCores l'.discover ≠ 0 := by
    obtain ⟨n, there⟩ := exists_mem_of_ne_nil _ nonempty
    have own : n.cores ≤ totalCores l'.discover :=
      single_le_sum (fun _ _ => Nat.zero_le _) _ (mem_map_of_mem there)
    have := cores' n there
    omega
  rw [step, tick_nodes]
  refine ⟨⟨nonempty, cores'⟩, ?_⟩
  unfold currentRates
  rw [tick_discover (by rw [nodes]; exact distinct), tick_rates distinct' someCores]
  refine map_congr_left fun n kept => ?_
  exact lastRate_append distinct' _ _ (mem_of_mem_filter kept)

/-- **After a tick the nodes' rates add up to the decided rate if and only if no fetch
failed in the tick, or the rate is 0.** -/
theorem ratesConserved_iff (distinct : (l.discovery.nodes.map NodeInfo.id).Nodup)
    (cores : ∀ n ∈ l.discovery.nodes, 0 < n.cores)
    (split : (l.run c input).ticks = earlier ++ t :: later) :
    (currentRates (l.run c input) earlier t).sum = t.decision.targetRps ↔
      (∀ n ∈ t.nodes, (t.input.fetch n).isSome) ∨ t.decision.targetRps = 0 := by
  obtain ⟨⟨nonempty, positive⟩, shares⟩ := currentRates_eq distinct cores split
  rw [shares]
  exact sum_share_filter_iff (fun n there => Nat.cast_pos.mpr (positive n there)) nonempty _ _

end

/-- Both nodes answer, and their rates add up. -/
theorem ratesConserved_oneTick :
    ∃ t, (twoNodes.run staticRateController oneTick).ticks = [t] ∧
      (currentRates (twoNodes.run staticRateController oneTick) [] t).sum =
        t.decision.targetRps := by
  have run : (twoNodes.run staticRateController oneTick).ticks =
      [] ++ (launched staticRateController twoNodes oneTick).tick staticRateController
        [nodeA, nodeB] (.quiet 10000000000 fun n => some (totalsOnly n 100 0)) :: [] := rfl
  refine ⟨_, run, (ratesConserved_iff (by decide) (by decide) run).mpr (.inl ?_)⟩
  exact fun n there => rfl

/-- The first node misses a fetch: 1000 requests per second are decided, and what the
remaining node was told adds up to 500. -/
theorem not_conserved_missedFetch :
    ∃ t later, (twoNodes.run staticRateController missedFetch).ticks = t :: later ∧
      t.decision.targetRps = 1000 ∧
      (currentRates (twoNodes.run staticRateController missedFetch) [] t).sum = 500 := by
  have split : (twoNodes.run staticRateController missedFetch).ticks = [] ++ _ :: _ := rfl
  refine ⟨_, _, split, rfl, ?_⟩
  rw [(currentRates_eq (by decide) (by decide) split).2, sum_share, tick_nodes, tick_input]
  decide +kernel

end Netanvil.Distributed
