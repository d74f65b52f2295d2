/-
# When the leader's totals do not go down

A progress update and the final result show the sums of what the agents have last reported.
Some seconds after its test has ended an agent's metrics are cleared, and the leader takes the
answer that there are none for totals of 0. If no node's answers go down (`Rising`), neither do
the leader's sums (`loop_isChain`); for the agents that is so as long as none of them has been
cleared between two answers.
-/
import Netanvil.Core.StaticRate
import Netanvil.Agent.Reporting
import Netanvil.Distributed.Run
import Netanvil.Distributed.HttpCluster

namespace Netanvil.Types

/-- Requests and errors. -/
def RemoteMetrics.totals (r : RemoteMetrics) : Nat × Nat := (r.totalRequests, r.totalErrors)

end Netanvil.Types

namespace Netanvil.Distributed

open Netanvil.Types Agent Netanvil.Core Theory.Tally DistributedCoordinator List Option
  StaticDiscovery TickInput

variable {S : Type} {c : RateController S}

/-- The totals a run has shown: those of its progress updates, then those of its result. -/
def shownTotals (r : Run S) : List (Nat × Nat) :=
  r.progress.map (fun u => (u.totalRequests, u.totalErrors)) ++
    r.result.toList.map fun x => (x.totalRequests, x.totalErrors)

/-- The rounds of fetches of a run, in order. -/
def fetchRounds (input : RunInput) : List (NodeInfo → Option RemoteMetrics) :=
  input.ticks.map fetch ++ [input.finalFetch]

/-! ## The leader -/

/-- What a node answers over some rounds does not go down. -/
def Rising (rounds : List (NodeInfo → Option RemoteMetrics)) (n : NodeInfo) : Prop :=
  rounds.Pairwise fun earlier later =>
    ∀ r, earlier n = some r → ∀ r', later n = some r' → r.totals ≤ r'.totals

/-- No answer to come is below what the leader has stored of its node. -/
def Below (l : DistributedCoordinator S) (rounds : List (NodeInfo → Option RemoteMetrics)) : Prop :=
  ∀ n ∈ l.discovery.nodes, ∀ r, l.nodeMetrics.lookup n.id = some r →
    ∀ fetch ∈ rounds, ∀ r', fetch n = some r' → r.totals ≤ r'.totals

/-- The sums over what the leader has stored. -/
def storedTotals (m : Finmap fun _ : NodeId => RemoteMetrics) : Nat × Nat :=
  (tally RemoteMetrics.totalRequests m, tally RemoteMetrics.totalErrors m)

section

variable {fetch : NodeInfo → Option RemoteMetrics} {nodes : List NodeInfo}

theorem tally_le_collected (f : RemoteMetrics → Nat) (distinct : (nodes.map NodeInfo.id).Nodup)
    {m : Finmap fun _ : NodeId => RemoteMetrics}
    (rises : ∀ n ∈ nodes, ∀ r, m.lookup n.id = some r → ∀ r', fetch n = some r' → f r ≤ f r') :
    tally f m ≤ tally f (nodes.foldl (storeReport fetch) m) := by
  induction nodes generalizing m with
  | nil => exact le_refl _
  | cons node rest ih =>
    obtain ⟨fresh, distinctRest⟩ := nodup_cons.mp distinct
    have first : tally f m ≤ tally f (storeReport fetch m node) := by
      unfold storeReport
      split
      · rename_i r' answer
        exact tally_le_insert f fun r stored => rises node (by simp) r stored r' answer
      · exact le_refl _
    refine le_trans first (ih distinctRest fun n member r stored => ?_)
    -- storing the report of `node` leaves those of the rest as they were
    have different : n.id ≠ node.id := by
      intro same
      exact fresh (same ▸ mem_map_of_mem member)
    rw [lookup_storeReport_of_ne m node n.id different] at stored
    exact rises n (by simp [member]) r stored

variable {l : DistributedCoordinator S} {rounds : List (NodeInfo → Option RemoteMetrics)}

/-- A round of answers none of which is below what is stored does not lower the sums. -/
theorem storedTotals_le_collected (distinct : (l.discovery.nodes.map NodeInfo.id).Nodup)
    (below : Below l rounds) (member : fetch ∈ rounds) :
    storedTotals l.nodeMetrics ≤
      storedTotals (l.discover.foldl (storeReport fetch) l.nodeMetrics) := by
  have rises : ∀ n ∈ l.discover, ∀ r, l.nodeMetrics.lookup n.id = some r →
      ∀ r', fetch n = some r' → r.totals ≤ r'.totals := by
    intro n there r stored
    exact below n (mem_discover.mp there).1 r stored fetch member
  have distinct' := nodup_discover distinct
  constructor
  · exact tally_le_collected _ distinct' fun n there r stored r' answer =>
      (rises n there r stored r' answer).1
  · exact tally_le_collected _ distinct' fun n there r stored r' answer =>
      (rises n there r stored r' answer).2

/-- What a tick does to the sums, and what it keeps for the rounds that follow. -/
theorem tick_totals {input : TickInput} (distinct : (l.discovery.nodes.map NodeInfo.id).Nodup)
    (rising : ∀ n ∈ l.discovery.nodes, Rising (input.fetch :: rounds) n)
    (below : Below l (input.fetch :: rounds)) :
    storedTotals l.nodeMetrics ≤ storedTotals (l.tick c l.discover input).after.nodeMetrics ∧
      ((l.tick c l.discover input).after.discovery.nodes.map NodeInfo.id).Nodup ∧
      (∀ n ∈ (l.tick c l.discover input).after.discovery.nodes, Rising rounds n) ∧
      Below (l.tick c l.discover input).after rounds := by
  rw [tick_nodes_eq, tick_nodeMetrics]
  refine ⟨storedTotals_le_collected distinct below (by simp), distinct, fun n known => ?_, ?_⟩
  · exact (pairwise_cons.mp (rising n known)).2
  · intro n known r stored later member r' answer
    rw [tick_nodes_eq] at known
    rw [tick_nodeMetrics] at stored
    have before : l.nodeMetrics.lookup n.id = some r → r.totals ≤ r'.totals := fun old =>
      below n known r old later (by simp [member]) r' answer
    have distinct' : (l.discover.map NodeInfo.id).Nodup := nodup_discover distinct
    by_cases there : n ∈ l.discover
    · rw [lookup_collected_of_mem distinct' there, or_eq_some_iff] at stored
      rcases stored with new | ⟨-, old⟩
      · exact (pairwise_cons.mp (rising n known)).1 later member r new r' answer
      · exact before old
    · refine before ?_
      rwa [lookup_collected_of_notMem] at stored
      -- no node that is still discovered has the same id
      intro listed
      obtain ⟨other, thereOther, sameId⟩ := mem_map.mp listed
      obtain rfl : other = n := eq_of_id_eq distinct known thereOther sameId
      exact there thereOther

end

/-- **Over the tick loop and the final fetch, sums of rising answers rise.** -/
theorem loop_isChain {l : DistributedCoordinator S} {inputs : List TickInput}
    {finalFetch : NodeInfo → Option RemoteMetrics}
    (distinct : (l.discovery.nodes.map NodeInfo.id).Nodup)
    (rising : ∀ n ∈ l.discovery.nodes, Rising (inputs.map fetch ++ [finalFetch]) n)
    (below : Below l (inputs.map fetch ++ [finalFetch])) :
    (storedTotals l.nodeMetrics ::
      ((loop c l inputs).progress.map (fun u => (u.totalRequests, u.totalErrors)) ++
        [storedTotals ((loop c l inputs).leader.discover.foldl (storeReport finalFetch)
          (loop c l inputs).leader.nodeMetrics)])).IsChain (· ≤ ·) := by
  fun_induction loop c l inputs with
  | case1 l =>
    exact isChain_pair.mpr (storedTotals_le_collected distinct below (by simp))
  | case2 l input rest empty =>
    -- no node is left, so the final fetch changes nothing
    refine isChain_pair.mpr ?_
    rw [empty]
    exact le_refl _
  | case3 l input rest nonempty first ends =>
    obtain ⟨up, distinct', -, below'⟩ := tick_totals (c := c) distinct rising below
    exact isChain_pair.mpr (le_trans up (storedTotals_le_collected distinct' below' (by simp)))
  | case4 l input rest nonempty first goesOn next ih =>
    obtain ⟨up, distinct', rising', below'⟩ := tick_totals (c := c) distinct rising below
    exact isChain_cons_cons.mpr ⟨up, ih distinct' rising' below'⟩

/-! ## The agents -/

section

/-- Each answer the leader gets is what an agent serves: `agents n i` is the agent of
node `n` at round `i`. Any fetch may fail. -/
def Serves (agents : NodeInfo → Nat → Reporting)
    (rounds : List (NodeInfo → Option RemoteMetrics)) : Prop :=
  ∀ i fetch, rounds[i]? = some fetch →
    ∀ n, fetch n = none ∨ fetch n = fetchMetrics n (some (getMetrics (agents n i).agent))

/-- At each fetch that succeeds, the agent still has metrics if an earlier fetch has
found totals that are not 0. -/
def Uncleared (agents : Nat → Reporting) (rounds : List (NodeInfo → Option RemoteMetrics))
    (n : NodeInfo) : Prop :=
  ∀ i j m fetch later, i < j → rounds[i]? = some fetch → rounds[j]? = some later →
    (fetch n).isSome → (later n).isSome → (agents i).agent.metrics = some m →
    m.totals ≠ (0, 0) → (agents j).agent.metrics.isSome

variable {agents : NodeInfo → Nat → Reporting}
  {rounds : List (NodeInfo → Option RemoteMetrics)} {n : NodeInfo}

theorem Serves.totals {i : Nat} {fetch : NodeInfo → Option RemoteMetrics} {r : RemoteMetrics}
    (serves : Serves agents rounds) (round : rounds[i]? = some fetch) (answer : fetch n = some r) :
    r.totals = ((agents n i).agent.metrics.map MetricsView.totals).getD (0, 0) := by
  rcases serves i fetch round n with failed | served
  · rw [failed] at answer
    cases answer
  · have answer := served.symm.trans answer
    cases has : (agents n i).agent.metrics with
    | some m =>
      rw [fetchMetrics_some has] at answer
      cases answer
      rfl
    | none =>
      -- what an agent does not have arrives as zeros
      simp only [fetchMetrics, getMetrics, has] at answer
      cases answer
      rfl

end

/-! ## Every run -/

/-- **In every run over agents that are not cleared between two fetches, the totals shown
never go down.** -/
theorem totals_rise (nodes : List NodeInfo) (config : TestConfig) (controller : S)
    (input : RunInput) (agents : NodeInfo → Nat → Reporting)
    (distinct : (nodes.map NodeInfo.id).Nodup)
    (histories : ∀ n ∈ nodes, History (agents n)) (serves : Serves agents (fetchRounds input))
    (uncleared : ∀ n ∈ nodes, Uncleared (agents n) (fetchRounds input) n) :
    (shownTotals ((new nodes config controller).run c input)).Pairwise
      (· ≤ ·) := by
  set l := new nodes config controller
  have known : (launched c l input).discovery.nodes = nodes := launched_nodes
  have rising : ∀ n ∈ (launched c l input).discovery.nodes, Rising (fetchRounds input) n := by
    intro n member
    rw [known] at member
    -- the answers of an agent that is not cleared between them do not go down
    refine pairwise_iff_getElem.mpr fun i j hi hj order r answer r' answer' => ?_
    have round := getElem?_eq_getElem hi
    have round' := getElem?_eq_getElem hj
    rw [serves.totals round answer, serves.totals round' answer']
    cases has : (agents n i).agent.metrics with
    | none => exact ⟨Nat.zero_le _, Nat.zero_le _⟩
    | some m =>
      by_cases zero : m.totals = (0, 0)
      · rw [map_some, getD_some, zero]
        exact ⟨Nat.zero_le _, Nat.zero_le _⟩
      · obtain ⟨m', has'⟩ := isSome_iff_exists.mp <| uncleared n member i j m _ _ order round
          round' (by rw [answer]; rfl) (by rw [answer']; rfl) has zero
        rw [has']
        exact (histories n member).totals_le order.le has has'
  have below : Below (launched c l input) (fetchRounds input) := by
    intro n _ r stored
    have nothing : (launched c l input).nodeMetrics = ∅ := launched_nodeMetrics
    rw [nothing, Finmap.lookup_empty] at stored
    cases stored
  have chain := loop_isChain (c := c) (by rwa [known]) rising below
  have rise := (isChain_iff_pairwise.mp chain).of_cons
  rw [run_eq]
  unfold shownTotals
  by_cases noneLeft : (launched c l input).discover = []
  · simp only [noneLeft, if_true, loop_alone noneLeft]
    exact pairwise_singleton _ _
  · simp only [noneLeft, if_false]
    split
    · exact rise
    · rw [toList_none, map_nil, append_nil]
      exact rise.sublist (sublist_append_left _ _)

/-! ## Agents that end before the leader -/

/-- The answers an agent gives at round `i`. -/
def served (agents : Nat → Reporting) (i : Nat) (n : NodeInfo) : Option RemoteMetrics :=
  fetchMetrics n (some (getMetrics (agents i).agent))

/-- A tick every 3 s until the 10 s are over; every fetch succeeds. -/
def allServed (agents : Nat → Reporting) : RunInput where
  startOk _ _ := true
  ticks :=
    [.quiet 3000000000 (served agents 0), .quiet 6000000000 (served agents 1),
      .quiet 9000000000 (served agents 2), .quiet 12000000000 (served agents 3)]
  finalFetch := served agents 4
  finalElapsed := 12000000000

theorem serves_allServed (agents : Nat → Reporting) :
    Serves (fun _ => agents) (fetchRounds (allServed agents)) := by
  intro i fetch round n
  have rounds : fetchRounds (allServed agents) = (range 5).map (served agents) := rfl
  rw [rounds, getElem?_map] at round
  obtain ⟨j, there, rfl⟩ := map_eq_some_iff.mp round
  obtain ⟨-, rfl⟩ := List.getElem?_eq_some_iff.mp there
  rw [getElem_range]
  exact .inr rfl

/-- The agents have ended at the second tick and keep their metrics. -/
theorem totals_rise_ended :
    shownTotals (twoNodes.run staticRateController (allServed (oneTest 1))) =
        [(200, 0), (200, 0), (200, 0), (200, 0)] ∧
      (shownTotals (twoNodes.run staticRateController (allServed (oneTest 1)))).Pairwise
        (· ≤ ·) := by
  refine ⟨by decide +kernel, ?_⟩
  refine totals_rise [nodeA, nodeB] _ _ (allServed (oneTest 1)) (fun _ => oneTest 1) (by decide)
    (fun _ _ => history_oneTest 1) (serves_allServed _) ?_
  intro n _ i j m fetch later _ _ _ _ _ _ _
  show (phase (min j 1)).agent.metrics.isSome
  rcases Nat.le_one_iff_eq_zero_or_eq_one.mp (Nat.min_le_right j 1) with here | here
  · rw [here]
    rfl
  · rw [here]
    rfl

/-- At the third tick the agents have cleared their metrics, and the totals drop to 0. -/
theorem totals_drop_cleared :
    History (oneTest 2) ∧
      Serves (fun _ => oneTest 2) (fetchRounds (allServed (oneTest 2))) ∧
      shownTotals (twoNodes.run staticRateController (allServed (oneTest 2))) =
        [(200, 0), (200, 0), (0, 0), (0, 0)] ∧
      ¬ (shownTotals (twoNodes.run staticRateController (allServed (oneTest 2)))).Pairwise
        (· ≤ ·) := by
  have shown : shownTotals (twoNodes.run staticRateController (allServed (oneTest 2))) =
      [(200, 0), (200, 0), (0, 0), (0, 0)] := by decide +kernel
  refine ⟨history_oneTest 2, serves_allServed _, shown, ?_⟩
  rw [shown]
  decide

end Netanvil.Distributed
