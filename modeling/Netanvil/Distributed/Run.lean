/-
# What a run is made of

A run is a startup, which leaves the leader `launched`, and then the tick loop. The
results here take a run apart for the modules that say something about it: the nodes
asked to start, the nodes told to stop, and each tick as one step of the leader that
the ticks before it have left (`loop_split`, `loop_invariant`).
-/
import Netanvil.Distributed.Coordinator

namespace Netanvil.Distributed

open Netanvil.Types DistributedCoordinator List

variable {S β : Type} {c : RateController S} {id : NodeId}

/-! ## Startup -/

section

variable (l : DistributedCoordinator S) (rps : ℚ) (startOk : NodeInfo → TestConfig → Bool)
  (nodes : List NodeInfo)

theorem startNodes_starts : (l.startNodes rps startOk nodes).2 =
    nodes.map fun n => ⟨n, l.agentConfig rps n, startOk n (l.agentConfig rps n)⟩ := by
  induction nodes generalizing l with
  | nil => rfl
  | cons node rest ih =>
    -- marking a node as failed does not change the weights
    have next : ∀ ok : Bool, ((if ok then l else l.markFailed node.id).startNodes rps startOk
        rest).2 = rest.map fun n => ⟨n, l.agentConfig rps n, startOk n (l.agentConfig rps n)⟩ := by
      intro ok
      rw [ih]
      cases ok <;> rfl
    simp only [startNodes, map_cons]
    rw [next]

/-- Nothing is changed but that nodes are marked as failed. -/
theorem startNodes_keeps (see : DistributedCoordinator S → β)
    (marked : ∀ l id, see (l.markFailed id) = see l) :
    see (l.startNodes rps startOk nodes).1 = see l := by
  induction nodes generalizing l with
  | nil => rfl
  | cons node rest ih =>
    simp only [startNodes]
    rw [ih]
    split
    · rfl
    · exact marked l node.id

theorem startNodes_nodes :
    (l.startNodes rps startOk nodes).1.discovery.nodes = l.discovery.nodes :=
  startNodes_keeps l rps startOk nodes (·.discovery.nodes)
    fun _ _ => StaticDiscovery.markFailed_nodes _ _

theorem startNodes_config : (l.startNodes rps startOk nodes).1.config = l.config :=
  startNodes_keeps l rps startOk nodes (·.config) fun _ _ => rfl

theorem startNodes_nodeMetrics : (l.startNodes rps startOk nodes).1.nodeMetrics = l.nodeMetrics :=
  startNodes_keeps l rps startOk nodes (·.nodeMetrics) fun _ _ => rfl

end

theorem mem_startNodes_failed {l : DistributedCoordinator S} {rps : ℚ}
    {startOk : NodeInfo → TestConfig → Bool} {nodes : List NodeInfo} :
    id ∈ (l.startNodes rps startOk nodes).1.discovery.failed ↔
      id ∈ l.discovery.failed ∨
        ∃ n ∈ nodes, n.id = id ∧ startOk n (l.agentConfig rps n) = false := by
  induction nodes generalizing l with
  | nil => simp [startNodes]
  | cons node rest ih =>
    simp only [startNodes]
    rw [ih]
    cases ok : startOk node (l.agentConfig rps node) with
    | true => simp [ok]
    | false =>
      have marked : id ∈ (l.markFailed node.id).discovery.failed ↔
          id ∈ l.discovery.failed ∨ node.id = id := by
        simp [markFailed, eq_comm]
      have weights : ∀ n, (l.markFailed node.id).agentConfig rps n = l.agentConfig rps n :=
        fun _ => rfl
      simp [ok, weights, marked, or_assoc]

section

variable {l : DistributedCoordinator S} {input : RunInput}

/-- The configuration a run starts a node with. -/
def startConfig (c : RateController S) (l : DistributedCoordinator S) (n : NodeInfo) : TestConfig :=
  (l.computeWeights l.discover).agentConfig (c.currentRate l.rateController) n

/-- `start_test` returns Ok for the node. -/
def started (c : RateController S) (l : DistributedCoordinator S) (input : RunInput)
    (n : NodeInfo) : Bool :=
  input.startOk n (startConfig c l n)

/-- The leader that enters the tick loop. -/
def launched (c : RateController S) (l : DistributedCoordinator S) (input : RunInput) :
    DistributedCoordinator S :=
  let l := ((l.computeWeights l.discover).startNodes (c.currentRate l.rateController)
    input.startOk l.discover).1
  l.computeWeights l.discover

theorem computeWeights_discover (l : DistributedCoordinator S) (nodes : List NodeInfo) :
    (l.computeWeights nodes).discover = l.discover := by
  unfold discover
  rw [(computeWeights_frame ..).1]

theorem launched_nodes : (launched c l input).discovery.nodes = l.discovery.nodes := by
  simp only [launched, computeWeights_frame, startNodes_nodes]

theorem launched_config : (launched c l input).config = l.config := by
  simp only [launched, computeWeights_frame, startNodes_config]

theorem launched_nodeMetrics : (launched c l input).nodeMetrics = l.nodeMetrics := by
  simp only [launched, computeWeights_frame, startNodes_nodeMetrics]

theorem mem_launched_failed :
    id ∈ (launched c l input).discovery.failed ↔
      id ∈ l.discovery.failed ∨ ∃ n ∈ l.discover, n.id = id ∧ started c l input n = false := by
  simp only [launched, computeWeights_frame, mem_startNodes_failed, started, startConfig]

theorem mem_launched_discover {n : NodeInfo} (there : n ∈ (launched c l input).discover) :
    n ∈ l.discover := by
  obtain ⟨known, unmarked⟩ := StaticDiscovery.mem_discover.mp there
  rw [launched_nodes] at known
  rw [mem_launched_failed] at unmarked
  exact StaticDiscovery.mem_discover.mpr ⟨known, fun marked => unmarked (.inl marked)⟩

end

/-! ## The tick loop -/

/-- The leader after some ticks. -/
def afterTicks (l : DistributedCoordinator S) : List (Tick S) → DistributedCoordinator S
  | [] => l
  | t :: rest => afterTicks t.after rest

section

variable {l : DistributedCoordinator S} {inputs : List TickInput}
  {earlier later rest : List (Tick S)}
  {t : Tick S}

theorem loop_leader : (loop c l inputs).leader = afterTicks l (loop c l inputs).ticks := by
  fun_induction loop c l inputs with
  | case1 l | case2 l input rest empty | case3 l input rest nonempty first ends => rfl
  | case4 l input rest nonempty first goesOn next ih => exact ih

theorem loop_ticks_cons (input : TickInput) (rest : List TickInput) :
    (loop c l (input :: rest)).ticks =
      if l.discover = [] then []
      else l.tick c l.discover input ::
        if input.ends l.config.duration then []
        else (loop c (l.tick c l.discover input).after rest).ticks := by
  rw [loop]
  split
  · rfl
  · split <;> rfl

theorem loop_cons (split : (loop c l inputs).ticks = t :: rest) :
    l.discover ≠ [] ∧ t = l.tick c l.discover t.input ∧
      ∃ inputs', rest = (loop c t.after inputs').ticks := by
  cases inputs with
  | nil => cases split
  | cons input more =>
    rw [loop_ticks_cons] at split
    split at split
    · cases split
    · rename_i nonempty
      obtain ⟨rfl, rfl⟩ := cons.inj split
      refine ⟨nonempty, rfl, ?_⟩
      split
      · exact ⟨[], rfl⟩
      · exact ⟨more, rfl⟩

/-- Each tick is a step of the leader the earlier ones have left. -/
theorem loop_split (split : (loop c l inputs).ticks = earlier ++ t :: later) :
    (afterTicks l earlier).discover ≠ [] ∧
      t = (afterTicks l earlier).tick c (afterTicks l earlier).discover t.input := by
  induction earlier generalizing l inputs with
  | nil =>
    obtain ⟨nonempty, first, -⟩ := loop_cons split
    exact ⟨nonempty, first⟩
  | cons x xs ih =>
    obtain ⟨-, -, inputs', rest⟩ := loop_cons split
    exact ih rest.symm

theorem tick_nodes_eq (l : DistributedCoordinator S) (nodes : List NodeInfo) (input : TickInput) :
    (l.tick c nodes input).after.discovery.nodes = l.discovery.nodes := by
  rw [tick_discovery, foldl_markMissing_nodes]

/-- The nodes still there after a tick are those that answered. -/
theorem tick_discover {input : TickInput} (distinct : (l.discovery.nodes.map NodeInfo.id).Nodup) :
    (l.tick c l.discover input).after.discover =
      l.discover.filter fun n => (input.fetch n).isSome := by
  have marked : ∀ id, id ∈ (l.tick c l.discover input).after.discovery.failed ↔
      id ∈ l.discovery.failed ∨ ∃ m ∈ l.discover, m.id = id ∧ input.fetch m = none := by
    intro id
    rw [tick_discovery, mem_foldl_markMissing]
  refine StaticDiscovery.discover_eq_filter (tick_nodes_eq l _ input) ?_ ?_
  · exact fun id before => (marked id).mpr (.inl before)
  · intro n there
    obtain ⟨known, unmarked⟩ := StaticDiscovery.mem_discover.mp there
    rw [marked, Option.isSome_eq_false_iff, Option.isNone_iff_eq_none]
    constructor
    · rintro (before | ⟨m, thereM, sameId, missing⟩)
      · exact absurd before unmarked
      · obtain rfl : m = n := StaticDiscovery.eq_of_id_eq distinct known thereM sameId
        exact missing
    · exact fun missing => .inr ⟨n, there, rfl, missing⟩

/-- What every tick keeps, among ticks that are all `Q`, holds after any number of them. -/
theorem loop_invariant {P : DistributedCoordinator S → Prop} {Q : Tick S → Prop}
    (step : ∀ l input, P l → Q (l.tick c l.discover input) → P (l.tick c l.discover input).after)
    (start : P l) (split : (loop c l inputs).ticks = earlier ++ later)
    (all : ∀ t ∈ earlier, Q t) : P (afterTicks l earlier) := by
  induction earlier generalizing l inputs with
  | nil => exact start
  | cons x xs ih =>
    obtain ⟨-, first, inputs', rest⟩ := loop_cons split
    have here := all x (by simp)
    refine ih ?_ rest.symm fun t member => all t (by simp [member])
    rw [first] at here ⊢
    exact step l x.input start here

theorem afterTicks_nodes (split : (loop c l inputs).ticks = earlier ++ later) :
    (afterTicks l earlier).discovery.nodes = l.discovery.nodes := by
  refine loop_invariant (P := fun l' => l'.discovery.nodes = l.discovery.nodes)
    (fun l' input same _ => ?_) rfl split fun _ _ => trivial
  rw [tick_nodes_eq]
  exact same

theorem loop_alone (empty : l.discover = []) : loop c l inputs = ⟨[], [], l, true⟩ := by
  cases inputs with
  | nil => simp [loop, empty]
  | cons input rest => rw [loop, if_pos empty]

/-- The tick loop ends at an input that ends it, if not before. -/
theorem loop_ended (ends : ∃ input ∈ inputs, input.ends l.config.duration) :
    (loop c l inputs).ended = true := by
  fun_induction loop c l inputs with
  | case1 l => simp at ends
  | case2 l input rest empty | case3 l input rest nonempty first endsHere => rfl
  | case4 l input rest nonempty first goesOn next ih =>
    obtain ⟨other, member, endsThere⟩ := ends
    rcases mem_cons.mp member with rfl | later
    · exact absurd endsThere goesOn
    · refine ih ⟨other, later, ?_⟩
      rw [tick_config]
      exact endsThere

end

/-! ## The whole run -/

/-- The result of a run whose tick loop has left the leader `l`. -/
def finalResult (l : DistributedCoordinator S) (input : RunInput) : DistributedTestResult :=
  let l := l.collectFinal l.discover input.finalFetch
  ⟨l.totalRequests, l.totalErrors, input.finalElapsed, l.nodeMetrics⟩

/-- **A run in one piece.**  The two early returns are runs whose leader is launched
without a node. -/
theorem run_eq (c : RateController S) (l : DistributedCoordinator S) (input : RunInput) :
    l.run c input =
      { starts := l.discover.map fun n => ⟨n, startConfig c l n, started c l input n⟩
        initialRates := (launched c l input).distributeRate (launched c l input).discover
          (c.currentRate l.rateController)
        ticks := (loop c (launched c l input) input.ticks).ticks
        progress := (loop c (launched c l input) input.ticks).progress
        stopped :=
          if (loop c (launched c l input) input.ticks).ended then
            (loop c (launched c l input) input.ticks).leader.discover
          else []
        result :=
          if (launched c l input).discover = [] then some noResult
          else if (loop c (launched c l input) input.ticks).ended then
            some (finalResult (loop c (launched c l input) input.ticks).leader input)
          else none } := by
  have starts := startNodes_starts (l.computeWeights l.discover) (c.currentRate l.rateController)
    input.startOk l.discover
  by_cases noNode : l.discover = []
  · have noneLaunched : (launched c l input).discover = [] := by
      refine eq_nil_iff_forall_not_mem.mpr fun n there => ?_
      have := mem_launched_discover there
      rw [noNode] at this
      cases this
    rw [run, if_pos noNode, loop_alone noneLaunched]
    simp [noneLaunched, noNode, distributeRate]
  · rw [run, if_neg noNode]
    simp only [computeWeights_discover, computeWeights_frame]
    rw [starts]
    have entered : (launched c l input).discover =
        ((l.computeWeights l.discover).startNodes (c.currentRate l.rateController)
          input.startOk l.discover).1.discover := by
      rw [launched, computeWeights_discover]
    by_cases noneLeft : (launched c l input).discover = []
    · rw [if_pos (entered ▸ noneLeft), loop_alone noneLeft]
      simp [noneLeft, distributeRate, started, startConfig]
    · rw [if_neg (entered ▸ noneLeft), if_neg noneLeft]
      show (if (loop c (launched c l input) input.ticks).ended then _ else _) = _
      split
      · simp only [finalResult, entered]
        rfl
      · simp only [entered]
        rfl

theorem run_ticks (c : RateController S) (l : DistributedCoordinator S) (input : RunInput) :
    (l.run c input).ticks = (loop c (launched c l input) input.ticks).ticks := by
  rw [run_eq]

/-- A run returns once its time is up or it is cancelled. -/
theorem run_returns {l : DistributedCoordinator S} {input : RunInput}
    (ends : ∃ tick ∈ input.ticks, tick.ends l.config.duration) : (l.run c input).result.isSome := by
  have ended : (loop c (launched c l input) input.ticks).ended = true :=
    loop_ended (by rwa [launched_config])
  rw [run_eq]
  simp only [ended]
  split <;> rfl

/-! ## Two runs of the small cluster -/

/-- Both nodes start, and both answer at the only tick. -/
def oneTick : RunInput :=
  ⟨fun _ _ => true, [.quiet 10000000000 fun n => some (totalsOnly n 100 0)], fun _ => none, 0⟩

/-- Both nodes start, and the first one misses the first of two fetches. -/
def missedFetch : RunInput where
  startOk _ _ := true
  ticks :=
    [.quiet 3000000000 fun n => if n = nodeA then none else some (totalsOnly n 100 0),
      .quiet 10000000000 fun n => some (totalsOnly n 300 0)]
  finalFetch _ := none
  finalElapsed := 0

end Netanvil.Distributed
