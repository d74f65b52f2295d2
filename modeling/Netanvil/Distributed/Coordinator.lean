/-
# The distributed coordinator

The leader of a distributed test: start every node with its share of the rate, then tick until
the test's time is up, it is cancelled or no node is left, then collect and stop.

What the outside world answers is input, so `run` is a function, and its result records
everything the leader did. Whether a `set_rate` or `stop_test` call succeeds changes nothing
in the leader, so no input stands for it. A hash map is a finite map (`Finmap`).
-/
import Netanvil.Types.Control
import Netanvil.Theory.Tally
import Netanvil.Distributed.Discovery

namespace Netanvil.Distributed

open Netanvil.Types Theory.Tally RemoteMetrics

structure DistributedCoordinator (S : Type) where
  discovery : StaticDiscovery
  config : TestConfig
  rateController : S
  nodeMetrics : Finmap fun _ : NodeId => RemoteMetrics
  nodeWeights : Finmap fun _ : NodeId => ℚ
  holdState : HoldState

/-- What has arrived for one tick, and what its fetches return. -/
structure TickInput where
  holdCommands : List HoldCommand
  controllerUpdates : List (String × Json)
  infoRequests : Nat
  rateOverrides : List ℚ
  fetch : NodeInfo → Option RemoteMetrics
  /-- Answer of the signal source, if there is one. -/
  polledSignals : Option (List (String × ℚ))
  pushedSignals : List (String × ℚ)
  /-- Time since the start of the run, after the tick. -/
  elapsed : Nat
  cancelled : Bool

/-- The test's time is up, or the run is cancelled. -/
def TickInput.ends (input : TickInput) (duration : Nat) : Bool :=
  decide (duration ≤ input.elapsed) || input.cancelled

/-- Replies to controller commands. -/
inductive Reply where
  | update (result : Except String Json)
  | info (view : ControllerView)

structure DistributedProgressUpdate where
  elapsed : Nat
  remaining : Nat
  targetRps : ℚ
  totalRequests : Nat
  totalErrors : Nat
  activeNodes : Nat
  perNode : Finmap fun _ : NodeId => RemoteMetrics
  controllerState : List (String × ℚ)

structure DistributedTestResult where
  totalRequests : Nat
  totalErrors : Nat
  duration : Nat
  nodes : Finmap fun _ : NodeId => RemoteMetrics

/-- One tick: the nodes it ran over, what it did, and the leader after it. -/
structure Tick (S : Type) where
  nodes : List NodeInfo
  input : TickInput
  replies : List Reply
  /-- The summary handed to the controller; `none` while the rate is held. -/
  summary : Option MetricsSummary
  decision : RateDecision
  /-- The `set_rate` calls, in order. -/
  rates : List (NodeInfo × ℚ)
  after : DistributedCoordinator S

/-- A float cast to `u64`: towards zero, saturating. -/
def asU64 (x : ℚ) : Nat := min ⌊x⌋.toNat (2 ^ 64 - 1)

namespace DistributedCoordinator

variable {S : Type} {id : NodeId}

def new (nodes : List NodeInfo) (config : TestConfig) (rateController : S) :
    DistributedCoordinator S where
  discovery := ⟨nodes, []⟩
  config := config
  rateController := rateController
  nodeMetrics := ∅
  nodeWeights := ∅
  holdState := .released

def discover (l : DistributedCoordinator S) : List NodeInfo := l.discovery.discover

def markFailed (l : DistributedCoordinator S) (id : NodeId) : DistributedCoordinator S :=
  { l with discovery := l.discovery.markFailed id }

/-! ## Commands -/

/-- The controller updates in order, each with its answer. -/
def applyUpdates (c : RateController S) (s : S) : List (String × Json) → S × List Reply
  | [] => (s, [])
  | (action, params) :: rest =>
    let (s, result) := c.applyUpdate s action params
    let (s, replies) := applyUpdates c s rest
    (s, .update result :: replies)

/-- Hold and release commands, controller updates, introspection, then the deprecated
rate override, which holds at the latest value sent. -/
def processCommands (c : RateController S) (l : DistributedCoordinator S) (input : TickInput) :
    DistributedCoordinator S × List Reply :=
  let holdState := input.holdCommands.foldl (fun _ cmd => cmd.apply) l.holdState
  let (rateController, updates) := applyUpdates c l.rateController input.controllerUpdates
  let view : ControllerView :=
    ⟨c.controllerInfo rateController, holdState.heldRps.isSome, holdState.heldRps⟩
  let infos := .replicate input.infoRequests (.info view)
  let holdState :=
    match input.rateOverrides.getLast? with
    | some rps => .held rps
    | none => holdState
  ({ l with rateController := rateController, holdState := holdState }, updates ++ infos)

/-! ## Metrics -/

/-- Keep a fetched report. -/
def storeReport (fetch : NodeInfo → Option RemoteMetrics)
    (m : Finmap fun _ : NodeId => RemoteMetrics) (node : NodeInfo) :
    Finmap fun _ : NodeId => RemoteMetrics :=
  match fetch node with
  | some x => m.insert node.id x
  | none => m

/-- Keep one fetched report, or mark the node as failed. -/
def recordFetch (fetch : NodeInfo → Option RemoteMetrics) (l : DistributedCoordinator S)
    (node : NodeInfo) : DistributedCoordinator S :=
  match fetch node with
  | some m => { l with nodeMetrics := l.nodeMetrics.insert node.id m }
  | none => l.markFailed node.id

def collectMetrics (l : DistributedCoordinator S) (nodes : List NodeInfo)
    (fetch : NodeInfo → Option RemoteMetrics) : DistributedCoordinator S :=
  nodes.foldl (recordFetch fetch) l

def totalRequests (l : DistributedCoordinator S) : Nat :=
  tally RemoteMetrics.totalRequests l.nodeMetrics

def totalErrors (l : DistributedCoordinator S) : Nat :=
  tally RemoteMetrics.totalErrors l.nodeMetrics

def aggregateMetrics (l : DistributedCoordinator S) : MetricsSummary where
  totalRequests := l.totalRequests
  totalErrors := l.totalErrors
  errorRate := if l.totalRequests > 0 then l.totalErrors / l.totalRequests else 0
  requestRate := tally currentRps l.nodeMetrics
  latencyP50Ns := asU64 (peak 0 latencyP50Ms l.nodeMetrics * 1000000)
  latencyP90Ns := asU64 (peak 0 latencyP90Ms l.nodeMetrics * 1000000)
  latencyP99Ns := asU64 (peak 0 latencyP99Ms l.nodeMetrics * 1000000)
  windowDuration := l.config.controlInterval
  bytesSent := 0
  bytesReceived := 0
  throughputSendBps := 0
  throughputRecvBps := 0
  externalSignals := []
  timeoutCount := tally timeoutCount l.nodeMetrics
  inFlightDrops := tally inFlightDrops l.nodeMetrics

/-- Signals of the polled source first, then pushed ones over them. -/
def externalSignals (input : TickInput) : List (String × ℚ) :=
  input.pushedSignals.foldl upsertSignal (input.polledSignals.getD [])

/-! ## Rates -/

def totalCores (nodes : List NodeInfo) : Nat := (nodes.map NodeInfo.cores).sum

/-- Weights by core count. Without any core the old weights stay. -/
def computeWeights (l : DistributedCoordinator S) (nodes : List NodeInfo) :
    DistributedCoordinator S :=
  if totalCores nodes = 0 then l
  else
    { l with
      nodeWeights := nodes.foldl
        (fun weights node => weights.insert node.id ((node.cores : ℚ) / totalCores nodes)) ∅ }

def weight (l : DistributedCoordinator S) (node : NodeInfo) : ℚ :=
  (l.nodeWeights.lookup node.id).getD 0

/-- The `set_rate` calls that distribute `totalRps`. -/
def distributeRate (l : DistributedCoordinator S) (nodes : List NodeInfo) (totalRps : ℚ) :
    List (NodeInfo × ℚ) :=
  nodes.map fun node => (node, totalRps * l.weight node)

/-! ## One tick -/

/-- The rate decision: the held rate, or what the controller makes of the summary. -/
def rateDecision (c : RateController S) (l : DistributedCoordinator S) (summary : MetricsSummary) :
    S × Option MetricsSummary × RateDecision :=
  match l.holdState with
  | .held rps => (l.rateController, none, ⟨rps⟩)
  | .released =>
    let (s, decision) := c.update l.rateController summary
    (s, some summary, decision)

/-- One tick over the nodes discovered before it. The weights are recomputed and the
rate is sent out over that same list. -/
def tick (c : RateController S) (l : DistributedCoordinator S) (nodes : List NodeInfo)
    (input : TickInput) : Tick S :=
  let (l, replies) := l.processCommands c input
  let l := l.collectMetrics nodes input.fetch
  let summary := { l.aggregateMetrics with externalSignals := externalSignals input }
  let (s, given, decision) := l.rateDecision c summary
  let l := ({ l with rateController := s }).computeWeights nodes
  { nodes := nodes
    input := input
    replies := replies
    summary := given
    decision := decision
    rates := l.distributeRate nodes decision.targetRps
    after := l }

/-- The progress update after a tick that did not end the run. -/
def progressUpdate (c : RateController S) (t : Tick S) : DistributedProgressUpdate where
  elapsed := t.input.elapsed
  remaining := t.after.config.duration - t.input.elapsed
  targetRps := t.decision.targetRps
  totalRequests := t.after.totalRequests
  totalErrors := t.after.totalErrors
  activeNodes := t.nodes.length
  perNode := t.after.nodeMetrics
  controllerState := c.controllerState t.after.rateController

/-! ## The run -/

/-- The tick loop so far: its ticks and progress updates, the leader after them, and
whether it has ended. -/
structure Loop (S : Type) where
  ticks : List (Tick S)
  progress : List DistributedProgressUpdate
  leader : DistributedCoordinator S
  ended : Bool

/-- The tick loop on the inputs that have arrived. -/
def loop (c : RateController S) (l : DistributedCoordinator S) : List TickInput → Loop S
  | [] => ⟨[], [], l, l.discover.isEmpty⟩
  | input :: rest =>
    if l.discover = [] then ⟨[], [], l, true⟩
    else
      let t := l.tick c l.discover input
      if input.ends l.config.duration then ⟨[t], [], t.after, true⟩
      else
        let next := loop c t.after rest
        ⟨t :: next.ticks, progressUpdate c t :: next.progress, next.leader, next.ended⟩

/-- What the outside world answers over a whole run. -/
structure RunInput where
  /-- Whether `start_test` returns Ok for a node, given the configuration sent to it. -/
  startOk : NodeInfo → TestConfig → Bool
  ticks : List TickInput
  finalFetch : NodeInfo → Option RemoteMetrics
  finalElapsed : Nat

/-- A `start_test` call and its result. -/
structure Start where
  node : NodeInfo
  config : TestConfig
  ok : Bool

/-- Everything a run did. `result` is there once the run has returned. -/
structure Run (S : Type) where
  starts : List Start
  initialRates : List (NodeInfo × ℚ)
  ticks : List (Tick S)
  progress : List DistributedProgressUpdate
  stopped : List NodeInfo
  result : Option DistributedTestResult

/-- The configuration a node is started with: its share of the initial rate. -/
def agentConfig (l : DistributedCoordinator S) (initialRps : ℚ) (node : NodeInfo) : TestConfig :=
  { l.config with rate := .static (initialRps * l.weight node) }

/-- Start the test on each node; a node that refuses is marked as failed. -/
def startNodes (l : DistributedCoordinator S) (initialRps : ℚ)
    (startOk : NodeInfo → TestConfig → Bool) :
    List NodeInfo → DistributedCoordinator S × List Start
  | [] => (l, [])
  | node :: rest =>
    let config := l.agentConfig initialRps node
    let ok := startOk node config
    let (l, starts) := startNodes (if ok then l else l.markFailed node.id) initialRps startOk rest
    (l, ⟨node, config, ok⟩ :: starts)

/-- Final fetch: a node that does not answer keeps what it last reported. -/
def collectFinal (l : DistributedCoordinator S) (nodes : List NodeInfo)
    (fetch : NodeInfo → Option RemoteMetrics) : DistributedCoordinator S :=
  { l with nodeMetrics := nodes.foldl (storeReport fetch) l.nodeMetrics }

def noResult : DistributedTestResult := ⟨0, 0, 0, ∅⟩

def run (c : RateController S) (l : DistributedCoordinator S) (input : RunInput) : Run S :=
  if l.discover = [] then ⟨[], [], [], [], [], some noResult⟩
  else
    let l := l.computeWeights l.discover
    let initialRps := c.currentRate l.rateController
    let (l, starts) := l.startNodes initialRps input.startOk l.discover
    if l.discover = [] then ⟨starts, [], [], [], [], some noResult⟩
    else
      let l := l.computeWeights l.discover
      let initialRates := l.distributeRate l.discover initialRps
      let looped := loop c l input.ticks
      if looped.ended then
        let nodes := looped.leader.discover
        let l := looped.leader.collectFinal nodes input.finalFetch
        ⟨starts, initialRates, looped.ticks, looped.progress, nodes,
          some ⟨l.totalRequests, l.totalErrors, input.finalElapsed, l.nodeMetrics⟩⟩
      else ⟨starts, initialRates, looped.ticks, looped.progress, [], none⟩

/-! ## What a tick does to each part of the leader -/

/-- Mark a node whose fetch failed. -/
def markMissing (fetch : NodeInfo → Option RemoteMetrics) (d : StaticDiscovery)
    (node : NodeInfo) : StaticDiscovery :=
  if (fetch node).isSome then d else d.markFailed node.id

@[simp] theorem foldl_markMissing_nodes (fetch : NodeInfo → Option RemoteMetrics)
    (nodes : List NodeInfo) (d : StaticDiscovery) :
    (nodes.foldl (markMissing fetch) d).nodes = d.nodes := by
  induction nodes generalizing d with
  | nil => rfl
  | cons node rest ih =>
    rw [List.foldl_cons, ih]
    unfold markMissing
    split
    · rfl
    · exact StaticDiscovery.markFailed_nodes d node.id

theorem mem_foldl_markMissing {fetch : NodeInfo → Option RemoteMetrics} {nodes : List NodeInfo}
    {d : StaticDiscovery} :
    id ∈ (nodes.foldl (markMissing fetch) d).failed ↔
      id ∈ d.failed ∨ ∃ n ∈ nodes, n.id = id ∧ fetch n = none := by
  induction nodes generalizing d with
  | nil => simp
  | cons node rest ih =>
    rw [List.foldl_cons, ih]
    cases answer : fetch node with
    | some x => simp [markMissing, answer]
    | none => simp [markMissing, answer, or_assoc, eq_comm]

theorem collectMetrics_eq (l : DistributedCoordinator S) (nodes : List NodeInfo)
    (fetch : NodeInfo → Option RemoteMetrics) :
    l.collectMetrics nodes fetch =
      { l with
        discovery := nodes.foldl (markMissing fetch) l.discovery
        nodeMetrics := nodes.foldl (storeReport fetch) l.nodeMetrics } := by
  induction nodes generalizing l with
  | nil => rfl
  | cons node rest ih =>
    have step : l.collectMetrics (node :: rest) fetch =
        (recordFetch fetch l node).collectMetrics rest fetch := rfl
    rw [step, ih]
    cases answer : fetch node with
    | some x | none => simp [recordFetch, markMissing, storeReport, answer, markFailed]

section

variable {fetch : NodeInfo → Option RemoteMetrics} {nodes : List NodeInfo}

theorem lookup_storeReport (m : Finmap fun _ : NodeId => RemoteMetrics) (node : NodeInfo)
    (id : NodeId) :
    (storeReport fetch m node).lookup id =
      if id = node.id then (fetch node).or (m.lookup id) else m.lookup id := by
  unfold storeReport
  split
  · rename_i x answer
    split
    · rename_i same
      rw [same, Finmap.lookup_insert, answer]
      rfl
    · rename_i different
      exact Finmap.lookup_insert_of_ne m different
  · rename_i missing
    rw [missing, Option.none_or, ite_self]

theorem lookup_storeReport_of_ne (m : Finmap fun _ : NodeId => RemoteMetrics) (node : NodeInfo)
    (id : NodeId) (different : id ≠ node.id) :
    (storeReport fetch m node).lookup id = m.lookup id := by
  rw [lookup_storeReport, if_neg different]

/-- A collection leaves the reports of other nodes alone. -/
theorem lookup_collected_of_notMem (absent : id ∉ nodes.map NodeInfo.id)
    (m : Finmap fun _ : NodeId => RemoteMetrics) :
    (nodes.foldl (storeReport fetch) m).lookup id = m.lookup id :=
  lookup_foldl_of_notMem lookup_storeReport_of_ne absent m

/-- A collection keeps what a node answered, or what it had of it. -/
theorem lookup_collected_of_mem (distinct : (nodes.map NodeInfo.id).Nodup) {n : NodeInfo}
    (member : n ∈ nodes) (m : Finmap fun _ : NodeId => RemoteMetrics) :
    (nodes.foldl (storeReport fetch) m).lookup n.id = (fetch n).or (m.lookup n.id) := by
  refine lookup_foldl_of_mem (g := (fetch n).or) lookup_storeReport_of_ne distinct member
    (fun m => ?_) m
  rw [lookup_storeReport, if_pos rfl]

end

variable (c : RateController S) (l : DistributedCoordinator S) (nodes : List NodeInfo)
  (input : TickInput)

@[simp] theorem computeWeights_frame : (l.computeWeights nodes).discovery = l.discovery ∧
    (l.computeWeights nodes).nodeMetrics = l.nodeMetrics ∧
    (l.computeWeights nodes).config = l.config ∧
    (l.computeWeights nodes).holdState = l.holdState ∧
    (l.computeWeights nodes).rateController = l.rateController := by
  unfold computeWeights
  split <;> exact ⟨rfl, rfl, rfl, rfl, rfl⟩

theorem tick_discovery :
    (l.tick c nodes input).after.discovery = nodes.foldl (markMissing input.fetch) l.discovery := by
  simp only [tick, computeWeights_frame, collectMetrics_eq]
  rfl

theorem tick_nodeMetrics :
    (l.tick c nodes input).after.nodeMetrics =
      nodes.foldl (storeReport input.fetch) l.nodeMetrics := by
  simp only [tick, computeWeights_frame, collectMetrics_eq]
  rfl

@[simp] theorem tick_config : (l.tick c nodes input).after.config = l.config := by
  simp only [tick, computeWeights_frame, collectMetrics_eq]
  rfl

@[simp] theorem tick_nodes : (l.tick c nodes input).nodes = nodes := rfl

@[simp] theorem tick_input : (l.tick c nodes input).input = input := rfl

/-- The hold state after the commands of a tick. -/
def holdAfter (hold : HoldState) (input : TickInput) : HoldState :=
  match input.rateOverrides.getLast? with
  | some rps => .held rps
  | none => input.holdCommands.foldl (fun _ cmd => cmd.apply) hold

theorem tick_holdState : (l.tick c nodes input).after.holdState = holdAfter l.holdState input := by
  simp only [tick, computeWeights_frame, collectMetrics_eq]
  rfl

/-- The summary handed to the controller is made of what the tick has stored, and there
is one unless the rate is held. -/
theorem tick_summary_eq :
    (l.tick c nodes input).summary =
      match holdAfter l.holdState input with
      | .held _ => none
      | .released => some { (l.tick c nodes input).after.aggregateMetrics with
          externalSignals := externalSignals input } := by
  have stored : (l.tick c nodes input).after.aggregateMetrics =
      ((l.processCommands c input).1.collectMetrics nodes input.fetch).aggregateMetrics := by
    unfold aggregateMetrics totalRequests totalErrors
    simp only [tick, computeWeights_frame]
  have hold : ((l.processCommands c input).1.collectMetrics nodes input.fetch).holdState =
      holdAfter l.holdState input := by
    rw [collectMetrics_eq]
    rfl
  rw [stored, ← hold]
  simp only [tick, rateDecision]
  split <;> rfl

theorem tick_summary {summary : MetricsSummary}
    (given : (l.tick c nodes input).summary = some summary) :
    summary = { (l.tick c nodes input).after.aggregateMetrics with
      externalSignals := externalSignals input } := by
  rw [tick_summary_eq] at given
  split at given
  · cases given
  · exact (Option.some.inj given).symm

end DistributedCoordinator

/-! ## A small cluster -/

def nodeA : NodeInfo := ⟨⟨"a"⟩, "10.0.0.1:9090", 4, .idle⟩

def nodeB : NodeInfo := ⟨⟨"b"⟩, "10.0.0.2:9090", 4, .idle⟩

/-- A leader of both nodes with a constant rate. -/
def twoNodes : DistributedCoordinator ℚ :=
  .new [nodeA, nodeB] ⟨10000000000, .static 1000, 0, 3000000000⟩ 1000

/-- A report that says nothing but its two totals. -/
def totalsOnly (n : NodeInfo) (totalRequests totalErrors : Nat) : RemoteMetrics :=
  ⟨n.id, 0, 0, totalRequests, totalErrors, 0, 0, 0, 0, 0, 0, 0, 0⟩

/-- A tick at which nothing but the fetches happens. -/
def TickInput.quiet (elapsed : Nat) (fetch : NodeInfo → Option RemoteMetrics) : TickInput :=
  ⟨[], [], 0, [], fetch, none, [], elapsed, false⟩

end Netanvil.Distributed
