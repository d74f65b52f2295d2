/-
# A test, from its first tick to its result

The coordinator's thread beside the threads of its workers. Every `try_recv` is a step of its
own, so workers send between any two of them. What a drain has received so far is merged when
the drain ends (`tick`, or `collect` at the end of the test).

Three fields are histories that the code does not keep: `sent`, `drains` and
`sentBeforeTick`.
-/
import Netanvil.Core.Coordinator
import Netanvil.Theory.Trace

namespace Netanvil.Core

open Netanvil.Types Metrics Option Function

/-! ## When a test is complete, and its result -/

/-- What ends a test besides a command. -/
structure Limits where
  testDuration : Nat
  maxRequests : Option Nat
  autostopThreshold : Option Nat
  refusestopThreshold : Option Nat
  targetBytes : Option Nat

structure TimerStats where
  dispatched : Nat
  dropped : Nat

/-- The result of a test; `Types.TestResult` is the part an agent keeps. -/
structure TestResult extends Types.TestResult where
  duration : Nat
  latencyP50 : Nat
  latencyP90 : Nat
  latencyP99 : Nat
  latencyMax : Nat
  requestRate : ℚ
  errorRate : ℚ
  totalBytesSent : Nat
  totalBytesReceived : Nat
  throughputSendMbps : ℚ
  throughputRecvMbps : ℚ
  saturation : SaturationInfo

def Coordinator.isTestComplete {S : Type} (limits : Limits) (k : Coordinator S)
    (elapsed : Nat) : Bool :=
  k.stopped ||
    limits.testDuration ≤ elapsed ||
    limits.maxRequests.any (· ≤ k.totalAggregate.totalRequests) ||
    limits.autostopThreshold.any (· ≤ k.totalAggregate.totalErrors) ||
    -- refused connections are not told from other errors
    limits.refusestopThreshold.any (· ≤ k.totalAggregate.totalErrors) ||
    limits.targetBytes.any (· ≤ k.totalAggregate.bytesReceived)

section

variable (total : AggregateMetrics) (stats : TimerStats)

def meanDelay (delay : DelayStats) : Nat :=
  if total.totalRequests > 0 then delay.sumNs / total.totalRequests else 0

def finalSaturation : SaturationInfo where
  backpressureDrops := stats.dropped
  backpressureRatio :=
    if stats.dispatched + stats.dropped > 0 then
      (stats.dropped : ℚ) / ((stats.dispatched + stats.dropped : Nat) : ℚ)
    else 0
  timerLagMeanNs := meanDelay total total.timerLag
  timerLagMaxNs := total.timerLag.maxNs
  channelTransitMeanNs := meanDelay total total.channelTransit
  channelTransitMaxNs := total.channelTransit.maxNs
  dispatchGapMeanNs := meanDelay total total.dispatchGap
  dispatchGapMaxNs := total.dispatchGap.maxNs
  schedulingDelayMeanNs := meanDelay total total.totalDelay
  schedulingDelayMaxNs := total.totalDelay.maxNs
  delayedRequestRatio :=
    if total.totalRequests > 0 then
      (total.totalDelayCountOver1ms : ℚ) / total.totalRequests
    else 0
  rateAchievement := 1
  cpuAffinityRatio := total.cpuAffinityRatio
  tcpRttMeanMs := total.tcpRttMeanUs / 1000
  tcpRttMaxMs := total.tcpHealth.rttMaxUs / 1000
  tcpRetransmitRatio := total.tcpRetransmitRatio
  assessment :=
    if stats.dropped > 0 ∨
        (total.totalDelayCountOver1ms : ℚ) / (max total.totalRequests 1 : Nat) > 1 / 10 then
      .clientSaturated
    else .healthy
  inFlightDrops := 0
  inFlightCount := 0
  inFlightCapacity := 0

/-- The end of `collect_final_metrics`. -/
def testResult (valueAtQuantile : Histogram → ℚ → Nat) (maxValue : Histogram → Nat)
    (elapsed : Nat) : TestResult :=
  let secs : ℚ := elapsed / 1000000000
  { totalRequests := total.totalRequests
    totalErrors := total.totalErrors
    duration := elapsed
    latencyP50 := valueAtQuantile total.histogram (1 / 2)
    latencyP90 := valueAtQuantile total.histogram (9 / 10)
    latencyP99 := valueAtQuantile total.histogram (99 / 100)
    latencyMax := maxValue total.histogram
    requestRate := total.totalRequests / secs
    errorRate :=
      if total.totalRequests > 0 then (total.totalErrors : ℚ) / total.totalRequests else 0
    totalBytesSent := total.bytesSent
    totalBytesReceived := total.bytesReceived
    throughputSendMbps := total.bytesSent * 8 / secs / 1000000
    throughputRecvMbps := total.bytesReceived * 8 / secs / 1000000
    saturation := finalSaturation total stats }

end

/-! ## The machine -/

/-- What is fixed for a test. -/
structure SessionSetup (S : Type) where
  controller : RateController S
  initial : S
  controlInterval : Nat
  limits : Limits
  warmupDuration : Option Nat
  signalConfigs : List ResponseSignalConfig
  /-- The histogram library's quantile and maximum. -/
  valueAtQuantile : Histogram → ℚ → Nat
  maxValue : Histogram → Nat

/-- What one drain received from each worker. -/
abbrev Batch (n : Nat) := Fin n → List MetricsSnapshot

/-- In the order of a drain: worker by worker. -/
def Batch.all {n : Nat} (batch : Batch n) : List MetricsSnapshot := (List.ofFn batch).flatten

inductive Drain where
  /-- Of a tick, with the commands it handled and the time its warm-up check read. -/
  | tick (commands : List WorkerCommand) (elapsed : Nat)
  | beforeJoin
  | afterJoin

def Drain.isTick : Drain → Bool
  | .tick _ _ => true
  | _ => false

/-- A drain that has ended. -/
structure DrainLog (n : Nat) where
  drain : Drain
  batch : Batch n
  /-- The tick aggregate when the drain had ended. -/
  tickAggregate : AggregateMetrics

/-- A worker as its coordinator sees it. -/
structure WorkerThread where
  /-- All it has ever sent. -/
  sent : List MetricsSnapshot
  /-- What waits in its metrics channel. -/
  queue : List MetricsSnapshot
  running : Bool

inductive Phase (n : Nat) where
  | sleeping (wake : Nat)
  /-- About to ask the channel of worker `next`. -/
  | draining (drain : Drain) (batch : Batch n) (next : Nat)
  | checking
  /-- Leaving the workers a moment to send their last snapshots. -/
  | settling (wake : Nat)
  | joining
  | returned (result : TestResult)

structure Session (n : Nat) (S : Type) where
  coordinator : Coordinator S
  phase : Phase n
  workers : Fin n → WorkerThread
  timerRunning : Bool
  /-- Time since the start of the test. -/
  clock : Nat
  drains : List (DrainLog n)
  /-- What each worker had sent when the last tick began. -/
  sentBeforeTick : Batch n

inductive SessionEvent (n : Nat) where
  | elapse (time : Nat)
  | send (i : Fin n) (snapshot : MetricsSnapshot)
  | workerEnds (i : Fin n)
  | timerEnds
  | beginTick (commands : List WorkerCommand)
  | tryRecv
  | endTick (polledSignals pushedSignals : Option (List (String × ℚ)))
  | check
  | beginDrain
  | endDrain
  | join
  | report (stats : TimerStats)

namespace Session

variable {n : Nat} {S : Type} (setup : SessionSetup S)

/-- Both aggregates start with the signals that are configured. -/
def emptyAggregate : AggregateMetrics :=
  { AggregateMetrics.new with signalConfigs := setup.signalConfigs }

def start : Session n S where
  coordinator :=
    { Coordinator.new setup.initial setup.warmupDuration with
      tickAggregate := emptyAggregate setup
      totalAggregate := emptyAggregate setup }
  phase := .sleeping setup.controlInterval
  workers := fun _ => ⟨[], [], true⟩
  timerRunning := true
  clock := 0
  drains := []
  sentBeforeTick := fun _ => []

/-- Worker `i` changes. -/
def setWorker (s : Session n S) (i : Fin n) (worker : WorkerThread) : Session n S :=
  { s with workers := update s.workers i worker }

/-- One `try_recv` of a drain: a snapshot, or on to the next worker. -/
def tryRecv (s : Session n S) (drain : Drain) (batch : Batch n) (i : Fin n) : Session n S :=
  match (s.workers i).queue with
  | [] => { s with phase := .draining drain batch (i + 1) }
  | snapshot :: rest =>
    { s.setWorker i { s.workers i with queue := rest } with
      phase := .draining drain (update batch i (batch i ++ [snapshot])) i }

/-- The drain has ended with the coordinator in state `k`. -/
def logDrain (s : Session n S) (drain : Drain) (batch : Batch n) (k : Coordinator S) :
    Session n S :=
  { s with
    coordinator := k
    drains := s.drains ++ [⟨drain, batch, k.tickAggregate⟩] }

/-- The rest of a tick, once its drain has ended. -/
def endTick (s : Session n S) (commands : List WorkerCommand) (elapsed : Nat) (batch : Batch n)
    (polledSignals pushedSignals : Option (List (String × ℚ))) : Session n S :=
  let input : TickInput := ⟨commands, elapsed, List.ofFn batch, polledSignals, pushedSignals⟩
  { s.logDrain (.tick commands elapsed) batch
      (s.coordinator.tick setup.valueAtQuantile setup.controller input).after with
    phase := .checking }

/-- Merge a drain made after the last tick. -/
def collect (k : Coordinator S) (batch : Batch n) : Coordinator S :=
  { k with totalAggregate := batch.all.foldl .merge k.totalAggregate }

/-- 200 ms, in nanoseconds. -/
def settleTime : Nat := 200000000

def step (s : Session n S) : SessionEvent n → Option (Session n S)
  | .elapse time => some { s with clock := s.clock + time }
  | .send i snapshot =>
    -- it was taken before it is sent
    if (s.workers i).running ∧ snapshot.windowEnd ≤ s.clock then
      some (s.setWorker i
        { s.workers i with
          sent := (s.workers i).sent ++ [snapshot]
          queue := (s.workers i).queue ++ [snapshot] })
    else none
  | .workerEnds i => some (s.setWorker i { s.workers i with running := false })
  | .timerEnds => some { s with timerRunning := false }
  | .beginTick commands =>
    match s.phase with
    | .sleeping wake =>
      if wake ≤ s.clock then
        some { s with
          phase := .draining (.tick commands s.clock) (fun _ => []) 0
          sentBeforeTick := fun i => (s.workers i).sent }
      else none
    | _ => none
  | .tryRecv =>
    match s.phase with
    | .draining drain batch next =>
      if left : next < n then some (s.tryRecv drain batch ⟨next, left⟩) else none
    | _ => none
  | .endTick polledSignals pushedSignals =>
    match s.phase with
    | .draining (.tick commands elapsed) batch next =>
      if next < n then none
      else some (s.endTick setup commands elapsed batch polledSignals pushedSignals)
    | _ => none
  | .check =>
    match s.phase with
    | .checking =>
      if s.coordinator.isTestComplete setup.limits s.clock then
        some { s with phase := .settling (s.clock + settleTime) }
      else some { s with phase := .sleeping (s.clock + setup.controlInterval) }
    | _ => none
  | .beginDrain =>
    match s.phase with
    | .settling wake =>
      if wake ≤ s.clock then some { s with phase := .draining .beforeJoin (fun _ => []) 0 }
      else none
    | _ => none
  | .endDrain =>
    match s.phase with
    | .draining .beforeJoin batch next =>
      if next < n then none
      else some { s.logDrain .beforeJoin batch (collect s.coordinator batch) with
        phase := .joining }
    | _ => none
  | .join =>
    match s.phase with
    | .joining =>
      -- the timer's thread first, then each worker's: all have to have ended
      if s.timerRunning = false ∧ ∀ i, (s.workers i).running = false then
        some { s with phase := .draining .afterJoin (fun _ => []) 0 }
      else none
    | _ => none
  | .report stats =>
    match s.phase with
    | .draining .afterJoin batch next =>
      if next < n then none
      else
        let k := collect s.coordinator batch
        some { s.logDrain .afterJoin batch k with
          phase := .returned (testResult k.totalAggregate stats setup.valueAtQuantile
            setup.maxValue s.clock) }
    | _ => none

/-- The result, once there is one. -/
def result (s : Session n S) : Option TestResult :=
  match s.phase with
  | .returned result => some result
  | _ => none

theorem phase_of_result {s : Session n S} {result : TestResult} (some : s.result = some result) :
    s.phase = .returned result := by
  unfold Session.result at some
  split at some
  · rename_i returned
    rw [returned, Option.some.inj some]
  · cases some

/-! ## What a step can do -/

/-- The coordinator goes on without touching its aggregates. -/
inductive Turn (s : Session n S) : Phase n → Batch n → Prop where
  | tick {wake : Nat} (commands : List WorkerCommand) (here : s.phase = .sleeping wake) :
      Turn s (.draining (.tick commands s.clock) (fun _ => []) 0) fun i => (s.workers i).sent
  | sleep (wake : Nat) (here : s.phase = .checking) : Turn s (.sleeping wake) s.sentBeforeTick
  | settle (wake : Nat) (here : s.phase = .checking) : Turn s (.settling wake) s.sentBeforeTick
  | collect {wake : Nat} (here : s.phase = .settling wake) :
      Turn s (.draining .beforeJoin (fun _ => []) 0) s.sentBeforeTick
  | join (here : s.phase = .joining) (ended : ∀ i, (s.workers i).running = false) :
      Turn s (.draining .afterJoin (fun _ => []) 0) s.sentBeforeTick

/-- What becomes of a batch at the end of its drain. -/
inductive Merges (s : Session n S) (batch : Batch n) : Drain → Coordinator S → Phase n → Prop where
  | tick (commands : List WorkerCommand) (elapsed : Nat)
      (polledSignals pushedSignals : Option (List (String × ℚ))) :
      Merges s batch (.tick commands elapsed)
        (s.coordinator.tick setup.valueAtQuantile setup.controller
          ⟨commands, elapsed, List.ofFn batch, polledSignals, pushedSignals⟩).after .checking
  | beforeJoin : Merges s batch .beforeJoin (collect s.coordinator batch) .joining
  | afterJoin (stats : TimerStats) :
      Merges s batch .afterJoin (collect s.coordinator batch)
        (.returned (testResult (collect s.coordinator batch).totalAggregate stats
          setup.valueAtQuantile setup.maxValue s.clock))

/-- What a step can do. Only `tryRecv` receives anything. -/
inductive Moves (s : Session n S) : SessionEvent n → Session n S → Prop where
  /-- Time passes, or a thread ends. -/
  | passes {event : SessionEvent n} (other : event ≠ .tryRecv) (clock : Nat) (timerRunning : Bool)
      (running : Fin n → Bool) (later : s.clock ≤ clock)
      (ends : ∀ i, running i = true → (s.workers i).running = true) :
      Moves s event { s with
        clock := clock
        timerRunning := timerRunning
        workers := fun i => { s.workers i with running := running i } }
  | sends {event : SessionEvent n} (other : event ≠ .tryRecv) (i : Fin n) (x : MetricsSnapshot)
      (running : (s.workers i).running = true) (taken : x.windowEnd ≤ s.clock) :
      Moves s event (s.setWorker i
        { s.workers i with
          sent := (s.workers i).sent ++ [x]
          queue := (s.workers i).queue ++ [x] })
  | turns {event : SessionEvent n} (other : event ≠ .tryRecv) {phase : Phase n} {before : Batch n}
      (turn : Turn s phase before) :
      Moves s event { s with phase := phase, sentBeforeTick := before }
  | finds {drain : Drain} {batch : Batch n} {i : Fin n} (here : s.phase = .draining drain batch i)
      (empty : (s.workers i).queue = []) :
      Moves s .tryRecv { s with phase := .draining drain batch (i + 1) }
  | takes {drain : Drain} {batch : Batch n} {i : Fin n} {x : MetricsSnapshot}
      {rest : List MetricsSnapshot} (here : s.phase = .draining drain batch i)
      (waiting : (s.workers i).queue = x :: rest) :
      Moves s .tryRecv { s.setWorker i { s.workers i with queue := rest } with
        phase := .draining drain (update batch i (batch i ++ [x])) i }
  | merges {event : SessionEvent n} (other : event ≠ .tryRecv) {drain : Drain} {batch : Batch n}
      {next : Nat} {k : Coordinator S} {phase : Phase n}
      (here : s.phase = .draining drain batch next) (all : n ≤ next)
      (merged : Merges setup s batch drain k phase) :
      Moves s event { s.logDrain drain batch k with phase := phase }

variable {setup}

theorem step_moves {s s' : Session n S} {event : SessionEvent n}
    (taken : step setup s event = some s') : Moves setup s event s' := by
  cases event with
  | elapse time | timerEnds =>
    cases taken
    exact .passes (by simp) _ _ (fun i => (s.workers i).running) (by simp) fun i => id
  | send i x =>
    simp only [step, ite_none_right_eq_some] at taken
    obtain ⟨⟨running, before⟩, taken⟩ := taken
    cases taken
    exact .sends (by simp) i x running before
  | workerEnds i =>
    cases taken
    have same : s.setWorker i { s.workers i with running := false } =
        { s with
          clock := s.clock
          timerRunning := s.timerRunning
          workers := fun j => { s.workers j with
            running := if j = i then false else (s.workers j).running } } := by
      simp only [setWorker]
      congr 1
      funext j
      by_cases at_i : j = i
      · subst at_i
        simp
      · simp [at_i]
    rw [same]
    exact .passes (by simp) _ _ _ le_rfl fun j => by split <;> simp
  | beginTick commands =>
    simp only [step] at taken
    split at taken
    · rename_i wake here
      obtain ⟨-, taken⟩ := ite_none_right_eq_some.mp taken
      cases taken
      exact .turns (by simp) (.tick commands here)
    · cases taken
  | tryRecv =>
    simp only [step] at taken
    split at taken
    · rename_i drain batch next here
      split at taken <;> cases taken
      unfold tryRecv
      split
      · rename_i empty
        exact .finds here empty
      · rename_i waiting
        exact .takes here waiting
    · cases taken
  | endTick polledSignals pushedSignals =>
    simp only [step] at taken
    split at taken
    · rename_i commands elapsed batch next here
      split at taken
      · cases taken
      · rename_i all
        cases taken
        exact .merges (by simp) here (Nat.le_of_not_lt all) (.tick _ _ _ _)
    · cases taken
  | check =>
    simp only [step] at taken
    split at taken
    · rename_i here
      split at taken <;> cases taken
      · exact .turns (by simp) (.settle _ here)
      · exact .turns (by simp) (.sleep _ here)
    · cases taken
  | beginDrain =>
    simp only [step] at taken
    split at taken
    · rename_i wake here
      obtain ⟨-, taken⟩ := ite_none_right_eq_some.mp taken
      cases taken
      exact .turns (by simp) (.collect here)
    · cases taken
  | endDrain | report stats =>
    simp only [step] at taken
    split at taken
    · rename_i batch next here
      split at taken
      · cases taken
      · rename_i all
        cases taken
        exact .merges (by simp) here (Nat.le_of_not_lt all) (by constructor)
    · cases taken
  | join =>
    simp only [step] at taken
    split at taken
    · rename_i here
      obtain ⟨⟨-, ended⟩, taken⟩ := ite_none_right_eq_some.mp taken
      cases taken
      exact .turns (by simp) (.join here ended)
    · cases taken

end Session

end Netanvil.Core
