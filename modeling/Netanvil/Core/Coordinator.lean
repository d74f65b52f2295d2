/-
# The local coordinator's tick

One iteration of the control loop on a single machine, up to the rate it sends to the
timer thread. Reporting changes nothing the controller sees and is left out here. The
controller is given the window since the last tick (`tick_isWindow`).
-/
import Netanvil.Types.Control
import Netanvil.Metrics.Aggregate

namespace Netanvil.Core

open Netanvil.Types Metrics AggregateMetrics

/-- Commands from the API; replies go back through `Reply`. -/
inductive WorkerCommand where
  | updateRate (rps : ℚ)
  | updateTargets (targets : List String)
  | updateMetadata (headers : List (String × String))
  | stop
  | hold (command : HoldCommand)
  | controllerUpdate (action : String) (params : Json)
  | controllerInfo

inductive TimerCommand where
  | updateRate (rps : ℚ)
  | updateTargets (targets : List String)
  | updateMetadata (headers : List (String × String))
  | stop

inductive Reply where
  | update (result : Except String Json)
  | info (view : ControllerView)

structure Coordinator (S : Type) where
  rateController : S
  tickAggregate : AggregateMetrics
  totalAggregate : AggregateMetrics
  stopped : Bool
  holdState : HoldState
  warmupDuration : Option Nat
  warmupComplete : Bool

/-- What has arrived for one tick. -/
structure TickInput where
  commands : List WorkerCommand
  /-- Time since the start of the test. -/
  elapsed : Nat
  /-- Snapshots waiting in each worker's channel. -/
  snapshots : List (List MetricsSnapshot)
  /-- Answers of the signal sources that are set. -/
  polledSignals : Option (List (String × ℚ))
  pushedSignals : Option (List (String × ℚ))

/-- One tick: what it sent out and the coordinator after it. -/
structure Tick (S : Type) where
  sent : List TimerCommand
  replies : List Reply
  /-- The summary of the window; the controller is given it unless the rate is held. -/
  summary : MetricsSummary
  decision : RateDecision
  after : Coordinator S

namespace Coordinator

variable {S : Type}

def new (rateController : S) (warmupDuration : Option Nat) : Coordinator S :=
  ⟨rateController, .new, .new, false, .released, warmupDuration, false⟩

/-- A command's effect, the timer command it becomes and its reply. -/
def handleExternalCommand (c : RateController S) (k : Coordinator S) :
    WorkerCommand → Coordinator S × Option TimerCommand × Option Reply
  | .updateRate rps => ({ k with holdState := .held rps }, some (.updateRate rps), none)
  | .updateTargets targets => (k, some (.updateTargets targets), none)
  | .updateMetadata headers => (k, some (.updateMetadata headers), none)
  | .stop => ({ k with stopped := true }, some .stop, none)
  | .hold command => ({ k with holdState := command.apply }, none, none)
  | .controllerUpdate action params =>
    let (s, result) := c.applyUpdate k.rateController action params
    ({ k with rateController := s }, none, some (.update result))
  | .controllerInfo =>
    let view : ControllerView :=
      ⟨c.controllerInfo k.rateController, k.holdState.heldRps.isSome, k.holdState.heldRps⟩
    (k, none, some (.info view))

def handleExternalCommands (c : RateController S) (k : Coordinator S) :
    List WorkerCommand → Coordinator S × List TimerCommand × List Reply
  | [] => (k, [], [])
  | command :: rest =>
    let (k, sent, reply) := k.handleExternalCommand c command
    let (k, sentRest, replies) := handleExternalCommands c k rest
    (k, sent.toList ++ sentRest, reply.toList ++ replies)

/-- Without a warm-up it is complete at the first tick. -/
def checkWarmup (k : Coordinator S) (elapsed : Nat) : Coordinator S :=
  if k.warmupComplete then k
  else
    match k.warmupDuration with
    | some warmup => { k with warmupComplete := decide (warmup ≤ elapsed) }
    | none => { k with warmupComplete := true }

/-- The tick's aggregate starts empty; the total one grows once warm-up is complete. -/
def drainSnapshots (k : Coordinator S) (snapshots : List MetricsSnapshot) : Coordinator S :=
  { k with
    tickAggregate := snapshots.foldl .merge k.tickAggregate.reset
    totalAggregate :=
      if k.warmupComplete then snapshots.foldl .merge k.totalAggregate else k.totalAggregate }

/-- Response signals first, polled ones over them, pushed ones over both. -/
def addSignals (summary : MetricsSummary) (input : TickInput) : MetricsSummary :=
  let polled := (input.polledSignals.getD []).foldl upsertSignal summary.externalSignals
  { summary with externalSignals := (input.pushedSignals.getD []).foldl upsertSignal polled }

def tick (valueAtQuantile : Histogram → ℚ → Nat) (c : RateController S) (k : Coordinator S)
    (input : TickInput) : Tick S :=
  let (k, sent, replies) := k.handleExternalCommands c input.commands
  let k := (k.checkWarmup input.elapsed).drainSnapshots input.snapshots.flatten
  let summary := addSignals (k.tickAggregate.toSummary valueAtQuantile) input
  let (s, decision) : S × RateDecision :=
    match k.holdState with
    | .held rps => (k.rateController, ⟨rps⟩)
    | .released => c.update k.rateController summary
  { sent := sent ++ [.updateRate decision.targetRps]
    replies := replies
    summary := summary
    decision := decision
    after := { k with rateController := s } }

/-! ## What a tick does to the aggregates -/

section

variable (valueAtQuantile : Histogram → ℚ → Nat) (c : RateController S) (k : Coordinator S)

/-- Commands change neither the aggregates nor the warm-up. -/
theorem handleExternalCommands_frame (commands : List WorkerCommand) :
    let k' := (k.handleExternalCommands c commands).1
    k'.totalAggregate = k.totalAggregate ∧ k'.tickAggregate = k.tickAggregate ∧
      k'.warmupDuration = k.warmupDuration ∧ k'.warmupComplete = k.warmupComplete := by
  induction commands generalizing k with
  | nil => exact ⟨rfl, rfl, rfl, rfl⟩
  | cons command rest ih =>
    simp only [handleExternalCommands]
    obtain ⟨total, tick, duration, complete⟩ := ih (k.handleExternalCommand c command).1
    rw [total, tick, duration, complete]
    cases command <;> exact ⟨rfl, rfl, rfl, rfl⟩

/-- The check only sets the flag. -/
theorem checkWarmup_eq (elapsed : Nat) :
    k.checkWarmup elapsed =
      { k with
        warmupComplete :=
          k.warmupComplete || k.warmupDuration.all (decide <| · ≤ elapsed) } := by
  unfold checkWarmup
  split
  · rename_i complete
    simp only [complete, Bool.true_or]
    rw [← complete]
  · rename_i complete
    split <;> simp_all

variable (input : TickInput)

theorem tick_warmupDuration :
    (k.tick valueAtQuantile c input).after.warmupDuration = k.warmupDuration := by
  show ((k.handleExternalCommands c input.commands).1.checkWarmup input.elapsed).warmupDuration = _
  rw [checkWarmup_eq]
  exact (handleExternalCommands_frame c k input.commands).2.2.1

theorem tick_warmupComplete :
    (k.tick valueAtQuantile c input).after.warmupComplete =
      (k.warmupComplete || k.warmupDuration.all (decide <| · ≤ input.elapsed)) := by
  show ((k.handleExternalCommands c input.commands).1.checkWarmup input.elapsed).warmupComplete = _
  obtain ⟨-, -, duration, complete⟩ := handleExternalCommands_frame c k input.commands
  rw [checkWarmup_eq, duration, complete]

theorem tick_tickAggregate :
    (k.tick valueAtQuantile c input).after.tickAggregate =
      input.snapshots.flatten.foldl .merge k.tickAggregate.reset := by
  show input.snapshots.flatten.foldl merge
    ((k.handleExternalCommands c input.commands).1.checkWarmup
      input.elapsed).tickAggregate.reset = _
  rw [checkWarmup_eq]
  rw [(handleExternalCommands_frame c k input.commands).2.1]

theorem tick_totalAggregate :
    (k.tick valueAtQuantile c input).after.totalAggregate =
      if (k.tick valueAtQuantile c input).after.warmupComplete then
        input.snapshots.flatten.foldl .merge k.totalAggregate
      else k.totalAggregate := by
  -- the coordinator when it starts to drain
  set k' := (k.handleExternalCommands c input.commands).1.checkWarmup input.elapsed with drained
  have before : k'.totalAggregate = k.totalAggregate := by
    rw [drained, checkWarmup_eq]
    exact (handleExternalCommands_frame c k input.commands).1
  show (if k'.warmupComplete then input.snapshots.flatten.foldl merge
    k'.totalAggregate else k'.totalAggregate) = _
  rw [before]
  rfl

end

/-! ## The window -/

variable (valueAtQuantile : Histogram → ℚ → Nat) (c : RateController S) (k : Coordinator S)

/-- What the snapshots of a tick count. -/
def arrived (input : TickInput) : Counters :=
  (input.snapshots.flatten.map MetricsSnapshot.counters).sum

theorem tick_counters (input : TickInput) :
    (k.tick valueAtQuantile c input).after.totalAggregate.counters =
      k.totalAggregate.counters +
        if (k.tick valueAtQuantile c input).after.warmupComplete then arrived input
        else 0 := by
  rw [tick_totalAggregate]
  split
  · exact counters_foldl_merge _ _
  · exact (add_zero _).symm

/-- **Once warm-up is complete, every tick's summary is the window since the tick
before, as the totals of the test have grown.** -/
theorem tick_isWindow (input : TickInput)
    (warm : (k.tick valueAtQuantile c input).after.warmupComplete = true) :
    IsWindow k.totalAggregate.counters
      (k.tick valueAtQuantile c input).after.totalAggregate.counters
      (k.tick valueAtQuantile c input).summary := by
  have summary : (k.tick valueAtQuantile c input).summary.counters = arrived input := by
    show (k.tick valueAtQuantile c input).after.tickAggregate.counters = _
    rw [tick_tickAggregate, counters_foldl_merge, counters_reset, zero_add]
    rfl
  have total := tick_counters valueAtQuantile c k input
  rw [if_pos warm] at total
  exact .of_guarded (by rw [summary, total]) rfl

/-- A snapshot of so many requests, errors and timeouts. -/
def countsOnly (requests errors timeouts : Nat) : MetricsSnapshot :=
  ⟨0, requests, errors, 0, 0, 0, 0, 0, 0, 0, 0, 0, [], 0, 0, [], 0, 0, 0, timeouts, 0, 0, 0⟩

/-- A controller that keeps its rate. -/
def keepsRate : RateController ℚ :=
  ⟨fun s _ => (s, ⟨s⟩), id, fun _ => [], fun s => ⟨.static, s, [], .null⟩,
    fun s _ _ => (s, .ok .null)⟩

/-- Two workers: a snapshot of each in the tick that completes warm-up, three in the next. -/
theorem second_tick_isWindow :
    let k := (tick (fun _ _ => 0) keepsRate (new 9 (some 5))
      ⟨[], 5, [[countsOnly 3 1 0], [countsOnly 2 0 0]], none, none⟩).after
    let t := k.tick (fun _ _ => 0) keepsRate
      ⟨[], 6, [[countsOnly 10 2 1, countsOnly 4 0 0], [countsOnly 7 1 1]], none, none⟩
    t.after.warmupComplete = true ∧ IsWindow ⟨5, 1, 0⟩ ⟨26, 4, 2⟩ t.summary := by
  intro k t
  have before : k.totalAggregate.counters = ⟨5, 1, 0⟩ := rfl
  have after : t.after.totalAggregate.counters = ⟨26, 4, 2⟩ := rfl
  have warm : t.after.warmupComplete = true := rfl
  rw [← before, ← after]
  exact ⟨warm, tick_isWindow _ keepsRate k _ warm⟩

/-! ## Holding the rate -/

/-- The hold that some commands leave; a rate that is set is held, too. -/
def holdAfter : HoldState → List WorkerCommand → HoldState :=
  List.foldl fun hold command =>
    match command with
    | .updateRate rps => .held rps
    | .hold command => command.apply
    | _ => hold

theorem handleExternalCommands_hold (commands : List WorkerCommand) :
    (k.handleExternalCommands c commands).1.holdState = holdAfter k.holdState commands := by
  induction commands generalizing k with
  | nil => rfl
  | cons command rest ih =>
    simp only [handleExternalCommands, ih]
    cases command <;> rfl

theorem ticks_hold (inputs : List TickInput) :
    (inputs.foldl (fun k input => (k.tick valueAtQuantile c input).after) k).holdState =
      holdAfter k.holdState (inputs.flatMap TickInput.commands) := by
  induction inputs generalizing k with
  | nil => rfl
  | cons input rest ih =>
    have tick : (k.tick valueAtQuantile c input).after.holdState =
        ((k.handleExternalCommands c input.commands).1.checkWarmup input.elapsed).holdState := rfl
    rw [List.foldl_cons, ih, tick, checkWarmup_eq, handleExternalCommands_hold, List.flatMap_cons,
      holdAfter, List.foldl_append]

/-- **A held rate is kept until it is released.** If, of all commands of a run, the last one about
the rate holds or sets it, the run's last tick ends by sending that rate to the timer thread and
does not ask the controller; otherwise the controller decides. -/
theorem held_rate_kept (inputs : List TickInput) (input : TickInput) :
    let k' := inputs.foldl (fun k input => (k.tick valueAtQuantile c input).after) k
    let s := (k'.handleExternalCommands c input.commands).1.rateController
    let t := k'.tick valueAtQuantile c input
    match holdAfter k.holdState ((inputs ++ [input]).flatMap TickInput.commands) with
    | .held rps => t.sent.getLast? = some (.updateRate rps) ∧ t.after.rateController = s
    | .released => t.sent.getLast? = some (.updateRate (c.update s t.summary).2.targetRps) ∧
        t.after.rateController = (c.update s t.summary).1 := by
  intro k' s t
  have hold : t.after.holdState =
      holdAfter k.holdState ((inputs ++ [input]).flatMap TickInput.commands) := by
    rw [← ticks_hold valueAtQuantile c, List.foldl_append]
    rfl
  rw [← hold]
  simp only [t, s, tick, checkWarmup_eq, drainSnapshots]
  split <;> simp_all

end Coordinator

end Netanvil.Core
