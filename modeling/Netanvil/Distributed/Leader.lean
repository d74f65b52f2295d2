/-
# The leader daemon on its one thread

The daemon runs the API server and the test scheduler on a runtime with one thread. The
scheduler's task is the test queue's loop with the distributed coordinator inside, suspended
at one of a few places (`Stage`). A handler's task is one call of a queue method, with no await
in it.

Two calls wait without giving the thread back: `cancel` sends on a bounded channel, and
`send_controller_update` and `get_controller_info` wait up to ten seconds. While such a call
waits (`Thread`) no other task runs. Times are in nanoseconds.
-/
import Netanvil.Core.StaticRate
import Netanvil.Distributed.Run
import Netanvil.Distributed.TestQueue

namespace Netanvil.Distributed

open Netanvil.Types Theory Theory.Disk DistributedCoordinator Option

/-- What a leader is built with: the rate controllers, and how a specification becomes a
configuration. -/
structure LeaderSetup (S Spec : Type) where
  controller : RateController S
  buildRateController : TestConfig → Nat → S
  intoConfig : Spec → Except String TestConfig
  summary : Spec → String

/-- An API request. -/
inductive Request (Spec : Type) where
  | createTest (spec : Spec)
  | listTests
  | getTest (id : TestId)
  | getResult (id : TestId)
  | getMetrics (id : TestId)
  | putRate (id : TestId) (rps : ℚ)
  | putHold (id : TestId) (rps : ℚ)
  | deleteHold (id : TestId)
  | putSignal (id : TestId) (name : String) (value : ℚ)
  | getController (id : TestId)
  | putController (id : TestId) (action : String) (params : Json)
  | cancelTest (id : TestId)
  /-- A request that does not concern the queue. -/
  | other

/-- What a handler's call of the queue returned. -/
inductive Response (Spec : Type) where
  | created (result : Except String (Option TestInfo))
  | tests (all : List TestInfo)
  | test (found :
      Option (TestInfo × Option DistributedProgressUpdate × Option (StoredTestEntry Spec)))
  | entry (found : Option (StoredTestEntry Spec))
  | progress (found : Option DistributedProgressUpdate)
  | sent (ok : Bool)
  | update (result : Option (Except String Json))
  | info (view : Option ControllerView)
  | cancel (result : CancelResult)
  | other

/-- A running coordinator: its test, when its run began, its state. -/
structure CoordinatorTask (S : Type) where
  id : TestId
  begun : Nat
  coordinator : DistributedCoordinator S

/-- Where the scheduler's task is suspended. -/
inductive Stage (S : Type) where
  /-- Between two looks at an empty queue. -/
  | polling
  /-- A test is taken up and its nodes are being discovered. -/
  | discovering (id : TestId) (config : TestConfig)
  | starting (task : CoordinatorTask S)
  /-- Between two ticks. -/
  | sleeping (task : CoordinatorTask S)
  /-- In a tick, with the commands read, while metrics and signals are fetched. -/
  | fetching (task : CoordinatorTask S) (nodes : List NodeInfo) (input : TickInput)
  /-- In a tick, while the rates are sent out. -/
  | distributing (task : CoordinatorTask S) (nodes : List NodeInfo) (input : TickInput)
  /-- After the tick loop. -/
  | finishing (task : CoordinatorTask S)

/-- The test whose run the scheduler is in. -/
def Stage.testId {S : Type} : Stage S → Option TestId
  | .polling => none
  | .discovering id _ => some id
  | .starting task | .sleeping task | .fetching task _ _ | .distributing task _ _
  | .finishing task => some task.id

/-- The scheduler's turns until the test's next tick begins or its run ends. -/
def Stage.turnsLeft {S : Type} : Stage S → Nat
  | .polling | .finishing _ => 0
  | .sleeping _ => 1
  | .starting _ | .distributing _ _ _ => 2
  | .discovering _ _ | .fetching _ _ _ => 3

/-- What the thread is doing between two events: it is free to run any task, or a call of
request `n` waits without giving it back. -/
inductive Thread where
  | free
  /-- In `cancel`, for room in the channel. -/
  | sendingCancel (n : Nat) (id : TestId)
  /-- In `send_controller_update`, for the answer. -/
  | awaitingUpdate (n : Nat) (deadline : Nat)
  /-- In `get_controller_info`, for the answer. -/
  | awaitingInfo (n : Nat) (deadline : Nat)
  deriving DecidableEq

structure Leader (S Spec B : Type) where
  queue : TestQueue Spec B
  scheduler : Stage S
  thread : Thread
  clock : Nat
  /-- Requests that have arrived and wait for their handler, by number. -/
  inbox : List (Nat × Request Spec)
  arrivals : Nat
  responses : List (Nat × Response Spec)
  /-- What the coordinator has sent back on the response channels; a request's number is
  also its channel's. -/
  updateReplies : List (Nat × Except String Json)
  infoReplies : List (Nat × ControllerView)

/-- What the scheduler's awaits bring. -/
structure World where
  /-- Discovery of the nodes; an error is one of the mTLS setup. -/
  nodes : Except String (List NodeInfo)
  startOk : NodeInfo → TestConfig → Bool
  fetch : NodeInfo → Option RemoteMetrics
  polledSignals : Option (List (String × ℚ))

inductive LeaderEvent (Spec : Type) where
  | arrive (request : Request Spec)
  /-- The handler of request `n` runs; `drawn` is the id a new test would get. -/
  | serve (n : Nat) (drawn : TestId)
  /-- The scheduler's task runs on to its next await. -/
  | schedule (world : World)
  /-- The call that waits goes on. -/
  | wake
  | elapse (time : Nat)

/-- The commands as input of a tick; the rest of the input comes later in the tick. -/
def TestQueue.Commands.tickInput (commands : TestQueue.Commands) : TickInput where
  holdCommands := commands.hold
  controllerUpdates := commands.updates.map fun u => (u.action, u.params)
  infoRequests := commands.infos.length
  rateOverrides := commands.rateOverrides
  fetch := fun _ => none
  polledSignals := none
  pushedSignals := []
  elapsed := 0
  cancelled := false

def Reply.update? : Reply → Option (Except String Json)
  | .update result => some result
  | .info _ => none

def Reply.info? : Reply → Option ControllerView
  | .update _ => none
  | .info view => some view

/-- Ten seconds. -/
def responseTimeout : Nat := 10000000000

/-- The answer to an update whose result was not there in time. -/
def timedOut : Except String Json := .error "timeout waiting for coordinator"

namespace Leader

variable {S Spec B : Type} (setup : LeaderSetup S Spec)

def start (store : ResultStore Spec B) (disk : Directory Path B) : Leader S Spec B :=
  ⟨.new store disk, .polling, .free, 0, [], 0, [], [], []⟩

def respond (s : Leader S Spec B) (n : Nat) (response : Response Spec) : Leader S Spec B :=
  { s with responses := s.responses ++ [(n, response)] }

/-! ## Handlers -/

/-- A send that does not wait. -/
def forward (s : Leader S Spec B) (n : Nat) (sent : Bool × TestQueue Spec B) : Leader S Spec B :=
  ({ s with queue := sent.2 }).respond n (.sent sent.1)

/-- The handler of request `n`. -/
def handle (s : Leader S Spec B) (n : Nat) (drawn : TestId) : Request Spec → Leader S Spec B
  | .createTest spec =>
    match setup.intoConfig spec with
    | .error e => s.respond n (.created (.error e))
    | .ok config =>
      let q := s.queue.enqueueInner drawn s.clock config (some spec) (setup.summary spec)
      ({ s with queue := q }).respond n (.created (.ok (q.getInfo drawn)))
  | .listTests => s.respond n (.tests s.queue.allTests)
  | .getTest id =>
    s.respond n (.test ((s.queue.getInfo id).map fun info =>
      (info, s.queue.getProgress id, s.queue.getEntry id)))
  | .getResult id => s.respond n (.entry (s.queue.getEntry id))
  | .getMetrics id => s.respond n (.progress (s.queue.getProgress id))
  | .putRate id rps => s.forward n (s.queue.sendHold id rps)
  | .putHold id rps => s.forward n (s.queue.sendHold id rps)
  | .deleteHold id => s.forward n (s.queue.sendRelease id)
  | .putSignal id name value => s.forward n (s.queue.sendSignal id name value)
  | .getController id =>
    let (sent, q) := s.queue.getControllerInfo id n
    if sent then { s with queue := q, thread := .awaitingInfo n (s.clock + responseTimeout) }
    else s.respond n (.info none)
  | .putController id action params =>
    let (sent, q) := s.queue.sendControllerUpdate id ⟨action, params, n⟩
    if sent then { s with queue := q, thread := .awaitingUpdate n (s.clock + responseTimeout) }
    else s.respond n (.update none)
  | .cancelTest id =>
    match s.queue.cancel id s.clock with
    | some (result, q) => ({ s with queue := q }).respond n (.cancel result)
    | none => { s with thread := .sendingCancel n id }
  | .other => s.respond n .other

/-- The call that waits goes on, if what it waits for is there or its time is up. -/
def wake (s : Leader S Spec B) : Option (Leader S Spec B) :=
  match s.thread with
  | .free => none
  | .sendingCancel n id =>
    let (sent, q) := s.queue.sendCancel id
    if sent then some (({ s with queue := q, thread := .free }).respond n (.cancel .stopping))
    else none
  | .awaitingUpdate n deadline =>
    match s.updateReplies.lookup n with
    | some result => some (({ s with thread := .free }).respond n (.update (some result)))
    | none =>
      if deadline ≤ s.clock then
        some (({ s with thread := .free }).respond n (.update (some timedOut)))
      else none
  | .awaitingInfo n deadline =>
    match s.infoReplies.lookup n with
    | some view => some (({ s with thread := .free }).respond n (.info (some view)))
    | none =>
      if deadline ≤ s.clock then some (({ s with thread := .free }).respond n (.info none))
      else none

/-! ## The scheduler -/

/-- The top of the scheduler's loop. -/
def nextTest (s : Leader S Spec B) : Leader S Spec B :=
  let (taken, q) := s.queue.tryDequeue s.clock
  match taken with
  | some entry => { s with queue := q, scheduler := .discovering entry.id entry.config }
  | none => { s with queue := q, scheduler := .polling }

/-- A test's run is over: record it and go on to the next one. -/
def complete (s : Leader S Spec B) (id : TestId) (result : DistributedTestResult)
    (status : TestStatus) : Leader S Spec B :=
  ({ s with queue := s.queue.markCompleted id result status s.clock }).nextTest

/-- The start of a tick: read the commands and answer them. -/
def beginTick (s : Leader S Spec B) (task : CoordinatorTask S) (nodes : List NodeInfo) :
    Leader S Spec B :=
  let (commands, q) := s.queue.takeCommands
  let replies := (task.coordinator.processCommands setup.controller commands.tickInput).2
  { s with
    queue := q
    scheduler := .fetching task nodes commands.tickInput
    updateReplies := s.updateReplies ++
      (commands.updates.map ControllerUpdateCommand.responseTx).zip
        (replies.filterMap Reply.update?)
    infoReplies := s.infoReplies ++ commands.infos.zip (replies.filterMap Reply.info?) }

/-- The end of a tick: the time, the cancel channel, the progress callback. -/
def endTick (s : Leader S Spec B) (task : CoordinatorTask S) (nodes : List NodeInfo)
    (input : TickInput) : Leader S Spec B :=
  let elapsed := s.clock - task.begun
  if task.coordinator.config.duration ≤ elapsed then
    let t := task.coordinator.tick setup.controller nodes { input with elapsed := elapsed }
    { s with scheduler := .finishing { task with coordinator := t.after } }
  else
    let (cancelled, q) := s.queue.takeCancel
    let t := task.coordinator.tick setup.controller nodes
      { input with elapsed := elapsed, cancelled := cancelled }
    if cancelled then
      { s with queue := q, scheduler := .finishing { task with coordinator := t.after } }
    else
      { s with
        queue := q.setProgress (progressUpdate setup.controller t)
        scheduler := .sleeping { task with coordinator := t.after } }

/-- The scheduler's task from one await to the next. -/
def schedule (s : Leader S Spec B) (world : World) : Leader S Spec B :=
  match s.scheduler with
  | .polling => s.nextTest
  | .discovering id config =>
    match world.nodes with
    | .error _ => s.complete id noResult .failed
    | .ok nodes =>
      let l := new nodes config (setup.buildRateController config s.clock)
      if l.discover = [] then s.complete id noResult .completed
      else { s with scheduler := .starting ⟨id, s.clock, l⟩ }
  | .starting task =>
    let l := launched setup.controller task.coordinator ⟨world.startOk, [], fun _ => none, 0⟩
    if l.discover = [] then s.complete task.id noResult .completed
    else { s with scheduler := .sleeping { task with coordinator := l } }
  | .sleeping task =>
    if task.coordinator.discover = [] then { s with scheduler := .finishing task }
    else s.beginTick setup task task.coordinator.discover
  | .fetching task nodes input =>
    let (pushed, q) := s.queue.takeSignals
    { s with
      queue := q
      scheduler := .distributing task nodes { input with
        fetch := world.fetch
        polledSignals := world.polledSignals
        pushedSignals := pushed } }
  | .distributing task nodes input => s.endTick setup task nodes input
  | .finishing task =>
    let l := task.coordinator.collectFinal task.coordinator.discover world.fetch
    s.complete task.id
      ⟨l.totalRequests, l.totalErrors, s.clock - task.begun, l.nodeMetrics⟩ .completed

/-! ## Events -/

/-- The request `n` that waits for its handler. -/
def waiting (s : Leader S Spec B) (n : Nat) : Option (Request Spec) := s.inbox.lookup n

/-- The handler of request `n` takes it. -/
def accept (s : Leader S Spec B) (n : Nat) : Leader S Spec B :=
  { s with inbox := s.inbox.eraseP fun e => e.1 = n }

/-- One event. A task runs only while the thread is free. Ids are drawn afresh. -/
def step (s : Leader S Spec B) : LeaderEvent Spec → Option (Leader S Spec B)
  | .arrive request =>
    some { s with
      inbox := s.inbox ++ [(s.arrivals, request)]
      arrivals := s.arrivals + 1 }
  | .serve n drawn =>
    match s.thread, s.waiting n, s.queue.getInfo drawn with
    | .free, some request, none =>
      some ((s.accept n).handle setup n drawn request)
    | _, _, _ => none
  | .schedule world =>
    match s.thread with
    | .free => some (s.schedule setup world)
    | _ => none
  | .wake => s.wake
  | .elapse time => some { s with clock := s.clock + time }

variable {setup} {s s' : Leader S Spec B}

theorem step_serve {n : Nat} {drawn : TestId} :
    step setup s (.serve n drawn) = some s' ↔
      s.thread = .free ∧ s.queue.getInfo drawn = none ∧ ∃ request, s.waiting n = some request ∧
        s' = (s.accept n).handle setup n drawn request := by
  constructor
  · intro taken
    simp only [step] at taken
    split at taken
    · rename_i free found unused
      exact ⟨free, unused, _, found, (some.inj taken).symm⟩
    · cases taken
  · rintro ⟨free, unused, request, found, rfl⟩
    simp only [step, free, found, unused]

theorem step_schedule {world : World} :
    step setup s (.schedule world) = some s' ↔ s.thread = .free ∧ s' = s.schedule setup world := by
  constructor
  · intro taken
    simp only [step] at taken
    split at taken
    · rename_i free
      exact ⟨free, (some.inj taken).symm⟩
    · cases taken
  · rintro ⟨free, rfl⟩
    simp only [step, free]

end Leader

/-! ## What the tasks leave alone -/

namespace Leader

variable {S Spec B : Type} {setup : LeaderSetup S Spec} {s s' : Leader S Spec B}

/-- A tick of the test begins with this event. -/
def TickBegins (s : Leader S Spec B) (event : LeaderEvent Spec) (id : TestId) : Prop :=
  (∃ task, s.scheduler = .sleeping task ∧ task.id = id ∧ task.coordinator.discover ≠ []) ∧
    ∃ world, event = .schedule world

/-- What the scheduler does with the queue in the middle of a run. -/
inductive Reads (q : TestQueue Spec B) : TestQueue Spec B → Prop
  | nothing : Reads q q
  | signals : Reads q q.takeSignals.2
  | cancel : Reads q q.takeCancel.2
  | progress (update : DistributedProgressUpdate) : Reads q (q.takeCancel.2.setProgress update)

/-- The thread, the clock and the requests are the same. -/
structure SameFront (s s' : Leader S Spec B) : Prop where
  thread : s'.thread = s.thread
  clock : s'.clock = s.clock
  inbox : s'.inbox = s.inbox
  arrivals : s'.arrivals = s.arrivals
  responses : s'.responses = s.responses

theorem nextTest_queue : s.nextTest.queue = (s.queue.tryDequeue s.clock).2 := by
  unfold nextTest
  simp only
  split <;> rfl

theorem sameFront_nextTest : SameFront s s.nextTest := by
  unfold nextTest
  simp only
  split <;> exact ⟨rfl, rfl, rfl, rfl, rfl⟩

theorem sameFront_complete (id : TestId) (result : DistributedTestResult) (status : TestStatus) :
    SameFront s (s.complete id result status) := by
  have next := sameFront_nextTest
    (s := { s with queue := s.queue.markCompleted id result status s.clock })
  exact ⟨next.thread, next.clock, next.inbox, next.arrivals, next.responses⟩

/-- A turn of the scheduler: it looks for the next test, completes the run it is in, begins a
tick, or goes on in the run. -/
inductive Scheduled (setup : LeaderSetup S Spec) (s : Leader S Spec B) : Leader S Spec B → Prop
  | next (polls : s.scheduler = .polling) : Scheduled setup s s.nextTest
  | completes {id : TestId} {result : DistributedTestResult} {status : TestStatus}
      (own : s.scheduler.testId = some id)
      (outcome : status = .completed ∨
        status = .failed ∧ ∃ config, s.scheduler = .discovering id config) :
      Scheduled setup s (s.complete id result status)
  | ticks {task : CoordinatorTask S} (sleeps : s.scheduler = .sleeping task)
      (nodes : task.coordinator.discover ≠ []) :
      Scheduled setup s (s.beginTick setup task task.coordinator.discover)
  | goesOn {stage : Stage S} {q : TestQueue Spec B} (reads : Reads s.queue q)
      (same : stage.testId = s.scheduler.testId)
      (nearer : stage.turnsLeft < s.scheduler.turnsLeft) :
      Scheduled setup s { s with queue := q, scheduler := stage }

open Stage

theorem scheduled {world : World} (turn : s' = s.schedule setup world) : Scheduled setup s s' := by
  subst turn
  have goesOn : ∀ {stage q}, Reads s.queue q → stage.testId = s.scheduler.testId ∧
      stage.turnsLeft < s.scheduler.turnsLeft →
      Scheduled setup s { s with queue := q, scheduler := stage } :=
    fun reads further => .goesOn reads further.1 further.2
  cases here : s.scheduler with
  | polling =>
    simp only [schedule, here]
    exact .next here
  | discovering id config =>
    have own : s.scheduler.testId = some id := by rw [here]; rfl
    simp only [schedule, here]
    split
    · exact .completes own (.inr ⟨rfl, config, here⟩)
    · split
      · exact .completes own (.inl rfl)
      · exact goesOn .nothing (by simp [here, testId, turnsLeft])
  | starting task =>
    simp only [schedule, here]
    split
    · exact .completes (by rw [here]; rfl) (.inl rfl)
    · exact goesOn .nothing (by simp [here, testId, turnsLeft])
  | sleeping task =>
    simp only [schedule, here]
    split
    · exact goesOn .nothing (by simp [here, testId, turnsLeft])
    · rename_i nodes
      exact .ticks here nodes
  | fetching task nodes input =>
    simp only [schedule, here]
    exact goesOn .signals (by simp [here, testId, turnsLeft])
  | distributing task nodes input =>
    simp only [schedule, here, endTick]
    split
    · exact goesOn .nothing (by simp [here, testId, turnsLeft])
    · split
      · exact goesOn .cancel (by simp [here, testId, turnsLeft])
      · exact goesOn (.progress _) (by simp [here, testId, turnsLeft])
  | finishing task =>
    simp only [schedule, here]
    exact .completes (by rw [here]; rfl) (.inl rfl)

theorem sameFront_schedule (world : World) : SameFront s (s.schedule setup world) := by
  generalize turn : s.schedule setup world = s'
  cases scheduled turn.symm with
  | next polls => exact sameFront_nextTest
  | completes own outcome => exact sameFront_complete _ _ _
  | ticks sleeps nodes | goesOn reads same nearer => exact ⟨rfl, rfl, rfl, rfl, rfl⟩

@[simp] theorem handle_frame (n : Nat) (drawn : TestId) (request : Request Spec) :
    (s.handle setup n drawn request).scheduler = s.scheduler ∧
      (s.handle setup n drawn request).inbox = s.inbox ∧
      (s.handle setup n drawn request).arrivals = s.arrivals ∧
      (s.handle setup n drawn request).updateReplies = s.updateReplies := by
  refine ⟨?_, ?_, ?_, ?_⟩ <;> cases request <;> simp only [handle, forward, respond] <;>
    (try split) <;> rfl

/-- The call that goes on: a cancel with room, an update with a result or no time left, a
query. -/
theorem wake_cases (woken : s.wake = some s') :
    (∃ n id, s.thread = .sendingCancel n id ∧
      s' = ({ s with queue := (s.queue.sendCancel id).2, thread := .free }).respond n
        (.cancel .stopping)) ∨
    (∃ n deadline result, s.thread = .awaitingUpdate n deadline ∧
      (s.updateReplies.lookup n = some result ∨
        s.updateReplies.lookup n = none ∧ result = timedOut) ∧
      s' = ({ s with thread := .free }).respond n (.update (some result))) ∨
    ∃ n deadline view, s.thread = .awaitingInfo n deadline ∧
      s' = ({ s with thread := .free }).respond n (.info view) := by
  unfold wake at woken
  split at woken
  · cases woken
  · rename_i n id waits
    simp only at woken
    split at woken
    · exact .inl ⟨n, id, waits, (some.inj woken).symm⟩
    · cases woken
  · rename_i n deadline waits
    split at woken
    · rename_i result found
      exact .inr (.inl ⟨n, deadline, result, waits, .inl found, (some.inj woken).symm⟩)
    · rename_i missing
      split at woken
      · exact .inr (.inl ⟨n, deadline, timedOut, waits, .inr ⟨missing, rfl⟩, (some.inj woken).symm⟩)
      · cases woken
  · rename_i n deadline waits
    split at woken
    · exact .inr (.inr ⟨n, deadline, _, waits, (some.inj woken).symm⟩)
    · split at woken
      · exact .inr (.inr ⟨n, deadline, _, waits, (some.inj woken).symm⟩)
      · cases woken

/-- A request waits until its handler runs. -/
theorem waiting_step {event : LeaderEvent Spec} (taken : step setup s event = some s') {n : Nat}
    {request : Request Spec} (found : s.waiting n = some request)
    (unserved : ∀ drawn, event ≠ .serve n drawn) : s'.waiting n = some request := by
  unfold waiting at found ⊢
  cases event with
  | arrive new =>
    cases taken
    simp [List.lookup_append, found]
  | elapse time =>
    cases taken
    exact found
  | wake =>
    rcases wake_cases taken with ⟨m, id, -, rfl⟩ | ⟨m, deadline, result, -, -, rfl⟩ |
      ⟨m, deadline, view, -, rfl⟩ <;> exact found
  | schedule world =>
    obtain ⟨-, rfl⟩ := step_schedule.mp taken
    rw [(sameFront_schedule world).inbox, found]
  | serve m drawn =>
    have other : n ≠ m := by
      rintro rfl
      exact unserved drawn rfl
    obtain ⟨-, -, served, -, rfl⟩ := step_serve.mp taken
    rw [(handle_frame ..).2.1, accept, Keyed.lookup_eraseP_of_ne other, found]

end Leader

/-! ## A leader of two nodes -/

/-- Tests at a constant rate. -/
def staticSetup : LeaderSetup ℚ Unit :=
  ⟨Core.staticRateController, fun _ _ => 1000, fun _ => .ok twoNodes.config, fun _ => ""⟩

/-- Both nodes answer. -/
def bothAnswer : World :=
  ⟨.ok [nodeA, nodeB], fun _ _ => true, fun n => some (totalsOnly n 0 0), none⟩

/-- A test is created and started, up to the wait for its first tick. -/
def startedTest : List (LeaderEvent Unit) :=
  [.arrive (.createTest ()), .serve 0 testA, .schedule bothAnswer, .schedule bothAnswer,
    .schedule bothAnswer]

end Netanvil.Distributed
