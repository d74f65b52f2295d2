/-
# The worker loop and its request tasks

`io_worker_loop` takes messages from its fire channel, spawns a task for every fire event
that the in-flight limit lets through, and sends a snapshot now and then and when it exits.
A task may complete between any two steps of the loop. The generator, the transformer and
what a request comes to are parameters. Event recording, and the counters that connections
move on their own, are left out.
-/
import Netanvil.Metrics.Collector
import Netanvil.Theory.Channel

namespace Netanvil.Core

open Netanvil.Types Metrics Theory List Channel HdrMetricsCollector

/-! ## The in-flight limit -/

structure InFlightLimit where
  count : Nat
  /-- Zero is no limit. -/
  max : Nat

namespace InFlightLimit

/-- The limit with one more permit out, if there is one to give. -/
def tryAcquire (l : InFlightLimit) : Option InFlightLimit :=
  if l.max > 0 ∧ l.count ≥ l.max then none else some { l with count := l.count + 1 }

/-- A permit is dropped. -/
def release (l : InFlightLimit) : InFlightLimit := { l with count := l.count - 1 }

end InFlightLimit

/-! ## Messages and requests -/

inductive ScheduledRequest where
  | fire (intendedTime sentTime : Nat)
  | updateTargets (targets : List String)
  | updateMetadata (headers : List (String × String))
  | stop

structure RequestContext where
  requestId : Nat
  intendedTime : Nat
  sentTime : Nat
  actualTime : Nat
  dispatchTime : Nat
  coreId : Nat
  isSampled : Bool
  sessionId : Option Nat

/-- Generators with states in `G` and transformers with states in `T`. -/
structure Pipeline (G T Spec : Type) where
  generate : G → RequestContext → Spec × G
  onResponse : G → ExecutionResult → G
  wantsResponses : G → Bool
  updateTargets : G → List String → G
  transform : T → Spec → RequestContext → Spec × T
  updateMetadata : T → List (String × String) → T

structure IoWorkerConfig where
  coreId : Nat
  metricsInterval : Nat
  gracefulShutdown : Bool
  maxInFlight : Nat
  collector : CollectorConfig

/-- A spawned request that has not completed. -/
structure RequestTask (Spec : Type) where
  spec : Spec
  context : RequestContext

/-- A fire event the worker has handled, and the request spawned for it. -/
structure HandledFire where
  intendedTime : Nat
  sentTime : Nat
  /-- `none` if the in-flight limit was reached. -/
  request : Option Nat

inductive WorkerStage where
  /-- At the top of the loop. -/
  | top
  /-- Waiting for a message. -/
  | receiving
  /-- Taking the messages that have accumulated. -/
  | draining
  | reporting
  /-- Out of the loop, leaving its tasks some time. -/
  | finishing (wake : Nat)
  | exited

def WorkerStage.isExited : WorkerStage → Bool
  | .exited => true
  | _ => false

theorem WorkerStage.isExited_iff {stage : WorkerStage} : stage.isExited ↔ stage = .exited := by
  cases stage <;> simp [isExited]

structure IoWorker (G T Spec : Type) where
  stage : WorkerStage
  generator : G
  transformer : T
  metrics : HdrMetricsCollector
  limit : InFlightLimit
  inFlightDrops : Nat
  lastInFlightDrops : Nat
  requestSeq : Nat
  lastReport : Nat
  /-- Results on their way to the generator, if it wants them. -/
  responses : Option (Channel ExecutionResult)
  tasks : List (RequestTask Spec)
  /-- All snapshots sent. -/
  sent : List MetricsSnapshot
  /-- All fire events handled. -/
  handled : List HandledFire
  /-- The ids of the requests that have completed. -/
  completed : List Nat

/-- Entries of the response channel. -/
def responseCapacity : Nat := 1024

/-- 50 ms, in nanoseconds. -/
def shutdownGrace : Nat := 50000000

namespace IoWorker

variable {G T Spec : Type} (p : Pipeline G T Spec) (config : IoWorkerConfig)

def start (generator : G) (transformer : T) (now : Nat) : IoWorker G T Spec where
  stage := .top
  generator := generator
  transformer := transformer
  metrics := .new now
  limit := ⟨0, config.maxInFlight⟩
  inFlightDrops := 0
  lastInFlightDrops := 0
  requestSeq := 0
  lastReport := now
  responses := if p.wantsResponses generator then some (.bounded responseCapacity) else none
  tasks := []
  sent := []
  handled := []
  completed := []

/-- Ids of different cores do not overlap while a core spawns fewer than a billion. -/
def requestId (seq : Nat) : Nat := config.coreId * 1000000000 + seq

/-- The generator is given the results that have arrived. -/
def deliverResponses (w : IoWorker G T Spec) : IoWorker G T Spec :=
  match w.responses with
  | none => w
  | some results =>
    { w with
      generator := results.queue.foldl p.onResponse w.generator
      responses := some results.drained }

/-- Spawn a request under a permit; generating and transforming it took `spent`. -/
def spawn (w : IoWorker G T Spec) (limit : InFlightLimit) (intendedTime sentTime now spent : Nat) :
    IoWorker G T Spec :=
  let context : RequestContext :=
    ⟨requestId config w.requestSeq, intendedTime, sentTime, now, now, config.coreId, false, none⟩
  let (spec, generator) := p.generate w.generator context
  let (spec, transformer) := p.transform w.transformer spec context
  { w with
    limit := limit
    requestSeq := w.requestSeq + 1
    generator := generator
    transformer := transformer
    tasks := w.tasks ++ [⟨spec, { context with dispatchTime := now + spent }⟩]
    handled := w.handled ++ [⟨intendedTime, sentTime, some context.requestId⟩] }

/-- The worker after a message, and whether it goes on. -/
def handleMessage (w : IoWorker G T Spec) (now spent : Nat) :
    ScheduledRequest → IoWorker G T Spec × Bool
  | .fire intendedTime sentTime =>
    match w.limit.tryAcquire with
    | none =>
      ({ w with
         inFlightDrops := w.inFlightDrops + 1
         handled := w.handled ++ [⟨intendedTime, sentTime, none⟩] }, true)
    | some limit => (w.spawn p config limit intendedTime sentTime now spent, true)
  | .updateTargets targets =>
    ({ w with generator := p.updateTargets w.generator targets }, true)
  | .updateMetadata headers =>
    ({ w with transformer := p.updateMetadata w.transformer headers }, true)
  | .stop => (w, false)

/-- Send a snapshot, stamped with the drops since the last one. -/
def sendSnapshot (w : IoWorker G T Spec) (now : Nat) : IoWorker G T Spec :=
  let (snapshot, metrics) := w.metrics.snapshot now
  { w with
    metrics := metrics
    sent := w.sent ++
      [{ snapshot with
         inFlightDrops := w.inFlightDrops - w.lastInFlightDrops
         inFlightCount := w.limit.count
         inFlightCapacity := w.limit.max }] }

/-- The periodic report, if it is time. -/
def report (w : IoWorker G T Spec) (now : Nat) : IoWorker G T Spec :=
  if config.metricsInterval ≤ now - w.lastReport then
    { w.sendSnapshot now with lastInFlightDrops := w.inFlightDrops, lastReport := now }
  else w

/-- Out of the loop. -/
def finish (w : IoWorker G T Spec) (now : Nat) : IoWorker G T Spec :=
  { w with stage := .finishing (if config.gracefulShutdown then now + shutdownGrace else now) }

/-- One step of the loop on its channel; `connected` while the timer thread holds the
other end. -/
def step (now spent : Nat) (connected : Bool) (w : IoWorker G T Spec)
    (fires : Channel ScheduledRequest) : Option (IoWorker G T Spec × Channel ScheduledRequest) :=
  match w.stage with
  | .top => some ({ w.deliverResponses p with stage := .receiving }, fires)
  | .receiving =>
    match fires.tryRecv with
    | some (message, rest) =>
      match w.handleMessage p config now spent message with
      | (w, true) => some ({ w with stage := .draining }, rest)
      | (w, false) => some (w.finish config now, rest)
    | none => if connected then none else some (w.finish config now, fires)
  | .draining =>
    match fires.tryRecv with
    | some (message, rest) =>
      match (w.deliverResponses p).handleMessage p config now spent message with
      | (w, true) => some ({ w with stage := .draining }, rest)
      | (w, false) => some ({ w.sendSnapshot now with stage := .exited }, rest)
    | none => some ({ w with stage := .reporting }, fires)
  | .reporting => some ({ w.report config now with stage := .top }, fires)
  | .finishing wake =>
    if wake ≤ now then
      some ({ (w.deliverResponses p).sendSnapshot now with stage := .exited }, fires)
    else none
  | .exited => none

/-- Task `k` completes with a result; a full response channel loses the result. -/
def complete (text : TextFunctions) (w : IoWorker G T Spec) (k : Nat) (result : ExecutionResult) :
    Option (IoWorker G T Spec) :=
  match w.stage, w.tasks[k]? with
  -- the tasks of a worker that has exited are gone with its runtime
  | .exited, _ => none
  | _, none => none
  | _, some task =>
    some { w with
      tasks := w.tasks.eraseIdx k
      metrics := w.metrics.record text config.collector result
      responses := w.responses.map fun results => (results.trySend result).getD results
      limit := w.limit.release
      completed := w.completed ++ [task.context.requestId] }

/-! ## What the counters say -/

/-- Every fire event handled is one drop or one spawned request, and every spawned request
is in flight or has completed. -/
structure Requests (w : IoWorker G T Spec) : Prop where
  permits : w.limit.count = w.tasks.length
  refused : w.inFlightDrops = w.handled.countP (·.request.isNone)
  /-- The requests are numbered as they are spawned: no two share an id. -/
  numbered : w.handled.filterMap (·.request) = (List.range w.requestSeq).map (requestId config)
  spawned : (w.handled.filterMap (·.request)).Perm
    (w.tasks.map (·.context.requestId) ++ w.completed)

/-- The snapshots sent so far and what the next one will add. -/
structure Running (w : IoWorker G T Spec) : Prop where
  requests : w.Requests config
  stamped : (w.sent.map (·.inFlightDrops)).sum = w.lastInFlightDrops
  grown : w.lastInFlightDrops ≤ w.inFlightDrops
  recorded : (w.sent.map (·.totalRequests)).sum + w.metrics.totalRequests = w.completed.length

/-- The snapshots have told everything. -/
structure Closed (w : IoWorker G T Spec) : Prop where
  requests : w.Requests config
  stamped : (w.sent.map (·.inFlightDrops)).sum = w.inFlightDrops
  recorded : (w.sent.map (·.totalRequests)).sum = w.completed.length

def Sound (w : IoWorker G T Spec) : Prop :=
  match w.stage with
  | .exited => w.Closed config
  | _ => w.Running config

variable {p config}
  {w w' : IoWorker G T Spec} {text : TextFunctions} {k now spent : Nat} {connected : Bool}
  {fires fires' : Channel ScheduledRequest}

/-- What is fixed by the tasks, the histories and the counters alone. -/
theorem Requests.frame (requests : w.Requests config) (limit : w'.limit = w.limit)
    (drops : w'.inFlightDrops = w.inFlightDrops) (seq : w'.requestSeq = w.requestSeq)
    (tasks : w'.tasks = w.tasks) (handled : w'.handled = w.handled)
    (completed : w'.completed = w.completed) : w'.Requests config := by
  obtain ⟨permits, refused, numbered, spawned⟩ := requests
  refine ⟨?_, ?_, ?_, ?_⟩
  · rw [limit, tasks, permits]
  · rw [drops, handled, refused]
  · rw [handled, seq, numbered]
  · rw [handled, tasks, completed]
    exact spawned

theorem running_deliverResponses (running : w.Running config) :
    (w.deliverResponses p).Running config := by
  unfold deliverResponses
  split
  · exact running
  · exact ⟨running.requests.frame rfl rfl rfl rfl rfl rfl, running.stamped, running.grown,
      running.recorded⟩

theorem tryAcquire_count {l l' : InFlightLimit} (acquired : l.tryAcquire = some l') :
    l'.count = l.count + 1 := by
  unfold InFlightLimit.tryAcquire at acquired
  split at acquired
  · cases acquired
  · cases acquired
    rfl

theorem running_handleMessage (running : w.Running config) (now spent : Nat)
    (message : ScheduledRequest) :
    (w.handleMessage p config now spent message).1.Running config := by
  cases message with
  | fire intendedTime sentTime =>
    simp only [handleMessage]
    split
    · obtain ⟨⟨permits, refused, numbered, spawned⟩, stamped, grown, recorded⟩ := running
      refine ⟨⟨permits, ?_, ?_, ?_⟩, stamped, grown.trans (Nat.le_succ _), recorded⟩
      · simp [countP_append, refused]
      · simpa [filterMap_append] using numbered
      · simpa [filterMap_append] using spawned
    · rename_i limit acquired
      obtain ⟨⟨permits, refused, numbered, spawned⟩, stamped, grown, recorded⟩ := running
      refine ⟨⟨?_, ?_, ?_, ?_⟩, stamped, grown, recorded⟩
      · simp [spawn, tryAcquire_count acquired, permits]
      · simpa [spawn, countP_append] using refused
      · simp [spawn, filterMap_append, numbered, range_succ]
      · simp only [spawn, filterMap_append, map_append, append_assoc]
        -- the new id goes past the completed ones
        refine (spawned.append_right _).trans ?_
        rw [append_assoc]
        exact (perm_append_comm).append_left _
  | updateTargets targets | updateMetadata headers =>
    exact ⟨running.requests.frame rfl rfl rfl rfl rfl rfl, running.stamped, running.grown,
      running.recorded⟩
  | stop => exact running

theorem closed_sendSnapshot (running : w.Running config) (now : Nat) :
    (w.sendSnapshot now).Closed config := by
  refine ⟨running.requests.frame rfl rfl rfl rfl rfl rfl, ?_, ?_⟩
  · -- it takes all new drops
    simpa [sendSnapshot, snapshot, running.stamped] using
      Nat.add_sub_cancel' running.grown
  · simpa [sendSnapshot, snapshot] using running.recorded

theorem running_report (running : w.Running config) (now : Nat) :
    (w.report config now).Running config := by
  unfold report
  split
  · have closed := closed_sendSnapshot running now
    exact ⟨closed.requests.frame rfl rfl rfl rfl rfl rfl, closed.stamped, le_rfl, closed.recorded⟩
  · exact running

variable {result : ExecutionResult}

theorem stage_complete (taken : w.complete config text k result = some w') :
    w'.stage = w.stage := by
  unfold complete at taken
  split at taken
  · cases taken
  · cases taken
  · cases taken
    rfl

theorem totalRequests_record (text : TextFunctions) (collector : CollectorConfig)
    (m : HdrMetricsCollector) (result : ExecutionResult) :
    (m.record text collector result).totalRequests = m.totalRequests + 1 := by
  unfold record
  split <;> rfl

theorem running_complete (running : w.Running config)
    (completed : w.complete config text k result = some w') : w'.Running config := by
  obtain ⟨⟨permits, refused, numbered, spawned⟩, stamped, grown, recorded⟩ := running
  unfold complete at completed
  split at completed
  · cases completed
  · cases completed
  · rename_i task found _
    cases completed
    have bound : k < w.tasks.length := (List.getElem?_eq_some_iff.mp found).1
    refine ⟨⟨?_, refused, numbered, ?_⟩, stamped, grown, ?_⟩
    · simp only [InFlightLimit.release, permits, length_eraseIdx, bound, if_true]
    · have out : w.tasks.Perm (task :: w.tasks.eraseIdx k) := by
        obtain ⟨_, rfl⟩ := List.getElem?_eq_some_iff.mp found
        exact (getElem_cons_eraseIdx_perm bound).symm
      refine spawned.trans (((out.map _).append_right _).trans ?_)
      rw [← append_assoc]
      exact (perm_append_singleton _ _).symm
    · simp only [totalRequests_record, length_append, length_singleton]
      omega

theorem Sound.requests (sound : w.Sound config) : w.Requests config := by
  unfold Sound at sound
  split at sound <;> exact sound.requests

theorem Running.sound (running : w.Running config) {stage : WorkerStage} (loops : stage ≠ .exited) :
    Sound config { w with stage := stage } := by
  unfold Sound
  split
  · contradiction
  · exact ⟨running.requests.frame rfl rfl rfl rfl rfl rfl, running.stamped, running.grown,
      running.recorded⟩

theorem Closed.sound (closed : w.Closed config) : Sound config { w with stage := .exited } :=
  ⟨closed.requests.frame rfl rfl rfl rfl rfl rfl, closed.stamped, closed.recorded⟩

theorem Sound.running (sound : w.Sound config) (loops : w.stage ≠ .exited) : w.Running config := by
  unfold Sound at sound
  split at sound
  · contradiction
  · exact sound

theorem sound_complete (sound : w.Sound config)
    (completed : w.complete config text k result = some w') : w'.Sound config := by
  have loops : w.stage ≠ .exited := by
    intro exited
    simp [complete, exited] at completed
  have running := (running_complete (sound.running loops) completed).sound
    (stage_complete completed ▸ loops)
  exact running

/-! ## Fire events through the channel -/

/-- The fire events among some messages. -/
def firesOf (messages : List ScheduledRequest) : List (Nat × Nat) :=
  messages.filterMap fun
    | .fire intendedTime sentTime => some (intendedTime, sentTime)
    | _ => none

/-- The fire events the worker has handled, and then those that wait. -/
def flow (w : IoWorker G T Spec) (fires : Channel ScheduledRequest) : List (Nat × Nat) :=
  w.handled.map (fun fire => (fire.intendedTime, fire.sentTime)) ++ firesOf fires.queue

variable (p config) in
theorem handled_handleMessage (w : IoWorker G T Spec) (now spent : Nat)
    (message : ScheduledRequest) (rest : List ScheduledRequest) :
    (w.handleMessage p config now spent message).1.handled.map
        (fun fire => (fire.intendedTime, fire.sentTime)) ++ firesOf rest =
      w.handled.map (fun fire => (fire.intendedTime, fire.sentTime)) ++
        firesOf (message :: rest) := by
  cases message with
  | fire intendedTime sentTime =>
    simp only [handleMessage]
    split <;> simp [spawn, firesOf]
  | updateTargets targets | updateMetadata headers | stop => simp [handleMessage, firesOf]

theorem handled_deliverResponses (w : IoWorker G T Spec) :
    (w.deliverResponses p).handled = w.handled := by
  unfold deliverResponses
  split <;> rfl

/-! ## One step of the loop -/

variable (p config now spent) in
/-- What a step of the loop can be. -/
inductive LoopTurn (w : IoWorker G T Spec) (fires : Channel ScheduledRequest) :
    IoWorker G T Spec → Channel ScheduledRequest → Prop
  | deliver (here : w.stage = .top) :
      LoopTurn w fires { w.deliverResponses p with stage := .receiving } fires
  | receive {message : ScheduledRequest} {rest : Channel ScheduledRequest} {stage : WorkerStage}
      (here : w.stage = .receiving) (received : fires.tryRecv = some (message, rest))
      (loops : stage ≠ .exited) :
      LoopTurn w fires { (w.handleMessage p config now spent message).1 with stage := stage } rest
  | drain {message : ScheduledRequest} {rest : Channel ScheduledRequest}
      (here : w.stage = .draining) (received : fires.tryRecv = some (message, rest)) :
      LoopTurn w fires
        { ((w.deliverResponses p).handleMessage p config now spent message).1 with
          stage := .draining } rest
  | leave {message : ScheduledRequest} {rest : Channel ScheduledRequest}
      (here : w.stage = .draining) (received : fires.tryRecv = some (message, rest)) :
      LoopTurn w fires
        { ((w.deliverResponses p).handleMessage p config now spent message).1.sendSnapshot now with
          stage := .exited } rest
  | idle {stage : WorkerStage} (here : w.stage = .receiving ∨ w.stage = .draining)
      (empty : fires.tryRecv = none) (loops : stage ≠ .exited) :
      LoopTurn w fires { w with stage := stage } fires
  | report (here : w.stage = .reporting) :
      LoopTurn w fires { w.report config now with stage := .top } fires
  | exit {wake : Nat} (here : w.stage = .finishing wake) :
      LoopTurn w fires { (w.deliverResponses p).sendSnapshot now with stage := .exited } fires

section

variable (taken : w.step p config now spent connected fires = some (w', fires'))
include taken

theorem loopTurn_of_step : LoopTurn p config now spent w fires w' fires' := by
  cases stage : w.stage with
  | top | reporting =>
    simp only [step, stage] at taken
    cases taken
    first | exact .deliver stage | exact .report stage
  | receiving =>
    simp only [step, stage] at taken
    split at taken
    · rename_i message rest received
      have turn : ∀ next : WorkerStage, next ≠ .exited → LoopTurn p config now spent w fires
          { (w.handleMessage p config now spent message).1 with stage := next } rest :=
        fun _ => .receive stage received
      split at taken <;> rename_i w₁ same <;> rw [same] at turn <;> cases taken
      · exact turn _ (by simp)
      · exact turn _ (by simp)
    · rename_i empty
      split at taken <;> cases taken
      exact .idle (.inl stage) empty (by simp)
  | draining =>
    simp only [step, stage] at taken
    split at taken
    · rename_i message rest received
      split at taken <;> rename_i w₁ same <;> cases taken
      · have turn : LoopTurn p config now spent w fires _ _ := .drain stage received
        rwa [same] at turn
      · have turn : LoopTurn p config now spent w fires _ _ := .leave stage received
        rwa [same] at turn
    · rename_i empty
      cases taken
      exact .idle (.inr stage) empty (by simp)
  | finishing wake =>
    simp only [step, stage] at taken
    split at taken <;> cases taken
    exact .exit stage
  | exited => simp [step, stage] at taken

omit taken in
/-- A step of the loop keeps its counters sound and loses no fire event: what it takes off
the channel it has handled. -/
theorem sound_step (sound : w.Sound config)
    (taken : w.step p config now spent connected fires = some (w', fires')) :
    w'.Sound config ∧ w'.flow fires' = w.flow fires := by
  have running : w.Running config := sound.running fun exited => by simp [step, exited] at taken
  have delivered := running_deliverResponses (p := p) running
  cases loopTurn_of_step taken with
  | deliver here =>
    exact ⟨delivered.sound (by simp), by simp only [flow, handled_deliverResponses]⟩
  | @receive message _ _ here received loops =>
    refine ⟨(running_handleMessage running now spent message).sound loops, ?_⟩
    rw [flow, flow, queue_of_tryRecv received]
    exact handled_handleMessage p config w now spent message _
  | @drain message _ here received | @leave message _ here received =>
    have after := running_handleMessage (p := p) delivered now spent message
    refine
      ⟨by first | exact after.sound (by simp) | exact (closed_sendSnapshot after now).sound, ?_⟩
    rw [flow, flow, queue_of_tryRecv received, ← handled_deliverResponses (p := p) w]
    exact handled_handleMessage p config _ now spent message _
  | idle here empty loops => exact ⟨running.sound loops, rfl⟩
  | report here =>
    refine ⟨(running_report running now).sound (by simp), ?_⟩
    unfold flow report
    split <;> rfl
  | exit here =>
    exact ⟨(closed_sendSnapshot delivered now).sound, by
      simp only [flow, sendSnapshot, handled_deliverResponses]⟩

end

/-! ## Permits -/

/-- The permits stay, though one may be refused, or one is given out. -/
def Asks (w w' : IoWorker G T Spec) : Prop :=
  w'.limit = w.limit ∧ (w'.inFlightDrops = w.inFlightDrops ∨ w.limit.tryAcquire = none) ∨
    w.limit.tryAcquire = some w'.limit ∧ w'.inFlightDrops = w.inFlightDrops

theorem asks_handleMessage (message : ScheduledRequest) :
    w.Asks (w.handleMessage p config now spent message).1 := by
  cases message with
  | fire intendedTime sentTime =>
    simp only [handleMessage]
    split
    · exact .inl ⟨rfl, .inr ‹_›⟩
    · exact .inr ⟨‹_›, rfl⟩
  | _ => exact .inl ⟨rfl, .inl rfl⟩

theorem asks_step (taken : w.step p config now spent connected fires = some (w', fires')) :
    w.Asks w' := by
  have delivered : (w.deliverResponses p).limit = w.limit ∧
      (w.deliverResponses p).inFlightDrops = w.inFlightDrops := by
    unfold deliverResponses
    split <;> exact ⟨rfl, rfl⟩
  cases loopTurn_of_step taken with
  | deliver | exit => exact .inl (delivered.imp_right .inl)
  | receive => exact asks_handleMessage _
  | @drain message | @leave message =>
    have asks : Asks _ ((w.deliverResponses p).handleMessage p config now spent message).1 :=
      asks_handleMessage message
    rwa [Asks, delivered.1, delivered.2] at asks
  | idle => exact .inl ⟨rfl, .inl rfl⟩
  | report =>
    unfold report
    split <;> exact .inl ⟨rfl, .inl rfl⟩

variable (config) in
/-- There are as many permits as configured, and no more are out. -/
def Limited (w : IoWorker G T Spec) : Prop :=
  w.limit.max = config.maxInFlight ∧ (0 < w.limit.max → w.limit.count ≤ w.limit.max)

theorem limited_step (limited : w.Limited config)
    (taken : w.step p config now spent connected fires = some (w', fires')) :
    w'.Limited config := by
  unfold Limited at limited ⊢
  rcases asks_step taken with ⟨same, -⟩ | ⟨given, -⟩
  · rwa [same]
  · rw [InFlightLimit.tryAcquire] at given
    split at given
    · cases given
    · rw [← Option.some.inj given]
      refine ⟨limited.1, fun (some : 0 < w.limit.max) => ?_⟩
      show w.limit.count + 1 ≤ w.limit.max
      omega

end IoWorker

end Netanvil.Core
