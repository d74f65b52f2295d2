/-
# How controller updates are answered

A controller update goes into a channel that the coordinator reads at its next tick. The handler
waits for the result, but it holds the only thread while it does, so there is no tick until it
has given up. The answer to an update that was sent is always the timeout error, and the command
stays in the channel (`update_applied_after_timeout`). The numbers of waiting requests, of
commands on their way and of results are all different (`Numbered`).
-/
import Netanvil.Distributed.Lifecycle

namespace Netanvil.Distributed

open Netanvil.Types Theory DistributedCoordinator TestQueue ControllerUpdateCommand List Option
  Prod Trace

variable {S Spec B α : Type}

/-! ## Commands on their way -/

namespace TestQueue

/-- The controller updates that the coordinator has not read. -/
def updates (q : TestQueue Spec B) : List ControllerUpdateCommand :=
  (q.running.map fun r => r.controllerUpdateTx.queue).getD []

variable {q q' : TestQueue Spec B} {id : TestId}

theorem updates_of_running {r r' : RunningTest Spec} (runs : q.running = some r)
    (runs' : q'.running = some r') (same : r'.controllerUpdateTx = r.controllerUpdateTx) :
    q'.updates = q.updates := by
  simp [updates, runs, runs', same]

variable {command : ControllerUpdateCommand}

theorem runningId_of_updates (sent : command ∈ q.updates) : ∃ id, q.runningId = some id := by
  unfold updates at sent
  cases runs : q.running with
  | none => simp [runs] at sent
  | some r => exact ⟨r.id, by simp [runningId, runs]⟩

/-- A send on one of the other channels. -/
theorem updates_send {channel : RunningTest Spec → Channel α} {a : α}
    {set : RunningTest Spec → Channel α → RunningTest Spec}
    (keeps : ∀ r c, (set r c).controllerUpdateTx = r.controllerUpdateTx) (id : TestId) :
    (q.sendTo id fun r => ((channel r).trySend a).map (set r)).2.updates = q.updates := by
  unfold sendTo
  split
  · rename_i r runs
    split
    · split
      · rename_i r' sent
        obtain ⟨c, -, rfl⟩ := map_eq_some_iff.mp sent
        exact updates_of_running runs rfl (keeps r c)
      · rfl
    · rfl
  · rfl

theorem updates_cancel {now : Nat} {result : CancelResult}
    (returned : q.cancel id now = some (result, q')) : q'.updates = q.updates := by
  rcases running_cancel returned with same | ⟨r, c, runs, runs'⟩
  · rw [updates, same, updates]
  · exact updates_of_running runs runs' rfl

theorem updates_sendCancel (id : TestId) : (q.sendCancel id).2.updates = q.updates := by
  refine updates_send (fun r c => ?_) id
  rfl

theorem takeCommands_updates : q.takeCommands.1.updates = q.updates := by
  unfold takeCommands updates
  cases q.running <;> rfl

theorem updates_takeCommands : q.takeCommands.2.updates = [] := by
  unfold takeCommands updates
  cases runs : q.running <;> simp [runs]

theorem updates_takeCancel : q.takeCancel.2.updates = q.updates := by
  unfold takeCancel
  split
  · rename_i r runs
    split
    · exact updates_of_running runs rfl rfl
    · rfl
  · rfl

theorem updates_setProgress (update : DistributedProgressUpdate) :
    (q.setProgress update).updates = q.updates := by
  simp [updates, setProgress, Function.comp_def]

theorem updates_tryDequeue (now : Nat) : (q.tryDequeue now).2.updates = q.updates := by
  unfold tryDequeue
  split
  · rfl
  · rename_i idle
    split
    · rfl
    · simp [updates, idle, start]

end TestQueue

namespace Leader

variable {setup : LeaderSetup S Spec} {s s' : Leader S Spec B} (c : RateController S)

/-- What a handler does to the commands on their way: a controller update that can be
sent is added, and the handler then waits for its result. -/
theorem handle_updates (setup : LeaderSetup S Spec) (free : s.thread = .free) (n : Nat)
    (drawn : TestId) (request : Request Spec) :
    ((s.handle setup n drawn request).queue.updates = s.queue.updates ∧
      ∀ m deadline, (s.handle setup n drawn request).thread ≠ .awaitingUpdate m deadline) ∨
    ∃ id action params, request = .putController id action params ∧
      (s.handle setup n drawn request).queue.updates = s.queue.updates ++ [⟨action, params, n⟩] ∧
      (s.handle setup n drawn request).thread = .awaitingUpdate n (s.clock + responseTimeout) := by
  have idle : ∀ m deadline, s.thread ≠ .awaitingUpdate m deadline := by simp [free]
  cases request with
  | createTest spec =>
    simp only [handle]
    split
    · exact .inl ⟨rfl, idle⟩
    · exact .inl ⟨by simp [respond, enqueueInner, updates], idle⟩
  | cancelTest id =>
    simp only [handle]
    split
    · rename_i result q returned
      exact .inl ⟨updates_cancel returned, idle⟩
    · exact .inl ⟨rfl, by simp⟩
  | getController id =>
    simp only [handle]
    split
    · refine .inl ⟨?_, by simp⟩
      refine updates_send (fun r c => ?_) id
      rfl
    · exact .inl ⟨rfl, idle⟩
  | putController id action params =>
    simp only [handle]
    split
    · rename_i sent
      refine .inr ⟨id, action, params, rfl, ?_, rfl⟩
      obtain ⟨r, runs, own, room⟩ := sendControllerUpdate_eq_true.mp sent
      obtain ⟨c, through⟩ := ne_none_iff_exists'.mp
        (Channel.trySend_eq_none.not.mpr (not_not.mpr room) :
          r.controllerUpdateTx.trySend ⟨action, params, n⟩ ≠ none)
      dsimp only
      rw [sendControllerUpdate, sendTo_of_some runs own (by rw [through]; rfl)]
      simp [updates, mem_def.mp runs, Channel.queue_of_trySend through]
    · exact .inl ⟨rfl, idle⟩
  | putRate id rps | putHold id rps | deleteHold id | putSignal id name value =>
    refine .inl ⟨?_, idle⟩
    refine updates_send (fun r c => ?_) id
    rfl
  | _ => exact .inl ⟨rfl, idle⟩

theorem nextTest_updates : s.nextTest.queue.updates = s.queue.updates := by
  rw [nextTest_queue, updates_tryDequeue]

theorem nextTest_updateReplies : s.nextTest.updateReplies = s.updateReplies := by
  unfold nextTest
  simp only
  split <;> rfl

theorem complete_updates (id : TestId) (result : DistributedTestResult) (status : TestStatus) :
    ((s.complete id result status).queue.updates = [] ∨
      (s.complete id result status).queue.updates = s.queue.updates) ∧
    (s.complete id result status).updateReplies = s.updateReplies := by
  unfold complete
  rw [nextTest_updates, nextTest_updateReplies]
  refine ⟨?_, rfl⟩
  unfold markCompleted
  split
  · split
    · exact .inl (by simp [updates])
    · exact .inr rfl
  · exact .inr rfl

theorem Reads.updates {q q' : TestQueue Spec B} (reads : Reads q q') : q'.updates = q.updates := by
  cases reads with
  | nothing => rfl
  | signals =>
    unfold takeSignals
    split
    · rename_i r runs
      exact updates_of_running runs rfl rfl
    · rfl
  | cancel => exact updates_takeCancel
  | progress update => exact (updates_setProgress update).trans updates_takeCancel

/-! ## Results of updates -/

/-- A result that the controller has given for a command. -/
def ResultOf (c : RateController S) (command : ControllerUpdateCommand)
    (result : Except String Json) : Prop :=
  ∃ state, result = (c.applyUpdate state command.action command.params).2

theorem results_of_applyUpdates (state : S) (commands : List ControllerUpdateCommand) :
    Forall₂ (ResultOf c) commands
      ((applyUpdates c state (commands.map fun u => (u.action, u.params))).2.filterMap
        Reply.update?) := by
  induction commands generalizing state with
  | nil => exact .nil
  | cons command commands ih => exact .cons ⟨state, rfl⟩ (ih _)

/-- The results of a tick's commands, each for its own command. -/
theorem results_of_processCommands (l : DistributedCoordinator S) (commands : Commands) :
    Forall₂ (ResultOf c) commands.updates
      ((l.processCommands c commands.tickInput).2.filterMap Reply.update?) := by
  have infos : ∀ (view : ControllerView) (k : Nat),
      (replicate k (Reply.info view)).filterMap Reply.update? = [] := by
    intro view k
    rw [filterMap_eq_nil_iff]
    intro reply member
    rw [eq_of_mem_replicate member]
    rfl
  simp only [processCommands, filterMap_append, infos, append_nil]
  exact results_of_applyUpdates c l.rateController commands.updates

theorem beginTick_updates (setup : LeaderSetup S Spec) (task : CoordinatorTask S)
    (nodes : List NodeInfo) :
    (s.beginTick setup task nodes).queue.updates = [] ∧
    ∃ results, Forall₂ (ResultOf setup.controller) s.queue.updates results ∧
      (s.beginTick setup task nodes).updateReplies = s.updateReplies ++
        (s.queue.updates.map responseTx).zip results := by
  have results :=
    results_of_processCommands setup.controller task.coordinator s.queue.takeCommands.1
  rw [takeCommands_updates] at results
  refine ⟨updates_takeCommands, _, results, ?_⟩
  rw [← takeCommands_updates]
  rfl

/-! ## Numbers -/

/-- The numbers in use: of requests that wait, of commands on their way, of results. -/
def numbers (s : Leader S Spec B) : List Nat :=
  s.inbox.map fst ++ (s.queue.updates.map responseTx ++ s.updateReplies.map fst)

structure Numbered (s : Leader S Spec B) : Prop where
  bounded : ∀ n ∈ s.numbers, n < s.arrivals
  distinct : s.numbers.Nodup
  /-- The command whose result is awaited is on its way. -/
  awaited : ∀ n deadline, s.thread = .awaitingUpdate n deadline → n ∈ s.queue.updates.map responseTx

/-- A step that uses no new number. -/
theorem Numbered.of_subperm (numbered : s.Numbered) (fewer : s'.numbers.Subperm s.numbers)
    (later : s'.arrivals = s.arrivals)
    (awaited : ∀ n deadline, s'.thread = .awaitingUpdate n deadline →
      n ∈ s'.queue.updates.map responseTx) : s'.Numbered := by
  refine ⟨fun n used => ?_, ?_, awaited⟩
  · rw [later]
    exact numbered.bounded n (fewer.subset used)
  · obtain ⟨same, perm, inside⟩ := fewer
    exact perm.nodup_iff.mp (numbered.distinct.sublist inside)

variable {n m : Nat} {event : LeaderEvent Spec}
  {request : Request Spec} {store : ResultStore Spec B}

theorem numbered_schedule (numbered : s.Numbered) (free : s.thread = .free) (world : World) :
    (s.schedule setup world).Numbered := by
  have front : SameFront s (s.schedule setup world) := sameFront_schedule world
  have idle : ∀ m deadline, (s.schedule setup world).thread ≠ .awaitingUpdate m deadline := by
    simp [front.thread, free]
  refine numbered.of_subperm ?_ front.arrivals fun m deadline waits =>
    absurd waits (idle m deadline)
  unfold numbers
  rw [front.inbox]
  refine (subperm_append_left _).mpr ?_
  generalize turn : s.schedule setup world = s'
  cases scheduled turn.symm with
  | next polls => rw [nextTest_updates, nextTest_updateReplies]
  | goesOn reads same nearer => rw [reads.updates]
  | ticks sleeps nodes =>
    obtain ⟨taken, results, matched, replies⟩ := beginTick_updates setup (s := s) _ _
    have zipped : ((s.queue.updates.map responseTx).zip results).map
        fst = s.queue.updates.map responseTx := by
      apply map_fst_zip
      simp [matched.length_eq]
    rw [taken, replies, map_append, zipped, map_nil, nil_append]
    exact perm_append_comm.subperm
  | completes own outcome =>
    obtain ⟨updates, replies⟩ := complete_updates (s := s) _ _ _
    rw [replies]
    rcases updates with gone | same
    · rw [gone]
      exact (sublist_append_right _ _).subperm
    · rw [same]

theorem numbered_step (numbered : s.Numbered) (taken : step setup s event = some s') :
    s'.Numbered := by
  cases event with
  | arrive request =>
    cases taken
    have perm : ((s.inbox ++ [(s.arrivals, request)]).map fst ++
        (s.queue.updates.map responseTx ++
          s.updateReplies.map fst)).Perm (s.arrivals :: s.numbers) := by
      rw [map_append, append_assoc]
      exact perm_middle
    refine ⟨fun n used => ?_, ?_, numbered.awaited⟩
    · rcases mem_cons.mp (perm.subset used) with rfl | old
      · exact Nat.lt_succ_self _
      · exact (numbered.bounded n old).trans (Nat.lt_succ_self _)
    · refine perm.nodup_iff.mpr (nodup_cons.mpr ⟨fun used => ?_, numbered.distinct⟩)
      exact Nat.lt_irrefl _ (numbered.bounded _ used)
  | elapse time =>
    cases taken
    exact ⟨numbered.bounded, numbered.distinct, numbered.awaited⟩
  | wake =>
    rcases wake_cases taken with ⟨n, id, -, rfl⟩ | ⟨n, deadline, result, -, -, rfl⟩ |
      ⟨n, deadline, view, -, rfl⟩
    · refine numbered.of_subperm (Perm.of_eq ?_).subperm rfl (by simp [respond])
      simp only [numbers, respond, updates_sendCancel]
    all_goals exact ⟨numbered.bounded, numbered.distinct, by simp [respond]⟩
  | serve n drawn =>
    obtain ⟨free, -, request, found, rfl⟩ := step_serve.mp taken
    have inbox : (s.inbox.map fst).Perm (n :: (s.accept n).inbox.map fst) :=
      Keyed.perm_of_lookup found
    rcases handle_updates setup (s := s.accept n) free n drawn request with
      ⟨same, idle⟩ | ⟨id, action, params, -, sent, waits⟩
    · refine numbered.of_subperm ?_ (handle_frame n drawn request).2.2.1
        fun m deadline waits => absurd waits (idle m deadline)
      unfold numbers
      rw [(handle_frame ..).2.1, same, (handle_frame ..).2.2.2]
      refine .trans ?_ (inbox.symm.append_right _).subperm
      exact (sublist_cons_self n _).subperm
    · refine numbered.of_subperm ?_ (handle_frame n drawn request).2.2.1 ?_
      · unfold numbers
        rw [(handle_frame ..).2.1, sent, (handle_frame ..).2.2.2, map_append, map_singleton]
        refine Perm.subperm (Perm.trans ?_ (inbox.symm.append_right _))
        have regroup : (s.accept n).inbox.map fst ++
            (((s.accept n).queue.updates.map responseTx ++ [n]) ++
              (s.accept n).updateReplies.map fst) =
            ((s.accept n).inbox.map fst ++
              (s.accept n).queue.updates.map responseTx) ++
              n :: (s.accept n).updateReplies.map fst := by simp
        rw [regroup]
        refine perm_middle.trans (.of_eq ?_)
        simp [accept]
      · intro m deadline awaiting
        rw [waits] at awaiting
        obtain ⟨rfl, -⟩ := Thread.awaitingUpdate.inj awaiting
        rw [sent]
        simp
  | schedule world =>
    obtain ⟨free, rfl⟩ := step_schedule.mp taken
    exact numbered_schedule numbered free world

theorem numbered_of_run {disk : Disk.Directory Path B} {events : List (LeaderEvent Spec)}
    (run : exec (step setup) (start store disk) events = some s) : s.Numbered :=
  exec_invariant (I := fun _ s => s.Numbered) ⟨nofun, nodup_nil, nofun⟩ numbered_step run

theorem Numbered.no_result (numbered : s.Numbered)
    (inUse : n ∈ s.inbox.map fst ++ s.queue.updates.map responseTx) :
    s.updateReplies.lookup n = none := by
  have distinct := numbered.distinct
  rw [numbers, ← append_assoc] at distinct
  have apart := (nodup_append.mp distinct).2.2
  rw [lookup_eq_none_iff]
  intro reply given
  exact bne_iff_ne.mpr (apart n inUse reply.1 (mem_map_of_mem given))

/-! ## What becomes of a command -/

/-- The command waits in the channel of the running test. -/
def OnItsWay (s : Leader S Spec B) (id : TestId) (command : ControllerUpdateCommand) : Prop :=
  s.queue.runningId = some id ∧ command ∈ s.queue.updates

/-- The controller has been given the command. -/
def Applied (setup : LeaderSetup S Spec) (s : Leader S Spec B) (command : ControllerUpdateCommand) :
    Prop :=
  ∃ result, s.updateReplies.lookup command.responseTx = some result ∧
    ResultOf setup.controller command result

variable {id drawn : TestId} {command : ControllerUpdateCommand}

/-- A tick applies the commands on their way. -/
theorem applied_beginTick (numbered : s.Numbered) (sent : command ∈ s.queue.updates)
    (task : CoordinatorTask S) (nodes : List NodeInfo) :
    Applied setup (s.beginTick setup task nodes) command := by
  obtain ⟨-, results, matched, replies⟩ := beginTick_updates setup (s := s) task nodes
  have distinct := (nodup_append.mp (nodup_append.mp numbered.distinct).2.1).1
  obtain ⟨result, found, own⟩ := Keyed.lookup_zip matched distinct sent
  refine ⟨result, ?_, own⟩
  rw [replies, lookup_append, numbered.no_result
    (mem_append_right _ (mem_map_of_mem sent)), none_or, found]

theorem updateReplies_step (taken : step setup s event = some s') :
    ∃ more, s'.updateReplies = s.updateReplies ++ more := by
  cases event with
  | arrive request | elapse time =>
    cases taken
    exact ⟨[], (append_nil _).symm⟩
  | wake =>
    rcases wake_cases taken with ⟨n, id, -, rfl⟩ | ⟨n, deadline, result, -, -, rfl⟩ |
      ⟨n, deadline, view, -, rfl⟩ <;> exact ⟨[], (append_nil _).symm⟩
  | serve n drawn =>
    obtain ⟨-, -, request, -, rfl⟩ := step_serve.mp taken
    exact ⟨[], by rw [(handle_frame ..).2.2.2, append_nil]; rfl⟩
  | schedule world =>
    cases scheduled (step_schedule.mp taken).2 with
    | next polls => exact ⟨[], by rw [nextTest_updateReplies, append_nil]⟩
    | completes own outcome => exact ⟨[], by rw [(complete_updates _ _ _).2, append_nil]⟩
    | ticks sleeps nodes => exact ⟨_, rfl⟩
    | goesOn reads same nearer => exact ⟨[], (append_nil _).symm⟩

theorem applied_step (applied : Applied setup s command) (taken : step setup s event = some s') :
    Applied setup s' command := by
  obtain ⟨result, found, own⟩ := applied
  obtain ⟨more, longer⟩ := updateReplies_step taken
  exact ⟨result, by rw [longer, lookup_append, found]; rfl, own⟩

/-- A command that was sent has been applied, or is on its way, or its test is over. -/
def Fate (setup : LeaderSetup S Spec) (s : Leader S Spec B) (id : TestId)
    (command : ControllerUpdateCommand) : Prop :=
  Applied setup s command ∨ s.OnItsWay id command ∨ ∃ st, s.queue.Placed id (.ended st)

theorem fate_step (inPlace : s.InPlace) (numbered : s.Numbered) (fate : Fate setup s id command)
    (taken : step setup s event = some s') : Fate setup s' id command := by
  rcases fate with applied | ⟨runs, sent⟩ | ⟨st, ended⟩
  · exact .inl (applied_step applied taken)
  · cases event with
    | arrive request | elapse time =>
      cases taken
      exact .inr (.inl ⟨runs, sent⟩)
    | wake =>
      refine .inr (.inl ⟨(wake_queue taken).1.runningId.trans runs, ?_⟩)
      rcases wake_cases taken with ⟨n, target, -, rfl⟩ | ⟨n, deadline, result, -, -, rfl⟩ |
        ⟨n, deadline, view, -, rfl⟩
      · show command ∈ (s.queue.sendCancel target).2.updates
        rw [updates_sendCancel]
        exact sent
      · exact sent
      · exact sent
    | serve n drawn =>
      obtain ⟨free, -, request, -, rfl⟩ := step_serve.mp taken
      refine .inr (.inl ⟨(handle_runningId n drawn request).trans runs, ?_⟩)
      rcases handle_updates setup (s := s.accept n) free n drawn request with
        ⟨same, -⟩ | ⟨target, action, params, -, longer, -⟩
      · rw [same]
        exact sent
      · rw [longer]
        exact mem_append_left _ sent
    | schedule world =>
      cases scheduled (step_schedule.mp taken).2 with
      | next polls =>
        have idle := inPlace.stage
        rw [polls, runs] at idle
        cases idle
      | goesOn reads same nearer =>
        exact .inr (.inl ⟨reads.channelsOnly.runningId.trans runs, reads.updates.symm ▸ sent⟩)
      | ticks sleeps nodes => exact .inl (applied_beginTick numbered sent _ _)
      | @completes target result status own outcome =>
        obtain rfl : target = id := Option.some.inj (own.symm.trans (inPlace.stage.trans runs))
        exact .inr (.inr ⟨status, ended_of_complete inPlace own result status⟩)
  · obtain ⟨p, moved, moves⟩ := step_moves taken ended
    cases moves
    exact .inr (.inr ⟨st, moved⟩)

/-! ## Answers -/

/-- The handler of a request answers a controller update only to say that it could not be
sent. -/
theorem handle_update_response {answer : Option (Except String Json)}
    (answered : (s.handle setup n drawn request).responses = s.responses ++ [(m, .update answer)]) :
    m = n ∧ answer = none ∧ ∃ id action params, request = .putController id action params ∧
      ∀ r ∈ s.queue.running, r.id = id → ¬ r.controllerUpdateTx.HasRoom := by
  cases request with
  | createTest spec | getController id | cancelTest id =>
    simp only [handle] at answered
    split at answered <;> simp [respond] at answered
  | putController id action params =>
    simp only [handle] at answered
    split at answered
    · simp at answered
    · rename_i unsent
      obtain ⟨rfl, rfl⟩ : n = m ∧ none = answer := by simpa [respond] using answered
      refine ⟨rfl, rfl, id, action, params, rfl, fun r runs own room => unsent ?_⟩
      exact sendControllerUpdate_eq_true.mpr ⟨r, runs, own, room⟩
  | _ => simp [handle, forward, respond] at answered

/-- **When `send_controller_update` returns, the controller has given no result for the
command. If the command could be sent, the answer is the timeout error, the command is on
its way, and the test's next tick, if there is one, applies it.** -/
theorem update_applied_after_timeout (store : ResultStore Spec B) (ops : List (StoreOp Spec))
    (events : List (LeaderEvent Spec)) (event : LeaderEvent Spec) (n : Nat)
    (answer : Option (Except String Json))
    (run : exec (step setup) (start store (store.after ops)) events = some s)
    (taken : step setup s event = some s')
    (answered : s'.responses = s.responses ++ [(n, .update answer)]) :
    s'.updateReplies.lookup n = none ∧
      ((answer = none ∧ ∃ id action params, s.waiting n = some (.putController id action params) ∧
          ∀ r ∈ s.queue.running, r.id = id → ¬ r.controllerUpdateTx.HasRoom) ∨
        (answer = some timedOut ∧ ∃ id command, command.responseTx = n ∧ s'.OnItsWay id command ∧
          ∀ more world t t', exec (step setup) (start store (store.after ops))
              (events ++ event :: more) = some t →
            t.TickBegins (.schedule world) id → step setup t (.schedule world) = some t' →
            Applied setup t' command)) := by
  have numbered := numbered_of_run run
  cases event with
  | arrive request | elapse time =>
    cases taken
    simp at answered
  | schedule world =>
    obtain ⟨-, rfl⟩ := step_schedule.mp taken
    simp [(sameFront_schedule world).responses] at answered
  | serve m drawn =>
    obtain ⟨-, -, request, found, rfl⟩ := step_serve.mp taken
    obtain ⟨rfl, rfl, id, action, params, rfl, full⟩ := handle_update_response answered
    have waits : n ∈ s.inbox.map fst :=
      (Keyed.perm_of_lookup found).symm.subset mem_cons_self
    refine ⟨?_, .inl ⟨rfl, id, action, params, found, full⟩⟩
    rw [(handle_frame ..).2.2.2]
    exact numbered.no_result (mem_append_left _ waits)
  | wake =>
    rcases wake_cases taken with ⟨m, id, -, rfl⟩ | ⟨m, deadline, result, awaits, given, rfl⟩ |
      ⟨m, deadline, view, -, rfl⟩
    · simp [respond] at answered
    · obtain ⟨rfl, rfl⟩ : m = n ∧ some result = answer := by simpa [respond] using answered
      have sent := numbered.awaited m deadline awaits
      have missing := numbered.no_result (mem_append_right _ sent)
      obtain ⟨-, rfl⟩ : s.updateReplies.lookup m = none ∧ result = timedOut := by
        rcases given with found | timeout
        · rw [missing] at found
          cases found
        · exact timeout
      obtain ⟨command, onWay, number⟩ := mem_map.mp sent
      obtain ⟨id, runs⟩ := runningId_of_updates onWay
      refine ⟨missing, .inr ⟨rfl, id, command, number, ⟨runs, onWay⟩, ?_⟩⟩
      intro more world t t' later ticks next
      have reached : exec (step setup) (start store (store.after ops))
          (events ++ [.wake]) = some (({ s with thread := .free }).respond m
            (.update (some timedOut))) := by
        rw [exec_snoc, run]
        exact taken
      rw [append_cons] at later
      obtain ⟨inPlace, numbered, fate⟩ := exec_invariant_from
        (I := fun s => s.InPlace ∧ s.Numbered ∧ Fate setup s id command) reached
        ⟨inPlace_of_run reached, numbered_of_run reached, .inr (.inl ⟨runs, onWay⟩)⟩
        (by
          rintro s event s' ⟨inPlace, numbered, fate⟩ taken
          exact ⟨inPlace_step inPlace taken, numbered_step numbered taken,
            fate_step inPlace numbered fate taken⟩) later
      obtain ⟨⟨task, stage, own, nodes⟩, -⟩ := ticks
      rcases fate with applied | ⟨-, sent⟩ | ⟨st, ended⟩
      · exact applied_step applied next
      · obtain ⟨-, rfl⟩ := step_schedule.mp next
        simp only [schedule, stage, if_neg nodes]
        exact applied_beginTick numbered sent task _
      · have runs : t.queue.runningId = some id := by
          rw [← inPlace.stage, stage, ← own]
          rfl
        obtain ⟨kept, other⟩ := ended.running_iff.mp runs
        cases other
    · simp [respond] at answered

/-- A command whose handler gives up after ten seconds. -/
def givenUp : List (LeaderEvent Unit) :=
  startedTest ++ [.arrive (.putController testA "set_rate" (.obj [("rps", .float 500)])),
    .serve 1 testB, .elapse 10000000000]

theorem update_given_up :
    ∃ s s' : Leader ℚ Unit Cell,
      exec (step staticSetup) (start (smallStore 1) ((smallStore 1).after [])) givenUp =
        some s ∧ step staticSetup s .wake = some s' ∧
      s'.responses = s.responses ++ [(1, .update (some timedOut))] ∧
      s'.updateReplies.lookup 1 = none := by
  obtain ⟨s, run, awaits, missing, timeUp⟩ : ∃ s : Leader ℚ Unit Cell,
      exec (step staticSetup) (start (smallStore 1) ((smallStore 1).after [])) givenUp =
        some s ∧ s.thread = .awaitingUpdate 1 responseTimeout ∧ s.updateReplies.lookup 1 = none ∧
        responseTimeout ≤ s.clock := ⟨_, rfl, rfl, rfl, Nat.le_refl _⟩
  have taken : step staticSetup s .wake =
      some (({ s with thread := .free }).respond 1 (.update (some timedOut))) := by
    simp only [step, wake, awaits, missing, if_pos timeUp]
  exact ⟨s, _, run, taken, rfl,
    (update_applied_after_timeout (smallStore 1) [] givenUp .wake 1 _ run taken rfl).1⟩

/-- The handler answers with the timeout error, and the next tick sets the rate. -/
theorem timed_out_update_takes_effect :
    ∃ s : Leader ℚ Unit Cell,
      exec (step staticSetup) (start (smallStore 1) ((smallStore 1).after []))
        (givenUp ++ [.wake, .schedule bothAnswer]) = some s ∧
      (1, .update (some timedOut)) ∈ s.responses ∧
      ∃ result, s.updateReplies.lookup 1 = some (.ok result) := by
  refine ⟨_, rfl, ?_, ?_⟩
  · exact mem_cons_of_mem _ mem_cons_self
  · exact ⟨_, rfl⟩

end Leader

end Netanvil.Distributed
