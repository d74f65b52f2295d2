/-
# Headers and targets changed while a test runs

Updates of the targets and of the headers go through the timer thread and the fire channels
to every worker, in order. The targets of a request are always those of the last update
handled. The headers are, exactly if the test started with headers or the last update has
none: a test that starts without headers gets the transformer that ignores them
(`updates_take_effect`).
-/
import Netanvil.Core.HttpPipeline

namespace Netanvil.Core

open Netanvil.Types Theory Theory.Trace TimerThread Option Channel Function BaseTransformer
  SimpleGenerator

open List (append_assoc append_nil foldl_append)

/-! ## Updates -/

namespace Update

def ofCommand : TimerCommand → Option Update
  | .updateTargets urls => some (.targets urls)
  | .updateMetadata headers => some (.metadata headers)
  | .updateRate _ | .stop => none

def ofMessage : ScheduledRequest → Option Update
  | .updateTargets urls => some (.targets urls)
  | .updateMetadata headers => some (.metadata headers)
  | .fire _ _ | .stop => none

@[simp] theorem ofMessage_message (update : Update) : ofMessage update.message = some update := by
  cases update <;> rfl

/-- The targets of the last update that has any. -/
def lastTargets (initial : List String) (updates : List Update) : List String :=
  updates.foldl (fun last update => match update with
    | .targets urls => urls
    | .metadata _ => last) initial

def lastMetadata (initial : List (String × String)) (updates : List Update) :
    List (String × String) :=
  updates.foldl (fun last update => match update with
    | .targets _ => last
    | .metadata headers => headers) initial

end Update

/-- The updates among the messages. -/
def updatesIn (messages : List ScheduledRequest) : List Update :=
  messages.filterMap Update.ofMessage

@[simp] theorem updatesIn_nil : updatesIn [] = [] := rfl

theorem updatesIn_append (messages more : List ScheduledRequest) :
    updatesIn (messages ++ more) = updatesIn messages ++ updatesIn more :=
  List.filterMap_append

@[simp] theorem updatesIn_message (update : Update) : updatesIn [update.message] = [update] := by
  simp [updatesIn]

/-! ## One step of a worker -/

namespace IoWorker

variable {G T Spec : Type} {p : Pipeline G T Spec} {config : IoWorkerConfig}

/-- The message a step of the loop takes off the channel. -/
def received (w : IoWorker G T Spec) (fires : Channel ScheduledRequest) : List ScheduledRequest :=
  match w.stage with
  | .receiving | .draining => fires.queue.head?.toList
  | _ => []

/-- What requests are made of is the same. -/
structure SamePipeline (w w' : IoWorker G T Spec) : Prop where
  generator : w'.generator = w.generator
  transformer : w'.transformer = w.transformer
  tasks : w'.tasks = w.tasks
  responses : w'.responses = w.responses

variable {w : IoWorker G T Spec}

/-- A message is taken off and handled, or none is and requests are made as before. -/
theorem step_received {w' : IoWorker G T Spec} {now spent : Nat} {connected : Bool}
    {fires fires' : Channel ScheduledRequest}
    (taken : w.step p config now spent connected fires = some (w', fires')) :
    (w.received fires = [] ∧ fires' = fires ∧ (w.responses = none → SamePipeline w w')) ∨
      ∃ message, w.received fires = [message] ∧ fires.queue = message :: fires'.queue ∧
        (w.responses = none → SamePipeline (w.handleMessage p config now spent message).1 w') := by
  have delivered : w.responses = none → w.deliverResponses p = w :=
    fun silent => by simp [deliverResponses, silent]
  cases loopTurn_of_step taken with
  | deliver here | exit here =>
    refine .inl ⟨by simp [received, here], rfl, fun silent => ?_⟩
    rw [delivered silent]
    exact ⟨rfl, rfl, rfl, rfl⟩
  | @receive message _ _ here got loops =>
    have queue := queue_of_tryRecv got
    exact .inr ⟨message, by simp [received, here, queue], queue, fun _ => ⟨rfl, rfl, rfl, rfl⟩⟩
  | @drain message _ here got | @leave message _ here got =>
    have queue := queue_of_tryRecv got
    refine .inr ⟨message, by simp [received, here, queue], queue, fun silent => ?_⟩
    rw [delivered silent]
    exact ⟨rfl, rfl, rfl, rfl⟩
  | idle here empty loops =>
    have queue := queue_of_tryRecv_none empty
    refine .inl ⟨?_, rfl, fun _ => ⟨rfl, rfl, rfl, rfl⟩⟩
    rcases here with here | here <;> simp [received, here, queue]
  | report here =>
    refine .inl ⟨by simp [received, here], rfl, fun _ => ?_⟩
    unfold report
    split <;> exact ⟨rfl, rfl, rfl, rfl⟩

end IoWorker

/-! ## The fan-out -/

namespace FireSystem

section

variable {n : Nat} {H G T Spec : Type}

/-- The updates commanded by an event. -/
def commanded (event : FireEvent n) : List Update := event.sent.filterMap Update.ofCommand

/-- The updates worker `i` takes off its channel with an event. -/
def updatesTaken (i : Fin n) (s : FireSystem n H G T Spec) : FireEvent n → List Update
  | .worker j _ => if j = i then updatesIn ((s.workers i).received (s.fires i)) else []
  | _ => []

/-- The update in the timer thread's hand, if worker `i` is still to be sent it. -/
def inHandFor (s : FireSystem n H G T Spec) (i : Fin n) : List Update :=
  match s.timer.stage with
  | .forwarding update workers => if i ∈ workers then [update] else []
  | _ => []

/-- The updates that are still to reach worker `i`'s channel. -/
def ahead (s : FireSystem n H G T Spec) (i : Fin n) : List Update :=
  s.inHandFor i ++ s.commands.filterMap Update.ofCommand

/-- Where the updates commanded so far are: `got` are those handled by each worker. -/
structure FanOut (told : List Update) (got : Fin n → List Update) (s : FireSystem n H G T Spec) :
    Prop where
  distinct : ∀ update workers, s.timer.stage = .forwarding update workers → workers.Nodup
  handled : ∀ i, got i <+: told
  whole : ∀ i, s.gone i = false → got i ++ updatesIn (s.fires i).queue ++ s.ahead i = told

attribute [local simp] commanded FireEvent.sent updatesTaken inHandFor

variable {setup : FireSetup n H G T Spec} {s s' : FireSystem n H G T Spec} {told : List Update}
  {got : Fin n → List Update}

theorem stage_start (setup : FireSetup n H G T Spec) : (start setup).timer.stage = .commands :=
  start_of_draw (P := fun t => t.stage = .commands)
    (fun t i here => by rw [draw_eq]; exact here) rfl

theorem fanOut_start : FanOut [] (fun _ => []) (start setup) where
  distinct := by simp [stage_start setup]
  handled _ := List.prefix_rfl
  whole i _ := by
    rw [ahead, inHandFor, stage_start setup]
    rfl

section

variable (fanOut : FanOut told got s)
include fanOut

/-- The same updates are where they were, and no worker came back. -/
theorem FanOut.congr
    (distinct : ∀ update workers, s'.timer.stage = .forwarding update workers → workers.Nodup)
    (queues : ∀ i, updatesIn (s'.fires i).queue = updatesIn (s.fires i).queue)
    (ahead : ∀ i, s'.ahead i = s.ahead i) (gone : ∀ i, s.gone i → s'.gone i) :
    FanOut told got s' := by
  refine ⟨distinct, fanOut.handled, fun i present => ?_⟩
  have before : s.gone i = false := by
    by_contra left
    rw [gone i (by simpa using left)] at present
    cases present
  rw [queues i, ahead i]
  exact fanOut.whole i before

variable {i : Fin n} {update : Update}

omit fanOut in
/-- A message that is no update does not count in the channel. -/
theorem updatesIn_setFires {fires : Channel ScheduledRequest} {message : ScheduledRequest}
    (other : updatesIn [message] = [])
    (sent : fires = s.fires i ∨ (s.fires i).trySend message = some fires) (j : Fin n) :
    updatesIn ((s.setFires i fires).fires j).queue = updatesIn (s.fires j).queue := by
  by_cases mine : j = i
  · subst mine
    simp only [setFires, update_self]
    rcases sent with rfl | sent
    · rfl
    · rw [queue_of_trySend sent, updatesIn_append, other, append_nil]
  · simp only [setFires, update_of_ne mine]

theorem fanOut_forward {rest : List (Fin n)} (here : s.timer.stage = .forwarding update (i :: rest))
    (taken : s.timerStep setup = some s') : FanOut told got s' := by
  obtain ⟨once, restDistinct⟩ := List.nodup_cons.mp (fanOut.distinct _ _ here)
  have others : ∀ j, j ≠ i → (s.setTimer (.forwarding update rest)).ahead j = s.ahead j := by
    intro j other
    simp [ahead, setTimer, here, other]
  have distinct : ∀ u workers, (.forwarding update rest : TimerStage n) =
      .forwarding u workers → workers.Nodup := by
    rintro u workers ⟨⟩
    exact restDistinct
  simp only [timerStep, here] at taken
  split at taken
  · rename_i gone
    cases taken
    refine ⟨distinct, fanOut.handled, fun j present => ?_⟩
    have other : j ≠ i := by
      rintro rfl
      exact Bool.noConfusion (present.symm.trans gone)
    rw [others j other]
    exact fanOut.whole j present
  · obtain ⟨fires, sent, rfl⟩ := map_eq_some_iff.mp taken
    refine ⟨distinct, fanOut.handled, fun j present => ?_⟩
    have whole := fanOut.whole j present
    by_cases mine : j = i
    · subst mine
      have done : ((s.setFires j fires).setTimer (.forwarding update rest)).ahead j =
          s.commands.filterMap Update.ofCommand := by
        simp [ahead, setTimer, setFires, once]
      have held : s.ahead j = update :: s.commands.filterMap Update.ofCommand := by
        simp [ahead, here]
      have queue : ((s.setFires j fires).setTimer (.forwarding update rest)).fires j = fires := by
        simp [setTimer, setFires]
      rw [done, queue, queue_of_trySend sent, updatesIn_append, updatesIn_message, ← whole, held]
      simp
    · have queue :
          ((s.setFires i fires).setTimer (.forwarding update rest)).fires j = s.fires j := by
        simp [setTimer, setFires, mine]
      have same : ((s.setFires i fires).setTimer (.forwarding update rest)).ahead j = s.ahead j :=
        others j mine
      rw [same, queue]
      exact whole

theorem fanOut_timer (taken : s.timerStep setup = some s') : FanOut told got s' := by
  cases timerStep_moves taken with
  | @handle command rest here waiting =>
    have before : ∀ i, s.ahead i = (command :: rest).filterMap Update.ofCommand := by
      intro i
      rw [ahead, inHandFor, here, waiting]
      rfl
    refine fanOut.congr ?_ (fun _ => rfl) (fun i => ?_) (fun _ => id)
    · intro update workers now
      cases command with
      | updateRate rps => exact absurd (here.symm.trans now) (by simp)
      | updateTargets urls | updateMetadata headers => cases now; exact List.nodup_finRange n
      | stop => cases now
    · rw [before i]
      show inHandFor _ i ++ _ = _
      rw [List.filterMap_cons]
      cases command <;> simp [handleCommand, here, Update.ofCommand]
  | next here empty =>
    have stages : (∃ due, s.timer.next.stage = .firing due) ∨
        ∃ workers, s.timer.next.stage = .stopping workers := by
      unfold next
      split
      · exact .inr ⟨_, rfl⟩
      · exact .inl ⟨_, rfl⟩
    refine fanOut.congr ?_ (fun _ => rfl) (fun i => ?_) (fun _ => id)
    · intro update workers now
      rcases stages with ⟨due, is⟩ | ⟨told, is⟩ <;> rw [is] at now <;> cases now
    · rcases stages with ⟨due, is⟩ | ⟨told, is⟩ <;> simp [ahead, is, here]
  | @fire due here awake =>
    have idle : (s.timer.fire setup.scheduler s.clock (s.gone due.2) (s.fires due.2) due).1.stage =
        .commands := stage_fire _ _ _ _ _
    refine fanOut.congr ?_ (fun i => ?_) (fun i => ?_) (fun _ => id)
    · intro update workers now
      rw [idle] at now
      cases now
    · by_cases mine : i = due.2
      · subst mine
        simp only [setFires, update_self]
        unfold fire
        split
        · rfl
        · split
          · rename_i sent
            rw [queue_of_trySend sent, updatesIn_append]
            exact append_nil _
          · rfl
      · simp only [setFires, update_of_ne mine]
    · simp only [ahead, inHandFor, idle, here]
      rfl
  | forward here sent => exact fanOut_forward fanOut here taken
  | forwarded here | stopped here =>
    refine fanOut.congr (by simp [setTimer]) (fun _ => rfl) (fun i => ?_) (fun _ => id)
    simp [ahead, setTimer, here]
  | stop here sent =>
    refine fanOut.congr (by simp [setTimer]) (updatesIn_setFires rfl sent) (fun i => ?_)
      (fun _ => id)
    simp [ahead, setTimer, setFires, here]

/-- A worker takes the oldest message off its channel, or none. -/
theorem fanOut_worker {spent : Nat} (taken : s.workerStep setup i spent = some s') :
    FanOut told (fun j => got j ++ s.updatesTaken j (.worker i spent)) s' := by
  obtain ⟨⟨worker, fires⟩, moved, rfl⟩ := map_eq_some_iff.mp taken
  have present : s.gone i = false := by
    by_contra gone
    have exited := WorkerStage.isExited_iff.mp (by simpa [FireSystem.gone] using gone)
    simp [IoWorker.step, exited] at moved
  -- what was taken and what is left were in the channel
  have split : updatesIn (s.fires i).queue =
      s.updatesTaken i (.worker i spent) ++ updatesIn fires.queue := by
    simp only [updatesTaken, if_true]
    rcases IoWorker.step_received moved with ⟨none, rfl, -⟩ | ⟨message, one, queue, -⟩
    · rw [none]
      rfl
    · rw [one, queue]
      rw [← List.singleton_append, updatesIn, List.filterMap_append]
      rfl
  have whole := fanOut.whole i present
  rw [split, ← append_assoc, append_assoc, append_assoc] at whole
  have idle : ∀ j, j ≠ i → s.updatesTaken j (.worker i spent) = [] := by
    intro j other
    exact if_neg (Ne.symm other)
  refine ⟨fanOut.distinct, fun j => ?_, fun j there => ?_⟩
  · by_cases mine : j = i
    · subst mine
      rw [← whole, ← append_assoc]
      exact List.prefix_append _ _
    · rw [idle j mine, append_nil]
      exact fanOut.handled j
  · by_cases mine : j = i
    · subst mine
      show _ ++ updatesIn (update s.fires j fires j).queue ++ s.ahead j = told
      rw [update_self, ← whole]
      simp
    · have stays : s.gone j = false := by simpa [gone, mine] using there
      show _ ++ updatesIn (update s.fires i fires j).queue ++ s.ahead j = told
      rw [update_of_ne mine, idle j mine, append_nil]
      exact fanOut.whole j stays

theorem fanOut_step {event : FireEvent n} (taken : step setup s event = some s') :
    FanOut (told ++ commanded event) (fun i => got i ++ s.updatesTaken i event) s' := by
  cases event with
  | elapse time =>
    cases taken
    have same : FanOut told got { s with clock := s.clock + time } :=
      fanOut.congr fanOut.distinct (fun _ => rfl) (fun _ => rfl) (fun _ => id)
    simpa using same
  | command command =>
    cases taken
    refine ⟨fanOut.distinct, fun i => ?_, fun i present => ?_⟩
    · exact (by simpa using fanOut.handled i : _ <+: told).trans (List.prefix_append _ _)
    · rw [← fanOut.whole i present]
      simp [ahead, List.filterMap_append]
  | timer => simpa using fanOut_timer fanOut taken
  | worker i spent => simpa using fanOut_worker fanOut taken
  | complete i k result =>
    obtain ⟨worker, moved, rfl⟩ := map_eq_some_iff.mp taken
    have stage := IoWorker.stage_complete moved
    have same : FanOut told got { s with workers := update s.workers i worker } := by
      refine fanOut.congr fanOut.distinct (fun _ => rfl) (fun _ => rfl) (fun j gone => ?_)
      by_cases mine : j = i
      · subst mine
        simpa [FireSystem.gone, stage] using gone
      · simpa [FireSystem.gone, update_of_ne mine] using gone
    simpa using same

end

variable (setup) in
/-- The updates worker `i` has handled. -/
def handledUpdates (events : List (FireEvent n)) (i : Fin n) : List Update :=
  observed (step setup) (updatesTaken i) (start setup) events

/-- The updates the coordinator has commanded. -/
def commandedUpdates (events : List (FireEvent n)) : List Update := events.flatMap commanded

end

/-! ## What the worker makes of them -/

section

variable {n : Nat} {H Method : Type} {test : HttpTest n H Method}

open Update

attribute [local simp] commanded FireEvent.sent updatesTaken

/-- The worker's pipeline is that of the test after these updates: a transformer that was chosen
for a test without headers stays as it is. -/
structure Follows (test : HttpTest n H Method) (updates : List Update)
    (w : IoWorker (SimpleGenerator Method) Transformer (HttpRequestSpec Method)) : Prop where
  silent : w.responses = none
  targets : (∀ urls, .targets urls ∈ updates → urls ≠ []) →
    w.generator.targets = lastTargets test.targets updates
  inner : w.transformer.inner =
    if test.headers = [] then .noop else .header (lastMetadata test.headers updates)

variable {updates : List Update}
  {w w' : IoWorker (SimpleGenerator Method) Transformer (HttpRequestSpec Method)}

theorem follows_start (test : HttpTest n H Method) (i : Fin n) :
    Follows test [] ((start test.setup).workers i) where
  silent := rfl
  targets _ := rfl
  inner := by
    have inner : ((start test.setup).workers i).transformer.inner =
        HttpTest.baseTransformer test.headers := by
      show (test.transformer i).inner = _
      unfold HttpTest.transformer
      split
      · rfl
      · simp only [Transformer.inner, ConnectionPolicyTransformer.new]
        split <;> rfl
    rw [inner, HttpTest.baseTransformer]
    simp [lastMetadata]

theorem Follows.same (follows : Follows test updates w) (same : IoWorker.SamePipeline w w') :
    Follows test updates w' where
  silent := same.responses.trans follows.silent
  targets filled := by rw [same.generator]; exact follows.targets filled
  inner := by rw [same.transformer]; exact follows.inner

theorem follows_handleMessage (follows : Follows test updates w) (config : IoWorkerConfig)
    (now spent : Nat) (message : ScheduledRequest) :
    Follows test (updates ++ updatesIn [message])
      (w.handleMessage (httpPipeline Method) config now spent message).1 := by
  cases message with
  | fire intendedTime sentTime =>
    rw [show updatesIn [.fire intendedTime sentTime] = [] from rfl, append_nil]
    simp only [IoWorker.handleMessage]
    split
    · exact ⟨follows.silent, follows.targets, follows.inner⟩
    · exact ⟨follows.silent, follows.targets, (w.transformer.moved_inner).trans follows.inner⟩
  | updateTargets urls =>
    show Follows test (updates ++ [.targets urls]) _
    refine ⟨follows.silent, fun filled => ?_, ?_⟩
    · have nonempty : urls ≠ [] := filled urls (by simp)
      show (w.generator.updateTargets urls).targets = _
      simp [updateTargets, nonempty, lastTargets, foldl_append]
    · show w.transformer.inner = _
      rw [follows.inner]
      simp [lastMetadata, foldl_append]
  | updateMetadata headers =>
    show Follows test (updates ++ [.metadata headers]) _
    refine ⟨follows.silent, fun filled => ?_, ?_⟩
    · show w.generator.targets = _
      rw [follows.targets fun urls mem => filled urls (List.mem_append_left _ mem)]
      simp [lastTargets, foldl_append]
    · show (w.transformer.updateMetadata headers).inner = _
      rw [Transformer.updateMetadata_inner, follows.inner]
      by_cases bare : test.headers = []
      · simp [bare, updateMetadata]
      · simp [bare, updateMetadata, lastMetadata, foldl_append]
  | stop =>
    rw [show updatesIn [.stop] = [] from rfl, append_nil]
    exact follows

variable {s : FireSystem n H (SimpleGenerator Method) Transformer (HttpRequestSpec Method)}

theorem follows_step {s' : FireSystem n H (SimpleGenerator Method) Transformer
      (HttpRequestSpec Method)}
    {got : Fin n → List Update} (follows : ∀ i, Follows test (got i) (s.workers i))
    {event : FireEvent n} (taken : step test.setup s event = some s') (i : Fin n) :
    Follows test (got i ++ s.updatesTaken i event) (s'.workers i) := by
  cases event with
  | elapse time | command command =>
    cases taken
    simpa using follows i
  | timer =>
    have same : s'.workers = s.workers := by cases timerStep_moves taken <;> rfl
    rw [same]
    simpa using follows i
  | worker j spent =>
    obtain ⟨⟨worker, fires⟩, moved, rfl⟩ := map_eq_some_iff.mp taken
    by_cases mine : i = j
    · subst mine
      simp only [updatesTaken, if_true, update_self]
      rcases IoWorker.step_received moved with ⟨none, -, same⟩ | ⟨message, one, -, same⟩
      · rw [none, updatesIn_nil, append_nil]
        exact (follows i).same (same (follows i).silent)
      · rw [one]
        exact (follows_handleMessage (follows i) _ _ _ message).same (same (follows i).silent)
    · simp only [updatesTaken, if_neg (Ne.symm mine), append_nil, update_of_ne mine]
      exact follows i
  | complete j k result =>
    obtain ⟨worker, moved, rfl⟩ := map_eq_some_iff.mp taken
    by_cases mine : i = j
    · subst mine
      simp only [updatesTaken, append_nil, update_self]
      have before := follows i
      unfold IoWorker.complete at moved
      split at moved
      · cases moved
      · cases moved
      · cases moved
        exact ⟨by simp [before.silent], before.targets, before.inner⟩
    · simp only [updatesTaken, append_nil, update_of_ne mine]
      exact follows i

/-- Whatever the threads do and whatever updates are commanded (none of them to an empty list of
targets), a request that a worker generates goes to a target of the last update it has handled.
It carries the headers of the last update, and what the connection policy adds, exactly if the
test started with headers or there are none to carry. -/
theorem updates_take_effect (test : HttpTest n H Method) {events : List (FireEvent n)}
    {s s' : FireSystem n H (SimpleGenerator Method) Transformer (HttpRequestSpec Method)}
    (run : exec (step test.setup) (start test.setup) events = some s)
    (filled : ∀ urls, .command (.updateTargets urls) ∈ events → urls ≠ [])
    {i : Fin n} {spent : Nat} (taken : step test.setup s (.worker i spent) = some s')
    {task : RequestTask (HttpRequestSpec Method)}
    (generated : (s'.workers i).tasks = (s.workers i).tasks ++ [task]) :
    handledUpdates test.setup events i <+: commandedUpdates events ∧
      task.spec.url ∈ lastTargets test.targets (handledUpdates test.setup events i) ∧
      (task.spec.headers =
          lastMetadata test.headers (handledUpdates test.setup events i) ++
            (s.workers i).transformer.added ↔
        test.headers ≠ [] ∨
          lastMetadata test.headers (handledUpdates test.setup events i) = []) := by
  have handled := (exec_invariant_along (I := fun events s =>
    FanOut (commandedUpdates events) (handledUpdates test.setup events) s) fanOut_start (by
      intro events s event s' before fanOut taken
      have next := fanOut_step fanOut taken
      have handled : handledUpdates test.setup (events ++ [event]) =
          fun i => handledUpdates test.setup events i ++ s.updatesTaken i event := by
        funext i
        exact observed_snoc (updatesTaken i) before event
      rw [handled, commandedUpdates, List.flatMap_append]
      simpa [commandedUpdates] using next) run).handled i
  have follows : Follows test (handledUpdates test.setup events i) (s.workers i) := by
    refine exec_invariant_along (I := fun events s =>
      ∀ i, Follows test (handledUpdates test.setup events i) (s.workers i)) ?_ ?_ run i
    · exact follows_start test
    intro events s event s' before follows taken i
    rw [handledUpdates, observed_snoc (updatesTaken i) before event]
    exact follows_step follows taken i
  set updates := handledUpdates test.setup events i
  have targets : (s.workers i).generator.targets = lastTargets test.targets updates := by
    apply follows.targets
    intro urls mem
    obtain ⟨event, here, sent⟩ := List.mem_flatMap.mp (handled.subset mem)
    apply filled urls
    cases event with
    | command command =>
      cases command <;> simp [ofCommand] at sent
      subst sent
      exact here
    | elapse time | timer | worker j spent | complete j k result => simp at sent
  have spec : task.spec =
      ((s.workers i).transformer.transform (s.workers i).generator.generate.1).1 := by
    obtain ⟨⟨worker, fires⟩, moved, rfl⟩ := map_eq_some_iff.mp taken
    simp only [update_self] at generated
    rcases IoWorker.step_received moved with ⟨-, -, same⟩ | ⟨message, -, -, same⟩
    · rw [(same follows.silent).tasks] at generated
      simp at generated
    · rw [(same follows.silent).tasks] at generated
      -- only a fire that is not dropped spawns a task
      cases message with
      | fire intendedTime sentTime =>
        simp only [IoWorker.handleMessage] at generated
        split at generated
        · simp at generated
        · obtain ⟨rfl, -⟩ := List.cons.inj (List.append_cancel_left generated)
          rfl
      | updateTargets urls | updateMetadata headers | stop =>
        simp [IoWorker.handleMessage] at generated
  refine ⟨handled, ?_, ?_⟩
  · have url : task.spec.url = (s.workers i).generator.target := by
      rw [spec]
      simp only [Transformer.transform]
      cases (s.workers i).transformer.inner <;> rfl
    rw [url, ← targets]
    exact List.get_mem _ _
  · rw [spec]
    simp only [Transformer.transform, follows.inner, List.append_left_inj]
    by_cases bare : test.headers = []
    · simp only [bare, if_true, transform, generate, ne_eq, not_true_eq_false, false_or]
      exact eq_comm
    · simp [bare, transform, generate]

end

/-- One worker, one target, the given headers; connections are kept alive. -/
def oneTarget (headers : List (String × String)) : HttpTest 1 Nat Unit where
  targets := ["http://old/"]
  nonempty := by simp
  method := "GET"
  headers := headers
  connectionPolicy := .keepAlive
  parseMethod _ := some ()
  get := ()
  scheduler := ⟨fun fired => (some (fired * 10), fired + 1), fun fired _ => fired⟩
  schedulers _ := 0
  text := Metrics.plainText
  config _ := ⟨0, 1000, true, 1, ⟨0, [], false, []⟩⟩
  draws _ := ⟨Stream'.const true, Stream'.const 1⟩

/-- New headers and new targets are commanded and reach the worker, which handles both; then an
event is fired. -/
def updatedThenFired : List (FireEvent 1) :=
  [.command (.updateMetadata [("X-Stage", "2")]), .command (.updateTargets ["http://new/"]),
    .timer, .timer, .timer, .timer, .timer, .timer, .timer, .timer, .worker (.last 0) 1,
    .worker (.last 0) 1, .worker (.last 0) 1]

/-- The state after these events, the state one step of the worker later, and the request of that
step. -/
def requestAfter (headers : List (String × String)) :
    Option (FireSystem 1 Nat (SimpleGenerator Unit) Transformer (HttpRequestSpec Unit) ×
      FireSystem 1 Nat (SimpleGenerator Unit) Transformer (HttpRequestSpec Unit) ×
      RequestTask (HttpRequestSpec Unit)) :=
  (exec (step (oneTarget headers).setup) (start (oneTarget headers).setup) updatedThenFired).bind
    fun s => (step (oneTarget headers).setup s (.worker (.last 0) 1)).bind fun s' =>
      match (s.workers (.last 0)).tasks, (s'.workers (.last 0)).tasks with
      | [], [task] => some (s, s', task)
      | _, _ => none

theorem requestAfter_spec {headers : List (String × String)}
    {s s' : FireSystem 1 Nat (SimpleGenerator Unit) Transformer (HttpRequestSpec Unit)}
    {task : RequestTask (HttpRequestSpec Unit)} (is : requestAfter headers = some (s, s', task)) :
    exec (step (oneTarget headers).setup) (start (oneTarget headers).setup) updatedThenFired =
        some s ∧
      step (oneTarget headers).setup s (.worker (.last 0) 1) = some s' ∧
      (s'.workers (.last 0)).tasks = (s.workers (.last 0)).tasks ++ [task] := by
  obtain ⟨t, run, rest⟩ := bind_eq_some_iff.mp is
  obtain ⟨t', taken, rest⟩ := bind_eq_some_iff.mp rest
  split at rest
  · rename_i before after
    cases rest
    exact ⟨run, taken, by rw [before, after]; rfl⟩
  · cases rest

/-- A test that started with headers takes on the new ones. -/
theorem updates_take_effect_with_headers : ∃ s s' task,
    requestAfter [("X-Stage", "1")] = some (s, s', task) ∧
      task.spec.url ∈ ["http://new/"] ∧
      task.spec.headers = [("X-Stage", "2")] ++ (s.workers (.last 0)).transformer.added := by
  have ends : (requestAfter [("X-Stage", "1")]).isSome := by decide +kernel
  obtain ⟨⟨s, s', task⟩, is⟩ := isSome_iff_exists.mp ends
  obtain ⟨run, taken, generated⟩ := requestAfter_spec is
  have filled : ∀ urls, .command (.updateTargets urls) ∈ updatedThenFired → urls ≠ [] := by
    simp [updatedThenFired]
  obtain ⟨-, url, carries⟩ := updates_take_effect _ run filled taken generated
  exact ⟨s, s', task, is, url, carries.mpr (.inl (by simp [oneTarget]))⟩

/-- A test that started without headers does not. -/
theorem updates_ignored_without_headers : ∃ s s' task,
    exec (step (oneTarget []).setup) (start (oneTarget []).setup) updatedThenFired = some s ∧
      step (oneTarget []).setup s (.worker (.last 0) 1) = some s' ∧
      (s'.workers (.last 0)).tasks = (s.workers (.last 0)).tasks ++ [task] ∧
      handledUpdates (oneTarget []).setup updatedThenFired (.last 0) =
        [.metadata [("X-Stage", "2")], .targets ["http://new/"]] ∧
      (s.workers (.last 0)).transformer.added = [] ∧ task.spec.headers = [] := by
  obtain ⟨⟨s, s', task⟩, is, added, headers⟩ : ∃ r, requestAfter [] = some r ∧
      (r.1.workers (.last 0)).transformer.added = [] ∧ r.2.2.spec.headers = [] := by
    decide +kernel
  obtain ⟨run, taken, generated⟩ := requestAfter_spec is
  exact ⟨s, s', task, run, taken, generated, by rfl, added, headers⟩

end FireSystem

end Netanvil.Core
