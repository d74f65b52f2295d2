/-
# Two ways for a worker to hear a stop

A worker that hears a stop waiting for a message leaves its tasks some time, delivers what
has come of them, flushes the event recorder and sends its last snapshot. One that hears it
taking the messages that have accumulated does the same at once. `exits_agree_iff` compares
the two from the same state.
-/
import Netanvil.Core.IoWorker
import Netanvil.Theory.Trace

namespace Netanvil.Core

open Netanvil.Types Metrics Theory Theory.Trace Option Channel List IoWorker

structure LoggedWorker (G T Spec E : Type) where
  worker : IoWorker G T Spec
  fires : Channel ScheduledRequest
  recorder : E
  /-- All results given to the generator. -/
  heard : List ExecutionResult

inductive LoggedEvent where
  | arrive (message : ScheduledRequest)
  | loop (now spent : Nat)
  | complete (k : Nat) (result : ExecutionResult)

/-- What makes up a worker. -/
structure WorkerParts (G T Spec E : Type) where
  pipeline : Pipeline G T Spec
  config : IoWorkerConfig
  text : TextFunctions
  recorder : EventRecorder E

namespace LoggedWorker

variable {G T Spec E : Type} (parts : WorkerParts G T Spec E)

/-- Results on their way to the generator. -/
def waiting (w : IoWorker G T Spec) : List ExecutionResult := (w.responses.map (·.queue)).getD []

/-- What the next step of the loop gives to the generator. -/
def delivers (s : LoggedWorker G T Spec E) : List ExecutionResult :=
  match s.worker.stage with
  | .top | .finishing _ => waiting s.worker
  | .draining => if s.fires.queue.isEmpty then [] else waiting s.worker
  | _ => []

/-- The next step of the loop flushes the recorder. -/
def flushes (s : LoggedWorker G T Spec E) (now : Nat) : Bool :=
  match s.worker.stage, s.fires.queue with
  | .draining, .stop :: _ => true
  | .reporting, _ => parts.config.metricsInterval ≤ now - s.worker.lastReport
  | .finishing _, _ => true
  | _, _ => false

def step (s : LoggedWorker G T Spec E) : LoggedEvent → Option (LoggedWorker G T Spec E)
  | .arrive message => (s.fires.trySend message).map fun fires => { s with fires := fires }
  | .loop now spent =>
    (s.worker.step parts.pipeline parts.config now spent true s.fires).map fun (worker, fires) =>
      { worker := worker
        fires := fires
        recorder := if s.flushes parts now then parts.recorder.flush s.recorder else s.recorder
        heard := s.heard ++ s.delivers }
  | .complete k result =>
    (s.worker.complete parts.config parts.text k result).map fun worker =>
      { s with worker := worker, recorder := parts.recorder.record s.recorder result }

def start (capacity : Nat) (recorder : E) (generator : G) (transformer : T) (now : Nat) :
    LoggedWorker G T Spec E :=
  ⟨.start parts.pipeline parts.config generator transformer now, .bounded capacity, recorder, []⟩

/-- The last snapshot, but for when it was taken. -/
def finalSnapshot (s : LoggedWorker G T Spec E) : Option MetricsSnapshot :=
  s.worker.sent.getLast?.map fun snapshot => { snapshot with windowEnd := 0 }

structure SameExit (s s' : LoggedWorker G T Spec E) : Prop where
  snapshot : s.finalSnapshot = s'.finalSnapshot
  heard : s.heard = s'.heard
  recorder : s.recorder = s'.recorder

variable {parts}

/-! ## Steps of the loop -/

section

variable {s s' : LoggedWorker G T Spec E} {now wake : Nat}

theorem loop_drained (here : s.worker.stage = .draining) (empty : s.fires.queue = []) :
    step parts s (.loop now 0) =
      some { s with worker := { s.worker with stage := .reporting } } := by
  simp [step, IoWorker.step, here, tryRecv_eq_none empty, flushes, delivers, empty]

theorem loop_reported (here : s.worker.stage = .reporting)
    (notDue : now - s.worker.lastReport < parts.config.metricsInterval) :
    step parts s (.loop now 0) = some { s with worker := { s.worker with stage := .top } } := by
  simp [step, IoWorker.step, here, IoWorker.report, flushes, delivers, not_le.mpr notDue]

theorem loop_top (here : s.worker.stage = .top) :
    step parts s (.loop now 0) = some { s with
      worker := { s.worker.deliverResponses parts.pipeline with stage := .receiving }
      heard := s.heard ++ waiting s.worker } := by
  simp [step, IoWorker.step, here, flushes, delivers]

theorem loop_finishes (here : s.worker.stage = .finishing wake)
    (taken : step parts s (.loop now 0) = some s') :
    s'.worker =
        { (s.worker.deliverResponses parts.pipeline).sendSnapshot now with stage := .exited } ∧
      s'.heard = s.heard ++ waiting s.worker ∧
      s'.recorder = parts.recorder.flush s.recorder := by
  obtain ⟨⟨worker, fires⟩, moved, rfl⟩ := map_eq_some_iff.mp taken
  simp only [IoWorker.step, here] at moved
  split at moved <;> cases moved
  simp [delivers, flushes, here]

/-- A stop that arrives at an empty channel is the only message, and received next. -/
theorem receives_stop (empty : s.fires.queue = [])
    (run : exec (step parts) s [.arrive .stop, .loop now 0] = some s') :
    ∃ fires rest, fires.queue = [.stop] ∧ fires.tryRecv = some (.stop, rest) ∧
      step parts { s with fires := fires } (.loop now 0) = some s' := by
  obtain ⟨s₁, arrives, run⟩ := exec_cons_iff.mp run
  obtain ⟨fires, sent, rfl⟩ := map_eq_some_iff.mp arrives
  have only : fires.queue = [.stop] := by rw [queue_of_trySend sent, empty]; rfl
  obtain ⟨rest, received⟩ := exists_tryRecv_singleton only
  obtain ⟨s₂, loops, ⟨⟩⟩ := exec_cons_iff.mp run
  exact ⟨fires, rest, only, received, loops⟩

end

variable (p : Pipeline G T Spec) (w : IoWorker G T Spec)

theorem deliverResponses_stage (stage : WorkerStage) :
    deliverResponses p { w with stage := stage } =
      { w.deliverResponses p with stage := stage } := by
  simp only [deliverResponses]
  split <;> rfl

/-! ## The two ways -/

variable {s d f m : LoggedWorker G T Spec E} {now arrived : Nat}

/-- A stop among the accumulated messages. -/
theorem drain_stop (here : s.worker.stage = .draining)
    (empty : s.fires.queue = []) (run : exec (step parts) s [.arrive .stop, .loop now 0] = some d) :
    d.worker =
        { (s.worker.deliverResponses parts.pipeline).sendSnapshot now with stage := .exited } ∧
      d.heard = s.heard ++ waiting s.worker ∧ d.recorder = parts.recorder.flush s.recorder := by
  obtain ⟨fires, rest, only, received, loops⟩ := receives_stop empty run
  simp [step, IoWorker.step, here, received, IoWorker.handleMessage, flushes, delivers, only]
    at loops
  simp [← loops]

/-- The loop comes back to waiting for a message. -/
theorem waits (here : s.worker.stage = .draining)
    (empty : s.fires.queue = []) (notDue : now - s.worker.lastReport < parts.config.metricsInterval)
    (run : exec (step parts) s [.loop now 0, .loop now 0, .loop now 0] = some m) :
    m.worker = { s.worker.deliverResponses parts.pipeline with stage := .receiving } ∧
      m.fires = s.fires ∧ m.heard = s.heard ++ waiting s.worker ∧ m.recorder = s.recorder := by
  rw [exec_cons, loop_drained here empty, bind_some, exec_cons,
    loop_reported (by rfl) (by exact notDue), bind_some, exec_cons, loop_top (by rfl)] at run
  cases run
  exact ⟨by rw [deliverResponses_stage, deliverResponses_stage], rfl, rfl, rfl⟩

/-- A stop for a worker that waits. -/
theorem recv_stop (here : s.worker.stage = .receiving) (empty : s.fires.queue = [])
    (run : exec (step parts) s [.arrive .stop, .loop arrived 0] = some f) :
    f.worker = s.worker.finish parts.config arrived ∧ f.heard = s.heard ∧
      f.recorder = s.recorder := by
  obtain ⟨fires, rest, -, received, loops⟩ := receives_stop empty run
  simp [step, IoWorker.step, here, received, IoWorker.handleMessage, flushes, delivers] at loops
  simp [← loops]

/-- The completions of some tasks. -/
def completions (schedule : List (Nat × ExecutionResult)) : List LoggedEvent :=
  schedule.map fun (k, result) => .complete k result

/-- Every completion is recorded. -/
theorem completed {s' : LoggedWorker G T Spec E} {schedule : List (Nat × ExecutionResult)}
    (run : exec (step parts) s (completions schedule) = some s') :
    s'.worker.stage = s.worker.stage ∧ s'.fires = s.fires ∧
      s'.worker.metrics.totalRequests = s.worker.metrics.totalRequests + schedule.length := by
  induction schedule generalizing s with
  | nil =>
    obtain rfl : s = s' := some.inj run
    exact ⟨rfl, rfl, rfl⟩
  | cons completion rest ih =>
    rw [completions, map_cons, exec_cons] at run
    obtain ⟨s₁, taken, run⟩ := bind_eq_some_iff.mp run
    obtain ⟨worker, completes, rfl⟩ := map_eq_some_iff.mp taken
    obtain ⟨stage, fires, total⟩ := ih run
    have one : worker.metrics.totalRequests = s.worker.metrics.totalRequests + 1 := by
      have taken := completes
      unfold complete at taken
      split at taken <;> cases taken
      exact totalRequests_record ..
    refine ⟨stage.trans (stage_complete completes), fires, total.trans ?_⟩
    simp only [one, length_cons]
    omega

/-- What the next snapshot will say, but for when it is taken. -/
def summary (w : IoWorker G T Spec) : MetricsSnapshot :=
  { (w.metrics.snapshot 0).1 with
    inFlightDrops := w.inFlightDrops - w.lastInFlightDrops
    inFlightCount := w.limit.count
    inFlightCapacity := w.limit.max }

theorem summary_deliverResponses : summary (w.deliverResponses p) = summary w := by
  unfold deliverResponses
  split <;> rfl

theorem waiting_deliverResponses : waiting (w.deliverResponses p) = [] := by
  unfold deliverResponses
  split
  · simp [waiting, *]
  · simp [waiting, Channel.drained]

theorem finalSnapshot_eq {w : IoWorker G T Spec} (sends : s.worker =
      { (w.deliverResponses parts.pipeline).sendSnapshot now with stage := .exited }) :
    s.finalSnapshot = some (summary w) := by
  rw [finalSnapshot, sends, ← summary_deliverResponses parts.pipeline]
  simp [sendSnapshot, summary, HdrMetricsCollector.snapshot]

/-- **The two ways agree exactly if nothing completes in the time the second takes.**  From
one state of a worker that has handled all its messages and is not due to report: a stop
there is drained, and one that arrives once the worker waits is received. -/
theorem exits_agree_iff {s d r : LoggedWorker G T Spec E} {now arrived later : Nat}
    {early late : List (Nat × ExecutionResult)} (here : s.worker.stage = .draining)
    (empty : s.fires.queue = [])
    (notDue : now - s.worker.lastReport < parts.config.metricsInterval)
    (drain : exec (step parts) s [.arrive .stop, .loop now 0] = some d)
    (recv : exec (step parts) s
      ([.loop now 0, .loop now 0, .loop now 0] ++ completions early ++
        [.arrive .stop, .loop arrived 0] ++ completions late ++ [.loop later 0]) = some r) :
    SameExit d r ↔ early = [] ∧ late = [] := by
  obtain ⟨dWorker, dHeard, dRecorder⟩ := drain_stop here empty drain
  have dFinal := finalSnapshot_eq dWorker
  -- the second run, part by part
  rw [exec_append, exec_append, exec_append, exec_append] at recv
  obtain ⟨g, recv, last⟩ := bind_eq_some_iff.mp recv
  obtain ⟨f, recv, completesLate⟩ := bind_eq_some_iff.mp recv
  obtain ⟨e, recv, stops⟩ := bind_eq_some_iff.mp recv
  obtain ⟨m, loops, completesEarly⟩ := bind_eq_some_iff.mp recv
  obtain ⟨mWorker, mFires, mHeard, mRecorder⟩ := waits here empty notDue loops
  obtain ⟨eStage, eFires, eTotal⟩ := completed completesEarly
  obtain ⟨fWorker, fHeard, fRecorder⟩ :=
    recv_stop (by rw [eStage, mWorker]) (by rw [eFires, mFires, empty]) stops
  obtain ⟨gStage, -, gTotal⟩ := completed completesLate
  obtain ⟨r', exits, same⟩ := exec_cons_iff.mp last
  obtain rfl : r' = r := some.inj same
  have finishing : g.worker.stage = (e.worker.finish parts.config arrived).stage :=
    gStage.trans (congrArg stage fWorker)
  obtain ⟨rWorker, rHeard, rRecorder⟩ := loop_finishes finishing exits
  have rFinal := finalSnapshot_eq rWorker
  have mSummary : summary m.worker = summary s.worker := by
    rw [mWorker]
    exact summary_deliverResponses parts.pipeline s.worker
  constructor
  · intro same
    have summaries : summary m.worker = summary g.worker :=
      mSummary.trans (some.inj (dFinal.symm.trans (same.snapshot.trans rFinal)))
    have counts : m.worker.metrics.totalRequests = g.worker.metrics.totalRequests :=
      congrArg MetricsSnapshot.totalRequests summaries
    have kept : f.worker.metrics = e.worker.metrics := by
      rw [fWorker]
      rfl
    rw [gTotal, kept, eTotal] at counts
    exact ⟨length_eq_zero_iff.mp (by omega), length_eq_zero_iff.mp (by omega)⟩
  · rintro ⟨rfl, rfl⟩
    obtain rfl : m = e := some.inj completesEarly
    obtain rfl : f = g := some.inj completesLate
    refine ⟨?_, ?_, ?_⟩
    · rw [dFinal, rFinal, fWorker, ← mSummary]
      rfl
    · have none : waiting f.worker = [] := by
        rw [fWorker, mWorker]
        exact waiting_deliverResponses parts.pipeline s.worker
      rw [dHeard, rHeard, fHeard, mHeard, none, append_nil]
    · rw [dRecorder, rRecorder, fRecorder, mRecorder]

/-- A worker whose requests are all alike and whose recorder counts: what it holds, and what
it has flushed. -/
def countingParts : WorkerParts Unit Unit Unit (Nat × Nat) where
  pipeline := ⟨fun _ _ => ((), ()), fun _ _ => (), fun _ => true, fun _ _ => (),
    fun _ _ _ => ((), ()), fun _ _ => ()⟩
  config := ⟨0, 1000000000, true, 8, ⟨0, [], false, []⟩⟩
  text := Metrics.plainText
  recorder := ⟨fun (held, flushed) _ => (held + 1, flushed),
    fun (held, flushed) => (0, flushed + held)⟩

/-- The counting worker, from its start, once it has spawned a request. -/
def oneSpawned : LoggedWorker Unit Unit Unit (Nat × Nat) :=
  let started := start countingParts 4 (0, 0) () () 0
  (exec (step countingParts) started [.arrive (.fire 0 0), .loop 0 0, .loop 0 0]).getD started

def oneResult : ExecutionResult :=
  ⟨0, 0, 0, 0, 0, 500, some 200, 64, 1024, none, none, none⟩

/-- The request does not complete. -/
theorem exits_agree_in_flight :
    oneSpawned.worker.tasks.length = 1 ∧
      ∃ d r, exec (step countingParts) oneSpawned [.arrive .stop, .loop 10 0] = some d ∧
        exec (step countingParts) oneSpawned
          [.loop 10 0, .loop 10 0, .loop 10 0, .arrive .stop, .loop 20 0, .loop 50000020 0] =
            some r ∧
        SameExit d r :=
  ⟨rfl, _, _, evaluates, evaluates,
    (exits_agree_iff rfl rfl (by decide) (evaluates _) (evaluates _)).mpr
      ⟨rfl, rfl⟩⟩

/-- The request completes within the grace period: one exit counts it, tells the generator
and flushes its event, the other does none of this. -/
theorem drained_stop_loses_completion :
    countingParts.config.gracefulShutdown = true ∧
      ∃ d r, exec (step countingParts) oneSpawned [.arrive .stop, .loop 10 0] = some d ∧
        exec (step countingParts) oneSpawned
          [.loop 10 0, .loop 10 0, .loop 10 0, .arrive .stop, .loop 20 0, .complete 0 oneResult,
            .loop 50000020 0] = some r ∧
        d.finalSnapshot.map (·.totalRequests) = some 0 ∧
        r.finalSnapshot.map (·.totalRequests) = some 1 ∧
        d.heard.length = 0 ∧ r.heard.length = 1 ∧ d.recorder = (0, 0) ∧ r.recorder = (0, 1) ∧
        ¬SameExit d r := by
  refine ⟨rfl, _, _, evaluates,
    evaluates, by decide +kernel, by decide +kernel,
    by decide +kernel, by decide +kernel, by decide +kernel, by decide +kernel, ?_⟩
  intro same
  exact absurd (congrArg (Option.map (·.totalRequests)) same.snapshot) (by decide +kernel)

end LoggedWorker

end Netanvil.Core
