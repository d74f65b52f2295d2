/-
# Whose request an id is

A core numbers its requests from its core id times a billion on, and the event log divides by
a billion to find the core again, in 16 bits. Nothing stops a core at a billion.

`request_identity_iff` is exact: ids are distinct and logged under the right core as long as
no core has issued more than a billion requests, and none beyond the 65536th any.
-/
import Netanvil.Core.FireConservation
import Netanvil.Events.Recorder

namespace Netanvil.Core.FireSystem

open Netanvil.Types Events Theory Theory.Trace List Channel Function Fin ArrowEventRecorder IoWorker

variable {n : Nat} {H G T Spec : Type} {setup : FireSetup n H G T Spec}

/-- The ids of the requests a core has issued, as the 64-bit numbers they are. -/
def requestIds (s : FireSystem n H G T Spec) (i : Fin n) : List Nat :=
  ((s.workers i).handled.filterMap (·.request)).map (· % 2 ^ 64)

/-- No two requests share an id, and a log of a core's requests names that core. -/
structure Identified (s : FireSystem n H G T Spec) : Prop where
  distinct : (ofFn s.requestIds).flatten.Nodup
  logged : ∀ (i : Fin n) {R : Type} (config : RecorderConfig R) (rng : R)
    (calls : List Call),
    (∀ result, .record result ∈ calls → result.requestId ∈ s.requestIds i) →
    ∀ batch ∈ (calls.foldl (call config) (.new rng)).batches, ∀ core ∈ batch.coreId, core = i

/-! ## Runs -/

variable {s : FireSystem n H G T Spec}

theorem requestIds_of_run (cores : ∀ i, (setup.config i).coreId = i) {events : List (FireEvent n)}
    (run : exec (step setup) (start setup) events = some s) (i : Fin n) : s.requestIds i =
      (range (s.workers i).requestSeq).map fun seq =>
        ((i : Nat) * 1000000000 + seq) % 2 ^ 64 := by
  have requests := ((books_of_run run).sound i).requests
  rw [requestIds, requests.numbered, map_map]
  simp only [comp_def, requestId, cores]

/-- A log that keeps everything. -/
def fullLog : RecorderConfig Unit := ⟨⟨0, 0⟩, "http", 1, 8192, fun _ => (0, ())⟩

/-- What the log says of one request. -/
theorem Identified.core_eq (identified : s.Identified) {i : Fin n} {id : Nat}
    (issued : id ∈ s.requestIds i) : recordedCoreId id = i := by
  let result : ExecutionResult := ⟨id, 0, 0, 0, 0, 0, none, 0, 0, none, none, none⟩
  have only : ∀ result', .record result' ∈ [Call.record result] →
      result'.requestId ∈ s.requestIds i := by
    intro result' mem
    cases mem_singleton.mp mem
    exact issued
  exact identified.logged i fullLog () [.record result] only
    (CommonBuilders.append fullLog .empty result) mem_cons_self _ mem_cons_self

/-- **Requests are told apart, and logged under their core, exactly if no core has issued
more than a billion of them and no core id is beyond 16 bits.** -/
theorem request_identity_iff (cores : ∀ i, (setup.config i).coreId = i)
    {events : List (FireEvent n)} {s : FireSystem n H G T Spec}
    (run : exec (step setup) (start setup) events = some s) :
    s.Identified ↔ ∀ i : Fin n, (s.requestIds i).length ≤ 1000000000 ∧
      (s.requestIds i ≠ [] → (i : Nat) < 65536) := by
  have ids := requestIds_of_run cores run
  constructor
  · intro identified i
    have small : s.requestIds i ≠ [] → (i : Nat) < 65536 := by
      intro some
      obtain ⟨id, issued⟩ := exists_mem_of_ne_nil _ some
      rw [← identified.core_eq issued]
      exact Nat.mod_lt _ (by decide)
    refine ⟨?_, small⟩
    by_contra many
    rw [ids, length_map, length_range, not_le] at many
    have issued : ((i : Nat) * 1000000000 + 1000000000) % 2 ^ 64 ∈ s.requestIds i := by
      rw [ids]
      exact mem_map.mpr ⟨1000000000, mem_range.mpr many, rfl⟩
    -- a core's first request past a billion is taken for the next core's
    have cores := small (ne_nil_of_mem issued)
    have same := identified.core_eq issued
    unfold recordedCoreId at same
    omega
  · intro bounded
    -- every id of core `i` is its core id and a number below a billion
    have issued : ∀ {i : Fin n} {id : Nat}, id ∈ s.requestIds i → recordedCoreId id = i := by
      intro i id mem
      have few := (bounded i).1
      have small := (bounded i).2 (ne_nil_of_mem mem)
      rw [ids] at mem few
      obtain ⟨seq, below, rfl⟩ := mem_map.mp mem
      rw [length_map, length_range] at few
      rw [mem_range] at below
      have fits : (i : Nat) * 1000000000 + seq < 2 ^ 64 := by omega
      rw [recordedCoreId, Nat.mod_eq_of_lt fits]
      omega
    refine ⟨nodup_flatten.mpr ⟨?_, ?_⟩, ?_⟩
    · intro l mem
      obtain ⟨i, rfl⟩ := mem_ofFn.mp mem
      have few := (bounded i).1
      rw [ids] at few ⊢
      rw [length_map, length_range] at few
      refine nodup_range.map_on fun seq below seq' below' same => ?_
      rw [mem_range] at below below'
      omega
    · refine pairwise_ofFn.mpr fun i j before id here there => ?_
      have same : (i : Nat) = j := (issued here).symm.trans (issued there)
      exact before.ne (Fin.ext same)
    · intro i R config rng calls known batch mem core logged
      obtain ⟨coreIds, requests⟩ := columns_of_run rng known batch mem
      rw [coreIds] at logged
      obtain ⟨id, row, rfl⟩ := mem_map.mp logged
      exact issued (requests id row)

/-! ## A core that goes on -/

/-- A worker without a limit takes a fire event in four steps, and is back where it was. -/
theorem takes_fire (p : Pipeline G T Spec) (config : IoWorkerConfig) (now : Nat)
    {w : IoWorker G T Spec} {fires : Channel ScheduledRequest} {intendedTime sentTime : Nat}
    (top : w.stage = .top) (only : fires.queue = [.fire intendedTime sentTime])
    (unlimited : w.limit.max = 0) :
    ∃ w₁ w₂ w₃ w₄ rest, w.step p config now 1 true fires = some (w₁, fires) ∧
      w₁.step p config (now + 1) 0 true fires = some (w₂, rest) ∧
      w₂.step p config (now + 1) 0 true rest = some (w₃, rest) ∧
      w₃.step p config (now + 1) 0 true rest = some (w₄, rest) ∧
      rest.queue = [] ∧ rest.HasRoom ∧ w₄.stage = .top ∧
      w₄.requestSeq = w.requestSeq + 1 ∧ w₄.limit.max = 0 := by
  obtain ⟨rest, received⟩ := exists_tryRecv_singleton only
  have empty : rest.queue = [] := by
    have queue := queue_of_tryRecv received
    rw [only] at queue
    exact (cons.inj queue).2.symm
  -- the four states, one after the other
  let w₁ : IoWorker G T Spec := { w.deliverResponses p with stage := .receiving }
  have same : w₁.limit = w.limit ∧ w₁.requestSeq = w.requestSeq := by
    simp only [w₁, deliverResponses]
    split <;> exact ⟨rfl, rfl⟩
  let limit : InFlightLimit := { w₁.limit with count := w₁.limit.count + 1 }
  have permit : w₁.limit.tryAcquire = some limit := by
    simp [InFlightLimit.tryAcquire, limit, same.1, unlimited]
  let w₂ := { w₁.spawn p config limit intendedTime sentTime (now + 1) 0 with stage := .draining }
  let w₃ := { w₂ with stage := .reporting }
  let w₄ := { w₃.report config (now + 1) with stage := .top }
  have kept : w₄.requestSeq = w₂.requestSeq ∧ w₄.limit = w₂.limit := by
    simp only [w₄, report]
    split <;> exact ⟨rfl, rfl⟩
  refine ⟨w₁, w₂, w₃, w₄, rest, ?_, ?_, ?_, rfl, empty, hasRoom_of_tryRecv received, rfl, ?_, ?_⟩
  · simp only [IoWorker.step, top, w₁]
  · have receiving : w₁.stage = .receiving := rfl
    simp only [IoWorker.step, receiving, received, IoWorker.handleMessage, permit]
    rfl
  · have draining : w₂.stage = .draining := rfl
    simp only [IoWorker.step, draining, tryRecv_eq_none empty]
    rfl
  · rw [kept.1]
    exact congrArg (· + 1) same.2
  · rw [kept.2]
    exact (congrArg InFlightLimit.max same.1).trans unlimited

theorem exec_worker {i : Fin n} {w₁ w₂ w₃ w₄ : IoWorker G T Spec}
    {rest : Channel ScheduledRequest} (going : s.timer.stage.isEnded = false)
    (one : (s.workers i).step setup.pipeline (setup.config i) s.clock 1 true (s.fires i) =
      some (w₁, s.fires i))
    (two : w₁.step setup.pipeline (setup.config i) (s.clock + 1) 0 true (s.fires i) =
      some (w₂, rest))
    (three : w₂.step setup.pipeline (setup.config i) (s.clock + 1) 0 true rest = some (w₃, rest))
    (four : w₃.step setup.pipeline (setup.config i) (s.clock + 1) 0 true rest = some (w₄, rest)) :
    exec (step setup) s [.worker i 1, .worker i 0, .worker i 0, .worker i 0] =
      some ⟨s.clock + 1, s.commands, s.timer, update s.fires i rest, update s.workers i w₄⟩ := by
  have connected : (!s.timer.stage.isEnded) = true := by rw [going]; rfl
  simp [exec, step, workerStep, connected, one, two, three, four, setFires]

/-- Cores fired every nanosecond, without a limit. -/
def everyNanosecond (n : Nat) : FireSetup n Nat Unit Unit Unit where
  scheduler := ⟨fun next => (some next, next + 1), fun next _ => next⟩
  pipeline := ⟨fun _ _ => ((), ()), fun _ _ => (), fun _ => false, fun _ _ => (),
    fun _ _ _ => ((), ()), fun _ _ => ()⟩
  text := Metrics.plainText
  config := fun i => ⟨i, 1000000000, true, 0, ⟨0, [], false, []⟩⟩
  schedulers := fun _ => 0
  generators := fun _ => ()
  transformers := fun _ => ()

/-- Two cores, one request each. -/
theorem two_cores_identified :
    ∃ s, exec (step (everyNanosecond 2)) (start (everyNanosecond 2))
        [.timer, .timer, .timer, .timer, .worker 0 1, .worker 0 1, .worker 1 1, .worker 1 1] =
          some s ∧
      (∀ i, ((everyNanosecond 2).config i).coreId = i) ∧
      ofFn s.requestIds = [[0], [1000000000]] ∧ s.Identified :=
  ⟨_, evaluates, fun _ => rfl, by decide +kernel,
    (request_identity_iff (fun _ => rfl) (evaluates _)).mpr (by decide +kernel)⟩

/-- One core alone has issued `k` requests and is ready for the next. -/
structure Steady (k : Nat) (s : FireSystem 1 Nat Unit Unit Unit) : Prop where
  commands : s.commands = []
  turn : s.timer.stage = .commands
  heap : s.timer.heap = [(k, last 0)]
  drawn : s.timer.schedulers (last 0) = k + 1
  awake : k ≤ s.clock
  empty : (s.fires (last 0)).queue = []
  room : (s.fires (last 0)).HasRoom
  top : (s.workers (last 0)).stage = .top
  issued : (s.workers (last 0)).requestSeq = k
  unlimited : (s.workers (last 0)).limit.max = 0

/-- The next event is due and is sent. -/
theorem steady_fires {k : Nat} {s : FireSystem 1 Nat Unit Unit Unit} (steady : Steady k s) :
    ∃ s', exec (step (everyNanosecond 1)) s [.timer, .timer] = some s' ∧
      s'.commands = [] ∧ s'.timer.stage = .commands ∧ s'.timer.heap = [(k + 1, last 0)] ∧
      s'.timer.schedulers (last 0) = k + 2 ∧ s'.clock = s.clock ∧
      (s'.fires (last 0)).queue = [.fire k s.clock] ∧ s'.workers = s.workers := by
  obtain ⟨commands, turn, heap, drawn, awake, empty, room, top, -, -⟩ := steady
  -- the event is taken off the heap
  let waiting : FireSystem 1 Nat Unit Unit Unit :=
    { s with
      commands := []
      timer := { s.timer with heap := [], stage := .firing (k, last 0) } }
  have next : step (everyNanosecond 1) s .timer = some waiting := by
    simp only [step, timerStep, turn, commands, TimerThread.next, heap, Due.pop]
    rfl
  -- and sent: the worker is there, and its channel has room
  have here : waiting.gone (last 0) = false := by
    show WorkerStage.isExited (s.workers (last 0)).stage = false
    rw [top]
    rfl
  obtain ⟨fires, sent⟩ : ∃ fires, (waiting.fires (last 0)).trySend (.fire k waiting.clock) =
      some fires := Option.ne_none_iff_exists'.mp fun full => trySend_eq_none.mp full room
  let settled : TimerThread 1 Nat :=
    { waiting.timer.settle (k, last 0) waiting.clock .dispatched with
      dispatched := waiting.timer.dispatched + 1 }
  let done : FireSystem 1 Nat Unit Unit Unit :=
    { waiting.setFires (last 0) fires with
      timer := settled.draw (everyNanosecond 1).scheduler (last 0) }
  have fired : step (everyNanosecond 1) waiting .timer = some done := by
    have firing : waiting.timer.stage = .firing (k, last 0) := rfl
    simp only [step, timerStep, firing, TimerThread.fire, here, sent]
    exact if_pos awake
  have again : done.timer = { settled with
      schedulers := update settled.schedulers (last 0) (k + 2)
      heap := [(k + 1, last 0)]
      drawn := settled.drawn ++ [(k + 1, last 0)] } := by
    have asked : (everyNanosecond 1).scheduler.nextRequestTime (settled.schedulers (last 0)) =
        (some (k + 1), k + 2) := by
      show (some (s.timer.schedulers (last 0)), s.timer.schedulers (last 0) + 1) = _
      rw [drawn]
    rw [show done.timer = settled.draw (everyNanosecond 1).scheduler (last 0) from rfl,
      TimerThread.draw_eq, asked]
    rfl
  refine ⟨done, ?_, rfl, by rw [again]; rfl, by rw [again], by rw [again]; rfl, rfl, ?_, rfl⟩
  · exact exec_first next (exec_first fired rfl)
  · show (update s.fires (last 0) fires (last 0)).queue = _
    rw [update_self, queue_of_trySend sent]
    exact congrArg (· ++ _) empty

/-- The core issues any number of requests. -/
theorem steady_reached (k : Nat) :
    ∃ events s, exec (step (everyNanosecond 1)) (start (everyNanosecond 1)) events = some s ∧
      Steady k s := by
  induction k with
  | zero =>
    exact ⟨[], _, rfl, rfl, rfl, rfl, rfl, Nat.zero_le _, rfl, Nat.zero_lt_succ 1023, rfl, rfl, rfl⟩
  | succ k ih =>
    obtain ⟨events, s, run, steady⟩ := ih
    -- one event is sent, taken, and made a request
    obtain ⟨s₁, fires, commands, turn, heap, drawn, clock, only, workers⟩ := steady_fires steady
    obtain ⟨-, -, -, -, awake, -, -, top, issued, unlimited⟩ := steady
    rw [← clock] at awake
    rw [← workers] at top issued unlimited
    obtain ⟨w₁, w₂, w₃, w₄, rest, one, two, three, four, empty, room, top', issued',
      unlimited'⟩ := takes_fire (everyNanosecond 1).pipeline
        ((everyNanosecond 1).config (last 0)) s₁.clock top only unlimited
    have taken := exec_worker (by rw [turn]; rfl) one two three four
    refine ⟨_, _, exec_trans run (exec_trans fires taken), commands, turn, heap, drawn,
      Nat.succ_le_succ awake, ?_, ?_, ?_, ?_, ?_⟩
    all_goals simp only [update_self]
    · exact empty
    · exact room
    · exact top'
    · rw [issued', issued]
    · exact unlimited'

/-- The request after a core's first billion is logged under a core there is not. -/
theorem request_past_a_billion :
    ∃ events s, exec (step (everyNanosecond 1)) (start (everyNanosecond 1)) events = some s ∧
      (∀ i, ((everyNanosecond 1).config i).coreId = i) ∧
      1000000000 ∈ s.requestIds (last 0) ∧ recordedCoreId 1000000000 = 1 ∧
      ¬s.Identified := by
  obtain ⟨events, s, run, steady⟩ := steady_reached 1000000001
  have issued : 1000000000 ∈ s.requestIds (last 0) := by
    rw [requestIds_of_run (fun _ => rfl) run, steady.issued]
    exact mem_map.mpr ⟨1000000000, mem_range.mpr (by decide), rfl⟩
  refine ⟨events, s, run, fun _ => rfl, issued, rfl, fun identified => ?_⟩
  have core := identified.core_eq issued
  exact absurd core (by decide)

end Netanvil.Core.FireSystem
