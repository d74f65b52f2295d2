/-
# No snapshot is lost and none is counted twice

What a worker has sent is what the drains received from it and what still waits. A drain
after the join finds every channel empty and nobody left to send (`atEnd_of_run`). The totals
are a merge of the drains that count: those made after warm-up, and the two at the end
(`books_of_run`).
-/
import Netanvil.Core.Session
import Netanvil.Core.StaticRate
import Netanvil.Metrics.Homomorphism

namespace Netanvil.Core.Session

open Netanvil.Types Metrics Theory.Trace List AggregateMetrics Coordinator

open Function (forall_update_iff update_of_ne update_self)

variable {n : Nat} {S : Type} {setup : SessionSetup S}

/-! ## What has been received -/

/-- What the drain under way has received. -/
def inHand (s : Session n S) : Batch n :=
  match s.phase with
  | .draining _ batch _ => batch
  | _ => fun _ => []

def received (s : Session n S) (i : Fin n) : List MetricsSnapshot :=
  s.drains.flatMap (·.batch i) ++ s.inHand i

/-- All a worker has sent was received, in order, or waits. -/
def Flow (s : Session n S) : Prop :=
  ∀ i, (s.workers i).sent = s.received i ++ (s.workers i).queue

variable {s s' : Session n S} {drain : Drain} {batch before : Batch n} {event : SessionEvent n}
  {events : List (SessionEvent n)} {k : Coordinator S}
  {next early late : Nat} {phase : Phase n} (drains : List (DrainLog n))

theorem inHand_of_draining (here : s.phase = .draining drain batch next) : s.inHand = batch := by
  rw [inHand, here]

theorem Turn.inHand (turn : Turn s phase before) :
    s.inHand = (fun _ => []) ∧
      inHand { s with phase := phase, sentBeforeTick := before } = fun _ => [] := by
  cases turn <;> exact ⟨by simp only [inHand, ‹s.phase = _›], rfl⟩

theorem flow_moves (move : Moves setup s event s') (flow : s.Flow) : s'.Flow := by
  intro i
  have before := flow i
  cases move with
  | passes other clock timerRunning running later ends => exact before
  | sends other j x running taken =>
    by_cases same : i = j
    · subst same
      simp only [setWorker, update_self]
      rw [before, append_assoc]
      rfl
    · simp only [setWorker, update_of_ne same]
      exact before
  | turns other turn =>
    obtain ⟨idle, idle'⟩ := turn.inHand
    simp only [received, idle, idle'] at before ⊢
    exact before
  | finds here empty =>
    simp only [received, inHand_of_draining here] at before
    exact before
  | @takes drain batch j x rest here waiting =>
    simp only [received, inHand_of_draining here] at before
    by_cases same : i = j
    · subst same
      simp only [received, inHand, setWorker, update_self]
      rw [before, waiting]
      simp
    · simp only [received, inHand, setWorker, update_of_ne same]
      exact before
  | merges other here all merged =>
    simp only [received, inHand_of_draining here] at before
    cases merged <;>
      simpa [received, inHand, logDrain, append_assoc] using before

/-! ## What the totals are made of -/

variable (setup) in
/-- A drain that goes into the totals. -/
def counts : Drain → Bool
  | .tick _ elapsed => setup.warmupDuration.all (decide <| · ≤ elapsed)
  | .beforeJoin => true
  | .afterJoin => true

variable (setup) in
/-- The snapshots in the totals, in the order they were merged. -/
def counted (s : Session n S) : List MetricsSnapshot :=
  (s.drains.filter fun d => counts setup d.drain).flatMap (·.batch.all)

theorem counted_snoc (d : DrainLog n) :
    ((drains ++ [d]).filter fun d => counts setup d.drain).flatMap (·.batch.all) =
      (drains.filter fun d => counts setup d.drain).flatMap (·.batch.all) ++
        if counts setup d.drain then d.batch.all else [] := by
  by_cases here : counts setup d.drain <;> simp [here]

variable (setup) in
/-- What the aggregates hold, and what the warm-up flag says. -/
structure Books (s : Session n S) : Prop where
  total : s.coordinator.totalAggregate = (s.counted setup).foldl .merge (emptyAggregate setup)
  signals : s.coordinator.tickAggregate.signalConfigs = setup.signalConfigs
  ticks : ∀ d ∈ s.drains, d.drain.isTick = true →
    d.tickAggregate = d.batch.all.foldl .merge (emptyAggregate setup)
  duration : s.coordinator.warmupDuration = setup.warmupDuration
  /-- The flag is set by a tick that counts, and no later tick is earlier. -/
  complete : s.coordinator.warmupComplete = true → setup.warmupDuration.all (decide <| · ≤ s.clock)
  checked : ∀ {commands elapsed batch next},
    s.phase = .draining (.tick commands elapsed) batch next → elapsed ≤ s.clock ∧
      (s.coordinator.warmupComplete = true → setup.warmupDuration.all (decide <| · ≤ elapsed))

theorem all_le_of_le {warmup : Option Nat} (later : early ≤ late)
    (all : warmup.all (decide <| · ≤ early) = true) : warmup.all (decide <| · ≤ late) = true := by
  cases warmup with
  | none => rfl
  | some w =>
    simp only [Option.all_some, decide_eq_true_eq] at all ⊢
    omega

/-- A tick sets the flag exactly if its drain counts, and merges it then. -/
theorem Books.tick (books : s.Books setup) {commands : List WorkerCommand} {elapsed : Nat}
    (polled pushed : Option (List (String × ℚ)))
    (here : s.phase = .draining (.tick commands elapsed) batch next) :
    let k := (s.coordinator.tick setup.valueAtQuantile setup.controller
      ⟨commands, elapsed, List.ofFn batch, polled, pushed⟩).after
    k.warmupComplete = counts setup (.tick commands elapsed) ∧
      k.totalAggregate = (s.counted setup ++
        if counts setup (.tick commands elapsed) then batch.all else []).foldl .merge
          (emptyAggregate setup) ∧
      k.tickAggregate = batch.all.foldl .merge (emptyAggregate setup) := by
  intro k
  have complete : k.warmupComplete = counts setup (.tick commands elapsed) := by
    rw [tick_warmupComplete, books.duration]
    cases before : s.coordinator.warmupComplete with
    | false => rfl
    | true => exact ((books.checked here).2 before).symm
  refine ⟨complete, ?_, ?_⟩
  · rw [tick_totalAggregate, complete, foldl_append, books.total]
    split <;> rfl
  · rw [tick_tickAggregate, reset, books.signals]
    rfl

/-- The ledger after a drain that the coordinator left in state `k`. -/
theorem Books.log (books : s.Books setup) (total : k.totalAggregate = (s.counted setup ++
      if counts setup drain then batch.all else []).foldl .merge (emptyAggregate setup))
    (signals : k.tickAggregate.signalConfigs = setup.signalConfigs)
    (tick : drain.isTick = true → k.tickAggregate = batch.all.foldl .merge (emptyAggregate setup))
    (duration : k.warmupDuration = setup.warmupDuration)
    (complete : k.warmupComplete = true → setup.warmupDuration.all (decide <| · ≤ s.clock))
    (idle : ∀ drain batch next, phase ≠ .draining drain batch next) :
    Books setup { s.logDrain drain batch k with phase := phase } where
  total := by
    rw [counted, logDrain, counted_snoc]
    exact total
  signals := signals
  ticks := by
    intro d logged isTick
    rcases mem_append.mp logged with earlier | now
    · exact books.ticks d earlier isTick
    · obtain rfl := mem_singleton.mp now
      exact tick isTick
  duration := duration
  complete := complete
  checked := fun here => absurd here (idle _ _ _)

theorem books_moves (move : Moves setup s event s') (books : s.Books setup) : s'.Books setup := by
  obtain ⟨total, signals, ticks, duration, complete, checked⟩ := books
  cases move with
  | passes other clock timerRunning running later ends =>
    refine ⟨total, signals, ticks, duration, fun set => all_le_of_le later (complete set), ?_⟩
    intro commands elapsed batch next here
    exact ⟨(checked here).1.trans later, (checked here).2⟩
  | sends other i x running taken => exact ⟨total, signals, ticks, duration, complete, checked⟩
  | turns other turn =>
    refine ⟨total, signals, ticks, duration, complete, ?_⟩
    intro commands elapsed batch next here
    cases turn <;> cases here
    exact ⟨le_rfl, complete⟩
  | finds at_ empty | takes at_ waiting =>
    refine ⟨total, signals, ticks, duration, complete, ?_⟩
    intro commands elapsed batch next here
    cases here
    exact checked at_
  | merges other here all merged =>
    have books : s.Books setup := ⟨total, signals, ticks, duration, complete, checked⟩
    cases merged with
    | tick commands elapsed polled pushed =>
      obtain ⟨complete, total, tick⟩ := books.tick polled pushed here
      refine books.log total (by simp [tick, emptyAggregate]) (fun _ => tick) ?_ ?_ (by simp)
      · rw [tick_warmupDuration, books.duration]
      · intro set
        rw [complete] at set
        exact all_le_of_le (books.checked here).1 set
    | beforeJoin | afterJoin stats =>
      refine books.log ?_ books.signals ?_ books.duration books.complete (by simp)
      · rw [foldl_append, ← books.total]
        rfl
      · simp [Drain.isTick]

theorem books_start : Books setup (start setup : Session n S) where
  total := rfl
  signals := rfl
  ticks := by simp [start]
  duration := rfl
  complete := by simp [start, Coordinator.new]
  checked := by simp [start]

theorem books_of_run (run : exec (step setup) (start setup) events = some s) : s.Books setup :=
  exec_invariant (I := fun _ s => Books setup s) books_start
    (fun books taken => books_moves (step_moves taken) books) run

/-! ## The last tick -/

def tickReceived (s : Session n S) (i : Fin n) : List MetricsSnapshot :=
  (s.drains.filter (·.drain.isTick)).flatMap (·.batch i)

/-- Until the test is complete, all drains are ticks; and what was sent before the last
tick has been received by a tick, from the workers that tick is done with. -/
def TickDone (s : Session n S) : Prop :=
  (∀ i, s.sentBeforeTick i <+: (s.workers i).sent) ∧
    match s.phase with
    | .draining (.tick _ _) batch next =>
      (∀ d ∈ s.drains, d.drain.isTick = true) ∧
        ∀ i : Fin n, i < next → s.sentBeforeTick i <+: s.tickReceived i ++ batch i
    | .sleeping _ | .checking =>
      (∀ d ∈ s.drains, d.drain.isTick = true) ∧ ∀ i, s.sentBeforeTick i <+: s.tickReceived i
    | _ => ∀ i, s.sentBeforeTick i <+: s.tickReceived i

theorem tickReceived_snoc (s : Session n S) (i : Fin n) :
    tickReceived { s.logDrain drain batch k with phase := phase } i =
      s.tickReceived i ++ if drain.isTick then batch i else [] := by
  simp only [tickReceived, logDrain, filter_append, flatMap_append]
  by_cases isTick : drain.isTick <;> simp [isTick]

theorem tickDone_moves (move : Moves setup s event s') (flow : s.Flow) (done : s.TickDone) :
    s'.TickDone := by
  cases move with
  | passes other clock timerRunning running later ends => exact done
  | sends other i x running taken =>
    refine ⟨?_, done.2⟩
    exact (forall_update_iff s.workers fun j w => s.sentBeforeTick j <+: w.sent).mpr
      ⟨(done.1 i).trans (prefix_append _ _), fun j _ => done.1 j⟩
  | turns other turn =>
    obtain ⟨sent, done⟩ := done
    cases turn with
    | tick commands here =>
      simp only [here] at done
      exact ⟨fun i => prefix_rfl, done.1, fun i below => absurd below (Nat.not_lt_zero _)⟩
    | settle wake here =>
      simp only [here] at done
      exact ⟨sent, done.2⟩
    | sleep wake here | collect here | join here ended =>
      simp only [here] at done
      exact ⟨sent, done⟩
  | @finds drain batch j here empty =>
    obtain ⟨sent, done⟩ := done
    refine ⟨sent, ?_⟩
    simp only [here] at done
    cases drain with
    | tick commands elapsed =>
      refine ⟨done.1, fun i below => ?_⟩
      rcases Nat.lt_succ_iff_lt_or_eq.mp below with earlier | now
      · exact done.2 i earlier
      · -- the channel is empty, so all it was sent has been received
        obtain rfl : i = j := Fin.ext now
        have all := flow i
        rw [empty, append_nil, received, inHand_of_draining here] at all
        have before := sent i
        rw [tickReceived, filter_eq_self.mpr done.1, ← all]
        exact before
    | beforeJoin | afterJoin => exact done
  | @takes drain batch j x rest here waiting =>
    obtain ⟨sent, done⟩ := done
    simp only [here] at done
    refine ⟨?_, ?_⟩
    · exact (forall_update_iff s.workers fun i w => s.sentBeforeTick i <+: w.sent).mpr
        ⟨sent j, fun i _ => sent i⟩
    · cases drain with
      | tick commands elapsed =>
        refine ⟨done.1, fun i below => ?_⟩
        by_cases same : i = j
        · subst same
          exact absurd below (lt_irrefl _)
        · rw [update_of_ne same]
          exact done.2 i below
      | beforeJoin | afterJoin => exact done
  | merges other here all merged =>
    obtain ⟨sent, done⟩ := done
    refine ⟨sent, ?_⟩
    cases merged with
    | tick commands elapsed polled pushed =>
      simp only [here] at done
      refine ⟨?_, fun i => ?_⟩
      · intro d logged
        rcases mem_append.mp logged with earlier | now
        · exact done.1 d earlier
        · obtain rfl := mem_singleton.mp now
          rfl
      · rw [tickReceived_snoc]
        exact done.2 i (i.isLt.trans_le all)
    | beforeJoin | afterJoin stats =>
      simp only [here] at done
      intro i
      rw [tickReceived_snoc]
      exact (done i).trans (prefix_append _ _)

theorem tickDone_of_run (run : exec (step setup) (start setup) events = some s) : s.TickDone := by
  have both : s.Flow ∧ s.TickDone := by
    refine exec_invariant (I := fun _ s => Flow s ∧ TickDone s) ⟨fun _ => rfl, ?_⟩ ?_ run
    · exact ⟨fun i => prefix_rfl, by simp [start], fun i => nil_prefix⟩
    · rintro events s a s' ⟨flow, done⟩ taken
      exact ⟨flow_moves (step_moves taken) flow, tickDone_moves (step_moves taken) flow done⟩
  exact both.2

/-! ## The end -/

/-- The threads have been joined. -/
def Joined : Phase n → Prop
  | .draining .afterJoin _ _ => True
  | .returned _ => True
  | _ => False

variable (setup) in
/-- After the join nobody sends any more and the drain leaves nothing behind; the result
is read off the totals. -/
structure AtEnd (s : Session n S) : Prop where
  ended : Joined s.phase → ∀ i, (s.workers i).running = false
  drained : ∀ {batch next}, s.phase = .draining .afterJoin batch next →
    ∀ i : Fin n, i < next → (s.workers i).queue = []
  empty : ∀ {result}, s.phase = .returned result → ∀ i, (s.workers i).queue = []
  readOff : ∀ {result}, s.phase = .returned result →
    ∃ stats elapsed, result = testResult s.coordinator.totalAggregate stats
      setup.valueAtQuantile setup.maxValue elapsed

/-- Before the join there is nothing to say. -/
theorem AtEnd.of_not_joined (early : ¬ Joined s.phase) : s.AtEnd setup where
  ended := fun joined => absurd joined early
  drained := fun here => absurd (by rw [here]; trivial) early
  empty := fun here => absurd (by rw [here]; trivial) early
  readOff := fun here => absurd (by rw [here]; trivial) early

theorem atEnd_moves (move : Moves setup s event s') (atEnd : s.AtEnd setup) : s'.AtEnd setup := by
  cases move with
  | passes other clock timerRunning running later ends =>
    refine ⟨fun joined i => ?_, atEnd.drained, atEnd.empty, atEnd.readOff⟩
    cases on : running i with
    | false => exact on
    | true =>
      have before := ends i on
      rw [atEnd.ended joined i] at before
      cases before
  | sends other i x running taken =>
    -- a worker that runs has not been joined
    refine .of_not_joined fun joined => ?_
    rw [atEnd.ended joined i] at running
    cases running
  | turns other turn =>
    cases turn with
    | join here ended =>
      refine ⟨fun _ => ended, ?_, fun at_ => (by cases at_), fun at_ => (by cases at_)⟩
      rintro batch next at_ i below
      cases at_
      exact absurd below (Nat.not_lt_zero _)
    | _ => exact .of_not_joined id
  | @finds drain batch j here empty =>
    cases drain with
    | afterJoin =>
      refine ⟨fun _ => atEnd.ended (by rw [here]; trivial), ?_, fun at_ => (by cases at_),
        fun at_ => (by cases at_)⟩
      rintro batch next at_ i below
      cases at_
      rcases Nat.lt_succ_iff_lt_or_eq.mp below with earlier | now
      · exact atEnd.drained here i earlier
      · obtain rfl : i = j := Fin.ext now
        exact empty
    | _ => exact .of_not_joined id
  | @takes drain batch j x rest here waiting =>
    cases drain with
    | afterJoin =>
      have ended := atEnd.ended (by rw [here]; trivial)
      refine ⟨fun _ => ?_, ?_, fun at_ => (by cases at_), fun at_ => (by cases at_)⟩
      · exact (forall_update_iff s.workers fun _ w => w.running = false).mpr
          ⟨ended j, fun i _ => ended i⟩
      · rintro batch next at_ i below
        cases at_
        have other : i ≠ j := fun same => absurd (same ▸ below) (lt_irrefl _)
        simp only [setWorker, update_of_ne other]
        exact atEnd.drained here i below
    | _ => exact .of_not_joined id
  | merges other here all merged =>
    cases merged with
    | afterJoin stats =>
      refine ⟨fun _ => atEnd.ended (by rw [here]; trivial), fun at_ => (by cases at_), ?_, ?_⟩
      · rintro result - i
        exact atEnd.drained here i (i.isLt.trans_le all)
      · rintro result at_
        cases at_
        exact ⟨stats, s.clock, rfl⟩
    | _ => exact .of_not_joined id

theorem atEnd_of_run (run : exec (step setup) (start setup) events = some s) : s.AtEnd setup :=
  exec_invariant (I := fun _ s => AtEnd setup s) (.of_not_joined id)
    (fun atEnd taken => atEnd_moves (step_moves taken) atEnd) run

/-! ## Sums -/

section

variable {M : Type*} [AddCommMonoid M] (g : MetricsSnapshot → M)

theorem sum_all (batch : Batch n) : (batch.all.map g).sum = ∑ i, ((batch i).map g).sum := by
  rw [Batch.all, map_flatten, sum_flatten, map_map, map_ofFn, sum_ofFn]
  rfl

theorem sum_drains :
    ((drains.flatMap (·.batch.all)).map g).sum = ∑ i, ((drains.flatMap (·.batch i)).map g).sum := by
  induction drains with
  | nil => simp
  | cons d rest ih =>
    simp only [flatMap_cons, map_append, sum_append, ih, sum_all, Finset.sum_add_distrib]

end

/-- Every snapshot has been merged once: into the totals, and, if it was sent before the
last tick, into one tick's aggregate. The result shows the sums over all of them. -/
structure MergedOnce (setup : SessionSetup S) (s : Session n S) (result : TestResult) : Prop where
  /-- Each snapshot sent is in one place of one drain. -/
  received : ∀ i, (s.workers i).sent = s.drains.flatMap (·.batch i)
  total : s.coordinator.totalAggregate =
    (s.drains.flatMap (·.batch.all)).foldl .merge (emptyAggregate setup)
  ticks : ∀ d ∈ s.drains, d.drain.isTick = true →
    d.tickAggregate = d.batch.all.foldl .merge (emptyAggregate setup)
  beforeLastTick : ∀ i, s.sentBeforeTick i <+:
    (s.drains.filter (·.drain.isTick)).flatMap (·.batch i)
  noneLeft : ∀ i, (s.workers i).running = false ∧ (s.workers i).queue = []
  requests : result.totalRequests = ∑ i, ((s.workers i).sent.map (·.totalRequests)).sum
  errors : result.totalErrors = ∑ i, ((s.workers i).sent.map (·.totalErrors)).sum
  bytesSent : result.totalBytesSent = ∑ i, ((s.workers i).sent.map (·.bytesSent)).sum
  bytesReceived : result.totalBytesReceived = ∑ i, ((s.workers i).sent.map (·.bytesReceived)).sum
  /-- All that adds up, histograms included. -/
  stats : s.coordinator.totalAggregate.stats =
    ∑ i, ((s.workers i).sent.map MetricsSnapshot.stats).sum
  readOff : ∃ timer elapsed, result = testResult s.coordinator.totalAggregate timer
    setup.valueAtQuantile setup.maxValue elapsed

/-- **Without a warm-up, in every interleaving of the workers' sends with the coordinator's
drains, every snapshot ever sent is merged exactly once.** -/
theorem snapshots_merged_once {setup : SessionSetup S} (cold : setup.warmupDuration = none)
    {events : List (SessionEvent n)} {s : Session n S}
    (run : exec (step setup) (start setup) events = some s) {result : TestResult}
    (returned : s.phase = .returned result) : s.MergedOnce setup result := by
  have books := books_of_run run
  have atEnd := atEnd_of_run run
  have ended := atEnd.ended (by rw [returned]; trivial)
  have empty := atEnd.empty returned
  obtain ⟨timer, elapsed, rfl⟩ := atEnd.readOff returned
  have received : ∀ i, (s.workers i).sent = s.drains.flatMap (·.batch i) := by
    intro i
    -- in every run, all a worker has sent was received or waits
    have flow := exec_invariant (I := fun _ s => Flow s) (fun _ => rfl)
      (fun flow taken => flow_moves (step_moves taken) flow) run i
    rw [empty i, append_nil, received, inHand, returned, append_nil] at flow
    exact flow
  have total : s.coordinator.totalAggregate =
      (s.drains.flatMap (·.batch.all)).foldl .merge (emptyAggregate setup) := by
    have every : ∀ d ∈ s.drains, counts setup d.drain = true := by
      intro d _
      cases d.drain <;> simp [counts, cold]
    rw [books.total, counted, filter_eq_self.mpr every]
  -- what adds up with every merge adds up over the workers
  have sums : ∀ {M : Type} [AddCommMonoid M] {f : AggregateMetrics → M} {g : MetricsSnapshot → M},
      (∀ a x, f (a.merge x) = f a + g x) → f (emptyAggregate setup) = 0 →
      f s.coordinator.totalAggregate = ∑ i, ((s.workers i).sent.map g).sum := by
    intro M _ f g adds zero
    rw [total, foldl_merge_of_adds adds, zero, zero_add, sum_drains]
    simp only [received]
  refine ⟨received, total, books.ticks, ?_, fun i => ⟨ended i, empty i⟩, ?_, ?_, ?_, ?_, ?_,
    timer, elapsed, rfl⟩
  · have done := (tickDone_of_run run).2
    simp only [returned] at done
    exact done
  · exact sums (f := fun a => a.totalRequests) (fun _ _ => rfl) rfl
  · exact sums (f := fun a => a.totalErrors) (fun _ _ => rfl) rfl
  · exact sums (f := fun a => a.bytesSent) (fun _ _ => rfl) rfl
  · exact sums (f := fun a => a.bytesReceived) (fun _ _ => rfl) rfl
  · exact sums stats_merge (by apply Stats.ext <;> rfl)

/-- A test of a minute at ten requests a second, ticking every second. -/
def coldSetup : SessionSetup ℚ where
  controller := staticRateController
  initial := 10
  controlInterval := 1000000000
  limits := ⟨60000000000, none, none, none, none⟩
  warmupDuration := none
  signalConfigs := []
  valueAtQuantile := fun _ _ => 0
  maxValue := fun _ => 0

/-- One request, in a snapshot taken after half a second. -/
def oneRequest : MetricsSnapshot :=
  (((HdrMetricsCollector.new 0).record plainText plainConfig okResult).snapshot 500000000).1

/-- Two workers, stopped at the first tick: one snapshot reaches the tick, one each of the
drains at the end. -/
def stoppedAtOnce : List (SessionEvent 2) :=
  [.elapse 500000000, .send 0 oneRequest, .elapse 500000000, .beginTick [.stop], .tryRecv,
    .tryRecv, .tryRecv, .endTick none none, .check, .send 1 oneRequest, .elapse 200000000,
    .beginDrain, .tryRecv, .tryRecv, .tryRecv, .endDrain, .send 0 oneRequest, .workerEnds 0,
    .workerEnds 1, .timerEnds, .join, .tryRecv, .tryRecv, .tryRecv, .report ⟨3, 0⟩]

theorem stopped_at_once_merged :
    ∃ s result, coldSetup.warmupDuration = none ∧
      exec (step coldSetup) (start coldSetup) stoppedAtOnce = some s ∧
      s.phase = .returned result ∧ result.totalRequests = 3 ∧ s.MergedOnce coldSetup result :=
  ⟨_, _, rfl, evaluates,
    phase_of_result evaluates, by decide +kernel,
    snapshots_merged_once rfl (evaluates _) (phase_of_result (evaluates _))⟩

end Netanvil.Core.Session
