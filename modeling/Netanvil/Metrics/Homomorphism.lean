/-
# Windows add up

What a collector holds, a snapshot carries and an aggregate has merged is read in one
commutative monoid, `Stats`. Observing adds, a snapshot carries all its collector holds and
empties it, and merging adds. So however observations and snapshots interleave, the aggregate
is what one collector would have reported.
-/
import Netanvil.Metrics.Collector
import Netanvil.Theory.Collect

namespace Netanvil.Metrics

open Theory.Entries Theory.Collect Netanvil.Types AggregateMetrics Observation List
  ResponseSignalAccumulator

/-- What windows add up to. -/
@[ext] structure Stats where
  counters : Counters
  bytesSent : Nat
  bytesReceived : Nat
  latencies : Histogram
  sizes : Histogram
  timerLag : DelayStats
  channelTransit : DelayStats
  dispatchGap : DelayStats
  totalDelay : DelayStats
  delayedOver1ms : Nat
  headers : String → String → Nat
  md5Mismatches : Nat
  signals : String → ℚ × Nat
  cpuAffinity : CpuAffinityCounters
  tcpHealth : TcpHealthCounters
  packets : PacketCounterDeltas

namespace Stats

instance : Zero Stats := ⟨⟨0, 0, 0, 0, 0, 0, 0, 0, 0, 0, 0, 0, 0, 0, 0, 0⟩⟩

instance : Add Stats where
  add a b :=
    { counters := a.counters + b.counters
      bytesSent := a.bytesSent + b.bytesSent
      bytesReceived := a.bytesReceived + b.bytesReceived
      latencies := a.latencies + b.latencies
      sizes := a.sizes + b.sizes
      timerLag := a.timerLag + b.timerLag
      channelTransit := a.channelTransit + b.channelTransit
      dispatchGap := a.dispatchGap + b.dispatchGap
      totalDelay := a.totalDelay + b.totalDelay
      delayedOver1ms := a.delayedOver1ms + b.delayedOver1ms
      headers := a.headers + b.headers
      md5Mismatches := a.md5Mismatches + b.md5Mismatches
      signals := a.signals + b.signals
      cpuAffinity := a.cpuAffinity + b.cpuAffinity
      tcpHealth := a.tcpHealth + b.tcpHealth
      packets := a.packets + b.packets }

instance : AddCommMonoid Stats where
  add_assoc a b c := by apply Stats.ext <;> exact add_assoc _ _ _
  zero_add a := by apply Stats.ext <;> exact zero_add _
  add_zero a := by apply Stats.ext <;> exact add_zero _
  add_comm a b := by apply Stats.ext <;> exact add_comm _ _
  nsmul := nsmulRec

end Stats

/-- What two windows can add of a signal; its maximum and last value are left out. -/
def ResponseSignalAccumulator.total (acc : ResponseSignalAccumulator) : ℚ × Nat :=
  (acc.sum, acc.count)

/-- How often each value of each header was seen. -/
def MetricsSnapshot.headerCounts (s : MetricsSnapshot) : String → String → Nat :=
  gather (gather id) s.headerValueCounts

/-- Each signal's sum and count. -/
def MetricsSnapshot.signalTotals (s : MetricsSnapshot) : String → ℚ × Nat :=
  gather total s.responseSignals

def AggregateMetrics.headerCounts (a : AggregateMetrics) : String → String → Nat :=
  held (held id) a.headerValueCounts

def AggregateMetrics.signalTotals (a : AggregateMetrics) : String → ℚ × Nat :=
  held total a.responseSignals

def MetricsSnapshot.stats (s : MetricsSnapshot) : Stats where
  counters := s.counters
  bytesSent := s.bytesSent
  bytesReceived := s.bytesReceived
  latencies := s.latencyHistogram
  sizes := s.responseSizeHistogram
  timerLag := s.timerLag
  channelTransit := s.channelTransit
  dispatchGap := s.dispatchGap
  totalDelay := s.totalDelay
  delayedOver1ms := s.totalDelayCountOver1ms
  headers := s.headerCounts
  md5Mismatches := s.md5Mismatches
  signals := s.signalTotals
  cpuAffinity := s.cpuAffinity
  tcpHealth := s.tcpHealth
  packets := s.packets

def AggregateMetrics.stats (a : AggregateMetrics) : Stats where
  counters := a.counters
  bytesSent := a.bytesSent
  bytesReceived := a.bytesReceived
  latencies := a.histogram
  sizes := a.sizeHistogram
  timerLag := a.timerLag
  channelTransit := a.channelTransit
  dispatchGap := a.dispatchGap
  totalDelay := a.totalDelay
  delayedOver1ms := a.totalDelayCountOver1ms
  headers := a.headerCounts
  md5Mismatches := a.md5Mismatches
  signals := a.signalTotals
  cpuAffinity := a.cpuAffinity
  tcpHealth := a.tcpHealth
  packets := a.packets

/-- What the collector would report now. -/
def HdrMetricsCollector.stats (c : HdrMetricsCollector) : Stats := (c.snapshot 0).1.stats

/-! ## Merging adds -/

namespace AggregateMetrics

theorem held_mergeValue (m : Finmap fun _ : String => Nat) (e : String × Nat) :
    held id (mergeValue m e) = held id m + Pi.single e.1 (id e.2) := by
  refine held_insert ?_
  cases found : m.lookup e.1 <;> simp [held, found]

theorem stats_new : new.stats = 0 := by
  apply Stats.ext <;> rfl

theorem stats_merge (a : AggregateMetrics) (s : MetricsSnapshot) :
    (a.merge s).stats = a.stats + s.stats := by
  apply Stats.ext <;> try rfl
  · refine held_foldl (fun m e => held_insert ?_) _ _
    rw [held_foldl held_mergeValue]
    cases found : m.lookup e.1 <;> simp [held, found]
  · refine held_foldl (fun m e => held_insert ?_) _ _
    cases found : m.lookup e.1 <;>
      simp [held, found, total, zero]

end AggregateMetrics

/-! ## Observing adds -/

section

variable (text : TextFunctions) (config : CollectorConfig) (result : ExecutionResult)

/-- A timeout is a request and an error; of the rest only the bytes sent count. -/
def ofTimeout : Stats :=
  { (0 : Stats) with
    counters := ⟨1, 1, 1⟩
    bytesSent := result.bytesSent }

def ofResponse : Stats where
  counters := ⟨1, if isError config result then 1 else 0, 0⟩
  bytesSent := result.bytesSent
  bytesReceived := result.responseSize
  latencies := HdrMetricsCollector.recordLatency text 0 result
  sizes :=
    if result.responseSize > 0 then
      .record (text.recordable maxSize) 0 (max result.responseSize 1)
    else 0
  timerLag := ⟨timerLagNs result, timerLagNs result⟩
  channelTransit := ⟨channelTransitNs result, channelTransitNs result⟩
  dispatchGap := ⟨dispatchGapNs result, dispatchGapNs result⟩
  totalDelay := ⟨totalDelayNs result, totalDelayNs result⟩
  delayedOver1ms := if totalDelayNs result > 1000000 then 1 else 0
  headers :=
    ((trackedValues text config result).map fun entry =>
      (Pi.single entry.1 (Pi.single entry.2 1) : String → String → Nat)).sum
  md5Mismatches := if config.md5CheckEnabled && md5Mismatch text result then 1 else 0
  signals :=
    ((signalValues text config result).map fun entry =>
      (Pi.single entry.1 (entry.2, 1) : String → ℚ × Nat)).sum
  cpuAffinity := 0
  tcpHealth := 0
  packets := 0

def ofResult : Stats :=
  if isTimeout result then ofTimeout result else ofResponse text config result

/-- What an observation is worth. -/
def Observation.worth : Observation → Stats
  | .result result => ofResult text config result
  | .packets deltas => { (0 : Stats) with packets := deltas }
  | .read incomingCpu workerCpu =>
    { (0 : Stats) with cpuAffinity := .record 0 incomingCpu workerCpu }
  | .tcpInfo info =>
    { (0 : Stats) with
      tcpHealth := ⟨info.rtt, 1, info.rtt, info.totalRetrans, info.lost⟩ }

end

namespace HdrMetricsCollector

variable {text : TextFunctions} {config : CollectorConfig} (c : HdrMetricsCollector) (now : Nat)

theorem stats_new : (new now).stats = 0 := by
  apply Stats.ext <;> rfl

theorem record_add (high value : Nat) (h : Histogram) :
    h.record high value = h + .record high 0 value := by
  unfold Histogram.record
  split
  · rw [add_comm]
    rfl
  · exact (add_zero h).symm

theorem recordLatency_add (h : Histogram) (result : ExecutionResult) :
    recordLatency text h result = h + recordLatency text 0 result := by
  unfold recordLatency
  split
  · rw [record_add, record_add _ _ h, add_assoc, ← record_add]
  · exact record_add _ _ _

theorem stats_observe (o : Observation) :
    (c.observe text config o).stats = c.stats + o.worth text config := by
  cases o with
  | result result =>
    show (c.record text config result).stats = c.stats + ofResult text config result
    unfold record ofResult
    split
    · exact Stats.ext rfl rfl rfl (add_zero _).symm (add_zero _).symm (add_zero _).symm
        (add_zero _).symm (add_zero _).symm (add_zero _).symm rfl (add_zero _).symm rfl
        (add_zero _).symm (add_zero _).symm (add_zero _).symm (add_zero _).symm
    · refine Stats.ext rfl rfl rfl (recordLatency_add _ _) ?_ (DelayStats.record_eq _ _)
        (DelayStats.record_eq _ _) (DelayStats.record_eq _ _) (DelayStats.record_eq _ _) rfl
        ?_ rfl ?_ (add_zero _).symm (add_zero _).symm (add_zero _).symm
      rotate_left
      · refine gather_foldl_alter (k := fun e : String × String => e.1) (fun e values => ?_) _ _
        rw [gather_alter (d := 1)]
        · cases values <;> simp
        · intro n
          cases n <;> simp
      · refine gather_foldl_alter (k := fun e : String × ℚ => e.1) (fun e acc => ?_) _ _
        cases acc <;>
          simp [ResponseSignalAccumulator.total, ResponseSignalAccumulator.record,
            ResponseSignalAccumulator.zero]
      show (if result.responseSize > 0 then _ else c.sizeHistogram) =
        c.sizeHistogram + if result.responseSize > 0 then _ else 0
      split
      · exact record_add _ _ _
      · exact (add_zero _).symm
  | packets deltas | read incomingCpu workerCpu | tcpInfo info =>
    apply Stats.ext <;> first | rfl | exact (add_zero _).symm |
      exact CpuAffinityCounters.record_eq _ _ _ | exact TcpHealthCounters.record_eq _ _

theorem stats_foldl_observe (os : List Observation) (c : HdrMetricsCollector) :
    (os.foldl (observe text config) c).stats = c.stats + (os.map (worth text config)).sum := by
  induction os generalizing c with
  | nil => simp
  | cons o rest ih =>
    rw [foldl_cons, ih, stats_observe, map_cons, sum_cons, add_assoc]

/-- A snapshot carries all its collector holds and empties it. -/
theorem stats_snapshot : (c.snapshot now).1.stats = c.stats ∧ (c.snapshot now).2.stats = 0 := by
  refine ⟨rfl, ?_⟩
  apply Stats.ext <;> rfl

end HdrMetricsCollector

/-! ## Any number of collectors -/

section

variable {ι : Type*} [DecidableEq ι] (text : TextFunctions) (config : CollectorConfig)

/-- The snapshots that collectors emit, in the order of the calls that take them; a call
gives one collector an observation, or takes its snapshot at an instant. -/
def emitted : (ι → HdrMetricsCollector) → List (Call ι Observation Nat) → List MetricsSnapshot
  | _, [] => []
  | collectors, .give i o :: rest =>
    emitted (Function.update collectors i ((collectors i).observe text config o)) rest
  | collectors, .take i now :: rest =>
    ((collectors i).snapshot now).1 ::
      emitted (Function.update collectors i ((collectors i).snapshot now).2) rest

variable {text config}

theorem stats_emitted (calls : List (Call ι Observation Nat))
    (collectors : ι → HdrMetricsCollector) :
    (emitted text config collectors calls).map MetricsSnapshot.stats =
      taken (worth text config) (fun i => (collectors i).stats) calls := by
  induction calls generalizing collectors with
  | nil => rfl
  | cons call rest ih =>
    cases call with
    | give i o =>
      rw [emitted, ih, taken]
      congr 1
      funext j
      rw [← HdrMetricsCollector.stats_observe]
      exact Function.apply_update (fun _ c => c.stats) collectors i _ j
    | take i now =>
      rw [emitted, map_cons, ih, taken, (HdrMetricsCollector.stats_snapshot _ _).1]
      congr 2
      funext j
      rw [← (HdrMetricsCollector.stats_snapshot (collectors i) now).2]
      exact Function.apply_update (fun _ c => c.stats) collectors i _ j

end

/-- The aggregate shows what the snapshot does. -/
structure SameMetrics (a : AggregateMetrics) (s : MetricsSnapshot) : Prop where
  totalRequests : a.totalRequests = s.totalRequests
  totalErrors : a.totalErrors = s.totalErrors
  timeoutCount : a.timeoutCount = s.timeoutCount
  bytesSent : a.bytesSent = s.bytesSent
  bytesReceived : a.bytesReceived = s.bytesReceived
  md5Mismatches : a.md5Mismatches = s.md5Mismatches
  packets : a.packets = s.packets
  timerLag : a.timerLag = s.timerLag
  channelTransit : a.channelTransit = s.channelTransit
  dispatchGap : a.dispatchGap = s.dispatchGap
  totalDelay : a.totalDelay = s.totalDelay
  totalDelayCountOver1ms : a.totalDelayCountOver1ms = s.totalDelayCountOver1ms
  headerCounts : ∀ header value, a.headerCounts header value = s.headerCounts header value
  signalTotals : ∀ signal, a.signalTotals signal = s.signalTotals signal
  histogram : a.histogram = s.latencyHistogram
  sizeHistogram : a.sizeHistogram = s.responseSizeHistogram
  cpuAffinity : a.cpuAffinity = s.cpuAffinity
  tcpHealth : a.tcpHealth = s.tcpHealth

theorem SameMetrics.of_stats {a : AggregateMetrics} {s : MetricsSnapshot}
    (same : a.stats = s.stats) : SameMetrics a s where
  totalRequests := congrArg (·.counters.requests) same
  totalErrors := congrArg (·.counters.errors) same
  timeoutCount := congrArg (·.counters.timeouts) same
  bytesSent := congrArg (·.bytesSent) same
  bytesReceived := congrArg (·.bytesReceived) same
  md5Mismatches := congrArg (·.md5Mismatches) same
  packets := congrArg (·.packets) same
  timerLag := congrArg (·.timerLag) same
  channelTransit := congrArg (·.channelTransit) same
  dispatchGap := congrArg (·.dispatchGap) same
  totalDelay := congrArg (·.totalDelay) same
  totalDelayCountOver1ms := congrArg (·.delayedOver1ms) same
  headerCounts := fun header value => congrArg (·.headers header value) same
  signalTotals := fun signal => congrArg (·.signals signal) same
  histogram := congrArg (·.latencies) same
  sizeHistogram := congrArg (·.sizes) same
  cpuAffinity := congrArg (·.cpuAffinity) same
  tcpHealth := congrArg (·.tcpHealth) same

variable {text : TextFunctions} {config : CollectorConfig} {order : List MetricsSnapshot}

/-- Merged in any order, snapshots add up to what was observed before them. -/
theorem stats_merged {ι : Type*} [DecidableEq ι] {starts : ι → Nat}
    {calls : List (Call ι Observation Nat)}
    (any : order.Perm (emitted text config (fun i => .new (starts i)) calls)) :
    (order.foldl merge .new).stats = ((covered calls).map (worth text config)).sum := by
  have holders : (fun i => (HdrMetricsCollector.new (starts i)).stats) = fun _ => 0 :=
    funext fun i => HdrMetricsCollector.stats_new _
  calc (order.foldl merge .new).stats
      = (order.map MetricsSnapshot.stats).sum := by
        rw [foldl_merge_of_adds stats_merge, stats_new, zero_add]
    _ = ((emitted text config (fun i => .new (starts i)) calls).map MetricsSnapshot.stats).sum :=
        (any.map _).sum_eq
    _ = ((covered calls).map (worth text config)).sum := by
        rw [stats_emitted, holders, sum_taken]

/-- **However observations and snapshots interleave on any number of collectors, and in
whatever order the snapshots are merged, the aggregate shows what one collector would have
shown of everything observed before its collector's last snapshot.** -/
theorem merged_as_one_collector {ι : Type*} [DecidableEq ι] (text : TextFunctions)
    (config : CollectorConfig) (starts : ι → Nat) (calls : List (Call ι Observation Nat))
    (order : List MetricsSnapshot)
    (any : order.Perm (emitted text config (fun i => .new (starts i)) calls)) (start now : Nat) :
    SameMetrics (order.foldl merge .new)
      (((covered calls).foldl (HdrMetricsCollector.observe text config) (.new start)).snapshot
        now).1 := by
  apply SameMetrics.of_stats
  rw [stats_merged any, (HdrMetricsCollector.stats_snapshot _ _).1,
    HdrMetricsCollector.stats_foldl_observe, HdrMetricsCollector.stats_new, zero_add]

def plainConfig : CollectorConfig := ⟨400, [], false, []⟩

def okResult : ExecutionResult where
  requestId := 0
  intendedTime := 0
  sentTime := 10
  actualTime := 20
  dispatchTime := 30
  total := 500
  status := some 200
  bytesSent := 64
  responseSize := 1024
  error := none
  responseHeaders := none
  responseBody := none

/-- Two cores, one of them emptied twice. -/
def twoCores : List (Call Bool Observation Nat) :=
  [.give true (.result okResult), .take true 40,
    .give false (.result { okResult with error := some .timeout }), .give true (.packets ⟨2, 1, 1⟩),
    .take false 50, .take true 60]

theorem two_cores_merged_in_reverse :
    (emitted plainText plainConfig (fun _ => .new 0) twoCores).reverse.Perm
        (emitted plainText plainConfig (fun _ => .new 0) twoCores) ∧
      SameMetrics
        ((emitted plainText plainConfig (fun _ => .new 0) twoCores).reverse.foldl merge .new)
        (((covered twoCores).foldl (HdrMetricsCollector.observe plainText plainConfig)
          (.new 0)).snapshot 60).1 :=
  ⟨reverse_perm _,
    merged_as_one_collector plainText plainConfig (fun _ => 0) twoCores _ (reverse_perm _) 0
      60⟩

/-- A record made after the last snapshot is in no snapshot: the merged snapshots show one
request, one collector given both records shows two. -/
theorem late_record_missing :
    ((emitted plainText plainConfig (fun _ : Unit => .new 0)
        [.give () (.result okResult), .take () 40, .give () (.result okResult)]).foldl
      merge .new).totalRequests = 1 ∧
    (([Observation.result okResult, .result okResult].foldl
      (HdrMetricsCollector.observe plainText plainConfig) (.new 0)).snapshot
        50).1.totalRequests = 2 := by
  decide +kernel

/-! ## A window of timeouts -/

theorem histogram_of_timeouts {ι : Type*} [DecidableEq ι] {starts : ι → Nat}
    {calls : List (Call ι Observation Nat)}
    (any : order.Perm (emitted text config (fun i => .new (starts i)) calls))
    (timeouts : ∀ result, .result result ∈ covered calls → isTimeout result = true) :
    (order.foldl merge .new).histogram = 0 := by
  have same : (order.foldl merge .new).histogram = (order.foldl merge .new).stats.latencies := rfl
  rw [same, stats_merged any]
  have all : ∀ o ∈ covered calls, ∀ result, o = .result result → isTimeout result = true := by
    rintro o mem result rfl
    exact timeouts result mem
  generalize covered calls = observed at all
  induction observed with
  | nil => rfl
  | cons o rest ih =>
    rw [map_cons, sum_cons]
    have adds : (o.worth text config + (rest.map (worth text config)).sum).latencies =
        (o.worth text config).latencies + (rest.map (worth text config)).sum.latencies := rfl
    -- only a response has a latency
    have none : (o.worth text config).latencies = 0 := by
      cases o with
      | result result =>
        rw [worth, ofResult, if_pos (all _ mem_cons_self result rfl)]
        rfl
      | packets deltas | read incomingCpu workerCpu | tcpInfo info => rfl
    rw [adds, none, ih fun o mem => all o (mem_cons_of_mem _ mem), add_zero]

end Netanvil.Metrics
