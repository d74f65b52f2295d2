/-
# One core's collector

`HdrMetricsCollector` records the results of a core's requests and is emptied into a
snapshot from time to time. The counters it shares with the core's connections and packet
source are part of it here. How the platform folds and reads texts, and where a histogram
ends, is a parameter, `TextFunctions`: a histogram takes at least the values it was made for.
-/
import Netanvil.Metrics.Aggregate
import Netanvil.Theory.Entries
import Netanvil.Types.Request

namespace Netanvil.Metrics

open Theory.Entries Netanvil.Types

/-- The platform functions a collector calls. A header value that is no finite number
does not parse. -/
structure TextFunctions where
  toLowercase : String → String
  parseF64 : String → Option ℚ
  md5Hex : List UInt8 → String
  /-- The largest value that a histogram made for values up to `high` takes. -/
  recordable (high : Nat) : Nat
  le_recordable (high : Nat) : high ≤ recordable high

/-- A platform on which no header is a number. Histograms have three significant digits and
end before a power of two. -/
def plainText : TextFunctions where
  toLowercase := id
  parseF64 _ := none
  md5Hex _ := ""
  recordable high := 2 ^ max 11 (high.log2 + 1) - 1
  le_recordable _ :=
    Nat.le_sub_one_of_lt (Nat.lt_log2_self.trans_le
      (Nat.pow_le_pow_right Nat.two_pos (le_max_right _ _)))

structure CollectorConfig where
  /-- Statuses from here on are errors; none is, if zero. -/
  errorStatusThreshold : Nat
  trackedHeaders : List String
  md5CheckEnabled : Bool
  responseSignalConfigs : List ResponseSignalConfig

structure HdrMetricsCollector where
  histogram : Histogram
  sizeHistogram : Histogram
  totalRequests : Nat
  totalErrors : Nat
  bytesSent : Nat
  bytesReceived : Nat
  windowStart : Nat
  timerLag : DelayStats
  channelTransit : DelayStats
  dispatchGap : DelayStats
  totalDelay : DelayStats
  totalDelayCountOver1ms : Nat
  headerCounts : List (String × List (String × Nat))
  md5Mismatches : Nat
  responseSignalAccumulators : List (String × ResponseSignalAccumulator)
  /-- Shared with the connections; stays zero when health is not sampled. -/
  affinityCounters : CpuAffinityCounters
  tcpHealthCounters : TcpHealthCounters
  /-- What the packet source has counted since it was last asked. -/
  packetSource : PacketCounterDeltas
  timeoutCount : Nat

/-- Record a value; one over the largest is refused and the error ignored. -/
def Histogram.record (high : Nat) (h : Histogram) (value : Nat) : Histogram :=
  if value ≤ high then value ::ₘ h else h

/-- What the latency histogram is made for: one minute, in nanoseconds. -/
def maxLatency : Nat := 60000000000

/-- One gibibyte. -/
def maxSize : Nat := 1073741824

def ResponseSignalAccumulator.record (acc : ResponseSignalAccumulator) (v : ℚ) :
    ResponseSignalAccumulator where
  sum := acc.sum + v
  count := acc.count + 1
  max := if v > acc.max then v else acc.max
  last := v

/-! ## What a result is worth -/

section

variable (text : TextFunctions) (config : CollectorConfig) (result : ExecutionResult)

def isTimeout : Bool := result.error = some .timeout

def isError : Bool :=
  result.error.isSome ||
    (config.errorStatusThreshold > 0 && result.status.any (config.errorStatusThreshold ≤ ·))

/-- Differences of instants saturate at zero. -/
def timerLagNs : Nat := result.sentTime - result.intendedTime

def channelTransitNs : Nat := result.actualTime - result.sentTime

def dispatchGapNs : Nat := result.dispatchTime - result.actualTime

def totalDelayNs : Nat := result.dispatchTime - result.intendedTime

/-- The response's headers of one name, in any case. -/
def headersNamed (header : String) : List (String × String) :=
  (result.responseHeaders.getD []).filter
    fun (name, _) => text.toLowercase name = text.toLowercase header

/-- The values of tracked headers, each under the name it is tracked by. -/
def trackedValues : List (String × String) :=
  config.trackedHeaders.flatMap fun tracked =>
    (headersNamed text result tracked).map fun (_, value) => (tracked, value)

/-- The values of configured signals that are numbers. -/
def signalValues : List (String × ℚ) :=
  config.responseSignalConfigs.flatMap fun signal =>
    (headersNamed text result signal.header).filterMap fun (_, value) =>
      (text.parseF64 value).map fun v => (signal.name, v)

/-- The body's digest is not the one its first `Content-MD5` header gives. -/
def md5Mismatch : Bool :=
  match result.responseBody, result.responseHeaders with
  | some body, some headers =>
    match headers.find? (fun (name, _) => name.toLower = "content-md5") with
    | some (_, expected) => (text.md5Hex body).toLower != expected.toLower
    | none => false
  | _, _ => false

end

namespace HdrMetricsCollector

variable (text : TextFunctions) (config : CollectorConfig)

def new (now : Nat) : HdrMetricsCollector where
  histogram := 0
  sizeHistogram := 0
  totalRequests := 0
  totalErrors := 0
  bytesSent := 0
  bytesReceived := 0
  windowStart := now
  timerLag := 0
  channelTransit := 0
  dispatchGap := 0
  totalDelay := 0
  totalDelayCountOver1ms := 0
  headerCounts := []
  md5Mismatches := 0
  responseSignalAccumulators := []
  affinityCounters := 0
  tcpHealthCounters := 0
  packetSource := 0
  timeoutCount := 0

def countHeader (counts : List (String × List (String × Nat))) (entry : String × String) :
    List (String × List (String × Nat)) :=
  alter entry.1 (fun values => alter entry.2 (fun n => n.getD 0 + 1) (values.getD [])) counts

def addSignal (accumulators : List (String × ResponseSignalAccumulator)) (entry : String × ℚ) :
    List (String × ResponseSignalAccumulator) :=
  alter entry.1 (fun acc => (acc.getD .zero).record entry.2) accumulators

/-- The latency is recorded once more, corrected for the scheduling delay, when that is
over 100 μs. -/
def recordLatency (h : Histogram) (result : ExecutionResult) : Histogram :=
  let h := h.record (text.recordable maxLatency) (max result.total 1)
  if totalDelayNs result > 100000 then
    h.record (text.recordable maxLatency) (max (result.total + totalDelayNs result) 1)
  else h

def record (c : HdrMetricsCollector) (result : ExecutionResult) : HdrMetricsCollector :=
  if isTimeout result then
    -- how long a timeout took is not the server's doing: no histogram and no delay
    { c with
      totalRequests := c.totalRequests + 1
      timeoutCount := c.timeoutCount + 1
      totalErrors := c.totalErrors + 1
      bytesSent := c.bytesSent + result.bytesSent }
  else
    { c with
      totalRequests := c.totalRequests + 1
      totalErrors := c.totalErrors + if isError config result then 1 else 0
      bytesSent := c.bytesSent + result.bytesSent
      bytesReceived := c.bytesReceived + result.responseSize
      histogram := recordLatency text c.histogram result
      timerLag := c.timerLag.record (timerLagNs result)
      channelTransit := c.channelTransit.record (channelTransitNs result)
      dispatchGap := c.dispatchGap.record (dispatchGapNs result)
      totalDelay := c.totalDelay.record (totalDelayNs result)
      totalDelayCountOver1ms :=
        c.totalDelayCountOver1ms + if totalDelayNs result > 1000000 then 1 else 0
      sizeHistogram :=
        if result.responseSize > 0 then
          c.sizeHistogram.record (text.recordable maxSize) (max result.responseSize 1)
        else c.sizeHistogram
      headerCounts := (trackedValues text config result).foldl countHeader c.headerCounts
      responseSignalAccumulators :=
        (signalValues text config result).foldl addSignal c.responseSignalAccumulators
      md5Mismatches :=
        c.md5Mismatches +
          if config.md5CheckEnabled && md5Mismatch text result then 1 else 0 }

/-- The snapshot of the window, and the collector emptied for the next one. The worker
stamps the in-flight fields. -/
def snapshot (c : HdrMetricsCollector) (now : Nat) : MetricsSnapshot × HdrMetricsCollector :=
  ({ latencyHistogram := c.histogram
     totalRequests := c.totalRequests
     totalErrors := c.totalErrors
     bytesSent := c.bytesSent
     bytesReceived := c.bytesReceived
     windowStart := c.windowStart
     windowEnd := now
     timerLag := c.timerLag
     channelTransit := c.channelTransit
     dispatchGap := c.dispatchGap
     totalDelay := c.totalDelay
     totalDelayCountOver1ms := c.totalDelayCountOver1ms
     headerValueCounts := c.headerCounts
     responseSizeHistogram := c.sizeHistogram
     md5Mismatches := c.md5Mismatches
     responseSignals := c.responseSignalAccumulators
     cpuAffinity := c.affinityCounters
     tcpHealth := c.tcpHealthCounters
     packets := c.packetSource
     timeoutCount := c.timeoutCount
     inFlightDrops := 0
     inFlightCount := 0
     inFlightCapacity := 0 },
   { c with
     histogram := 0
     sizeHistogram := 0
     totalRequests := 0
     totalErrors := 0
     bytesSent := 0
     bytesReceived := 0
     windowStart := now
     timerLag := 0
     channelTransit := 0
     dispatchGap := 0
     totalDelay := 0
     totalDelayCountOver1ms := 0
     headerCounts := []
     md5Mismatches := 0
     responseSignalAccumulators := []
     affinityCounters := 0
     tcpHealthCounters := 0
     packetSource := 0
     timeoutCount := 0 })

end HdrMetricsCollector

/-- What a collector takes in: a result it is given, or a counter it shares moving. -/
inductive Observation where
  | result (result : ExecutionResult)
  | packets (deltas : PacketCounterDeltas)
  | read (incomingCpu : Int) (workerCpu : Nat)
  | tcpInfo (info : TcpInfo)

def HdrMetricsCollector.observe (text : TextFunctions) (config : CollectorConfig)
    (c : HdrMetricsCollector) : Observation → HdrMetricsCollector
  | .result result => c.record text config result
  | .packets deltas => { c with packetSource := c.packetSource + deltas }
  | .read incomingCpu workerCpu =>
    { c with affinityCounters := c.affinityCounters.record incomingCpu workerCpu }
  | .tcpInfo info => { c with tcpHealthCounters := c.tcpHealthCounters.record info }

end Netanvil.Metrics
