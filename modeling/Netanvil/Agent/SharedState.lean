/-
# What the test thread and the API handlers share

Written by the running test's progress callback and by `PUT /signal`, read by the
`GET` endpoints, cleared some seconds after the test has ended.
-/
import Netanvil.Types.Metrics

namespace Netanvil.Agent

open Netanvil.Types

structure TestStatus where
  state : String
  elapsedSecs : ℚ
  remainingSecs : ℚ
  targetRps : ℚ
  currentRps : ℚ
  totalRequests : Nat
  totalErrors : Nat

/-- `TestStatus::default()`. -/
def TestStatus.empty : TestStatus := ⟨"", 0, 0, 0, 0, 0, 0⟩

/-- The contents behind the `SharedState` handle. -/
structure SharedStateInner where
  status : TestStatus
  metrics : Option MetricsView
  pushedSignals : List (String × ℚ)
  nodeId : Option String

def asSecs (nanos : Nat) : ℚ := nanos / 1000000000

namespace SharedStateInner

def new : SharedStateInner := ⟨TestStatus.empty, none, [], none⟩

def updateFromProgress (s : SharedStateInner) (update : ProgressUpdate) : SharedStateInner :=
  -- at least a millisecond, so that the throughputs are defined
  let secs := max (asSecs update.elapsed) (1 / 1000)
  { s with
    status :=
      { state := "running"
        elapsedSecs := asSecs update.elapsed
        remainingSecs := asSecs update.remaining
        targetRps := update.targetRps
        currentRps := update.currentRps
        totalRequests := update.totalRequests
        totalErrors := update.totalErrors }
    metrics := some
      { currentRps := update.currentRps
        targetRps := update.targetRps
        totalRequests := update.totalRequests
        totalErrors := update.totalErrors
        errorRate :=
          if update.totalRequests > 0 then update.totalErrors / update.totalRequests else 0
        latencyP50Ms := update.window.latencyP50Ns / 1000000
        latencyP90Ms := update.window.latencyP90Ns / 1000000
        latencyP99Ms := update.window.latencyP99Ns / 1000000
        elapsedSecs := asSecs update.elapsed
        remainingSecs := asSecs update.remaining
        bytesSent := update.totalBytesSent
        bytesReceived := update.totalBytesReceived
        throughputSendMbps := update.totalBytesSent * 8 / secs / 1000000
        throughputRecvMbps := update.totalBytesReceived * 8 / secs / 1000000
        latencyBuckets := update.latencyBuckets
        saturation := update.saturation
        packetsSent := update.packetsSent
        packetsReceived := update.packetsReceived
        packetsLost := update.packetsLost
        timeoutCount := update.totalTimeouts } }

/-- Pushed signals survive the reset. -/
def resetMetrics (s : SharedStateInner) : SharedStateInner :=
  { s with metrics := none, status := TestStatus.empty }

end SharedStateInner

end Netanvil.Agent
