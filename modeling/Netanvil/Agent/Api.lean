/-
# What an agent answers over HTTP

The handlers the leader talks to. A body is the JSON value it parses to. `GET /metrics`
answers 200 in any case: without metrics the body says that there are none.
-/
import Netanvil.Types.Json
import Netanvil.Agent.Lifecycle

namespace Netanvil.Types

def SaturationAssessment.toJson : SaturationAssessment → Json
  | .healthy => .str "Healthy"
  | .clientSaturated => .str "ClientSaturated"
  | .serverSaturated => .str "ServerSaturated"
  | .bothSaturated => .str "BothSaturated"

def SaturationInfo.toJson (s : SaturationInfo) : Json :=
  .obj
    [("backpressure_drops", .int s.backpressureDrops),
      ("backpressure_ratio", .float s.backpressureRatio),
      ("timer_lag_mean_ns", .int s.timerLagMeanNs),
      ("timer_lag_max_ns", .int s.timerLagMaxNs),
      ("channel_transit_mean_ns", .int s.channelTransitMeanNs),
      ("channel_transit_max_ns", .int s.channelTransitMaxNs),
      ("dispatch_gap_mean_ns", .int s.dispatchGapMeanNs),
      ("dispatch_gap_max_ns", .int s.dispatchGapMaxNs),
      ("scheduling_delay_mean_ns", .int s.schedulingDelayMeanNs),
      ("scheduling_delay_max_ns", .int s.schedulingDelayMaxNs),
      ("delayed_request_ratio", .float s.delayedRequestRatio),
      ("rate_achievement", .float s.rateAchievement),
      ("cpu_affinity_ratio", .float s.cpuAffinityRatio),
      ("tcp_rtt_mean_ms", .float s.tcpRttMeanMs),
      ("tcp_rtt_max_ms", .float s.tcpRttMaxMs),
      ("tcp_retransmit_ratio", .float s.tcpRetransmitRatio),
      ("assessment", s.assessment.toJson),
      ("in_flight_drops", .int s.inFlightDrops),
      ("in_flight_count", .int s.inFlightCount),
      ("in_flight_capacity", .int s.inFlightCapacity)]

def MetricsView.toJson (m : MetricsView) : Json :=
  .obj
    [("current_rps", .float m.currentRps),
      ("target_rps", .float m.targetRps),
      ("total_requests", .int m.totalRequests),
      ("total_errors", .int m.totalErrors),
      ("error_rate", .float m.errorRate),
      ("latency_p50_ms", .float m.latencyP50Ms),
      ("latency_p90_ms", .float m.latencyP90Ms),
      ("latency_p99_ms", .float m.latencyP99Ms),
      ("elapsed_secs", .float m.elapsedSecs),
      ("remaining_secs", .float m.remainingSecs),
      ("bytes_sent", .int m.bytesSent),
      ("bytes_received", .int m.bytesReceived),
      ("throughput_send_mbps", .float m.throughputSendMbps),
      ("throughput_recv_mbps", .float m.throughputRecvMbps),
      ("latency_buckets", .arr (m.latencyBuckets.map fun b => .arr [.float b.1, .int b.2])),
      ("saturation", m.saturation.toJson),
      ("packets_sent", .int m.packetsSent),
      ("packets_received", .int m.packetsReceived),
      ("packets_lost", .int m.packetsLost),
      ("timeout_count", .int m.timeoutCount)]

end Netanvil.Types

namespace Netanvil.Agent

open Netanvil.Types

structure ApiResponse where
  ok : Bool
  error : Option String

namespace ApiResponse

def success : ApiResponse := ⟨true, none⟩

def failure (message : String) : ApiResponse := ⟨false, some message⟩

/-- The error is left out when there is none. -/
def toJson (r : ApiResponse) : Json :=
  .obj (("ok", .bool r.ok) :: (r.error.toList.map fun e => ("error", .str e)))

end ApiResponse

structure HttpResponse where
  status : Nat
  body : Json

/-- The metrics behind the current handle. -/
def AgentState.metrics (a : AgentState) : Option MetricsView :=
  a.view.bind SharedStateInner.metrics

/-- `GET /metrics`. -/
def getMetrics (a : AgentState) : HttpResponse :=
  match a.metrics with
  | some m => ⟨200, m.toJson⟩
  | none => ⟨200, (ApiResponse.failure "no metrics yet").toJson⟩

/-- A body that does not decode is refused, with the decoder's message. -/
def jsonOrError {α : Type} : Except String α → Except HttpResponse α
  | .ok v => .ok v
  | .error rejection => .error ⟨400, (ApiResponse.failure ("invalid JSON: " ++ rejection)).toJson⟩

/-- `POST /test/start`, given the decoded body and how the spawn and the wait turn out. -/
def postTestStart (a : AgentState) (body : Except String TestConfig) (spawn : Except String Unit)
    (wait : WaitOutcome) : HttpResponse :=
  match jsonOrError body with
  | .error response => response
  | .ok config =>
    match a.startTestAsync config spawn wait with
    | .ok _ => ⟨200, ApiResponse.success.toJson⟩
    | .error message => ⟨409, (ApiResponse.failure message).toJson⟩

theorem startTestAsync_ok_iff {a : AgentState} {config : TestConfig} {spawn : Except String Unit}
    {wait : WaitOutcome} :
    a.startTestAsync config spawn wait = .ok () ↔
      a.inner.state ≠ .running ∧ spawn = .ok () ∧ wait = .ready := by
  unfold AgentState.startTestAsync AgentState.acceptTest
  by_cases busy : a.inner.state = .running
  · simp [busy]
  · cases spawn <;> cases wait <;> simp [busy, WaitOutcome.answer]

end Netanvil.Agent
