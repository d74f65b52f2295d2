/-
# The leader's side of the HTTP calls

`fetch_metrics` decodes whatever body it gets, without a look at the status: every
field it reads is optional or has a default, so an answer that says there are no
metrics decodes as metrics that are all 0. `start_test` does not even read the answer:
it fails only if there is none.
-/
import Netanvil.Agent.Api

namespace Netanvil.Types

def SaturationAssessment.ofJson (j : Json) : Option SaturationAssessment :=
  match j.asStr with
  | some "Healthy" => some .healthy
  | some "ClientSaturated" => some .clientSaturated
  | some "ServerSaturated" => some .serverSaturated
  | some "BothSaturated" => some .bothSaturated
  | _ => none

/-- Only the three in-flight fields have a default. -/
def SaturationInfo.ofJson (j : Json) : Option SaturationInfo := do
  let backpressureDrops ← j.required Json.asU64 "backpressure_drops"
  let backpressureRatio ← j.required Json.asF64 "backpressure_ratio"
  let timerLagMeanNs ← j.required Json.asU64 "timer_lag_mean_ns"
  let timerLagMaxNs ← j.required Json.asU64 "timer_lag_max_ns"
  let channelTransitMeanNs ← j.required Json.asU64 "channel_transit_mean_ns"
  let channelTransitMaxNs ← j.required Json.asU64 "channel_transit_max_ns"
  let dispatchGapMeanNs ← j.required Json.asU64 "dispatch_gap_mean_ns"
  let dispatchGapMaxNs ← j.required Json.asU64 "dispatch_gap_max_ns"
  let schedulingDelayMeanNs ← j.required Json.asU64 "scheduling_delay_mean_ns"
  let schedulingDelayMaxNs ← j.required Json.asU64 "scheduling_delay_max_ns"
  let delayedRequestRatio ← j.required Json.asF64 "delayed_request_ratio"
  let rateAchievement ← j.required Json.asF64 "rate_achievement"
  let cpuAffinityRatio ← j.required Json.asF64 "cpu_affinity_ratio"
  let tcpRttMeanMs ← j.required Json.asF64 "tcp_rtt_mean_ms"
  let tcpRttMaxMs ← j.required Json.asF64 "tcp_rtt_max_ms"
  let tcpRetransmitRatio ← j.required Json.asF64 "tcp_retransmit_ratio"
  let assessment ← j.required SaturationAssessment.ofJson "assessment"
  let inFlightDrops ← j.defaulted Json.asU64 "in_flight_drops" 0
  let inFlightCount ← j.defaulted Json.asU64 "in_flight_count" 0
  let inFlightCapacity ← j.defaulted Json.asU64 "in_flight_capacity" 0
  return ⟨backpressureDrops, backpressureRatio, timerLagMeanNs, timerLagMaxNs,
    channelTransitMeanNs, channelTransitMaxNs, dispatchGapMeanNs, dispatchGapMaxNs,
    schedulingDelayMeanNs, schedulingDelayMaxNs, delayedRequestRatio, rateAchievement,
    cpuAffinityRatio, tcpRttMeanMs, tcpRttMaxMs, tcpRetransmitRatio, assessment,
    inFlightDrops, inFlightCount, inFlightCapacity⟩

theorem SaturationAssessment.ofJson_toJson (a : SaturationAssessment) :
    SaturationAssessment.ofJson a.toJson = some a := by
  cases a <;> rfl

theorem SaturationInfo.ofJson_toJson (s : SaturationInfo) : ofJson s.toJson = some s := by
  have assessment : s.toJson.required SaturationAssessment.ofJson "assessment" =
      some s.assessment := s.assessment.ofJson_toJson
  unfold ofJson
  rw [assessment]
  rfl

end Netanvil.Types

namespace Netanvil.Distributed

open Netanvil.Types Agent Json SaturationInfo

/-- The body `fetch_metrics` decodes. -/
structure MetricsResp where
  currentRps : Option ℚ
  targetRps : Option ℚ
  totalRequests : Option Nat
  totalErrors : Option Nat
  errorRate : Option ℚ
  latencyP50Ms : Option ℚ
  latencyP90Ms : Option ℚ
  latencyP99Ms : Option ℚ
  saturation : SaturationInfo
  timeoutCount : Nat

/-- Any object will do. (The derived decoder takes an array too, field by field; no
agent sends one.) -/
def MetricsResp.ofJson (j : Json) : Option MetricsResp := do
  let _ ← j.asObj
  let currentRps ← j.optional asF64 "current_rps"
  let targetRps ← j.optional asF64 "target_rps"
  let totalRequests ← j.optional asU64 "total_requests"
  let totalErrors ← j.optional asU64 "total_errors"
  let errorRate ← j.optional asF64 "error_rate"
  let latencyP50Ms ← j.optional asF64 "latency_p50_ms"
  let latencyP90Ms ← j.optional asF64 "latency_p90_ms"
  let latencyP99Ms ← j.optional asF64 "latency_p99_ms"
  let saturation ← j.defaulted SaturationInfo.ofJson "saturation" .zero
  let timeoutCount ← j.defaulted asU64 "timeout_count" 0
  return ⟨currentRps, targetRps, totalRequests, totalErrors, errorRate, latencyP50Ms,
    latencyP90Ms, latencyP99Ms, saturation, timeoutCount⟩

/-- `fetch_metrics`, given the response; `none` if the request failed. -/
def fetchMetrics (node : NodeInfo) (response : Option HttpResponse) : Option RemoteMetrics := do
  let response ← response
  let resp ← MetricsResp.ofJson response.body
  return {
    nodeId := node.id
    currentRps := resp.currentRps.getD 0
    targetRps := resp.targetRps.getD 0
    totalRequests := resp.totalRequests.getD 0
    totalErrors := resp.totalErrors.getD 0
    errorRate := resp.errorRate.getD 0
    latencyP50Ms := resp.latencyP50Ms.getD 0
    latencyP90Ms := resp.latencyP90Ms.getD 0
    latencyP99Ms := resp.latencyP99Ms.getD 0
    timeoutCount := resp.timeoutCount
    inFlightDrops := resp.saturation.inFlightDrops
    inFlightCount := resp.saturation.inFlightCount
    inFlightCapacity := resp.saturation.inFlightCapacity }

/-- What the leader makes of an agent's metrics. -/
def remoteMetrics (node : NodeInfo) (m : MetricsView) : RemoteMetrics where
  nodeId := node.id
  currentRps := m.currentRps
  targetRps := m.targetRps
  totalRequests := m.totalRequests
  totalErrors := m.totalErrors
  errorRate := m.errorRate
  latencyP50Ms := m.latencyP50Ms
  latencyP90Ms := m.latencyP90Ms
  latencyP99Ms := m.latencyP99Ms
  timeoutCount := m.timeoutCount
  inFlightDrops := m.saturation.inFlightDrops
  inFlightCount := m.saturation.inFlightCount
  inFlightCapacity := m.saturation.inFlightCapacity

/-- What an agent has arrives as it is. -/
theorem fetchMetrics_some {node : NodeInfo} {a : AgentState} {m : MetricsView}
    (has : a.metrics = some m) :
    fetchMetrics node (some (getMetrics a)) = some (remoteMetrics node m) := by
  have saturation : m.toJson.defaulted ofJson "saturation" .zero =
      some m.saturation := m.saturation.ofJson_toJson
  have resp : MetricsResp.ofJson m.toJson =
      some ⟨some m.currentRps, some m.targetRps, some m.totalRequests, some m.totalErrors,
        some m.errorRate, some m.latencyP50Ms, some m.latencyP90Ms, some m.latencyP99Ms,
        m.saturation, m.timeoutCount⟩ := by
    unfold MetricsResp.ofJson
    rw [saturation]
    rfl
  simp only [fetchMetrics, getMetrics, has]
  rw [Option.bind_eq_bind, Option.bind_some, resp]
  rfl

/-- `start_test`, given the response or what went wrong with the request. -/
def startTest (node : NodeInfo) : Except String HttpResponse → Except String Unit
  | .ok _ => .ok ()
  | .error e => .error (s!"start_test {node.id.name}: " ++ e)

end Netanvil.Distributed
