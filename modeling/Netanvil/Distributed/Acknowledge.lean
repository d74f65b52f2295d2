/-
# What an acknowledged start says

The leader counts a node as started when `start_test` returns Ok, and `start_test`
returns Ok whenever an answer arrives. An agent that runs another test answers 409, and
so does one whose own test did not come up; one that cannot read the configuration
answers 400. All of them are counted (`acknowledged_iff`): nobody looks at the status.
-/
import Netanvil.Core.StaticRate
import Netanvil.Agent.Reporting
import Netanvil.Distributed.Run
import Netanvil.Distributed.HttpCluster

namespace Netanvil.Distributed

open Netanvil.Types Agent Netanvil.Core DistributedCoordinator

/-- What a start request meets: the agent, how the test thread and the readiness wait
turn out, and the error of a request or an answer that is lost. -/
structure StartCall where
  agent : AgentState
  spawn : Except String Unit
  wait : WaitOutcome
  lost : Option String

section

-- a configuration, encoded by the leader and decoded by the agent
variable (wire : TestConfig → Except String TestConfig)

namespace StartCall

def response (call : StartCall) (config : TestConfig) : Except String HttpResponse :=
  match call.lost with
  | some e => .error e
  | none => .ok (postTestStart call.agent (wire config) call.spawn call.wait)

/-- The agent has got the very configuration, and started it. -/
def Accepted (call : StartCall) (config : TestConfig) : Prop :=
  wire config = .ok config ∧ call.agent.startTestAsync config call.spawn call.wait = .ok ()

/-- The configuration survives the wire, the agent is free, and its test comes up. -/
def Acceptable (call : StartCall) (config : TestConfig) : Prop :=
  wire config = .ok config ∧ call.agent.inner.state ≠ .running ∧ call.spawn = .ok () ∧
    call.wait = .ready

variable {config : TestConfig} {call : StartCall} {node : NodeInfo}

theorem accepted_iff : call.Accepted wire config ↔ call.Acceptable wire config := by
  unfold Accepted Acceptable
  rw [startTestAsync_ok_iff]

theorem startTest_ok_iff :
    startTest node (call.response wire config) = .ok () ↔ call.lost = none := by
  unfold response
  cases call.lost <;> simp [startTest]

theorem truthful_iff :
    (startTest node (call.response wire config) = .ok () → call.Accepted wire config) ↔
      call.lost.isSome ∨ call.Acceptable wire config := by
  rw [startTest_ok_iff, accepted_iff]
  cases call.lost <;> simp

end StartCall

/-- A run whose starts go over HTTP. -/
def overHttp (calls : NodeInfo → StartCall) (input : RunInput) : RunInput :=
  { input with
    startOk := fun n config => (startTest n ((calls n).response wire config)).isOk }

/-- **Exactly when an Ok can be trusted**, of one call and of all the starts of a run: no
answer arrives, or the configuration survives the wire, the agent is free and its test
comes up. -/
theorem acknowledged_iff {S : Type} (c : RateController S) :
    (∀ (node : NodeInfo) (call : StartCall) (config : TestConfig),
      (startTest node (call.response wire config) = .ok () → call.Accepted wire config) ↔
        call.lost.isSome ∨ call.Acceptable wire config) ∧
    ∀ (l : DistributedCoordinator S) (calls : NodeInfo → StartCall) (input : RunInput),
      (∀ start ∈ (l.run c (overHttp wire calls input)).starts, start.ok = true →
        (calls start.node).Accepted wire start.config) ↔
        ∀ n ∈ l.discover, (calls n).lost.isSome ∨
          (calls n).Acceptable wire (startConfig c l n) := by
  refine ⟨fun node call config => StartCall.truthful_iff wire, fun l calls input => ?_⟩
  rw [run_eq]
  simp only [List.forall_mem_map]
  refine forall₂_congr fun n _ => ?_
  have counted : started c l (overHttp wire calls input) n = true ↔
      startTest n ((calls n).response wire (startConfig c l n)) = .ok () := by
    show (startTest n ((calls n).response wire (startConfig c l n))).isOk = true ↔ _
    cases startTest n ((calls n).response wire (startConfig c l n)) with
    | ok u => exact iff_of_true rfl rfl
    | error e => simp [Except.isOk, Except.toBool]
  rw [counted]
  exact StartCall.truthful_iff wire

end

/-- An agent that runs another test, and one whose own test fails to come up. -/
def refusingCalls (n : NodeInfo) : StartCall :=
  if n = nodeA then ⟨reported.agent, .ok (), .ready, none⟩
  else ⟨.new n.id n.addr n.cores, .ok (), .dropped, none⟩

/-- Both answer 409 with the reason, `start_test` returns Ok for both, neither has accepted
anything, and the run counts both as started. -/
theorem acknowledged_refused :
    (refusingCalls nodeA).response .ok shortTest =
        .ok ⟨409, (ApiResponse.failure "test already running").toJson⟩ ∧
      (refusingCalls nodeB).response .ok shortTest =
        .ok ⟨409, (ApiResponse.failure "coordinator startup failed").toJson⟩ ∧
      (∀ n config, startTest n ((refusingCalls n).response .ok config) = .ok ()) ∧
      (∀ n config, ¬ (refusingCalls n).Accepted .ok config) ∧
      (twoNodes.run staticRateController (overHttp .ok refusingCalls oneTick)).starts.map
        (fun start => (start.node, start.ok)) = [(nodeA, true), (nodeB, true)] := by
  refine ⟨rfl, rfl, fun n config => ?_, fun n config => ?_, by decide +kernel⟩
  · refine (StartCall.startTest_ok_iff .ok).mpr ?_
    unfold refusingCalls
    split <;> rfl
  · rw [StartCall.accepted_iff]
    rintro ⟨-, free, -, ready⟩
    unfold refusingCalls at free ready
    by_cases first : n = nodeA
    · rw [if_pos first] at free
      exact free rfl
    · rw [if_neg first] at ready
      cases ready

end Netanvil.Distributed
