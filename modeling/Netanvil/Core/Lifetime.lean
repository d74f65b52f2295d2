/-
# How many requests a connection serves

A lifetime counter ends a connection with the request after its limit, in the TCP pool and
over HTTP alike. So the first connection goes on after its `L 0` requests, and sequential
requests are divided into connections by the sampled lifetimes only if all of them fit the
first one (`lifetimes_iff`).
-/
import Netanvil.Core.HttpPipeline
import Netanvil.Tcp.Executor

namespace Netanvil.Core

open Netanvil.Types List

open LifecycleCounter (tick)

/-- Connection `k` serves exactly `L k` of the first `n` requests, the last one fewer if they
end before: request `j` is on the connection before which the lifetimes add up to `j` at most,
and with which to more. -/
def ByLifetime (L : Nat → Nat) (n : Nat) (connection : Nat → Nat) : Prop :=
  ∀ j < n, ((range (connection j)).map L).sum ≤ j ∧ j < ((range (connection j + 1)).map L).sum

theorem byLifetime_iff {L connection : Nat → Nat} {n : Nat}
    (first : ∀ j ≤ L 0, connection j = 0) : ByLifetime L n connection ↔ n ≤ L 0 := by
  constructor
  · intro divided
    by_contra more
    have past := (divided (L 0) (by omega)).2
    rw [first (L 0) le_rfl] at past
    simp at past
  · intro few j less
    rw [first j (by omega)]
    simp
    omega

/-! ## The TCP pool -/

section

open Tcp

/-- A request that finds or opens a connection, does its I/O and gives the connection back. -/
def serve (x : TcpExecutor) (spec : TcpRequestSpec) (draws : Tcp.Draws) : TcpExecutor :=
  match x.acquireConnection with
  | (x, .ok (.reused conn)) => (x.finish spec conn 0 draws).1
  | (x, .ok .opening) => (x.finish spec ⟨⟨spec.target⟩, true, 0, false⟩ 0 draws).1
  | (x, .error _) => x

/-- The executor before request `j`. -/
def beforeTcp (x : TcpExecutor) (requests : Nat → TcpRequestSpec × Tcp.Draws) : Nat → TcpExecutor
  | 0 => x
  | j + 1 => serve (beforeTcp x requests j) (requests j).1 (requests j).2

/-- The connection of request `j`: a new one each time the pool is found empty. -/
def tcpConnection (x : TcpExecutor) (requests : Nat → TcpRequestSpec × Tcp.Draws) (j : Nat) : Nat :=
  (range j).countP fun i => (beforeTcp x requests (i + 1)).pool.idle.isEmpty

variable (maxConnections : Nat) (dist : ValueDistribution Nat) {lifetime j : Nat}
  {requests : Nat → TcpRequestSpec × Tcp.Draws}

theorem finish_young {spec : TcpRequestSpec} {draws : Tcp.Draws} (young : j < lifetime)
    (pooled : spec.mode ≠ .crr) (uniform : draws.uniform < 1) (conn : PooledConnection) :
    (TcpExecutor.finish ⟨⟨[], 1, maxConnections⟩, .mixed 1 (some dist), some ⟨j, lifetime⟩⟩ spec
      conn 0 draws).1 = ⟨⟨[{ conn with requestCount := conn.requestCount + 1 }], 0, maxConnections⟩,
        .mixed 1 (some dist), some ⟨j + 1, lifetime⟩⟩ := by
  have counts : ¬ j + 1 > lifetime := by omega
  simp only [TcpExecutor.finish, pooled, if_false, TcpExecutor.shouldKeepConnection,
    tick, counts, decide_false, uniform, decide_true]
  rfl

/-- Up to the limit each request counts one and returns its connection. -/
theorem beforeTcp_young (pooled : ∀ j, (requests j).1.mode ≠ .crr)
    (uniform : ∀ j, (requests j).2.uniform < 1) (young : j ≤ lifetime) :
    ∃ idle, idle.length = min j 1 ∧
      beforeTcp (.withPool maxConnections (.mixed 1 (some dist)) lifetime) requests j =
        ⟨⟨idle, 0, maxConnections⟩, .mixed 1 (some dist), some ⟨j, lifetime⟩⟩ := by
  induction j with
  | zero => exact ⟨[], rfl, rfl⟩
  | succ j ih =>
    obtain ⟨idle, length, before⟩ := ih (by omega)
    have finishes := finish_young maxConnections dist young (pooled j) (uniform j)
    rw [beforeTcp, before]
    rcases idle with _ | ⟨conn, _ | ⟨_, _⟩⟩
    · have room : ConnectionPool.canOpenNew ⟨[], 0, maxConnections⟩ = true := by
        simp only [ConnectionPool.canOpenNew, Bool.or_eq_true, beq_iff_eq, decide_eq_true_eq,
          length_nil]
        omega
      refine ⟨_, ?_, Eq.trans ?_ (finishes ⟨⟨(requests j).1.target⟩, true, 0, false⟩)⟩
      · simp
      · simp only [serve, TcpExecutor.acquireConnection, ConnectionPool.takeIdle, room, if_true]
        rfl
    · exact ⟨_, by simp, finishes conn⟩
    · simp only [length_cons] at length
      omega

end

/-! ## HTTP -/

/-- The transformer before request `j`. -/
def beforeHttp (t : ConnectionPolicyTransformer) (j : Nat) : ConnectionPolicyTransformer :=
  (fun t => t.close.2)^[j] t

/-- The connection of request `j`: a new one after each request that closes its own. -/
def httpConnection (t : ConnectionPolicyTransformer) (j : Nat) : Nat :=
  (range j).countP fun i => (beforeHttp t i).close.1

variable {inner : BaseTransformer} {dist : ValueDistribution Nat} {lifetimes : Stream' Nat}

/-- Up to the limit each request counts one. -/
theorem beforeHttp_young {j : Nat} (young : j ≤ lifetimes 0) :
    beforeHttp (.new inner (.mixed 1 (some dist)) ⟨Stream'.const true, lifetimes⟩) j =
      ⟨inner, .mixed 1 (some dist), some ⟨j, lifetimes 0⟩, ⟨.const true, lifetimes.tail⟩⟩ := by
  induction j with
  | zero => rfl
  | succ j ih =>
    have counts : ¬ j + 1 > lifetimes 0 := by omega
    rw [beforeHttp, Function.iterate_succ_apply', ← beforeHttp, ih (by omega)]
    simp only [ConnectionPolicyTransformer.close, tick, counts, decide_false]
    rfl

/-- **Sequential requests are divided into connections by the sampled lifetimes, in the TCP
pool and over HTTP, iff there are no more of them than the first connection is to serve.** -/
theorem lifetimes_iff (L : Stream' Nat) (n : Nat) :
    (∀ (maxConnections : Nat) (dist : ValueDistribution Nat)
      (requests : Nat → Tcp.TcpRequestSpec × Tcp.Draws),
      (∀ j, (requests j).1.mode ≠ .crr) → (∀ j, (requests j).2.uniform < 1) →
      (ByLifetime L n (tcpConnection
        (.withPool maxConnections (.mixed 1 (some dist)) (L 0)) requests) ↔ n ≤ L 0)) ∧
    ∀ (inner : BaseTransformer) (dist : ValueDistribution Nat),
      (ByLifetime L n (httpConnection
        (.new inner (.mixed 1 (some dist)) ⟨Stream'.const true, L⟩)) ↔ n ≤ L 0) := by
  constructor
  · intro maxConnections dist requests pooled uniform
    apply byLifetime_iff
    intro j young
    rw [tcpConnection, countP_eq_zero]
    intro i below
    obtain ⟨idle, length, before⟩ := beforeTcp_young maxConnections dist pooled uniform
      (Nat.le_trans (mem_range.mp below) young)
    rw [before]
    cases idle with
    | nil => simp at length
    | cons conn rest => simp
  · intro inner dist
    apply byLifetime_iff
    intro j young
    rw [httpConnection, countP_eq_zero]
    intro i below
    have less : i < L 0 := lt_of_lt_of_le (mem_range.mp below) young
    have counts : ¬ i + 1 > L 0 := by omega
    rw [beforeHttp_young less.le]
    simp [ConnectionPolicyTransformer.close, tick, counts,
      ConnectionPolicyTransformer.flip, Stream'.head, Stream'.get, Stream'.const]

def echoes : Nat → Tcp.TcpRequestSpec × Tcp.Draws :=
  fun _ => (⟨⟨.v4 0, 0⟩, [], .raw, false, 0, .echo, 0, 0, none, none⟩, ⟨0, 1⟩)

theorem three_of_three : ByLifetime (Stream'.const 3) 3
    (tcpConnection (.withPool 0 (.mixed 1 (some (.fixed 3))) 3) echoes) :=
  ((lifetimes_iff (Stream'.const 3) 3).1 0 (.fixed 3) echoes (by simp [echoes])
    (by simp [echoes])).mpr le_rfl

/-- With lifetimes of 1 the second request is still on the first connection. -/
theorem second_on_first :
    ¬ ByLifetime (Stream'.const 1) 2
        (tcpConnection (.withPool 0 (.mixed 1 (some (.fixed 1))) 1) echoes) ∧
      ¬ ByLifetime (Stream'.const 1) 2
        (httpConnection (.new .noop (.mixed 1 (some (.fixed 1))) ⟨.const true, .const 1⟩)) := by
  constructor
  · intro divided
    exact absurd (divided 1 (by decide)).2 (by decide +kernel)
  · intro divided
    exact absurd (divided 1 (by decide)).2 (by decide +kernel)

end Netanvil.Core
