/-
# The target of a request and the peer of its connection

The pool is one queue for all targets: `take_idle` gives the connection that has been idle
longest, wherever it was opened to. Nothing later changes the connection a request has, so every
request talks to its own target exactly if each one that took an idle connection found its own
target's there (`affine_step_iff`).
-/
import Netanvil.Tcp.PoolAccounting

namespace Netanvil.Tcp

open Theory.Trace Poll List TcpExecutor ConnectionPool

/-! ## Requests with targets in turn -/

/-- What the round-robin generators share: the targets and an index into them. -/
structure RoundRobin where
  targets : List SocketAddr
  index : Nat

namespace RoundRobin

/-- The next target; without targets the source panics. -/
def next (r : RoundRobin) : Option (SocketAddr × RoundRobin) :=
  r.targets[r.index % r.targets.length]?.map fun target =>
    (target, { r with index := (r.index + 1) % 2 ^ 64 })

/-- What is no address is left out; without any address nothing changes. -/
def updateTargets (parse : String → Option SocketAddr) (r : RoundRobin) (targets : List String) :
    RoundRobin :=
  let parsed := targets.filterMap parse
  if parsed.isEmpty then r else ⟨parsed, 0⟩

end RoundRobin

structure SimpleTcpGenerator extends RoundRobin where
  payload : List UInt8
  framing : TcpFraming
  expectResponse : Bool
  responseMaxBytes : Nat
  mode : TcpTestMode
  latencyUs : Option UInt32
  errorRate : Option UInt32

namespace SimpleTcpGenerator

/-- The two sizes are sampled anew for every request. -/
def generate (g : SimpleTcpGenerator) (requestSize : UInt16) (responseSize : UInt32) :
    Option (TcpRequestSpec × SimpleTcpGenerator) :=
  g.toRoundRobin.next.map fun (target, r) =>
    ({ target := target
       payload := g.payload
       framing := g.framing
       expectResponse := g.expectResponse
       responseMaxBytes := g.responseMaxBytes
       mode := g.mode
       requestSize := requestSize
       responseSize := responseSize
       latencyUs := g.latencyUs
       errorRate := g.errorRate },
     { g with toRoundRobin := r })

def updateTargets (parse : String → Option SocketAddr) (g : SimpleTcpGenerator)
    (targets : List String) : SimpleTcpGenerator :=
  { g with toRoundRobin := g.toRoundRobin.updateTargets parse targets }

end SimpleTcpGenerator

/-! ## The connection of a suspended request -/

def Await.connection : Await → Option PooledConnection
  | .connect => none
  | .header conn _ => some conn
  | .io conn _ _ => some conn

/-- The poll leaves the future waiting for I/O with this peer, if for any. -/
def Poll.On (poll : Poll) (peer : SocketAddr) : Prop :=
  ∀ at_ conn, poll = .pending at_ → at_.connection = some conn → conn.stream.peer = peer

theorem Poll.on_ready (result : Except Types.ExecutionError Nat) (peer : SocketAddr) :
    (ready result).On peer := by
  simp [On]

theorem Poll.on_pending {at_ : Await} {conn : PooledConnection} (has : at_.connection = some conn)
    (peer : SocketAddr) : (pending at_).On peer ↔ conn.stream.peer = peer := by
  constructor
  · intro on
    exact on at_ conn rfl has
  · intro same other conn' pending has'
    cases pending
    rw [has] at has'
    cases has'
    exact same

theorem Poll.on_connect (peer : SocketAddr) : (pending .connect).On peer := by
  intro at_ conn pending has
  cases pending
  cases has

/-- A request on this connection has something to write or read. -/
def PerformsIo (spec : TcpRequestSpec) (conn : PooledConnection) : Prop :=
  (conn.headerSent = false ∧ spec.mode ≠ .echo) ∨ ioPlan spec ≠ []

namespace TcpExecutor

variable {x : TcpExecutor} {spec : TcpRequestSpec} {conn : PooledConnection} {draws : Draws}
  {peer : SocketAddr}

theorem finish_on (size : Nat) : (x.finish spec conn size draws).2.On peer := by
  unfold finish
  split
  · exact on_ready _ _
  · exact on_ready _ _

theorem runIo_on_iff (plan : List IoOp) (size : Nat) :
    (x.runIo spec conn plan size draws).2.On peer ↔ (plan ≠ [] → conn.stream.peer = peer) := by
  cases plan with
  | nil => exact ⟨fun _ none => absurd rfl none, fun _ => finish_on size⟩
  | cons op rest =>
    rw [runIo, on_pending rfl]
    exact ⟨fun same _ => same, fun same => same (by simp)⟩

theorem startIo_on_iff :
    (x.startIo spec conn draws).2.On peer ↔ (ioPlan spec ≠ [] → conn.stream.peer = peer) := by
  rw [startIo, runIo_on_iff]
  split <;> rfl

theorem useConnection_on_iff :
    (x.useConnection spec conn draws).2.On peer ↔
      (PerformsIo spec conn → conn.stream.peer = peer) := by
  unfold useConnection PerformsIo
  split
  · rename_i headed
    rw [on_pending rfl]
    exact ⟨fun same _ => same, fun same => same (.inl headed)⟩
  · rename_i headed
    rw [startIo_on_iff, or_iff_right headed]

theorem start_on_iff :
    (x.start spec draws).2.On spec.target ↔ ∀ conn rest, x.pool.idle = conn :: rest →
      PerformsIo spec conn → conn.stream.peer = spec.target := by
  unfold start acquireConnection takeIdle
  cases idle : x.pool.idle with
  | cons conn rest =>
    dsimp only
    rw [useConnection_on_iff]
    constructor
    · intro same conn' rest' front
      cases front
      exact same
    · intro same
      exact same conn rest rfl
  | nil =>
    dsimp only
    refine ⟨by simp, fun _ => ?_⟩
    split
    · rename_i impossible
      split at impossible <;> cases impossible
    · exact on_connect _
    · exact on_ready _ _

theorem resume_on {at_ : Await} {outcome : Except String Nat}
    (before : (pending at_).On spec.target) :
    (x.resume spec draws at_ outcome).2.On spec.target := by
  cases outcome with
  | error e => cases at_ <;> exact on_ready _ _
  | ok n =>
    cases at_ with
    | connect => exact useConnection_on_iff.mpr fun _ => rfl
    | header conn bytes => exact startIo_on_iff.mpr fun _ => before _ conn rfl rfl
    | io conn op rest => exact (runIo_on_iff rest _).mpr fun _ => before _ conn rfl rfl

/-- Every idle connection was opened to this peer. -/
def KeepsTo (x : TcpExecutor) (peer : SocketAddr) : Prop :=
  ∀ conn ∈ x.pool.idle, conn.stream.peer = peer

section

variable (keeps : x.KeepsTo peer)
include keeps

section

variable (same : conn.stream.peer = peer)
include same

theorem runIo_keepsTo (plan : List IoOp) (size : Nat) :
    (x.runIo spec conn plan size draws).1.KeepsTo peer := by
  cases plan with
  | nil =>
    show (x.finish spec conn size draws).1.KeepsTo peer
    unfold finish
    split
    · exact keeps
    · have pool := shouldKeepConnection_pool x draws
      generalize x.shouldKeepConnection draws = asked at pool ⊢
      obtain ⟨y, keep⟩ := asked
      have keepsNext : y.KeepsTo peer := by
        unfold KeepsTo
        rw [pool]
        exact keeps
      cases keep with
      | true => exact forall_mem_append.mpr ⟨keepsNext, forall_mem_singleton.mpr same⟩
      | false => exact keepsNext
  | cons op rest => exact keeps

theorem startIo_keepsTo : (x.startIo spec conn draws).1.KeepsTo peer := by
  refine runIo_keepsTo keeps ?_ (ioPlan spec) 0
  split <;> exact same

theorem useConnection_keepsTo : (x.useConnection spec conn draws).1.KeepsTo peer := by
  unfold useConnection
  split
  · exact keeps
  · exact startIo_keepsTo keeps same

end

theorem start_keepsTo : (x.start spec draws).1.KeepsTo peer := by
  unfold start acquireConnection takeIdle
  cases idle : x.pool.idle with
  | cons conn rest =>
    unfold KeepsTo at keeps
    rw [idle, forall_mem_cons] at keeps
    exact useConnection_keepsTo keeps.2 keeps.1
  | nil =>
    dsimp only
    cases x.pool.canOpenNew with
    | true | false => exact keeps

end

theorem resume_keepsTo {at_ : Await} (keeps : x.KeepsTo spec.target)
    (before : (pending at_).On spec.target) (outcome : Except String Nat) :
    (x.resume spec draws at_ outcome).1.KeepsTo spec.target := by
  cases outcome with
  | error e => cases at_ <;> exact keeps
  | ok n =>
    cases at_ with
    | connect => exact useConnection_keepsTo keeps rfl
    | header conn bytes => exact startIo_keepsTo keeps (before _ conn rfl rfl)
    | io conn op rest => exact runIo_keepsTo keeps (before _ conn rfl rfl) rest _

end TcpExecutor

/-! ## Every run -/

theorem forall_mem_set {α : Type*} {P : α → Prop} {l : List α} {a : α} (all : ∀ b ∈ l, P b)
    (is : P a) (i : Nat) : ∀ b ∈ l.set i a, P b := by
  intro b mem
  rcases mem_or_eq_of_mem_set mem with mem | rfl
  · exact all b mem
  · exact is

/-- The task, if it waits for I/O, waits for its own target's. -/
def Task.Affine (t : Task) : Prop :=
  ∀ at_ conn, t.phase = .suspended at_ → at_.connection = some conn →
    conn.stream.peer = t.spec.target

theorem affine_polled (spec : TcpRequestSpec) (poll : Poll) :
    (Task.polled spec poll).Affine ↔ poll.On spec.target := by
  cases poll with
  | pending at_ | ready result => simp [Task.Affine, Task.polled, Poll.On]

namespace Core

variable {c c' : Core} {e : Event}

def Affine (c : Core) : Prop := ∀ t ∈ c.tasks, t.Affine

/-- A request that takes an idle connection finds one to its own target. -/
def Matches (c : Core) : Event → Prop
  | .execute spec _ => ∀ conn rest, c.executor.pool.idle = conn :: rest →
      PerformsIo spec conn → conn.stream.peer = spec.target
  | _ => True

theorem affine_step_iff (affine : c.Affine) (taken : c.step e = some c') :
    c'.Affine ↔ c.Matches e := by
  rcases step_cases taken with
    ⟨spec, draws, rfl, rfl⟩ | ⟨i, outcome, draws, spec, at_, rfl, here, rfl⟩ |
      ⟨i, spec, at_, rfl, here, rfl⟩
  · refine Iff.trans ?_
      ((affine_polled spec (c.executor.start spec draws).2).trans start_on_iff)
    simp only [Affine, forall_mem_append, forall_mem_singleton]
    exact and_iff_right affine
  · have before : (pending at_).On spec.target :=
      (affine_polled spec (.pending at_)).mp (affine _ (mem_of_getElem? here))
    have after : (Task.polled spec (c.executor.resume spec draws at_ outcome).2).Affine :=
      (affine_polled spec _).mpr (resume_on before)
    exact ⟨fun _ => trivial, fun _ => forall_mem_set affine after i⟩
  · exact ⟨fun _ => trivial, fun _ => forall_mem_set affine (by simp [Task.Affine]) i⟩

theorem affine_new (executor : TcpExecutor) : (new executor).Affine := by
  simp [Affine, new]

/-- The event is no request, or one to this target. -/
def AimsAt (target : SocketAddr) : Event → Prop
  | .execute spec _ => spec.target = target
  | _ => True

/-- All requests have one target, and all connections go there. -/
structure Aimed (target : SocketAddr) (c : Core) : Prop where
  idle : c.executor.KeepsTo target
  target : ∀ t ∈ c.tasks, t.spec.target = target
  affine : c.Affine

variable {target : SocketAddr}

theorem Aimed.matches_ (aimed : Aimed target c) (aims : AimsAt target e) : c.Matches e := by
  cases e with
  | execute spec draws =>
    intro conn rest idle _
    have here : spec.target = target := aims
    rw [here]
    exact aimed.idle conn (by simp [idle])
  | resume i outcome draws | timeout i => trivial

theorem target_polled (spec : TcpRequestSpec) (poll : Poll) :
    (Task.polled spec poll).spec = spec := by
  cases poll <;> rfl

theorem Aimed.step (aimed : Aimed target c) (aims : AimsAt target e) (taken : c.step e = some c') :
    Aimed target c' := by
  have affine := (affine_step_iff aimed.affine taken).mpr (aimed.matches_ aims)
  rcases step_cases taken with
    ⟨spec, draws, rfl, rfl⟩ | ⟨i, outcome, draws, spec, at_, rfl, here, rfl⟩ |
      ⟨i, spec, at_, rfl, here, rfl⟩
  · refine ⟨start_keepsTo aimed.idle, ?_, affine⟩
    simp only [forall_mem_append, forall_mem_singleton, target_polled]
    exact ⟨aimed.target, aims⟩
  · obtain rfl : spec.target = target := aimed.target _ (mem_of_getElem? here)
    have before : (pending at_).On spec.target :=
      (affine_polled spec (.pending at_)).mp (aimed.affine _ (mem_of_getElem? here))
    refine ⟨resume_keepsTo aimed.idle before outcome, ?_, affine⟩
    exact forall_mem_set aimed.target (by rw [target_polled]) i
  · obtain rfl : spec.target = target := aimed.target _ (mem_of_getElem? here)
    exact ⟨aimed.idle, forall_mem_set aimed.target rfl i, affine⟩

/-- **Requests to one target always find a connection to it.** -/
theorem matches_of_one_target {maxConnections sample : Nat} {policy : Types.ConnectionPolicy}
    {events : List Event} (aims : ∀ e ∈ events, AimsAt target e) :
    Allowed step Matches (new (.withPool maxConnections policy sample)) events := by
  refine allowed_of_kind (I := Aimed target) ⟨?_, ?_, affine_new _⟩ Aimed.step Aimed.matches_ aims
  · simp [KeepsTo, new, withPool, ConnectionPool.new]
  · simp [new]

end Core

end Netanvil.Tcp
