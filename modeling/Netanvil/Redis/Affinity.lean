/-
# The target of a command and the peer of its connection

The Redis pool, too, is one queue for all targets, and the argument is the one of `Tcp.Affinity`.
Along a run of either executor, every request does its I/O on a connection to its own target
exactly if each request that took an idle connection found one to its target at the front
(`connection_affinity`).
-/
import Netanvil.Redis.Executor
import Netanvil.Tcp.Affinity

namespace Netanvil.Redis

open Theory.Trace Poll RedisExecutor List Tcp
open Netanvil.Types

/-! ## Requests with targets in turn -/

structure SimpleRedisGenerator extends RoundRobin where
  command : String
  argsTemplate : List String

namespace SimpleRedisGenerator

def generate (g : SimpleRedisGenerator) : Option (RedisRequestSpec × SimpleRedisGenerator) :=
  g.toRoundRobin.next.map fun (target, r) =>
    (⟨target, g.command, g.argsTemplate⟩, { g with toRoundRobin := r })

def updateTargets (parse : String → Option SocketAddr) (g : SimpleRedisGenerator)
    (targets : List String) : SimpleRedisGenerator :=
  { g with toRoundRobin := g.toRoundRobin.updateTargets parse targets }

end SimpleRedisGenerator

/-! ## The connection of a suspended command -/

def Await.connection : Await → Option PooledConnection
  | .connect => none
  | .setUpWrite conn _ _ _ => some conn
  | .setUpRead conn _ _ _ => some conn
  | .write conn _ => some conn
  | .read conn _ => some conn

/-- The poll leaves the future waiting for I/O with this peer, if for any. -/
def Poll.On (poll : Poll) (peer : SocketAddr) : Prop :=
  ∀ at_ conn, poll = .pending at_ → at_.connection = some conn → conn.stream.peer = peer

theorem Poll.on_ready (result : Except ExecutionError Response) (peer : SocketAddr) :
    (ready result).On peer := by
  simp [On]

theorem Poll.on_connect (peer : SocketAddr) : (pending .connect).On peer := by
  intro at_ conn pending has
  cases pending
  cases has

theorem Poll.on_pending {at_ : Await} {conn : PooledConnection} (has : at_.connection = some conn)
    (peer : SocketAddr) : (pending at_).On peer ↔ conn.stream.peer = peer := by
  constructor
  · intro on
    exact on at_ conn rfl has
  · intro same other conn' pending has'
    cases pending
    rw [has] at has'
    cases has'
    exact same

namespace RedisExecutor

variable {x : RedisExecutor} {spec : RedisRequestSpec} {conn : PooledConnection}
  {peer : SocketAddr}

theorem useConnection_on_iff : (useConnection spec conn).On peer ↔ conn.stream.peer = peer :=
  on_pending rfl peer

theorem setUp_on (commands : List (String × List String)) (same : conn.stream.peer = peer) :
    (setUp spec conn commands).On peer := by
  cases commands with
  | nil => exact useConnection_on_iff.mpr same
  | cons first rest => exact (on_pending rfl peer).mpr same

theorem start_on_iff :
    (x.start spec).2.On spec.target ↔
      ∀ conn rest, x.pool = conn :: rest → conn.stream.peer = spec.target := by
  unfold start
  cases idle : x.pool with
  | cons conn rest =>
    dsimp only
    rw [useConnection_on_iff]
    constructor
    · intro same conn' rest' front
      cases front
      exact same
    · intro same
      exact same conn rest rfl
  | nil =>
    dsimp only
    exact ⟨by simp, fun _ => on_connect _⟩

theorem resume_on {at_ : Await} {outcome : Except String (RespValue × Nat)}
    (before : (pending at_).On spec.target) :
    (x.resume spec at_ outcome).2.On spec.target := by
  cases outcome with
  | error e => cases at_ <;> exact on_ready _ _
  | ok reply =>
    cases at_ with
    | connect => exact setUp_on x.setUpCommands rfl
    | setUpWrite conn command args rest | write conn bytes =>
      exact (on_pending rfl _).mpr (before _ conn rfl rfl)
    | setUpRead conn command maxBytes rest =>
      obtain ⟨value, bytes⟩ := reply
      cases value with
      | error message => exact on_ready _ _
      | simpleString text | integer n | bulkString data | array elements =>
        exact setUp_on rest (before _ conn rfl rfl)
    | read conn maxBytes => exact on_ready _ _

/-- Every pooled connection was opened to this peer. -/
def KeepsTo (x : RedisExecutor) (peer : SocketAddr) : Prop :=
  ∀ conn ∈ x.pool, conn.stream.peer = peer

theorem start_keepsTo (keeps : x.KeepsTo peer) : (x.start spec).1.KeepsTo peer := by
  unfold start
  cases idle : x.pool with
  | cons conn rest =>
    unfold KeepsTo at keeps
    rw [idle, forall_mem_cons] at keeps
    exact keeps.2
  | nil => exact keeps

/-- Only a command that has read its reply touches the pool. -/
theorem resume_keepsTo {at_ : Await} (keeps : x.KeepsTo spec.target)
    (before : (pending at_).On spec.target) (outcome : Except String (RespValue × Nat)) :
    (x.resume spec at_ outcome).1.KeepsTo spec.target := by
  cases outcome with
  | error e => cases at_ <;> exact keeps
  | ok reply =>
    cases at_ with
    | connect | setUpWrite conn command args rest | write conn bytes => exact keeps
    | setUpRead conn command maxBytes rest =>
      obtain ⟨value, bytes⟩ := reply
      cases value <;> exact keeps
    | read conn maxBytes =>
      unfold KeepsTo resume
      rw [forall_mem_append, forall_mem_singleton]
      exact ⟨keeps, before _ conn rfl rfl⟩

end RedisExecutor

/-! ## Every run -/

/-- The task, if it waits for I/O, waits for its own target's. -/
def Task.Affine (t : Task) : Prop :=
  ∀ at_ conn, t.phase = .suspended at_ → at_.connection = some conn →
    conn.stream.peer = t.spec.target

theorem affine_polled (spec : RedisRequestSpec) (poll : Poll) :
    (Task.polled spec poll).Affine ↔ poll.On spec.target := by
  cases poll with
  | pending at_ | ready result => simp [Task.Affine, Task.polled, Poll.On]

theorem target_polled (spec : RedisRequestSpec) (poll : Poll) :
    (Task.polled spec poll).spec = spec := by
  cases poll <;> rfl

namespace Core

variable {c c' : Core} {e : Event}

def Affine (c : Core) : Prop := ∀ t ∈ c.tasks, t.Affine

/-- A command that takes a pooled connection finds one to its own target. -/
def Matches (c : Core) : Event → Prop
  | .execute spec => ∀ conn rest, c.executor.pool = conn :: rest →
      conn.stream.peer = spec.target
  | _ => True

theorem affine_new (executor : RedisExecutor) : (new executor).Affine := by
  simp [Affine, new]

theorem affine_step_iff (affine : c.Affine) (taken : c.step e = some c') :
    c'.Affine ↔ c.Matches e := by
  rcases step_cases taken with
    ⟨spec, rfl, rfl⟩ | ⟨i, outcome, spec, at_, rfl, here, rfl⟩ | ⟨i, spec, at_, rfl, here, rfl⟩
  · refine Iff.trans ?_ ((affine_polled spec _).trans start_on_iff)
    simp only [Affine, forall_mem_append, forall_mem_singleton]
    exact and_iff_right affine
  · have before : (pending at_).On spec.target :=
      (affine_polled spec (.pending at_)).mp (affine _ (mem_of_getElem? here))
    have after : (Task.polled spec (c.executor.resume spec at_ outcome).2).Affine :=
      (affine_polled spec _).mpr (resume_on before)
    exact ⟨fun _ => trivial, fun _ => forall_mem_set affine after i⟩
  · exact ⟨fun _ => trivial, fun _ => forall_mem_set affine (by simp [Task.Affine]) i⟩

/-- The event is no command, or one to this target. -/
def AimsAt (target : SocketAddr) : Event → Prop
  | .execute spec => spec.target = target
  | _ => True

/-- All commands have one target, and all connections go there. -/
structure Aimed (target : SocketAddr) (c : Core) : Prop where
  idle : c.executor.KeepsTo target
  target : ∀ t ∈ c.tasks, t.spec.target = target
  affine : c.Affine

variable {target : SocketAddr}

theorem Aimed.matches_ (aimed : Aimed target c) (aims : AimsAt target e) : c.Matches e := by
  cases e with
  | execute spec =>
    intro conn rest idle
    have here : spec.target = target := aims
    rw [here]
    exact aimed.idle conn (by simp [idle])
  | resume i outcome | timeout i => trivial

theorem Aimed.step (aimed : Aimed target c) (aims : AimsAt target e) (taken : c.step e = some c') :
    Aimed target c' := by
  have affine := (affine_step_iff aimed.affine taken).mpr (aimed.matches_ aims)
  rcases step_cases taken with
    ⟨spec, rfl, rfl⟩ | ⟨i, outcome, spec, at_, rfl, here, rfl⟩ | ⟨i, spec, at_, rfl, here, rfl⟩
  · refine ⟨start_keepsTo aimed.idle, ?_, affine⟩
    simp only [forall_mem_append, forall_mem_singleton, target_polled]
    exact ⟨aimed.target, aims⟩
  · obtain rfl : spec.target = target := aimed.target _ (mem_of_getElem? here)
    have before : (pending at_).On spec.target :=
      (affine_polled spec (.pending at_)).mp (aimed.affine _ (mem_of_getElem? here))
    refine ⟨resume_keepsTo aimed.idle before outcome, ?_, affine⟩
    exact forall_mem_set aimed.target (by rw [target_polled]) i
  · obtain rfl : spec.target = target := aimed.target _ (mem_of_getElem? here)
    exact ⟨aimed.idle, forall_mem_set aimed.target rfl i, affine⟩

/-- **Commands to one target always find a connection to it.** -/
theorem matches_of_one_target {password : Option String} {db : Option UInt16} {events : List Event}
    (aims : ∀ e ∈ events, AimsAt target e) :
    Allowed step Matches (new (.withAuth password db)) events := by
  refine allowed_of_kind (I := Aimed target) ⟨?_, ?_, affine_new _⟩ Aimed.step Aimed.matches_ aims
  · simp [KeepsTo, new, withAuth]
  · simp [new]

end Core

/-! ## The two executors -/

/-- **In every state of a run every request does its I/O on a connection to its own target if and
only if each request that starts while a connection is idle finds one to its own target at the
front of the pool.**  A TCP request that neither writes nor reads may find any. -/
theorem connection_affinity {maxConnections sample : Nat} {policy : ConnectionPolicy}
    {tcpEvents : List Tcp.Event} {password : Option String} {db : Option UInt16}
    {redisEvents : List Event}
    (tcpRuns : (exec Tcp.Core.step (.new (.withPool maxConnections policy sample))
      tcpEvents).isSome)
    (redisRuns : (exec Core.step (.new (.withAuth password db)) redisEvents).isSome) :
    ((∀ done c, done <+: tcpEvents →
        exec Tcp.Core.step (.new (.withPool maxConnections policy sample)) done = some c →
          c.Affine) ↔
      Allowed Tcp.Core.step Tcp.Core.Matches (.new (.withPool maxConnections policy sample))
        tcpEvents) ∧
      ((∀ done c, done <+: redisEvents →
          exec Core.step (.new (.withAuth password db)) done = some c → c.Affine) ↔
        Allowed Core.step Core.Matches (.new (.withAuth password db)) redisEvents) :=
  ⟨(allowed_iff_invariant (Tcp.Core.affine_new _) Tcp.Core.affine_step_iff tcpRuns).symm,
    (allowed_iff_invariant (Core.affine_new _) Core.affine_step_iff redisRuns).symm⟩

/-- One echo request, then, when its connection is idle again, another request. -/
def echoThen (first second : Tcp.TcpRequestSpec) : List Tcp.Event :=
  [.execute first ⟨0, 0⟩, .resume 0 (.ok 0) ⟨0, 0⟩, .resume 0 (.ok 4) ⟨0, 0⟩,
    .execute second ⟨0, 0⟩]

/-- One command that is answered, then another. -/
def answeredThen (first second : RedisRequestSpec) : List Event :=
  [.execute first, .resume 0 (.ok (.integer 0, 0)), .resume 0 (.ok (.integer 0, 0)),
    .resume 0 (.ok (.bulkString none, 5)), .execute second]

def getKey : RedisRequestSpec := ⟨echoRequest.target, "GET", ["key"]⟩

/-- Two requests to one target, the second on the connection of the first. -/
theorem same_target_affine :
    (exec Tcp.Core.step (.new (.withPool 1 .keepAlive 0))
        (echoThen Tcp.echoRequest Tcp.echoRequest)).isSome ∧
      (exec Core.step (.new (.withAuth none none)) (answeredThen getKey getKey)).isSome ∧
      (∀ done c, done <+: echoThen Tcp.echoRequest Tcp.echoRequest →
        exec Tcp.Core.step (.new (.withPool 1 .keepAlive 0)) done = some c → c.Affine) ∧
      ∀ done c, done <+: answeredThen getKey getKey →
        exec Core.step (.new (.withAuth none none)) done = some c → c.Affine := by
  have tcpRuns : (exec Tcp.Core.step (.new (.withPool 1 .keepAlive 0))
      (echoThen Tcp.echoRequest Tcp.echoRequest)).isSome := rfl
  have redisRuns :
      (exec Core.step (.new (.withAuth none none)) (answeredThen getKey getKey)).isSome := rfl
  have tcpAims : ∀ e ∈ echoThen Tcp.echoRequest Tcp.echoRequest,
      Tcp.Core.AimsAt Tcp.echoRequest.target e := by
    simp [echoThen, Tcp.Core.AimsAt]
  have redisAims : ∀ e ∈ answeredThen getKey getKey, Core.AimsAt getKey.target e := by
    simp [answeredThen, Core.AimsAt]
  have affinity := connection_affinity tcpRuns redisRuns
  exact ⟨tcpRuns, redisRuns, affinity.1.mpr (Tcp.Core.matches_of_one_target tcpAims),
    affinity.2.mpr (Core.matches_of_one_target redisAims)⟩

def otherTarget : SocketAddr := ⟨.v4 0x7F000002#32, 9000⟩

/-- Echo requests to two targets in turn. -/
def echoInTurn : SimpleTcpGenerator where
  targets := [echoRequest.target, otherTarget]
  index := 0
  payload := [112, 105, 110, 103]
  framing := .raw
  expectResponse := false
  responseMaxBytes := 65536
  mode := .echo
  latencyUs := none
  errorRate := none

/-- The first two requests. -/
def firstTwo (g : SimpleTcpGenerator) : Option (TcpRequestSpec × TcpRequestSpec) :=
  (g.generate 0 0).bind fun (first, g) => (g.generate 0 0).map fun (second, _) => (first, second)

def getFromOne : SimpleRedisGenerator where
  targets := [echoRequest.target]
  index := 0
  command := "GET"
  argsTemplate := ["key"]

/-- The parser, on the one address the test below replaces its target with. -/
def parseOther (text : String) : Option SocketAddr :=
  if text = "127.0.0.2:9000" then some otherTarget else none

/-- One command before the targets are replaced and one after. -/
def aroundUpdate (parse : String → Option SocketAddr) (targets : List String)
    (g : SimpleRedisGenerator) : Option (RedisRequestSpec × RedisRequestSpec) :=
  g.generate.bind fun (first, g) =>
    (g.updateTargets parse targets).generate.map fun (second, _) => (first, second)

/-- Two targets in turn: the second TCP request is written to the first target. One target
replaced by another: the Redis command to the new one is written to the old one. -/
theorem second_target_reuses_first :
    (∃ first second c, firstTwo echoInTurn = some (first, second) ∧
        exec Tcp.Core.step (.new (.withPool 1 .keepAlive 0)) (echoThen first second) = some c ∧
        ¬ c.Affine) ∧
      ∃ first second c,
        aroundUpdate parseOther ["127.0.0.2:9000"] getFromOne = some (first, second) ∧
        exec Core.step (.new (.withAuth none none)) (answeredThen first second) = some c ∧
        ¬ c.Affine := by
  constructor
  all_goals
    refine ⟨_, _, _, rfl, rfl, ?_⟩
    intro affine
    have same := affine _ (mem_of_getElem? (i := 1) rfl) _ _ rfl rfl
    exact absurd same (by decide)

end Netanvil.Redis
