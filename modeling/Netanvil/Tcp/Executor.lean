/-
# One request on a pooled connection, await by await

`do_execute` is an async function: a function from an await's outcome to the next suspension
(`Poll.pending`) or to its result (`Poll.ready`). `start` is the first poll, `resume` every
later one. A suspended future opens its connection, writes the protocol header, or is at an
operation of its mode's I/O plan (`ioPlan`).

`Settles` is what each poll does to the pool's books: the connection stays counted while the
future is suspended, and is given back once if it has finished.
-/
import Netanvil.Types.Connection
import Netanvil.Types.Request
import Netanvil.Tcp.Pool

namespace Netanvil.Tcp

open Netanvil.Types ConnectionPool

/-- What `execute` reports; ids, instants and the latency breakdown are left out. -/
structure ExecutionResult where
  bytesSent : Nat
  responseSize : Nat
  error : Option ExecutionError

structure TcpExecutor where
  pool : ConnectionPool
  policy : ConnectionPolicy
  lifecycle : Option LifecycleCounter

/-- The random numbers one poll may use: a uniform draw in `[0, 1)` and a fresh
lifetime limit. -/
structure Draws where
  uniform : ℚ
  limit : Nat

namespace TcpExecutor

/-- `sample` is the first lifetime drawn; it is used only under a `mixed` policy with a
lifetime distribution. -/
def withPool (maxConnections : Nat) (policy : ConnectionPolicy) (sample : Nat) : TcpExecutor where
  pool := new maxConnections
  policy := policy
  lifecycle :=
    match policy with
    | .mixed _ (some _) => some (LifecycleCounter.new sample)
    | _ => none

def shouldKeepConnection (x : TcpExecutor) (draws : Draws) : TcpExecutor × Bool :=
  match x.policy with
  | .keepAlive => (x, true)
  | .alwaysNew => (x, false)
  | .noReuse => (x, false)
  | .mixed persistentRatio _ =>
    match x.lifecycle with
    | some lc =>
      if lc.tick.2 then
        -- lifecycle limit reached
        ({ x with lifecycle := some (lc.tick.1.reset draws.limit) }, false)
      else
        ({ x with lifecycle := some lc.tick.1 }, decide (draws.uniform < persistentRatio))
    | none => (x, decide (draws.uniform < persistentRatio))

/-- Give the connection back, by one of the two calls that settle it. -/
def recordDropped (x : TcpExecutor) : TcpExecutor := { x with pool := x.pool.recordDropped }

def returnIdle (x : TcpExecutor) (conn : PooledConnection) : TcpExecutor :=
  { x with pool := x.pool.returnIdle conn }

end TcpExecutor

/-! ## The I/O plan of a mode -/

/-- One awaited operation. -/
inductive IoOp where
  /-- Write bytes; `context` opens the text of its error. -/
  | write (context : String) (bytes : List UInt8)
  | readFramed (framing : TcpFraming) (maxBytes : Nat)
  /-- Fill a buffer of `length` bytes and report `reported` of them. -/
  | readExact (length reported : Nat)

def IoOp.context : IoOp → String
  | .write context _ => context
  | .readFramed _ _ => "read"
  | .readExact _ _ => "read"

/-- Response size reported once the operation has completed with `n` bytes. -/
def IoOp.responseSize (n : Nat) : IoOp → Nat
  | .write _ _ => 0
  | .readFramed _ _ => n
  | .readExact _ reported => reported

/-- Exactly `request_size` bytes: the payload cut or padded with zeros. -/
def rrPayload (spec : TcpRequestSpec) : List UInt8 :=
  let size := spec.requestSize.toNat
  if spec.payload.length ≥ size then spec.payload.take size
  else spec.payload ++ List.replicate (size - spec.payload.length) 0

def doEcho (spec : TcpRequestSpec) : List IoOp :=
  .write "write" (encodeFrame spec.payload spec.framing) ::
    if spec.expectResponse then [.readFramed spec.framing spec.responseMaxBytes] else []

def doRr (spec : TcpRequestSpec) : List IoOp :=
  (if (rrPayload spec).isEmpty then [] else [.write "write" (rrPayload spec)]) ++
    (if spec.responseSize > 0 then
      [.readExact spec.responseSize.toNat spec.responseSize.toNat] else [])

def doSink (spec : TcpRequestSpec) : List IoOp := [.write "write" spec.payload]

/-- At least one byte is read; the configured size is reported. -/
def doSource (spec : TcpRequestSpec) : List IoOp :=
  [.readExact (max spec.responseSize.toNat 1) spec.responseSize.toNat]

def doBidir (spec : TcpRequestSpec) : List IoOp := [.write "bidir write" spec.payload]

def ioPlan (spec : TcpRequestSpec) : List IoOp :=
  match spec.mode with
  | .echo => doEcho spec
  | .rr => doRr spec
  | .sink => doSink spec
  | .source => doSource spec
  | .bidir => doBidir spec
  | .crr => doRr spec

/-! ## The future of `do_execute` -/

/-- Where a suspended `do_execute` waits. -/
inductive Await where
  /-- `TcpStream::connect`, after `record_opened`. -/
  | connect
  | header (conn : PooledConnection) (bytes : List UInt8)
  | io (conn : PooledConnection) (op : IoOp) (rest : List IoOp)

inductive Poll where
  | pending (at_ : Await)
  | ready (result : Except ExecutionError Nat)

/-- Connections a future holds (or is opening) after a poll. -/
def Poll.holds : Poll → Nat
  | .pending _ => 1
  | .ready _ => 0

/-- What `acquire_connection` has before its first await. -/
inductive Acquired where
  | reused (conn : PooledConnection)
  | opening

namespace TcpExecutor

/-- `acquire_connection` up to the connect: an idle connection, or room for a new one. -/
def acquireConnection (x : TcpExecutor) : TcpExecutor × Except ExecutionError Acquired :=
  match x.pool.takeIdle with
  | (pool, some conn) => ({ x with pool := pool }, .ok (.reused conn))
  | (pool, none) =>
    if pool.canOpenNew then ({ x with pool := pool.recordOpened }, .ok .opening)
    else ({ x with pool := pool }, .error (.connect "connection pool exhausted"))

/-- The I/O is done: count the request, then keep or drop the connection. `crr` drops
without asking the policy. -/
def finish (x : TcpExecutor) (spec : TcpRequestSpec) (conn : PooledConnection) (size : Nat)
    (draws : Draws) : TcpExecutor × Poll :=
  let conn := { conn with requestCount := conn.requestCount + 1 }
  if spec.mode = .crr then (x.recordDropped, .ready (.ok size))
  else
    let (x, keep) := x.shouldKeepConnection draws
    (if keep then x.returnIdle conn else x.recordDropped, .ready (.ok size))

/-- Go on with the rest of the plan. -/
def runIo (x : TcpExecutor) (spec : TcpRequestSpec) (conn : PooledConnection) (plan : List IoOp)
    (size : Nat) (draws : Draws) : TcpExecutor × Poll :=
  match plan with
  | [] => x.finish spec conn size draws
  | op :: rest => (x, .pending (.io conn op rest))

/-- Mode-specific I/O. `bidir` spawns its background reader on first use. -/
def startIo (x : TcpExecutor) (spec : TcpRequestSpec) (conn : PooledConnection) (draws : Draws) :
    TcpExecutor × Poll :=
  let conn := if spec.mode = .bidir then { conn with readerSpawned := true } else conn
  x.runIo spec conn (ioPlan spec) 0 draws

/-- A connection is at hand: write the header first on a fresh one. -/
def useConnection (x : TcpExecutor) (spec : TcpRequestSpec) (conn : PooledConnection)
    (draws : Draws) : TcpExecutor × Poll :=
  if headed : conn.headerSent = false ∧ spec.mode ≠ .echo then
    (x, .pending (.header conn (encodeHeader spec headed.2)))
  else x.startIo spec conn draws

/-- The first poll of `do_execute`. -/
def start (x : TcpExecutor) (spec : TcpRequestSpec) (draws : Draws) : TcpExecutor × Poll :=
  match x.acquireConnection with
  | (x, .ok (.reused conn)) => x.useConnection spec conn draws
  | (x, .ok .opening) => (x, .pending .connect)
  | (x, .error e) => (x, .ready (.error e))

/-- The awaited operation completed: with `n` bytes (where it counts any), or with an
error. -/
def resume (x : TcpExecutor) (spec : TcpRequestSpec) (draws : Draws) :
    Await → Except String Nat → TcpExecutor × Poll
  | .connect, .error e => (x.recordDropped, .ready (.error (.connect e)))
  | .connect, .ok _ => x.useConnection spec ⟨⟨spec.target⟩, false, 0, false⟩ draws
  | .header _ _, .error e =>
    (x.recordDropped, .ready (.error (.protocol ("header write: " ++ e))))
  | .header conn _, .ok _ => x.startIo spec { conn with headerSent := true } draws
  | .io _ op _, .error e =>
    (x.recordDropped, .ready (.error (.protocol (op.context ++ ": " ++ e))))
  | .io conn op rest, .ok n => x.runIo spec conn rest (op.responseSize n) draws

end TcpExecutor

/-- Bytes `execute` reports as sent on success. -/
def bytesSent (spec : TcpRequestSpec) : Nat :=
  match spec.mode with
  | .echo => spec.payload.length
  | .rr => spec.requestSize.toNat
  | .crr => spec.requestSize.toNat
  | .sink => spec.payload.length
  | .bidir => spec.payload.length
  | .source => 0

/-- The result of `execute`; `none` is an elapsed request timeout. -/
def executionResult (spec : TcpRequestSpec) : Option (Except ExecutionError Nat) → ExecutionResult
  | some (.ok responseSize) => ⟨bytesSent spec, responseSize, none⟩
  | some (.error e) => ⟨0, 0, some e⟩
  | none => ⟨0, 0, some .timeout⟩

/-! ## What a poll does to the books -/

/-- From `x` to `x'` the future, which held one connection, keeps the books: it is
still counted if it is still suspended, and the pool as a whole does not grow. -/
structure Settles (x x' : TcpExecutor) (poll : Poll) : Prop where
  active : x'.pool.active + 1 = x.pool.active + poll.holds
  size_le : x'.pool.size ≤ x.pool.size
  limit : x'.pool.maxConnections = x.pool.maxConnections

namespace TcpExecutor

theorem shouldKeepConnection_pool (x : TcpExecutor) (draws : Draws) :
    (x.shouldKeepConnection draws).1.pool = x.pool := by
  unfold shouldKeepConnection
  split
  · rfl
  · rfl
  · rfl
  · split
    · split <;> rfl
    · rfl

variable {x : TcpExecutor}

theorem pending_settles (x : TcpExecutor) (at_ : Await) : Settles x x (.pending at_) :=
  ⟨rfl, Nat.le_refl _, rfl⟩

section

variable (held : 0 < x.pool.active)
include held

theorem recordDropped_settles (result : Except ExecutionError Nat) :
    Settles x x.recordDropped (.ready result) := by
  have active : x.recordDropped.pool.active = x.pool.active - 1 := if_pos held
  refine ⟨?_, ?_, rfl⟩
  · rw [active]
    exact Nat.sub_add_cancel held
  · unfold size
    rw [active]
    exact Nat.add_le_add_right (Nat.sub_le _ _) _

theorem returnIdle_settles (conn : PooledConnection)
    (result : Except ExecutionError Nat) : Settles x (x.returnIdle conn) (.ready result) := by
  have active : (x.returnIdle conn).pool.active = x.pool.active - 1 := if_pos held
  have idle : (x.returnIdle conn).pool.idle.length = x.pool.idle.length + 1 := by
    simp [returnIdle, ConnectionPool.returnIdle]
  refine ⟨?_, ?_, rfl⟩
  · rw [active]
    exact Nat.sub_add_cancel held
  · unfold size
    rw [active, idle]
    omega

theorem runIo_settles (spec : TcpRequestSpec) (conn : PooledConnection)
    (plan : List IoOp) (size : Nat) (draws : Draws) :
    Settles x (x.runIo spec conn plan size draws).1 (x.runIo spec conn plan size draws).2 := by
  cases plan with
  | nil =>
    show Settles x (x.finish spec conn size draws).1 (x.finish spec conn size draws).2
    unfold finish
    split
    · exact recordDropped_settles held _
    · -- the policy may move its own counter, never the pool
      have pool := shouldKeepConnection_pool x draws
      generalize x.shouldKeepConnection draws = asked at pool ⊢
      obtain ⟨y, keep⟩ := asked
      have samePool : y.pool = x.pool := pool
      have settles : ∀ y', Settles y y' (.ready (.ok size)) → Settles x y' (.ready (.ok size)) := by
        rintro y' ⟨active, size_le, limit⟩
        rw [samePool] at active size_le limit
        exact ⟨active, size_le, limit⟩
      have heldNext : 0 < y.pool.active := samePool ▸ held
      cases keep with
      | true => exact settles _ (returnIdle_settles heldNext _ _)
      | false => exact settles _ (recordDropped_settles heldNext _)
  | cons op rest => exact pending_settles x _

theorem useConnection_settles (spec : TcpRequestSpec) (conn : PooledConnection) (draws : Draws) :
    Settles x (x.useConnection spec conn draws).1 (x.useConnection spec conn draws).2 := by
  unfold useConnection
  split
  · exact pending_settles x _
  · exact runIo_settles held spec _ _ _ draws

/-- Every exit of `do_execute` after an await settles the connection it held. -/
theorem resume_settles (spec : TcpRequestSpec) (draws : Draws)
    (at_ : Await) (outcome : Except String Nat) :
    Settles x (x.resume spec draws at_ outcome).1 (x.resume spec draws at_ outcome).2 := by
  cases outcome with
  | error e => cases at_ <;> exact recordDropped_settles held _
  | ok n =>
    cases at_ with
    | connect => exact useConnection_settles held spec _ draws
    | header conn bytes | io conn op rest => exact runIo_settles held spec _ _ _ draws

end

/-- What `acquire_connection` does: it takes over an idle connection, opens one within
the limit, or refuses because the pool is full. -/
theorem acquireConnection_cases (x : TcpExecutor) :
    (∃ conn x', x.acquireConnection = (x', .ok (.reused conn)) ∧
        x'.pool.active = x.pool.active + 1 ∧ x'.pool.size = x.pool.size ∧
        x'.pool.maxConnections = x.pool.maxConnections) ∨
      (∃ x', x.acquireConnection = (x', .ok .opening) ∧
        (x.pool.maxConnections = 0 ∨ x.pool.size < x.pool.maxConnections) ∧
        x'.pool.active = x.pool.active + 1 ∧ x'.pool.size = x.pool.size + 1 ∧
        x'.pool.maxConnections = x.pool.maxConnections) ∨
      (x.acquireConnection = (x, .error (.connect "connection pool exhausted")) ∧
        x.pool.maxConnections ≤ x.pool.size) := by
  unfold acquireConnection takeIdle
  cases idle : x.pool.idle with
  | cons conn rest =>
    refine .inl ⟨conn, _, rfl, rfl, ?_, rfl⟩
    simp only [size, idle, List.length_cons]
    omega
  | nil =>
    cases room : x.pool.canOpenNew with
    | true =>
      refine .inr (.inl ⟨{ x with pool := x.pool.recordOpened }, if_pos room,
        x.pool.canOpenNew_iff.mp room, rfl, ?_, rfl⟩)
      simp only [size, recordOpened]
      omega
    | false =>
      refine .inr (.inr ⟨if_neg (by simp [room]), ?_⟩)
      by_contra low
      have opens := x.pool.canOpenNew_iff.mpr (.inr (Nat.not_le.mp low))
      rw [room] at opens
      exact Bool.noConfusion opens

end TcpExecutor

end Netanvil.Tcp
