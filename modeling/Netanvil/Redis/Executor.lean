/-
# One Redis command on a pooled connection, await by await

`do_execute` takes the connection that has been idle longest, or opens one to the command's
target and sends `AUTH` and `SELECT` on it as configured. Only a command whose reply was read
gives its connection back. `start` is the first poll of the future and `resume` every later one.
-/
import Netanvil.Types.Request
import Netanvil.Tcp.Pool

namespace Netanvil.Redis

open Netanvil.Types
open Tcp (SocketAddr TcpStream)

structure RedisRequestSpec where
  target : SocketAddr
  command : String
  args : List String

/-! ## The wire -/

/-- A decoded value of the server's; `bulkString none` is the null bulk string. -/
inductive RespValue where
  | simpleString (text : String)
  | error (message : String)
  | integer (value : Int64)
  | bulkString (data : Option (List UInt8))
  | array (elements : List RespValue)

def asBytes (text : String) : List UInt8 := text.toUTF8.toList

def writeBulkString (data : List UInt8) : List UInt8 :=
  asBytes "$" ++ asBytes (toString data.length) ++ asBytes "\r\n" ++ data ++ asBytes "\r\n"

/-- An array of bulk strings, the command first. -/
def encodeCommand (command : String) (args : List String) : List UInt8 :=
  asBytes "*" ++ asBytes (toString (1 + args.length)) ++ asBytes "\r\n" ++
    writeBulkString (asBytes command) ++ args.flatMap fun arg => writeBulkString (asBytes arg)

/-! ## The future of `do_execute` -/

/-- A pooled connection; when it was established is left out. -/
structure PooledConnection where
  stream : TcpStream
  initialized : Bool
  requestCount : Nat

structure RedisExecutor where
  pool : List PooledConnection
  password : Option String
  db : Option UInt16

/-- What a command with a reply came to. -/
structure Response where
  responseBytes : Nat
  status : Nat
  error : Option ExecutionError

/-- What `execute` reports; ids, instants and the latency breakdown are left out. -/
structure ExecutionResult where
  status : Option Nat
  bytesSent : Nat
  responseSize : Nat
  error : Option ExecutionError

/-- Where a suspended `do_execute` waits. -/
inductive Await where
  | connect
  /-- Writing a command of `acquire_connection`; `rest` are those after it. -/
  | setUpWrite (conn : PooledConnection) (command : String) (args : List String)
      (rest : List (String × List String))
  | setUpRead (conn : PooledConnection) (command : String) (maxBytes : Nat)
      (rest : List (String × List String))
  | write (conn : PooledConnection) (bytes : List UInt8)
  | read (conn : PooledConnection) (maxBytes : Nat)

inductive Poll where
  | pending (at_ : Await)
  | ready (result : Except ExecutionError Response)

/-- Success is 0, a null bulk string 1, an error of the server's 2. -/
def statusOf : RespValue → Nat × Option ExecutionError
  | .simpleString _ => (0, none)
  | .integer _ => (0, none)
  | .array _ => (0, none)
  | .bulkString (some _) => (0, none)
  | .bulkString none => (1, none)
  | .error message => (2, some (.other message))

namespace RedisExecutor

def withAuth (password : Option String) (db : Option UInt16) : RedisExecutor := ⟨[], password, db⟩

/-- The commands a new connection starts with. -/
def setUpCommands (x : RedisExecutor) : List (String × List String) :=
  (x.password.map fun pw => ("AUTH", [pw])).toList ++
    (x.db.map fun db => ("SELECT", [toString db.toNat])).toList

/-- A connection is at hand: write the command. -/
def useConnection (spec : RedisRequestSpec) (conn : PooledConnection) : Poll :=
  .pending (.write conn (encodeCommand spec.command spec.args))

/-- The rest of `acquire_connection` on a new connection. -/
def setUp (spec : RedisRequestSpec) (conn : PooledConnection) :
    List (String × List String) → Poll
  | [] => useConnection spec { conn with initialized := true }
  | (command, args) :: rest => .pending (.setUpWrite conn command args rest)

/-- The first poll. -/
def start (x : RedisExecutor) (spec : RedisRequestSpec) : RedisExecutor × Poll :=
  match x.pool with
  | conn :: rest => ({ x with pool := rest }, useConnection spec conn)
  | [] => (x, .pending .connect)

/-- The awaited operation completed: with a value and the number of its bytes (where it reads
one), or with an error. -/
def resume (x : RedisExecutor) (spec : RedisRequestSpec) :
    Await → Except String (RespValue × Nat) → RedisExecutor × Poll
  | .connect, .error e => (x, .ready (.error (.connect e)))
  | .connect, .ok _ => (x, setUp spec ⟨⟨spec.target⟩, false, 0⟩ x.setUpCommands)
  | .setUpWrite _ command _ _, .error e =>
    (x, .ready (.error (.protocol (command ++ " write: " ++ e))))
  | .setUpWrite conn command _ rest, .ok _ => (x, .pending (.setUpRead conn command 65536 rest))
  | .setUpRead _ command _ _, .error e =>
    (x, .ready (.error (.protocol (command ++ " read: " ++ e))))
  | .setUpRead _ command _ _, .ok (.error message, _) =>
    (x, .ready (.error (.protocol (command ++ ": " ++ message))))
  | .setUpRead conn _ _ rest, .ok _ => (x, setUp spec conn rest)
  | .write _ _, .error e => (x, .ready (.error (.protocol ("write: " ++ e))))
  | .write conn _, .ok _ => (x, .pending (.read conn (1024 * 1024)))
  | .read _ _, .error e => (x, .ready (.error (.protocol ("read: " ++ e))))
  | .read conn _, .ok (value, bytes) =>
    let conn := { conn with requestCount := conn.requestCount + 1 }
    ({ x with pool := x.pool ++ [conn] },
      .ready (.ok ⟨bytes, (statusOf value).1, (statusOf value).2⟩))

end RedisExecutor

/-- The result of `execute`; `none` is an elapsed request timeout. -/
def executionResult (spec : RedisRequestSpec) :
    Option (Except ExecutionError Response) → ExecutionResult
  | some (.ok r) =>
    ⟨some r.status, (encodeCommand spec.command spec.args).length, r.responseBytes, r.error⟩
  | some (.error e) => ⟨none, 0, 0, some e⟩
  | none => ⟨none, 0, 0, some .timeout⟩

/-! ## One core -/

inductive Phase where
  | suspended (at_ : Await)
  | finished (result : ExecutionResult)

structure Task where
  spec : RedisRequestSpec
  phase : Phase

/-- The task after a poll. -/
def Task.polled (spec : RedisRequestSpec) : Poll → Task
  | .pending at_ => ⟨spec, .suspended at_⟩
  | .ready result => ⟨spec, .finished (executionResult spec (some result))⟩

structure Core where
  executor : RedisExecutor
  tasks : List Task

inductive Event where
  /-- A new `execute` call and the first poll of its future. -/
  | execute (spec : RedisRequestSpec)
  /-- The awaited operation of task `i` completed. -/
  | resume (i : Nat) (outcome : Except String (RespValue × Nat))
  /-- The request timeout of task `i` elapsed: its inner future is dropped. -/
  | timeout (i : Nat)

namespace Core

def new (executor : RedisExecutor) : Core := ⟨executor, []⟩

def step (c : Core) : Event → Option Core
  | .execute spec =>
    let (executor, poll) := c.executor.start spec
    some ⟨executor, c.tasks ++ [Task.polled spec poll]⟩
  | .resume i outcome =>
    match c.tasks[i]? with
    | some ⟨spec, .suspended at_⟩ =>
      let (executor, poll) := c.executor.resume spec at_ outcome
      some ⟨executor, c.tasks.set i (Task.polled spec poll)⟩
    | _ => none
  | .timeout i =>
    match c.tasks[i]? with
    | some ⟨spec, .suspended _⟩ =>
      some { c with tasks := c.tasks.set i ⟨spec, .finished (executionResult spec none)⟩ }
    | _ => none

/-- What one event does, with the guards it needs. -/
theorem step_cases {c c' : Core} {e : Event} (taken : c.step e = some c') :
    (∃ spec, e = .execute spec ∧
        c' = ⟨(c.executor.start spec).1,
          c.tasks ++ [Task.polled spec (c.executor.start spec).2]⟩) ∨
      (∃ i outcome spec at_, e = .resume i outcome ∧
        c.tasks[i]? = some ⟨spec, .suspended at_⟩ ∧
        c' = ⟨(c.executor.resume spec at_ outcome).1,
          c.tasks.set i (Task.polled spec (c.executor.resume spec at_ outcome).2)⟩) ∨
      (∃ i spec at_, e = .timeout i ∧ c.tasks[i]? = some ⟨spec, .suspended at_⟩ ∧
        c' = { c with
          tasks := c.tasks.set i ⟨spec, .finished (executionResult spec none)⟩ }) := by
  cases e with
  | execute spec => exact .inl ⟨spec, rfl, by simpa [step] using taken.symm⟩
  | resume i outcome | timeout i =>
    simp only [step] at taken
    split at taken
    · rename_i spec at_ here
      first
      | exact .inr (.inl ⟨i, _, spec, at_, rfl, here, by simpa using taken.symm⟩)
      | exact .inr (.inr ⟨i, spec, at_, rfl, here, by simpa using taken.symm⟩)
    · cases taken

end Core

end Netanvil.Redis
