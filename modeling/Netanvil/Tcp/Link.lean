/-
# One pooled connection and the test server at its other end

A request on a connection is a list of awaited operations (`connectionPlan`), and this is what
the executor's future does (`useConnection_carries`, `resume_carries`). `Link` is such a
connection with the bytes on their way in both directions and the server's handler. How the
network cuts the streams is in the counts: a read gets as many of the bytes that were written
as its event says. A write that fails may leave any part of its bytes on the way.
-/
import Netanvil.Tcp.Executor
import Netanvil.Tcp.Framing
import Netanvil.TestServer.Answers

namespace Netanvil.Tcp

open Theory TestServer List

/-! ## A request's operations -/

def connectionPlan (headerSent : Bool) (spec : TcpRequestSpec) : List IoOp :=
  (if headed : headerSent = false ∧ spec.mode ≠ .echo then
    [.write "header write" (encodeHeader spec headed.2)] else []) ++ ioPlan spec

/-- The operation a future that has its connection is at, and those after it. -/
def Await.plan (spec : TcpRequestSpec) : Await → List IoOp
  | .connect => connectionPlan false spec
  | .header _ bytes => .write "header write" bytes :: ioPlan spec
  | .io _ op rest => op :: rest

/-- What a poll has to give if these operations are left. -/
def Carries (x : TcpExecutor) (spec : TcpRequestSpec) (draws : Draws)
    (polled : TcpExecutor × Poll) : List IoOp → Prop
  | [] => ∃ conn size, polled = x.finish spec conn size draws
  | op :: rest => ∃ at_, polled = (x, .pending at_) ∧ at_ ≠ .connect ∧ at_.plan spec = op :: rest

namespace TcpExecutor

theorem runIo_carries (x : TcpExecutor) (spec : TcpRequestSpec) (conn : PooledConnection)
    (plan : List IoOp) (size : Nat) (draws : Draws) :
    Carries x spec draws (x.runIo spec conn plan size draws) plan := by
  cases plan with
  | nil => exact ⟨conn, size, rfl⟩
  | cons op rest => exact ⟨.io conn op rest, rfl, by simp, rfl⟩

theorem useConnection_carries (x : TcpExecutor) (spec : TcpRequestSpec) (conn : PooledConnection)
    (draws : Draws) :
    Carries x spec draws (x.useConnection spec conn draws)
      (connectionPlan conn.headerSent spec) := by
  unfold useConnection connectionPlan
  by_cases headed : conn.headerSent = false ∧ spec.mode ≠ .echo
  · rw [dif_pos headed, dif_pos headed]
    exact ⟨.header conn _, rfl, by simp, rfl⟩
  · rw [dif_neg headed, dif_neg headed]
    exact runIo_carries x spec _ _ 0 draws

/-- An operation that succeeds leaves those after it; the first that fails drops the
connection. -/
theorem resume_carries (x : TcpExecutor) (spec : TcpRequestSpec) (draws : Draws) {at_ : Await}
    {op : IoOp} {rest : List IoOp} (connected : at_ ≠ .connect)
    (here : at_.plan spec = op :: rest) :
    (∀ n, Carries x spec draws (x.resume spec draws at_ (.ok n)) rest) ∧
      ∀ e, x.resume spec draws at_ (.error e) =
        (x.recordDropped, .ready (.error (.protocol (op.context ++ ": " ++ e)))) := by
  cases at_ with
  | connect => exact absurd rfl connected
  | header conn bytes =>
    obtain ⟨rfl, rfl⟩ := cons.inj here
    refine ⟨fun n => runIo_carries x spec _ _ 0 draws, fun e => ?_⟩
    simp only [resume, IoOp.context]
    rfl
  | io conn op' rest' =>
    obtain ⟨rfl, rfl⟩ := cons.inj here
    exact ⟨fun n => runIo_carries x spec conn _ _ draws, fun e => rfl⟩

end TcpExecutor

/-! ## One operation -/

def IoOp.written : IoOp → List UInt8
  | .write _ bytes => bytes
  | _ => []

def written (plan : List IoOp) : List UInt8 := plan.flatMap IoOp.written

def IoOp.reader (closed : Bool) (count : Nat) : IoOp → Reader Byte (List Byte)
  | .write _ _ => .give []
  | .readFramed framing maxBytes => Tcp.readFramed Byte.value closed count framing maxBytes
  | .readExact length _ => .exactly length

/-- The bytes of request `k`. -/
def ofRequest (k : Nat) (bytes : List UInt8) : List Byte := bytes.map fun byte => ⟨byte, some k⟩

/-! ## The connection -/

/-- The connection is in the pool, its request is at `op`, or it has been dropped. -/
inductive Client where
  | idle
  | busy (spec : TcpRequestSpec) (op : IoOp) (rest : List IoOp)
  | gone

def Client.isGone : Client → Bool
  | .gone => true
  | _ => false

/-- The handler has returned, which closes its end. -/
def isClosed : Handler Byte → Bool
  | .stop => true
  | _ => false

structure Link where
  client : Client
  /-- The request that sent the header. -/
  header : Option TcpRequestSpec
  /-- There has been a request with something to write. -/
  opened : Bool
  toServer : List Byte
  server : Handler Byte
  toClient : List Byte
  /-- What each completed request has read. -/
  responses : List (List Byte)

inductive LinkEvent where
  /-- A request takes the connection. With no operation to wait for it is done at once;
  `keep` is then the policy's answer. -/
  | request (spec : TcpRequestSpec) (keep : Bool)
  /-- The client's operation completes, a `raw` read with `count` bytes. -/
  | proceed (count : Nat) (keep : Bool)
  /-- The request fails or times out, with `count` bytes of its write on the way. -/
  | drop (count : Nat)
  /-- The server goes on, a single read with `count` bytes. -/
  | serve (count : Nat) (draw : Fin 10000)
  /-- The server's operation fails, with `count` bytes of its write on the way. -/
  | fail (count : Nat)

namespace Link

/-- A connection the server has accepted. -/
def start (pooled : List UInt8) (draw : Fin 10000) : Link :=
  ⟨.idle, none, false, [], handleTcpProtocol tagged pooled draw, [], []⟩

def send (link : Link) (bytes : List UInt8) : Link :=
  { link with toServer := link.toServer ++ ofRequest link.responses.length bytes }

/-- Wait at the next operation, or finish: the last one has read `data`. -/
def goOn (link : Link) (spec : TcpRequestSpec) (data : List Byte) (keep : Bool) :
    List IoOp → Link
  | op :: rest => { link with client := .busy spec op rest }
  | [] =>
    { link with
      client := if keep = true ∧ spec.mode ≠ .crr then .idle else .gone
      responses := link.responses ++ [data] }

/-- The header is written, or the connection dropped, before any other operation, so it
counts as sent from here on. -/
def request (link : Link) (spec : TcpRequestSpec) (keep : Bool) : Link :=
  goOn
    { link with
      header := if spec.mode = .echo then link.header else link.header.or (some spec)
      opened := link.opened || !(written (connectionPlan link.header.isSome spec)).isEmpty }
    spec [] keep (connectionPlan link.header.isSome spec)

def proceed (link : Link) (spec : TcpRequestSpec) (op : IoOp) (rest : List IoOp) (count : Nat)
    (keep : Bool) : Option Link :=
  match op.reader (isClosed link.server) count 0 link.toClient with
  | .done data _ left =>
    some (goOn (send { link with toClient := left } op.written) spec data keep rest)
  | _ => none

def serve (link : Link) (count : Nat) (draw : Fin 10000) : Option Link :=
  match link.server with
  | .stop => none
  | .again loop => some { link with server := iteration tagged draw loop }
  | .await .read resume =>
    if 0 < count ∧ count ≤ link.toServer.length then
      some { link with
        server := resume (some (link.toServer.take count))
        toServer := link.toServer.drop count }
    else if link.client.isGone ∧ link.toServer = [] then
      some { link with server := resume (some []) }
    else none
  | .await (.readExact length) resume =>
    if length ≤ link.toServer.length then
      some { link with
        server := resume (some (link.toServer.take length))
        toServer := link.toServer.drop length }
    else none
  | .await (.writeAll bytes) resume =>
    some { link with server := resume (some []), toClient := link.toClient ++ bytes }
  | .await (.sleep _) resume => some { link with server := resume (some []) }

def fail (link : Link) (count : Nat) : Option Link :=
  match link.server with
  | .await .read resume => some { link with server := resume none }
  | .await (.readExact _) resume => some { link with server := resume none }
  | .await (.writeAll bytes) resume =>
    some { link with server := resume none, toClient := link.toClient ++ bytes.take count }
  | _ => none

def step (link : Link) : LinkEvent → Option Link
  | .request spec keep =>
    match link.client with
    | .idle => some (link.request spec keep)
    | _ => none
  | .proceed count keep =>
    match link.client with
    | .busy spec op rest => link.proceed spec op rest count keep
    | _ => none
  | .drop count =>
    match link.client with
    | .busy _ op _ => some { link.send (op.written.take count) with client := .gone }
    | _ => none
  | .serve count draw => link.serve count draw
  | .fail count => link.fail count

/-! ### What the server's steps do -/

inductive Served (link : Link) (draw : Fin 10000) : Link → Prop
  | again {loop : Loop Byte} (now : link.server = .again loop) :
      Served link draw { link with server := iteration tagged draw loop }
  | read {resume : Option (List Byte) → Handler Byte} {bytes later : List Byte}
      (now : link.server = .await .read resume) (cut : link.toServer = bytes ++ later)
      (proper : bytes ≠ []) :
      Served link draw { link with server := resume (some bytes), toServer := later }
  | ended {resume : Option (List Byte) → Handler Byte} (now : link.server = .await .read resume) :
      Served link draw { link with server := resume (some []) }
  | readExact {length : Nat} {resume : Option (List Byte) → Handler Byte} {bytes later : List Byte}
      (now : link.server = .await (.readExact length) resume)
      (cut : link.toServer = bytes ++ later) (full : bytes.length = length) :
      Served link draw { link with server := resume (some bytes), toServer := later }
  | writeAll {bytes : List Byte} {resume : Option (List Byte) → Handler Byte}
      (now : link.server = .await (.writeAll bytes) resume) :
      Served link draw { link with server := resume (some []), toClient := link.toClient ++ bytes }
  | sleep {us : Nat} {resume : Option (List Byte) → Handler Byte}
      (now : link.server = .await (.sleep us) resume) :
      Served link draw { link with server := resume (some []) }

inductive Failed (link : Link) : Link → Prop
  | read {resume : Option (List Byte) → Handler Byte} (now : link.server = .await .read resume) :
      Failed link { link with server := resume none }
  | readExact {length : Nat} {resume : Option (List Byte) → Handler Byte}
      (now : link.server = .await (.readExact length) resume) :
      Failed link { link with server := resume none }
  | writeAll {bytes out : List Byte} {resume : Option (List Byte) → Handler Byte}
      (now : link.server = .await (.writeAll bytes) resume) (part : out <+: bytes) :
      Failed link { link with server := resume none, toClient := link.toClient ++ out }

variable {link link' : Link} {count : Nat}

theorem served_of_serve {draw : Fin 10000}
    (served : link.serve count draw = some link') : link.Served draw link' := by
  unfold serve at served
  split at served
  · cases served
  · rename_i now
    cases served
    exact .again now
  · rename_i now
    split at served
    · rename_i bounds
      cases served
      refine .read now (take_append_drop _ _).symm fun nothing => ?_
      have length := length_take_of_le bounds.2
      rw [nothing, length_nil] at length
      omega
    · split at served
      · cases served
        exact .ended now
      · cases served
  · rename_i now
    split at served
    · rename_i enough
      cases served
      exact .readExact now (take_append_drop _ _).symm (length_take_of_le enough)
    · cases served
  · rename_i now
    cases served
    exact .writeAll now
  · rename_i now
    cases served
    exact .sleep now

theorem failed_of_fail (failed : link.fail count = some link') : link.Failed link' := by
  unfold fail at failed
  split at failed
  · rename_i now
    cases failed
    exact .read now
  · rename_i now
    cases failed
    exact .readExact now
  · rename_i now
    cases failed
    exact .writeAll now (List.take_prefix _ _)
  · cases failed

/-! ### Synchrony -/

/-- Every response consists of bytes sent for its own request. -/
def Attributed (link : Link) : Prop :=
  ∀ (k : Nat) (response : List Byte), link.responses[k]? = some response →
    ∀ b ∈ response, b.request = some k

/-- Nothing the server sends for a completed request is left unread, nor read as an answer
to another. -/
def Synced (link : Link) : Prop :=
  (∀ b ∈ link.toClient, ∀ k < link.responses.length, b.request ≠ some k) ∧ link.Attributed

end Link

end Netanvil.Tcp
