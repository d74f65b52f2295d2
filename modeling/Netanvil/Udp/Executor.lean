/-
# One datagram and its echo, await by await

All tasks of a core share one connected socket. `ensure_socket` hands out the stored socket when
it is connected to the task's target. Otherwise the task binds and connects one of its own; when
that is done it looks again, and takes the stored socket if another task stored a matching one
meanwhile. No await lies between the writes to the two cells of socket and address.

A socket is named by the task that bound it, and `peers` is what the operating system holds. The
cells agree with it after every run (`socket_consistency`).
-/
import Netanvil.Types.Request
import Netanvil.Theory.Trace
import Netanvil.Tcp.Spec
import Netanvil.Udp.LossTracker

namespace Netanvil.Udp

open Netanvil.Types List
open Tcp (SocketAddr)
open Theory.Trace

structure UdpRequestSpec where
  target : SocketAddr
  payload : List UInt8
  expectResponse : Bool
  responseMaxBytes : Nat

/-- A socket, by the task that bound it. -/
abbrev SocketId : Type := Nat

/-- The address each socket is connected to; `none` if it is not. -/
abbrev Peers : Type := SocketId → Option SocketAddr

def Peers.connect (peers : Peers) (sock : SocketId) (target : SocketAddr) : Peers :=
  Function.update peers sock (some target)

def seqHeaderLen : Nat := 8

def u64FromLeBytes (bytes : List UInt8) : Nat := bytes.foldr (fun b n => b.toNat + 256 * n) 0

/-- The sequence number a datagram starts with, if it is long enough for one. -/
def seqNo (datagram : List UInt8) : Option Nat :=
  if seqHeaderLen ≤ datagram.length then some (u64FromLeBytes (datagram.take seqHeaderLen))
  else none

structure UdpExecutor where
  socket : Option SocketId
  connectedTo : Option SocketAddr
  tracker : LossTracker

/-- What `execute` reports; ids, instants and the latency breakdown are left out, and there is
never a status. -/
structure ExecutionResult where
  bytesSent : Nat
  responseSize : Nat
  error : Option ExecutionError

/-- Where a suspended `do_execute` waits: in `ensure_socket` on the socket of its own, then on
the one it was handed. -/
inductive Await where
  | bind
  | connect
  | send (sock : SocketId)
  | recv (sock : SocketId)

/-- The socket a datagram is sent or awaited on. -/
def Await.socket : Await → Option SocketId
  | .bind | .connect => none
  | .send sock | .recv sock => some sock

/-- A finished `do_execute` gives the size of the response and the echoed sequence number. -/
inductive Poll where
  | pending (at_ : Await)
  | ready (result : Except ExecutionError (Nat × Option Nat))

inductive Phase where
  | suspended (at_ : Await)
  | finished (result : ExecutionResult)

structure Task where
  spec : UdpRequestSpec
  phase : Phase

namespace UdpExecutor

def new : UdpExecutor := ⟨none, none, .new⟩

/-- The stored socket, if its recorded address is `target`. -/
def stored (x : UdpExecutor) (target : SocketAddr) : Option SocketId :=
  match x.socket with
  | some sock => if x.connectedTo = some target then some sock else none
  | none => none

/-- The end of `ensure_socket`: `sock` is connected to `target`, but another task may have been
faster. -/
def store (x : UdpExecutor) (target : SocketAddr) (sock : SocketId) : UdpExecutor × SocketId :=
  match x.stored target with
  | some existing => (x, existing)
  | none => ({ x with socket := some sock, connectedTo := some target }, sock)

/-- The outbound datagram is recorded before anything else happens. -/
def recordSend (x : UdpExecutor) (spec : UdpRequestSpec) : UdpExecutor :=
  match seqNo spec.payload with
  | some _ => { x with tracker := x.tracker.onSend.1 }
  | none => x

/-- The first poll. -/
def start (x : UdpExecutor) (spec : UdpRequestSpec) : Await :=
  match x.stored spec.target with
  | some sock => .send sock
  | none => .bind

/-- The operation that task `me` awaits completed: with the datagram (where it receives one), or
with an error. -/
def resume (x : UdpExecutor) (peers : Peers) (me : SocketId) (spec : UdpRequestSpec) :
    Await → Except String (List UInt8) → UdpExecutor × Peers × Poll
  | .bind, .error e => (x, peers, .ready (.error (.connect ("UDP bind: " ++ e))))
  | .bind, .ok _ => (x, peers, .pending .connect)
  | .connect, .error e => (x, peers, .ready (.error (.connect ("UDP connect: " ++ e))))
  | .connect, .ok _ =>
    ((x.store spec.target me).1, peers.connect me spec.target,
      .pending (.send (x.store spec.target me).2))
  | .send _, .error e => (x, peers, .ready (.error (.protocol ("send: " ++ e))))
  | .send sock, .ok _ =>
    if spec.expectResponse then (x, peers, .pending (.recv sock))
    else (x, peers, .ready (.ok (0, none)))
  | .recv _, .error e => (x, peers, .ready (.error (.protocol ("recv: " ++ e))))
  | .recv _, .ok datagram =>
    -- the part of the datagram the buffer has no room for is dropped
    let got := datagram.take spec.responseMaxBytes
    (x, peers, .ready (.ok (got.length, seqNo got)))

/-- An echo of another datagram's number is an error. -/
def correlate : Option Nat → Option Nat → Option ExecutionError
  | some s, some r =>
    if s ≠ r then
      some (.protocol ("seq mismatch: sent " ++ toString s ++ ", got " ++ toString r))
    else none
  | _, _ => none

/-- What `execute` makes of a poll of `do_execute`. -/
def settle (x : UdpExecutor) (spec : UdpRequestSpec) : Poll → UdpExecutor × Phase
  | .pending at_ => (x, .suspended at_)
  | .ready (.ok (responseSize, echoSeq)) =>
    let tracker := match echoSeq with
      | some seq => x.tracker.onReceive seq
      | none => x.tracker
    ({ x with tracker },
      .finished ⟨spec.payload.length, responseSize, correlate (seqNo spec.payload) echoSeq⟩)
  | .ready (.error e) => (x, .finished ⟨0, 0, some e⟩)

end UdpExecutor

/-! ## One core -/

structure Core where
  executor : UdpExecutor
  peers : Peers
  tasks : List Task

inductive Event where
  /-- A new `execute` call and the first poll of its future. -/
  | execute (spec : UdpRequestSpec)
  /-- The awaited operation of task `i` completed. -/
  | resume (i : Nat) (outcome : Except String (List UInt8))
  /-- The request timeout of task `i` elapsed: its inner future is dropped. -/
  | timeout (i : Nat)

namespace Core

def new : Core := ⟨.new, fun _ => none, []⟩

def step (c : Core) : Event → Option Core
  | .execute spec =>
    let executor := c.executor.recordSend spec
    some { c with executor, tasks := c.tasks ++ [⟨spec, .suspended (executor.start spec)⟩] }
  | .resume i outcome =>
    match c.tasks[i]? with
    | some ⟨spec, .suspended at_⟩ =>
      let (executor, peers, poll) := c.executor.resume c.peers i spec at_ outcome
      let (executor, phase) := executor.settle spec poll
      some ⟨executor, peers, c.tasks.set i ⟨spec, phase⟩⟩
    | _ => none
  | .timeout i =>
    match c.tasks[i]? with
    | some ⟨spec, .suspended _⟩ =>
      some { c with tasks := c.tasks.set i ⟨spec, .finished ⟨0, 0, some .timeout⟩⟩ }
    | _ => none

/-- What one event does, with the guards it needs. -/
theorem step_cases {c c' : Core} {e : Event} (taken : c.step e = some c') :
    (∃ spec, e = .execute spec ∧
        c' = ⟨c.executor.recordSend spec, c.peers,
          c.tasks ++ [⟨spec, .suspended ((c.executor.recordSend spec).start spec)⟩]⟩) ∨
      (∃ i outcome spec at_, e = .resume i outcome ∧
        c.tasks[i]? = some ⟨spec, .suspended at_⟩ ∧
        let r := c.executor.resume c.peers i spec at_ outcome
        c' = ⟨(r.1.settle spec r.2.2).1, r.2.1,
          c.tasks.set i ⟨spec, (r.1.settle spec r.2.2).2⟩⟩) ∨
      (∃ i spec at_, e = .timeout i ∧ c.tasks[i]? = some ⟨spec, .suspended at_⟩ ∧
        c' = { c with
          tasks := c.tasks.set i ⟨spec, .finished ⟨0, 0, some .timeout⟩⟩ }) := by
  cases e with
  | execute spec => exact .inl ⟨spec, rfl, by simpa [step] using taken.symm⟩
  | resume i outcome | timeout i =>
    simp only [step] at taken
    split at taken
    · rename_i spec at_ here
      first
      | exact .inr (.inl ⟨i, _, spec, at_, rfl, here, by simpa using taken.symm⟩)
      | exact .inr (.inr ⟨i, spec, at_, rfl, here, by simpa using taken.symm⟩)
    · cases taken

end Core

/-! ## The cells and the operating system -/

/-- The stored socket is connected to the recorded address. -/
def UdpExecutor.Agrees (x : UdpExecutor) (peers : Peers) : Prop :=
  ∀ sock, x.socket = some sock → ∃ addr, x.connectedTo = some addr ∧ peers sock = some addr

/-- What holds of task `me` where it waits: its own socket is not connected before `connect` is
done, and the one it was handed is connected to its target. -/
def Await.Sound (peers : Peers) (me : SocketId) (target : SocketAddr) : Await → Prop
  | .bind | .connect => peers me = none
  | .send sock | .recv sock => peers sock = some target

namespace UdpExecutor

variable {x : UdpExecutor} {peers : Peers} {spec : UdpRequestSpec} {me : SocketId}
  {target addr : SocketAddr} {sock : SocketId}

theorem connect_other (other : sock ≠ me) (target : SocketAddr) :
    peers.connect me target sock = peers sock := by
  rw [Peers.connect, Function.update_of_ne other]

/-- Connecting `me` leaves every connected socket as it is. -/
theorem connect_keeps (fresh : peers me = none) (peer : peers sock = some addr) :
    peers.connect me target sock = some addr := by
  have other : sock ≠ me := by
    rintro rfl
    rw [fresh] at peer
    cases peer
  exact (connect_other other target).trans peer

variable (agrees : x.Agrees peers)
include agrees

theorem Agrees.stored (found : x.stored target = some sock) : peers sock = some target := by
  simp only [UdpExecutor.stored] at found
  split at found
  · rename_i held has
    split at found
    · rename_i recorded
      cases found
      obtain ⟨addr, there, peer⟩ := agrees _ has
      rw [recorded] at there
      cases there
      exact peer
    · cases found
  · cases found

theorem Agrees.recordSend (spec : UdpRequestSpec) : (x.recordSend spec).Agrees peers := by
  simp only [UdpExecutor.recordSend]
  split
  · exact agrees
  · exact agrees

theorem Agrees.start_sound (fresh : peers me = none) :
    (x.start spec).Sound peers me spec.target := by
  simp only [start]
  split
  · rename_i sock found
    exact agrees.stored found
  · exact fresh

theorem Agrees.settle (spec : UdpRequestSpec) (poll : Poll) :
    (x.settle spec poll).1.Agrees peers := by
  cases poll with
  | pending at_ => exact agrees
  | ready result =>
    cases result with
    | ok response | error e => exact agrees

theorem Agrees.connect (fresh : peers me = none)
    (target : SocketAddr) : x.Agrees (peers.connect me target) := by
  intro sock has
  obtain ⟨addr, recorded, peer⟩ := agrees sock has
  exact ⟨addr, recorded, connect_keeps fresh peer⟩

/-- Whichever socket is handed out, it is connected to the target. -/
theorem Agrees.store (peer : peers me = some target) :
    (x.store target me).1.Agrees peers ∧ peers (x.store target me).2 = some target := by
  simp only [UdpExecutor.store]
  split
  · rename_i existing found
    exact ⟨agrees, agrees.stored found⟩
  · refine ⟨?_, peer⟩
    intro sock has
    cases has
    exact ⟨target, rfl, peer⟩

/-- One poll keeps the cells right, hands out the right socket, and connects at most the task's
own. -/
theorem Agrees.resume {at_ : Await}
    (sound : at_.Sound peers me spec.target) (outcome : Except String (List UInt8)) :
    let r := x.resume peers me spec at_ outcome
    r.1.Agrees r.2.1 ∧ (∀ next, r.2.2 = .pending next → next.Sound r.2.1 me spec.target) ∧
      (r.2.1 = peers ∨ peers me = none ∧ r.2.1 = peers.connect me spec.target) := by
  cases outcome with
  | error e => cases at_ <;> exact ⟨agrees, by simp [UdpExecutor.resume], .inl rfl⟩
  | ok datagram =>
    cases at_ with
    | bind =>
      refine ⟨agrees, ?_, .inl rfl⟩
      intro next is
      cases is
      exact sound
    | connect =>
      have peer : peers.connect me spec.target me = some spec.target := by
        simp [Peers.connect]
      have done := (agrees.connect sound spec.target).store peer
      refine ⟨done.1, ?_, .inr ⟨sound, rfl⟩⟩
      intro next is
      cases is
      exact done.2
    | send sock =>
      simp only [UdpExecutor.resume]
      split
      · refine ⟨agrees, ?_, .inl rfl⟩
        intro next is
        cases is
        exact sound
      · exact ⟨agrees, by simp, .inl rfl⟩
    | recv sock => exact ⟨agrees, by simp [UdpExecutor.resume], .inl rfl⟩

end UdpExecutor

/-! ## Every run -/

namespace Core

structure Consistent (c : Core) : Prop where
  agrees : c.executor.Agrees c.peers
  sound : ∀ (i : Nat) (spec : UdpRequestSpec) (at_ : Await),
    c.tasks[i]? = some ⟨spec, .suspended at_⟩ → at_.Sound c.peers i spec.target
  /-- No socket bears the name of a task still to come. -/
  fresh : ∀ i, c.tasks.length ≤ i → c.peers i = none

theorem consistent_step {c c' : Core} {e : Event} (consistent : c.Consistent)
    (taken : c.step e = some c') : c'.Consistent := by
  obtain ⟨spec, -, rfl⟩ | ⟨i, outcome, spec, at_, -, here, rfl⟩ | ⟨i, spec, at_, -, here, rfl⟩ :=
    step_cases taken
  · have agrees := consistent.agrees.recordSend spec
    refine ⟨agrees, ?_, ?_⟩
    · intro j spec' at_' has
      rw [getElem?_append] at has
      split at has
      · exact consistent.sound j spec' at_' has
      · rename_i late
        obtain ⟨inRange, is⟩ := List.getElem?_eq_some_iff.mp has
        simp only [getElem_singleton, Task.mk.injEq, Phase.suspended.injEq] at is
        obtain ⟨rfl, rfl⟩ := is
        exact agrees.start_sound (consistent.fresh j (Nat.le_of_not_lt late))
    · intro j late
      rw [length_append] at late
      exact consistent.fresh j (by omega)
  · have sound := consistent.sound i spec at_ here
    have polled := consistent.agrees.resume sound outcome
    set r := c.executor.resume c.peers i spec at_ outcome
    obtain ⟨agrees, next, moved⟩ := polled
    have bound : i < c.tasks.length := (List.getElem?_eq_some_iff.mp here).1
    refine ⟨agrees.settle spec r.2.2, ?_, ?_⟩
    · intro j spec' at_' has
      by_cases same : j = i
      · subst same
        rw [getElem?_set_self bound, Option.some.injEq, Task.mk.injEq] at has
        obtain ⟨rfl, pending⟩ := has
        apply next
        cases poll : r.2.2 with
        | pending at_ => simpa [poll, UdpExecutor.settle] using pending
        | ready result =>
          rw [poll] at pending
          cases result <;> cases pending
      · rw [getElem?_set_ne (Ne.symm same)] at has
        have before := consistent.sound j spec' at_' has
        rcases moved with still | ⟨fresh, connected⟩
        · rw [still]
          exact before
        · rw [connected]
          cases at_' with
          | bind | connect => exact (UdpExecutor.connect_other same _).trans before
          | send sock | recv sock => exact UdpExecutor.connect_keeps fresh before
    · intro j late
      rw [length_set] at late
      have other : j ≠ i := by omega
      rcases moved with still | ⟨fresh, connected⟩
      · rw [still]
        exact consistent.fresh j late
      · rw [connected]
        exact (UdpExecutor.connect_other other _).trans (consistent.fresh j late)
  · have bound : i < c.tasks.length := (List.getElem?_eq_some_iff.mp here).1
    refine ⟨consistent.agrees, ?_, by simpa using consistent.fresh⟩
    intro j spec' at_' has
    by_cases same : j = i
    · subst same
      rw [getElem?_set_self bound] at has
      cases has
    · rw [getElem?_set_ne (Ne.symm same)] at has
      exact consistent.sound j spec' at_' has

end Core

/-- After any events, in any order and with any outcomes, the stored socket is connected to the
recorded address, and every task sends and receives on a socket connected to its own target. -/
theorem socket_consistency {events : List Event} {c : Core}
    (run : exec Core.step Core.new events = some c) :
    (∀ sock, c.executor.socket = some sock →
      ∃ addr, c.executor.connectedTo = some addr ∧ c.peers sock = some addr) ∧
    ∀ t ∈ c.tasks, ∀ at_ sock, t.phase = .suspended at_ → at_.socket = some sock →
      c.peers sock = some t.spec.target := by
  have consistent : c.Consistent :=
    exec_invariant (I := fun _ c => c.Consistent)
      ⟨by simp [UdpExecutor.Agrees, Core.new, UdpExecutor.new], by simp [Core.new], fun _ _ => rfl⟩
      (fun before taken => Core.consistent_step before taken) run
  refine ⟨consistent.agrees, ?_⟩
  intro t mem at_ sock waits on
  obtain ⟨i, here⟩ := mem_iff_getElem?.mp mem
  have sound := consistent.sound i t.spec at_ (by rw [here, ← waits])
  cases at_ with
  | bind | connect => cases on
  | send there | recv there => cases on; exact sound

def loopback (port : UInt16) : SocketAddr := ⟨.v4 0x7f000001#32, port⟩

/-- Three tasks race, two of them to the same target: task 0 stores its socket, task 1 replaces
it, and task 2, done last, takes the one task 1 stored. Task 3 fails to bind. -/
def racing : List Event :=
  [.execute ⟨loopback 9001, [], true, 64⟩, .execute ⟨loopback 9002, [], true, 64⟩,
    .execute ⟨loopback 9002, [], true, 64⟩, .execute ⟨loopback 9003, [], true, 64⟩,
    .resume 0 (.ok []), .resume 1 (.ok []), .resume 2 (.ok []), .resume 0 (.ok []),
    .resume 1 (.ok []), .resume 2 (.ok []), .resume 3 (.error "in use"), .timeout 1,
    .resume 2 (.ok [])]

/-- Task 0 still waits to send on the socket that was replaced, and it is its own. -/
theorem socket_consistency_racing : ∃ c, exec Core.step Core.new racing = some c ∧
    (c.executor.socket, c.executor.connectedTo) = (some 1, some (loopback 9002)) ∧
    c.peers 1 = some (loopback 9002) ∧
    ∃ t ∈ c.tasks, t.phase = .suspended (.send 0) ∧ c.peers 0 = some t.spec.target := by
  obtain ⟨stored, sends⟩ :=
    socket_consistency (show exec Core.step Core.new racing = some _ from rfl)
  obtain ⟨addr, recorded, peer⟩ := stored 1 rfl
  cases recorded
  exact ⟨_, rfl, rfl, peer, _, mem_cons_self, rfl, sends _ mem_cons_self _ 0 rfl rfl⟩

end Netanvil.Udp
