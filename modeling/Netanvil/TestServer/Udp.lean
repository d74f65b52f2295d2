/-
# The handlers of connected UDP and DNS clients, wait by wait

A client that has sent a first datagram gets a task of its own, on a socket connected to it. A
handler is a function from what woke it to the calls it makes on the worker's buffer pool and
to its next wait (`Turn`). Sizes, the bytes sent and the metrics are left out; what the clock
and the random numbers decide is given with each turn (`Luck`).
-/
import Netanvil.TestServer.Protocol

namespace Netanvil.TestServer

/-- A call on the buffer pool. -/
inductive PoolUse where
  | take
  | give
  deriving DecidableEq

structure UdpConfig where
  dropRate : Nat
  latencyUs : Nat
  pacingBps : Nat

/-- The session mode, from the first datagram; `dns` is the handler of the DNS server. -/
inductive SessionMode where
  | echo
  | rr (latencyUs errorRate : Option UInt32)
  | sink
  | source (latencyUs : Option UInt32)
  | bidir (latencyUs : Option UInt32)
  | dns

/-- `UdpSessionMode::from_header`; over UDP there is no connection for `crr` to close. -/
def SessionMode.fromHeader (header : ParsedHeader) : SessionMode :=
  match header.mode with
  | .rr => .rr header.latencyUs header.errorRate
  | .crr => .rr header.latencyUs header.errorRate
  | .sink => .sink
  | .source => .source header.latencyUs
  | .bidir => .bidir header.latencyUs

def SessionMode.ofDatagram : List UInt8 → SessionMode
  | [] => .echo
  | first :: bytes =>
    if isProtocolSentinel first then
      match parseHeader (first :: bytes) with
      | some header => .fromHeader header
      | none => .echo
    else .echo

/-- Where a handler waits. -/
inductive Wait where
  /-- Spawned and not yet polled. -/
  | start
  /-- A receive, for half a second at most. -/
  | recv
  | latency
  | pacing
  | send
  | sendError
  /-- For the other half of a `bidir` session. -/
  | join
  deriving DecidableEq

inductive Wake where
  /-- The first poll, the end of a sleep, or the other half has finished. -/
  | ready
  /-- The receive timed out. -/
  | elapsed
  | received (n : Nat)
  | failed
  | sent (ok : Bool)

structure Luck where
  /-- The idle timeout has passed when the loop is entered again. -/
  idle : Bool
  /-- The draws from `0..10000` for dropping a datagram and for an error. -/
  drop : Nat
  error : Nat
  /-- The token bucket asks for a delay. -/
  paced : Bool

/-- What a handler does when it is woken: `next` is `none` when it returns. -/
structure Turn where
  uses : List PoolUse
  next : Option Wait

namespace Turn

/-- Calls on the pool before the rest of the turn. -/
def after (uses : List PoolUse) (turn : Turn) : Turn := ⟨uses ++ turn.uses, turn.next⟩

end Turn

section

variable (config : UdpConfig) (shutdown : Bool) (luck : Luck)

/-- The head of a receiving loop: `exit` is done when it is left. -/
def receiveHead (exit : List PoolUse) : Turn :=
  if shutdown || luck.idle then ⟨exit, none⟩ else ⟨[.take], some .recv⟩

def dropped : Bool := decide (0 < config.dropRate) && decide (luck.drop < config.dropRate)

def paced : Bool := decide (0 < config.pacingBps) && luck.paced

/-- `should_inject_error`. -/
def errorInjected (errorRate : Option UInt32) : Bool :=
  match errorRate with
  | some rate => decide (luck.error < rate.toNat)
  | none => false

/-- Copy the datagram into a pooled buffer and send it. -/
def echoSend : Turn := ⟨[.take, .give], some .send⟩

def echoPace : Turn := if paced config luck then ⟨[], some .pacing⟩ else echoSend

/-- `handle_udp_echo`. -/
def handleUdpEcho : Wait → Wake → Option Turn
  | .start, .ready => some (receiveHead shutdown luck [])
  | .recv, .elapsed => some (receiveHead shutdown luck [])
  | .recv, .failed => some ((receiveHead shutdown luck []).after [.give])
  | .recv, .received n =>
    some <|
      if n = 0 then ⟨[.give], none⟩
      else if dropped config luck then (receiveHead shutdown luck []).after [.give]
      else if 0 < config.latencyUs then ⟨[], some .latency⟩
      else echoPace config luck
  | .latency, .ready => some (echoPace config luck)
  | .pacing, .ready => some echoSend
  | .send, .sent _ => some ((receiveHead shutdown luck []).after [.give])
  | _, _ => none

/-- Send the one response buffer, after a pause if the bucket asks for one. -/
def sourcePace : Turn := if paced config luck then ⟨[], some .pacing⟩ else ⟨[], some .send⟩

def rrReply (errorRate : Option UInt32) : Turn :=
  if errorInjected luck errorRate then ⟨[], some .sendError⟩ else sourcePace config luck

/-- `handle_udp_rr`: its response buffer is taken before the loop and given back after it. -/
def handleUdpRr (latencyUs errorRate : Option UInt32) : Wait → Wake → Option Turn
  | .start, .ready => some ((receiveHead shutdown luck [.give]).after [.take])
  | .recv, .elapsed => some (receiveHead shutdown luck [.give])
  | .recv, .failed => some ((receiveHead shutdown luck [.give]).after [.give])
  | .recv, .received n =>
    some <| Turn.after [.give] <|
      if n = 0 then ⟨[.give], none⟩
      else if dropped config luck then receiveHead shutdown luck [.give]
      else if 0 < (latencyUs.map UInt32.toNat).getD config.latencyUs then ⟨[], some .latency⟩
      else rrReply config luck errorRate
  | .latency, .ready => some (rrReply config luck errorRate)
  | .pacing, .ready => some ⟨[], some .send⟩
  | .send, .sent _ => some (receiveHead shutdown luck [.give])
  | .sendError, .sent _ => some (receiveHead shutdown luck [.give])
  | _, _ => none

/-- `handle_udp_sink`. -/
def handleUdpSink : Wait → Wake → Option Turn
  | .start, .ready => some (receiveHead shutdown luck [])
  | .recv, .elapsed => some (receiveHead shutdown luck [])
  | .recv, .failed => some ((receiveHead shutdown luck []).after [.give])
  | .recv, .received n =>
    some <| Turn.after [.give] <| if n = 0 then ⟨[], none⟩ else receiveHead shutdown luck []
  | _, _ => none

/-- The head of a sending loop: `exit` is what leaving it leads to. -/
def sendHead (latencyUs : Option UInt32) (stop : Bool) (exit : Turn) : Turn :=
  if stop then exit
  else if latencyUs.isSome then ⟨[], some .latency⟩
  else sourcePace config luck

/-- The sending loop of `handle_udp_source` and of a `bidir` session. -/
def sendLoop (latencyUs : Option UInt32) (stop : Bool) (exit : Turn) : Wait → Wake → Option Turn
  | .start, .ready => some ((sendHead config luck latencyUs stop exit).after [.take])
  | .latency, .ready => some (sourcePace config luck)
  | .pacing, .ready => some ⟨[], some .send⟩
  | .send, .sent true => some (sendHead config luck latencyUs stop exit)
  | .send, .sent false => some exit
  | _, _ => none

/-- `handle_udp_source`. -/
def handleUdpSource (latencyUs : Option UInt32) : Wait → Wake → Option Turn :=
  sendLoop config luck latencyUs shutdown ⟨[.give], none⟩

/-- `handle_connected_dns_client`. -/
def handleConnectedDnsClient : Wait → Wake → Option Turn
  | .start, .ready => some (receiveHead shutdown luck [])
  | .recv, .elapsed => some (receiveHead shutdown luck [])
  | .recv, .failed => some ((receiveHead shutdown luck []).after [.give])
  | .recv, .received n =>
    some <| Turn.after [.give] <|
      if n = 0 then ⟨[], none⟩
      else if 12 ≤ n then ⟨[], some .send⟩
      else receiveHead shutdown luck []
  | .send, .sent _ => some (receiveHead shutdown luck [])
  | _, _ => none

/-- The sending half of `handle_udp_bidir`, which then waits for the other one. -/
def bidirSource (latencyUs : Option UInt32) (stop sinkDone : Bool) : Wait → Wake → Option Turn
  | .join, .ready => if sinkDone then some ⟨[], none⟩ else none
  | wait, wake =>
    sendLoop config luck latencyUs (shutdown || stop) ⟨[.give], some .join⟩ wait wake

/-- The receiving half of `handle_udp_bidir`; it sets `stop` where it leaves its loop. -/
def bidirSink (stop : Bool) : Wait → Wake → Option Turn
  | .start, .ready => some (receiveHead (shutdown || stop) luck [])
  | .recv, .elapsed => some (receiveHead (shutdown || stop) luck [])
  | .recv, .failed => some ⟨[.give], none⟩
  | .recv, .received n =>
    some <| Turn.after [.give] <|
      if n = 0 then ⟨[], none⟩ else receiveHead (shutdown || stop) luck []
  | _, _ => none

end

/-! ## Sessions -/

/-- A spawned handler. Only a `bidir` session has a second half, and `stop` is the flag
the two share. -/
structure Session where
  mode : SessionMode
  main : Option Wait
  sink : Option Wait
  stop : Bool

def Session.spawn (mode : SessionMode) : Session := ⟨mode, some .start, none, false⟩

/-- Which of a session's tasks is woken. -/
inductive Half where
  | main
  | sink

namespace Session

/-- The main task's turn. -/
def mainTurn (config : UdpConfig) (shutdown : Bool) (luck : Luck) (s : Session) (wait : Wait)
    (wake : Wake) : Option Turn :=
  match s.mode with
  | .echo => handleUdpEcho config shutdown luck wait wake
  | .rr latencyUs errorRate => handleUdpRr config shutdown luck latencyUs errorRate wait wake
  | .sink => handleUdpSink shutdown luck wait wake
  | .source latencyUs => handleUdpSource config shutdown luck latencyUs wait wake
  | .dns => handleConnectedDnsClient shutdown luck wait wake
  | .bidir latencyUs =>
    bidirSource config shutdown luck latencyUs s.stop s.sink.isNone wait wake

/-- The session after a turn of its main task: a `bidir` session spawns its second half on
the first one, and stops it when a send fails. -/
def afterMain (s : Session) (wait : Wait) (wake : Wake) (turn : Turn) : Session :=
  match s.mode with
  | .bidir _ =>
    { s with
      main := turn.next
      sink := if wait = .start then some .start else s.sink
      stop :=
        match wake with
        | .sent false => true
        | _ => s.stop }
  | _ => { s with main := turn.next }

/-- What waking a task of the session does: the calls on the pool, and the session after
it. -/
def resume (config : UdpConfig) (shutdown : Bool) (luck : Luck) (s : Session) :
    Half → Wake → Option (List PoolUse × Session)
  | .main, wake =>
    s.main.bind fun wait =>
      (s.mainTurn config shutdown luck wait wake).map fun turn =>
        (turn.uses, s.afterMain wait wake turn)
  | .sink, wake =>
    s.sink.bind fun wait =>
      (bidirSink shutdown luck s.stop wait wake).map fun turn =>
        (turn.uses, { s with sink := turn.next, stop := s.stop || turn.next.isNone })

def finished (s : Session) : Bool := s.main.isNone

end Session

end Netanvil.TestServer
