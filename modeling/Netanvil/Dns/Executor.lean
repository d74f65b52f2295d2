/-
# One query over a socket of its own

`execute` sends a query and takes the first datagram that reaches its socket in time: it
looks neither at where the datagram came from, nor at its length, nor at its id. So a
datagram that is no answer to the query counts as one if it comes first (`answered_iff`).
-/
import Netanvil.Core.IoWorker
import Netanvil.Dns.Wire

namespace Netanvil.Dns

open Netanvil.Core Netanvil.Types Tcp TestServer

/-- A query with the server it is sent to. -/
structure DnsTarget extends DnsRequestSpec where
  server : SocketAddr

def parseRcode (response : List UInt8) : UInt8 :=
  match response with
  | _ :: _ :: _ :: flags :: _ => flags &&& 0x0F
  | _ => 0xFF

def parseTxid (response : List UInt8) : Option UInt16 :=
  match response with
  | high :: low :: _ => some (ofBeBytes16 high low)
  | _ => none

/-- What one request meets. -/
structure Surroundings where
  /-- The id drawn for a query without one. -/
  random : UInt16
  bind : Except String Unit
  send : Except String Unit
  /-- What reaches the socket before `request_timeout`, in order: a datagram with its source,
  or a failed receive. -/
  arrivals : List (Except String (SocketAddr × List UInt8))
  /-- `start.elapsed()` at the end. -/
  elapsed : Nat

/-- Where the request ends: the bytes sent, and the status and size of a response or the
error. -/
def finished (ctx : RequestContext) (elapsed bytesSent : Nat)
    (outcome : Except ExecutionError (UInt8 × Nat)) : ExecutionResult where
  requestId := ctx.requestId
  intendedTime := ctx.intendedTime
  sentTime := ctx.sentTime
  actualTime := ctx.actualTime
  dispatchTime := ctx.dispatchTime
  total := elapsed
  status := outcome.toOption.map (·.1.toNat)
  bytesSent := bytesSent
  responseSize := (outcome.toOption.map (·.2)).getD 0
  error := match outcome with
    | .error e => some e
    | .ok _ => none
  responseHeaders := none
  responseBody := none

def execute (spec : DnsTarget) (ctx : RequestContext) (net : Surroundings) : ExecutionResult :=
  let queryBytes := encodeQuery net.random spec.toDnsRequestSpec
  match net.bind with
  | .error e => finished ctx net.elapsed 0 (.error (.connect s!"UDP bind: {e}"))
  | .ok () =>
    let finished := finished ctx net.elapsed queryBytes.length
    match net.send with
    | .error e => finished (.error (.connect s!"UDP send: {e}"))
    | .ok () =>
      match net.arrivals with
      | .ok (_, datagram) :: _ =>
        -- the buffer has 4096 bytes, and a longer datagram is cut
        let buf := datagram.take 4096
        finished (.ok (parseRcode buf, buf.length))
      | .error e :: _ => finished (.error (.other s!"UDP recv: {e}"))
      | [] => finished (.error .timeout)

/-- Whether a datagram answers the query: from the server, a response (the QR bit) of at least
a header, with the id of the query. -/
def answers (spec : DnsTarget) (random : UInt16) : SocketAddr × List UInt8 → Bool
  | (source, datagram) => decide (source = spec.server ∧ 12 ≤ datagram.length) &&
    datagram[2]?.any (0x80 ≤ ·) &&
    parseTxid datagram == parseTxid (encodeQuery random spec.toDnsRequestSpec)

/-- The surroundings without the datagrams that answer nothing. -/
def Surroundings.onlyAnswers (net : Surroundings) (spec : DnsTarget) : Surroundings :=
  { net with arrivals := net.arrivals.filter fun arrival =>
      arrival.toOption.all (answers spec net.random) }

/-- An error-free result comes of an answer, and what answers nothing changes nothing. -/
structure Answered (spec : DnsTarget) (ctx : RequestContext) (net : Surroundings) : Prop where
  answer : (execute spec ctx net).error = none →
    ∃ d, net.arrivals.head? = some (.ok d) ∧ answers spec net.random d
  ignored : execute spec ctx net = execute spec ctx (net.onlyAnswers spec)

/-- **A response is matched to its query iff the socket cannot be bound or written, or the
first datagram to reach it in time, if any, answers the query.** -/
theorem answered_iff (spec : DnsTarget) (ctx : RequestContext) (net : Surroundings) :
    Answered spec ctx net ↔ net.bind ≠ .ok () ∨ net.send ≠ .ok () ∨
      ∀ d, net.arrivals.head? = some (.ok d) → answers spec net.random d := by
  obtain ⟨random, bind, send, arrivals, elapsed⟩ := net
  cases bind with
  | error e => exact iff_of_true ⟨by simp [execute, finished], rfl⟩ (.inl (by simp))
  | ok _ =>
    cases send with
    | error e => exact iff_of_true ⟨by simp [execute, finished], rfl⟩ (.inr (.inl (by simp)))
    | ok _ =>
      rcases arrivals with _ | ⟨e | d, rest⟩
      · exact iff_of_true ⟨by simp [execute, finished], rfl⟩ (by simp)
      · exact iff_of_true ⟨by simp [execute, finished], rfl⟩ (by simp)
      · -- the first datagram is used, whatever stands behind it
        constructor
        · intro answered
          obtain ⟨_, same, answers⟩ := answered.answer rfl
          cases same
          simpa using answers
        · intro holds
          have first : answers spec random d = true := by simpa using holds
          refine ⟨fun _ => ⟨d, rfl, first⟩, ?_⟩
          simp [Surroundings.onlyAnswers, Except.toOption, first, execute]

/-- Three bytes from another host end a query without error, with the code 255. -/
theorem stray_datagram_taken :
    let spec : DnsTarget := ⟨⟨[], .a, true, false, 0x1234⟩, ⟨.v4 8, 53⟩⟩
    let net : Surroundings := ⟨0, .ok (), .ok (), [.ok (⟨.v4 9, 1000⟩, [0, 0, 0])], 5⟩
    let result := execute spec ⟨0, 0, 0, 0, 0, 0, false, none⟩ net
    result.error = none ∧ result.status = some 255 ∧
      ¬ Answered spec ⟨0, 0, 0, 0, 0, 0, false, none⟩ net := by
  refine ⟨rfl, rfl, fun answered => ?_⟩
  obtain ⟨d, is, answer⟩ := answered.answer rfl
  cases is
  simp [answers] at answer

end Netanvil.Dns
