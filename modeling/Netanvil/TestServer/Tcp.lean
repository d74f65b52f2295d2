/-
# The test server's side of one TCP connection

`handleTcpProtocol` reads the first bytes of a connection, and then runs the loop of the mode
its header asks for, or echoes. Each handler is a program over the awaited socket operations
(`Op`). The handlers are written over any type `β` of bytes, through a `Marking` of it: a byte
the server makes may remember the request bytes it was made for. Metrics are left out.
-/
import Netanvil.TestServer.Protocol
import Netanvil.Theory.Rounds

namespace Netanvil.TestServer

open Theory List

/-- Bytes that may carry more than their value. -/
structure Marking (β : Type) where
  value : β → UInt8
  /-- A byte of the server's own, sent in answer to the bytes read before. -/
  answer : List β → UInt8 → β
  value_answer : ∀ asked byte, value (answer asked byte) = byte

def plain : Marking UInt8 := ⟨id, fun _ byte => byte, fun _ _ => rfl⟩

/-- An awaited operation of a connection's handler. -/
inductive Op (β : Type) where
  /-- One read into a pooled buffer, which always has room. -/
  | read
  | readExact (length : Nat)
  | writeAll (bytes : List β)
  | sleep (us : Nat)

/-- `Vec::truncate` or `Vec::resize` of a buffer out of the pool. -/
def sized (pooled : List UInt8) (size : Nat) : List UInt8 :=
  pooled.take size ++ replicate (size - pooled.length) 0xAA

theorem length_sized (pooled : List UInt8) (size : Nat) : (sized pooled size).length = size := by
  simp only [sized, length_append, length_take, length_replicate]
  omega

/-- The locals of `handle_rr`: its arguments, its flag `first` and the pooled buffer its
responses are cut from. -/
structure RrLoop (β : Type) where
  requestSize : UInt16
  responseSize : UInt32
  latencyUs : Option UInt32
  errorRate : Option UInt32
  leftover : List β
  first : Bool
  pooled : List UInt8

/-- The loops a connection can be in. -/
inductive Loop (β : Type) where
  | rr (loop : RrLoop β)
  | sink
  | source (chunkSize : UInt32) (latencyUs : Option UInt32) (pooled : List UInt8)
  | echo

/-- What a handler does up to its loop, or from one iteration to the next. An operation
gives `none` if it fails; a read gives the bytes read, none of them at the end of the
stream. -/
abbrev Handler (β : Type) : Type := Routine (Op β) (Option (List β)) (Loop β)

variable {β : Type}

/-- Go on if the operation succeeded; every handler gives up at the first error. -/
def Handler.andThen (op : Op β) (next : List β → Handler β) : Handler β :=
  .await op fun
    | none => .stop
    | some bytes => next bytes

def sleepFor (latencyUs : Option UInt32) (next : Handler β) : Handler β :=
  match latencyUs with
  | some us => .await (.sleep us.toNat) fun _ => next
  | none => next

/-- The error injection's draw from `0..10000` is below the rate. -/
def injected (errorRate : Option UInt32) (draw : Fin 10000) : Bool :=
  match errorRate with
  | some rate => decide (draw.val < rate.toNat)
  | none => false

namespace RrLoop

/-- Read one request. Bytes that came with the header count for the first one only, and
what they hold beyond it is dropped. -/
def readRequest (loop : RrLoop β) (next : List β → Handler β) : Handler β :=
  if 0 < loop.requestSize.toNat then
    if loop.first && !loop.leftover.isEmpty then
      if loop.leftover.length < loop.requestSize.toNat then
        .andThen (.readExact (loop.requestSize.toNat - loop.leftover.length)) fun bytes =>
          next (loop.leftover ++ bytes)
      else next (loop.leftover.take loop.requestSize.toNat)
    else .andThen (.readExact loop.requestSize.toNat) next
  else next []

/-- Error injection: half a response, then close. -/
def failWith (marking : Marking β) (loop : RrLoop β) (asked : List β) : Handler β :=
  if 0 < loop.responseSize.toNat / 2 then
    .await (.writeAll ((replicate (loop.responseSize.toNat / 2) 0xEE).map
      (marking.answer asked))) fun _ => .stop
  else .stop

def respond (marking : Marking β) (loop : RrLoop β) (asked : List β) (next : Handler β) :
    Handler β :=
  if 0 < loop.responseSize.toNat then
    .andThen (.writeAll ((sized loop.pooled loop.responseSize.toNat).map
      (marking.answer asked))) fun _ => next
  else next

/-- What follows the request: an injected error, or the latency and the response. -/
def reply (marking : Marking β) (loop : RrLoop β) (draw : Fin 10000) (next : Handler β)
    (asked : List β) : Handler β :=
  if injected loop.errorRate draw then loop.failWith marking asked
  else sleepFor loop.latencyUs (loop.respond marking asked next)

/-- A request and its response. -/
def exchange (marking : Marking β) (loop : RrLoop β) (draw : Fin 10000) (next : Handler β) :
    Handler β :=
  loop.readRequest (loop.reply marking draw next)

end RrLoop

/-- Write back what was read, then the echo loop. -/
def echoBack (bytes : List β) : Handler β :=
  .andThen (.writeAll bytes) fun _ => .again .echo

/-- One turn of a handler's loop. -/
def iteration (marking : Marking β) (draw : Fin 10000) : Loop β → Handler β
  | .rr loop => loop.exchange marking draw (.again (.rr { loop with first := false }))
  | .sink => .andThen .read fun
      | [] => .stop
      | _ :: _ => .again .sink
  | .source chunkSize latencyUs pooled =>
    sleepFor latencyUs
      (.andThen (.writeAll ((sized pooled chunkSize.toNat).map (marking.answer []))) fun _ =>
        .again (.source chunkSize latencyUs pooled))
  | .echo => .andThen .read fun
      | [] => .stop
      | byte :: bytes => echoBack (byte :: bytes)

/-! ## The mode handlers -/

def handleRr (header : ParsedHeader) (leftover : List β) (pooled : List UInt8) : Handler β :=
  .again (.rr ⟨header.requestSize, header.responseSize, header.latencyUs, header.errorRate,
    leftover, true, pooled⟩)

/-- One exchange, then close. -/
def handleCrr (marking : Marking β) (header : ParsedHeader) (leftover : List β)
    (pooled : List UInt8) (draw : Fin 10000) : Handler β :=
  RrLoop.exchange marking ⟨header.requestSize, header.responseSize, header.latencyUs,
    header.errorRate, leftover, true, pooled⟩ draw .stop

def handleSink : Handler β := .again .sink

def handleSource (header : ParsedHeader) (pooled : List UInt8) : Handler β :=
  .again (.source header.responseSize header.latencyUs pooled)

/-- As `handle_rr`, without latency and errors. -/
def handleBidir (header : ParsedHeader) (leftover : List β) (pooled : List UInt8) : Handler β :=
  handleRr { header with latencyUs := none, errorRate := none } leftover pooled

def dispatchProtocol (marking : Marking β) (header : ParsedHeader) (leftover : List β)
    (pooled : List UInt8) (draw : Fin 10000) : Handler β :=
  match header.mode with
  | .rr => handleRr header leftover pooled
  | .sink => handleSink
  | .source => handleSource header pooled
  | .bidir => handleBidir header leftover pooled
  | .crr => handleCrr marking header leftover pooled draw

/-! ## Protocol detection -/

/-- Read on until there are `needed` bytes. -/
def readHeaderBytes (bytes : List β) (needed : Nat) (next : List β → Handler β) : Handler β :=
  if bytes.length < needed then
    .andThen (.readExact (needed - bytes.length)) fun more => next (bytes ++ more)
  else next bytes

/-- The header is there as far as its length byte says. -/
def parsed (marking : Marking β) (pooled : List UInt8) (draw : Fin 10000) (headerLen : Nat)
    (bytes : List β) : Handler β :=
  match parseHeader ((bytes.take headerLen).map marking.value) with
  | some header => dispatchProtocol marking header (bytes.drop headerLen) pooled draw
  | none => echoBack bytes

/-- The first two bytes are there. -/
def sentinelSeen (marking : Marking β) (pooled : List UInt8) (draw : Fin 10000) :
    List β → Handler β
  | first :: second :: bytes =>
    -- the second byte is the header's length
    if (marking.value second).toNat < headerMin then echoBack (first :: second :: bytes)
    else readHeaderBytes (first :: second :: bytes) (marking.value second).toNat
      (parsed marking pooled draw (marking.value second).toNat)
  | _ => .stop

/-- What is done with the first bytes of a connection. -/
def detect (marking : Marking β) (pooled : List UInt8) (draw : Fin 10000) :
    List β → Handler β
  | [] => .stop
  | first :: bytes =>
    if isProtocolSentinel (marking.value first) then
      readHeaderBytes (first :: bytes) 2 (sentinelSeen marking pooled draw)
    else echoBack (first :: bytes)

/-- `pooled` is the buffer the pool hands out and `draw` the error draw of a `crr`. -/
def handleTcpProtocol (marking : Marking β) (pooled : List UInt8) (draw : Fin 10000) :
    Handler β :=
  .andThen .read (detect marking pooled draw)

end Netanvil.TestServer
