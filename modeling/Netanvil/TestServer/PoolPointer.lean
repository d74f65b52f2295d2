/-
# Handlers that outlive the pool they point to

The connected UDP and DNS loops hand every handler they spawn a raw pointer to the worker's
buffer pool. A loop's pool is dropped with it; the handlers are detached, and are polled as long
as the runtime is. No handler calls the dropped pool exactly if every task that is woken after
that is woken harmlessly (`pool_pointer_iff`). One more datagram is enough to break it.
-/
import Netanvil.TestServer.Udp
import Netanvil.Theory.Trace

namespace Netanvil.TestServer

open Tcp (SocketAddr)
open Theory.Trace Option

inductive Server where
  | udp
  | dns
  deriving DecidableEq

/-- Where the listener loop waits. -/
inductive Listening where
  /-- For a datagram, for 100 ms at most. -/
  | recvFrom
  /-- For a reply to be sent; then a handler is spawned, if the peer is new. -/
  | sendTo (spawns : Option (SocketAddr × SessionMode))

inductive ListenWake where
  | elapsed
  | failed
  | received (peer : SocketAddr) (data : List UInt8)
  | sent

/-- One listener loop with the handlers it has spawned. -/
structure Worker where
  server : Server
  config : UdpConfig
  /-- The runtime runs nothing but this loop, and ends with it. -/
  ownRuntime : Bool
  shutdown : Bool
  /-- `none` once the loop has returned and its pool has been dropped. -/
  listening : Option Listening
  /-- The runtime still polls tasks. -/
  running : Bool
  activeClients : List SocketAddr
  sessions : List (SocketAddr × Session)

inductive WorkerEvent where
  | requestShutdown
  /-- The listener's wait ends; `connects` says whether a connected socket can be made. -/
  | listen (wake : ListenWake) (connects : Bool)
  /-- A task of session `i` is woken. -/
  | wake (i : Nat) (half : Half) (wake : Wake) (luck : Luck)
  /-- A `TestServer` worker has seen the shutdown and slept on. -/
  | stopRuntime

namespace Worker

def new (server : Server) (config : UdpConfig) (ownRuntime : Bool) : Worker :=
  ⟨server, config, ownRuntime, false, some .recvFrom, true, [], []⟩

/-- The head of the listener loop. -/
def listenHead (w : Worker) : Worker :=
  if w.shutdown then { w with listening := none, running := w.running && !w.ownRuntime }
  else { w with listening := some .recvFrom }

def spawn (w : Worker) (peer : SocketAddr) (mode : SessionMode) (connects : Bool) : Worker :=
  if connects then
    { w with
      activeClients := peer :: w.activeClients
      sessions := w.sessions ++ [(peer, .spawn mode)] }
  else w

/-- The modes whose first datagram is answered on the listener socket. -/
def answersFirst : SessionMode → Bool
  | .echo => true
  | .rr _ _ => true
  | _ => false

/-- A datagram on the listener socket: answer it, and spawn a handler for a new peer. -/
def received (w : Worker) (peer : SocketAddr) (data : List UInt8) (connects : Bool) : Worker :=
  match w.server with
  | .udp =>
    if peer ∈ w.activeClients then { w with listening := some (.sendTo none) }
    else if answersFirst (.ofDatagram data) then
      { w with listening := some (.sendTo (some (peer, .ofDatagram data))) }
    else (w.spawn peer (.ofDatagram data) connects).listenHead
  | .dns =>
    if peer ∈ w.activeClients then
      if 12 ≤ data.length then { w with listening := some (.sendTo none) } else w.listenHead
    else if 12 ≤ data.length then { w with listening := some (.sendTo (some (peer, .dns))) }
    else (w.spawn peer .dns connects).listenHead

/-- `udp_echo_loop_connected` and `dns_echo_loop_connected`. -/
def listen (w : Worker) (connects : Bool) : Listening → ListenWake → Option Worker
  | .recvFrom, .elapsed => some w.listenHead
  | .recvFrom, .failed => some w.listenHead
  | .recvFrom, .received peer data => some (w.received peer data connects)
  | .sendTo none, .sent => some w.listenHead
  | .sendTo (some (peer, mode)), .sent => some (w.spawn peer mode connects).listenHead
  | _, _ => none

/-- Session `i` has gone on; one that has returned is no active client any more. -/
def putSession (w : Worker) (i : Nat) (peer : SocketAddr) (session : Session) : Worker :=
  { w with
    activeClients := if session.finished then w.activeClients.erase peer else w.activeClients
    sessions := w.sessions.set i (peer, session) }

def step (w : Worker) : WorkerEvent → Option Worker
  | .requestShutdown => some { w with shutdown := true }
  | .listen wake connects =>
    if w.running then w.listening.bind fun at_ => w.listen connects at_ wake else none
  | .wake i half wake luck =>
    if w.running then
      w.sessions[i]?.bind fun (peer, session) =>
        (session.resume w.config w.shutdown luck half wake).map fun (_, session) =>
          w.putSession i peer session
    else none
  | .stopRuntime => if w.shutdown && w.running then some { w with running := false } else none

/-- The calls a handler makes on the pool when the event happens. -/
def poolUses (w : Worker) : WorkerEvent → List PoolUse
  | .wake i half wake luck =>
    match w.sessions[i]? with
    | some (_, session) =>
      match session.resume w.config w.shutdown luck half wake with
      | some (uses, _) => uses
      | none => []
    | none => []
  | _ => []

end Worker

/-! ## Harmless turns -/

/-- The main task of a session can be woken after shutdown without a call on the pool:
where it has nothing to give back and leaves its loop, and where all it does is to go on to
the next sleep or send. -/
def harmlessMain (config : UdpConfig) (luck : Luck) : SessionMode → Wait → Wake → Bool
  | .echo, .start, _ => true
  | .echo, .recv, .elapsed => true
  | .echo, .recv, .received n =>
    -- the datagram is kept for later
    decide (n ≠ 0) && !dropped config luck &&
      (decide (0 < config.latencyUs) || paced config luck)
  | .echo, .latency, _ => paced config luck
  | .sink, .start, _ => true
  | .sink, .recv, .elapsed => true
  | .dns, .start, _ => true
  | .dns, .recv, .elapsed => true
  | .dns, .send, _ => true
  | .rr _ _, .latency, _ => true
  | .rr _ _, .pacing, _ => true
  | .source _, .latency, _ => true
  | .source _, .pacing, _ => true
  | .bidir _, .latency, _ => true
  | .bidir _, .pacing, _ => true
  | .bidir _, .join, _ => true
  | _, _, _ => false

def harmlessSink : Wait → Wake → Bool
  | .start, _ => true
  | .recv, .elapsed => true
  | _, _ => false

def Session.Harmless (config : UdpConfig) (luck : Luck) (session : Session) :
    Half → Wake → Prop
  | .main, wake => ∀ wait, session.main = some wait →
      harmlessMain config luck session.mode wait wake = true
  | .sink, wake => ∀ wait, session.sink = some wait → harmlessSink wait wake = true

def Worker.Harmless (w : Worker) : WorkerEvent → Prop
  | .wake i half wake luck => ∀ peer session, w.sessions[i]? = some (peer, session) →
      session.Harmless w.config luck half wake
  | _ => True

@[simp] theorem receiveHead_shutdown (luck : Luck) (exit : List PoolUse) :
    receiveHead true luck exit = ⟨exit, none⟩ := by
  simp [receiveHead]

@[simp] theorem sourcePace_uses (config : UdpConfig) (luck : Luck) :
    (sourcePace config luck).uses = [] := by
  unfold sourcePace
  split <;> rfl

@[simp] theorem echoPace_uses (config : UdpConfig) (luck : Luck) :
    (echoPace config luck).uses = [] ↔ paced config luck = true := by
  unfold echoPace
  split <;> simp_all [echoSend]

@[simp] theorem rrReply_uses (config : UdpConfig) (luck : Luck) (errorRate : Option UInt32) :
    (rrReply config luck errorRate).uses = [] := by
  unfold rrReply
  split
  · rfl
  · exact sourcePace_uses config luck

@[simp] theorem after_uses (turn : Turn) (uses : List PoolUse) :
    (turn.after uses).uses = uses ++ turn.uses :=
  rfl

section

variable {config : UdpConfig} {luck : Luck} {wait : Wait} {wake : Wake} {turn : Turn}

attribute [local simp] harmlessMain harmlessSink

theorem handleUdpEcho_harmless (turns : handleUdpEcho config true luck wait wake = some turn) :
    turn.uses = [] ↔ harmlessMain config luck .echo wait wake = true := by
  unfold handleUdpEcho at turns
  split at turns <;> cases turns <;> try (simp [echoSend]; done)
  rename_i n
  -- an empty or dropped datagram goes back at once, another one when it has been copied
  by_cases empty : n = 0
  · simp [empty]
  by_cases drop : dropped config luck = true
  · simp [empty, drop]
  by_cases delayed : 0 < config.latencyUs
  · simp [empty, drop, delayed]
  · simp [empty, drop, delayed]

variable {latencyUs : Option UInt32}

/-- A sending loop that is to stop gives its buffer back as soon as a send ends. -/
theorem sendLoop_harmless {next : Option Wait}
    (turns : sendLoop config luck latencyUs true ⟨[.give], next⟩ wait wake = some turn) :
    turn.uses = [] ↔ wait = .latency ∨ wait = .pacing := by
  unfold sendLoop at turns
  split at turns <;> cases turns <;> simp [sendHead]

theorem bidirSource_harmless {stop sinkDone : Bool}
    (turns : bidirSource config true luck latencyUs stop sinkDone wait wake = some turn) :
    turn.uses = [] ↔ harmlessMain config luck (.bidir latencyUs) wait wake = true := by
  unfold bidirSource at turns
  rw [Bool.true_or] at turns
  split at turns
  · split at turns
    · cases turns
      simp
    · cases turns
  · refine (sendLoop_harmless turns).trans ?_
    cases wait with
    | join => cases turns
    | _ => simp

theorem bidirSink_harmless {stop : Bool} (turns : bidirSink true luck stop wait wake = some turn) :
    turn.uses = [] ↔ harmlessSink wait wake = true := by
  unfold bidirSink at turns
  rw [Bool.true_or] at turns
  split at turns <;> cases turns <;> simp

/-- After shutdown a turn of a main task makes no call on the pool exactly if it is
harmless. -/
theorem mainTurn_harmless {session : Session}
    (turns : session.mainTurn config true luck wait wake = some turn) :
    turn.uses = [] ↔ harmlessMain config luck session.mode wait wake = true := by
  unfold Session.mainTurn at turns
  cases mode : session.mode with
  | echo | bidir latencyUs =>
    rw [mode] at turns
    first | exact handleUdpEcho_harmless turns | exact bidirSource_harmless turns
  | rr latencyUs errorRate | sink | dns =>
    simp only [mode, handleUdpRr, handleUdpSink, handleConnectedDnsClient] at turns
    split at turns <;> cases turns <;> simp
  | source latencyUs =>
    rw [mode] at turns
    refine (sendLoop_harmless turns).trans ?_
    cases wait <;> simp

end

/-- The same for either half of a session. -/
theorem resume_harmless {config : UdpConfig} {luck : Luck} {session session' : Session}
    {half : Half} {wake : Wake} {uses : List PoolUse}
    (resumes : session.resume config true luck half wake = some (uses, session')) :
    uses = [] ↔ session.Harmless config luck half wake := by
  cases half with
  | main | sink =>
    obtain ⟨wait, waits, turns⟩ := bind_eq_some_iff.mp resumes
    obtain ⟨turn, resumed, same⟩ := map_eq_some_iff.mp turns
    cases same
    simp only [Session.Harmless, waits, some.injEq, forall_eq']
    first | exact mainTurn_harmless resumed | exact bidirSink_harmless resumed

/-! ## Whole runs -/

namespace Worker

/-- The loop returns only when it has seen the shutdown flag. -/
def SeenShutdown (w : Worker) : Prop := w.listening = none → w.shutdown = true

theorem seenShutdown_listenHead (w : Worker) : w.listenHead.SeenShutdown := by
  unfold listenHead
  split
  · rename_i requested
    exact fun _ => requested
  · simp [SeenShutdown]

variable {w w' : Worker}

theorem SeenShutdown.step {e : WorkerEvent} (seen : w.SeenShutdown) (taken : w.step e = some w') :
    w'.SeenShutdown := by
  cases e with
  | requestShutdown =>
    cases taken
    exact fun _ => rfl
  | listen wake connects =>
    simp only [Worker.step] at taken
    split at taken
    · obtain ⟨at_, -, listens⟩ := bind_eq_some_iff.mp taken
      unfold listen at listens
      split at listens <;> cases listens
      case h_3 =>
        unfold received
        split
        · split_ifs
          · simp [SeenShutdown]
          · simp [SeenShutdown]
          · exact seenShutdown_listenHead _
        · split_ifs
          · simp [SeenShutdown]
          · exact seenShutdown_listenHead _
          · simp [SeenShutdown]
          · exact seenShutdown_listenHead _
      all_goals exact seenShutdown_listenHead _
    · cases taken
  | wake i half wake luck =>
    simp only [Worker.step] at taken
    split at taken
    · obtain ⟨⟨peer, session⟩, -, taken⟩ := bind_eq_some_iff.mp taken
      obtain ⟨_, -, rfl⟩ := map_eq_some_iff.mp taken
      exact seen
    · cases taken
  | stopRuntime =>
    simp only [Worker.step] at taken
    split at taken <;> cases taken
    exact seen

/-- In a run no handler calls the pool after the loop has returned exactly if every task
woken after that is woken harmlessly. -/
theorem pool_pointer_iff (server : Server) (config : UdpConfig) (ownRuntime : Bool)
    (events : List WorkerEvent) (runs : (exec step (new server config ownRuntime) events).isSome) :
    Allowed step (fun w e => w.listening = none → w.poolUses e = [])
        (new server config ownRuntime) events ↔
      Allowed step (fun w e => w.listening = none → w.Harmless e)
        (new server config ownRuntime) events := by
  have pointwise : ∀ earlier e later, events = earlier ++ e :: later → ∀ w,
      exec step (new server config ownRuntime) earlier = some w → w.listening = none →
        (w.poolUses e = [] ↔ w.Harmless e) := by
    rintro earlier e later rfl w run returned
    have seen : w.SeenShutdown :=
      exec_invariant (I := fun _ w => w.SeenShutdown) (by simp [SeenShutdown, new])
        (fun {_ _ _ _} seen taken => SeenShutdown.step seen taken) run
    obtain ⟨w', -, next⟩ := exec_through runs
    rw [exec_snoc, run, bind_some] at next
    cases e with
    | requestShutdown | listen wake connects | stopRuntime => exact iff_of_true rfl trivial
    | wake i half wake luck =>
      simp only [step] at next
      split at next
      · obtain ⟨⟨peer, session⟩, found, next⟩ := bind_eq_some_iff.mp next
        obtain ⟨⟨uses, session'⟩, resumes, -⟩ := map_eq_some_iff.mp next
        have requested : w.shutdown = true := seen returned
        rw [requested] at resumes
        simp only [poolUses, Harmless, found, requested, resumes, some.injEq, Prod.mk.injEq]
        rw [resume_harmless resumes]
        constructor
        · rintro harmless _ _ ⟨rfl, rfl⟩
          exact harmless
        · intro harmless
          exact harmless peer session ⟨rfl, rfl⟩
      · cases next
  exact forall₅_congr fun earlier e later split w =>
    forall₂_congr (pointwise earlier e later split w)

/-! ### One client -/

def client : SocketAddr := ⟨.v4 0x7f000001, 40000⟩

def calm : Luck := ⟨false, 0, 0, false⟩

/-- A client's first datagram, its handler waiting for the next; then a shutdown, which the
loop sees when its receive times out. -/
def served : List WorkerEvent :=
  [.listen (.received client [1, 2, 3]) true, .listen .sent true, .wake 0 .main .ready calm,
    .requestShutdown, .listen .elapsed true]

/-- If the client is quiet, its handler times out and returns without the pool. -/
theorem pool_pointer_quiet :
    Allowed step (fun w e => w.listening = none → w.poolUses e = []) (new .udp ⟨0, 0, 0⟩ false)
      (served ++ [.wake 0 .main .elapsed calm]) := by
  refine (pool_pointer_iff .udp ⟨0, 0, 0⟩ false _ (by decide)).mpr ?_
  -- only the two turns of the handler say anything
  refine .cons (fun _ => trivial) ?_
  rintro _ ⟨⟩
  refine .cons (fun _ => trivial) ?_
  rintro _ ⟨⟩
  refine .cons (by rintro - _ _ ⟨⟩ _ ⟨⟩; rfl) ?_
  rintro _ ⟨⟩
  refine .cons (fun _ => trivial) ?_
  rintro _ ⟨⟩
  refine .cons (fun _ => trivial) ?_
  rintro _ ⟨⟩
  refine .cons (by rintro - _ _ ⟨⟩ _ ⟨⟩; rfl) fun _ _ => .nil

/-- If it sends once more while the worker still runs, its handler copies the datagram with
buffers of the dropped pool. -/
theorem datagram_after_shutdown :
    ∃ w, exec step (new .udp ⟨0, 0, 0⟩ false) served = some w ∧ w.listening = none ∧
      (w.step (.wake 0 .main (.received 3) calm)).isSome ∧
      w.poolUses (.wake 0 .main (.received 3) calm) = [.take, .give] :=
  ⟨_, rfl, rfl, rfl, rfl⟩

end Worker

end Netanvil.TestServer
