/-
# A command and the reply to it

Each connection has a `Wire`: the commands written on it, the replies the server has sent,
one for each command and in order, and how many of their bytes have been read. A read that has
finished has read what `readResponse` makes of the unread bytes that have arrived; any
operation may fail at any time.

Only quiet connections are in the pool, and a task has at most one command outstanding
(`Owes`), so what it reads is the reply to its own command: `reply_pairing`.
-/
import Netanvil.Redis.Resp
import Netanvil.Theory.Pointwise
import Netanvil.Theory.Trace

namespace Netanvil.Redis

open Theory Theory.Trace RedisExecutor List Option

/-- A well-formed reply. -/
structure Reply (fromUtf8 : List UInt8 → Option String) where
  bytes : List UInt8
  value : RespValue
  encodes : Encodes fromUtf8 bytes value

/-- What has gone over one connection. -/
structure Wire (fromUtf8 : List UInt8 → Option String) where
  commands : List (List UInt8)
  /-- The server's replies, to the first commands in order. -/
  replies : List (Reply fromUtf8)
  /-- How many bytes of the replies have been read. -/
  consumed : Nat

variable {fromUtf8 : List UInt8 → Option String}

def replyBytes (replies : List (Reply fromUtf8)) : List UInt8 :=
  replies.flatMap fun reply => reply.bytes

@[simp] theorem replyBytes_append (replies more : List (Reply fromUtf8)) :
    replyBytes (replies ++ more) = replyBytes replies ++ replyBytes more :=
  flatMap_append

@[simp] theorem replyBytes_singleton (reply : Reply fromUtf8) :
    replyBytes [reply] = reply.bytes := by
  simp [replyBytes]

namespace Wire

def fresh : Wire fromUtf8 := ⟨[], [], 0⟩

/-- Bytes sent by the server and not yet read. -/
def unread (w : Wire fromUtf8) : List UInt8 := (replyBytes w.replies).drop w.consumed

def write (w : Wire fromUtf8) (command : List UInt8) : Wire fromUtf8 :=
  { w with commands := w.commands ++ [command] }

/-- The server answers the first command it has not answered. -/
def answer (w : Wire fromUtf8) (reply : Reply fromUtf8) : Option (Wire fromUtf8) :=
  if w.replies.length < w.commands.length then some { w with replies := w.replies ++ [reply] }
  else none

/-- A finished read, with so many of the unread bytes there. -/
def read (w : Wire fromUtf8) (maxBytes arrived : Nat) :
    Option (RespValue × Nat × Wire fromUtf8) :=
  match readResponse fromUtf8 maxBytes (w.unread.take arrived) with
  | .done value total rest =>
    some (value, total,
      { w with consumed := w.consumed + ((w.unread.take arrived).length - rest.length) })
  | _ => none

end Wire

/-! ## The core and its wires -/

/-- Where a wire is after an operation of its task has completed. -/
inductive Fate (fromUtf8 : List UInt8 → Option String) where
  | held (wire : Wire fromUtf8)
  | pooled (wire : Wire fromUtf8)
  | closed

/-- The awaited operation completes: its outcome, and where the wire is then. A connection
whose set-up is refused is closed with the future that holds it. -/
def complete (arrived : Nat) : Await → Option (Wire fromUtf8) →
    Option (Except String (RespValue × Nat) × Fate fromUtf8)
  | .connect, none => some (.ok (.array [], 0), .held .fresh)
  | .setUpWrite _ command args _, some wire =>
    some (.ok (.array [], 0), .held (wire.write (encodeCommand command args)))
  | .setUpRead _ _ maxBytes _, some wire =>
    (wire.read maxBytes arrived).map fun (value, total, wire) =>
      (.ok (value, total),
        match value with
        | .error _ => .closed
        | _ => .held wire)
  | .write _ bytes, some wire => some (.ok (.array [], 0), .held (wire.write bytes))
  | .read _ maxBytes, some wire =>
    (wire.read maxBytes arrived).map fun (value, total, wire) =>
      (.ok (value, total), .pooled wire)
  | _, _ => none

structure Wired (fromUtf8 : List UInt8 → Option String) where
  core : Core
  /-- The wires of the pooled connections. -/
  pool : List (Wire fromUtf8)
  /-- The wire of the connection each task holds, if it holds one. -/
  tasks : List (Option (Wire fromUtf8))

inductive WireEvent (fromUtf8 : List UInt8 → Option String) where
  | execute (spec : RedisRequestSpec)
  /-- The operation task `i` awaits completes, with so many unread bytes there. -/
  | completes (i arrived : Nat)
  | fails (i : Nat) (error : String)
  | timeout (i : Nat)
  /-- The server answers on the connection of task `i`. -/
  | answer (i : Nat) (reply : Reply fromUtf8)
  /-- The server answers on a pooled connection. -/
  | answerIdle (k : Nat) (reply : Reply fromUtf8)

namespace Wired

def new (password : Option String) (db : Option UInt16) : Wired fromUtf8 :=
  ⟨.new (.withAuth password db), [], []⟩

/-- Task `i` goes on, and its wire is where `fate` says. -/
def settle (s : Wired fromUtf8) (i : Nat) (core : Core) : Fate fromUtf8 → Wired fromUtf8
  | .held wire => ⟨core, s.pool, s.tasks.set i (some wire)⟩
  | .pooled wire => ⟨core, s.pool ++ [wire], s.tasks.set i none⟩
  | .closed => ⟨core, s.pool, s.tasks.set i none⟩

def step (s : Wired fromUtf8) : WireEvent fromUtf8 → Option (Wired fromUtf8)
  | .execute spec =>
    (s.core.step (.execute spec)).map fun core =>
      ⟨core, s.pool.tail, s.tasks ++ [s.pool.head?]⟩
  | .completes i arrived =>
    match s.core.tasks[i]?, s.tasks[i]? with
    | some ⟨_, .suspended at_⟩, some held =>
      (complete arrived at_ held).bind fun (outcome, fate) =>
        (s.core.step (.resume i outcome)).map fun core => s.settle i core fate
    | _, _ => none
  | .fails i error =>
    (s.core.step (.resume i (.error error))).map fun core => s.settle i core .closed
  | .timeout i => (s.core.step (.timeout i)).map fun core => s.settle i core .closed
  | .answer i reply =>
    match s.tasks[i]? with
    | some (some wire) =>
      (wire.answer reply).map fun wire => { s with tasks := s.tasks.set i (some wire) }
    | _ => none
  | .answerIdle k reply =>
    match s.pool[k]? with
    | some wire => (wire.answer reply).map fun wire => { s with pool := s.pool.set k wire }
    | none => none

end Wired

/-! ## Wires between commands, and with one command outstanding -/

namespace Wire

/-- Every command has been answered, every reply read. -/
structure Quiet (w : Wire fromUtf8) : Prop where
  answered : w.replies.length = w.commands.length
  read : w.consumed = (replyBytes w.replies).length

/-- All but the last command are settled; the reply to that one has not been read. -/
structure Awaits (w : Wire fromUtf8) (command : List UInt8) (earlier : List (List UInt8))
    (answered : List (Reply fromUtf8)) : Prop where
  last : w.commands = earlier ++ [command]
  settled : answered.length = earlier.length
  read : w.consumed = (replyBytes answered).length
  replies : w.replies = answered ∨ ∃ reply, w.replies = answered ++ [reply]

variable {w : Wire fromUtf8}

theorem Quiet.unread (quiet : w.Quiet) : w.unread = [] := by
  unfold Wire.unread
  rw [quiet.read, drop_length]

theorem Quiet.answer (quiet : w.Quiet) (reply : Reply fromUtf8) : w.answer reply = none :=
  if_neg (by rw [quiet.answered]; exact Nat.lt_irrefl _)

theorem Quiet.write (quiet : w.Quiet) (command : List UInt8) :
    (w.write command).Awaits command w.commands w.replies :=
  ⟨rfl, quiet.answered, quiet.read, .inl rfl⟩

variable {earlier : List (List UInt8)} {answered : List (Reply fromUtf8)}

theorem Awaits.answer {w' : Wire fromUtf8} {command : List UInt8}
    (awaits : w.Awaits command earlier answered) {reply : Reply fromUtf8}
    (answers : w.answer reply = some w') :
    w'.Awaits command earlier answered := by
  unfold Wire.answer at answers
  split at answers
  · rename_i behind
    cases answers
    refine ⟨awaits.last, awaits.settled, awaits.read, .inr ⟨reply, ?_⟩⟩
    rcases awaits.replies with none | ⟨early, some⟩
    · exact congrArg (· ++ [reply]) none
    · -- with its reply there, the last command is not behind
      have settled := awaits.settled
      rw [awaits.last, some] at behind
      simp only [length_append, length_singleton] at behind
      omega
  · cases answers

/-- A finished read has taken the reply to the outstanding command, and leaves the wire
quiet. -/
theorem Awaits.finish {w' : Wire fromUtf8} {command : List UInt8}
    (awaits : w.Awaits command earlier answered) {maxBytes arrived total : Nat} {value : RespValue}
    (finished : w.read maxBytes arrived = some (value, total, w')) :
    w'.Quiet ∧ ∃ reply, w.replies = answered ++ [reply] ∧ value = reply.value ∧
      total = reply.bytes.length := by
  unfold Wire.read at finished
  cases result : readResponse fromUtf8 maxBytes (w.unread.take arrived) with
  | pending | failed message => rw [result] at finished; cases finished
  | done value' total' rest =>
    rw [result] at finished
    cases finished
    rcases awaits.replies with none | ⟨reply, some⟩
    · -- the reply has not been sent, so there is nothing to read
      have nothing : w.unread = [] := by
        unfold unread
        rw [none, awaits.read, drop_length]
      rw [nothing, take_nil] at result
      exact absurd result (readResponse_nil _ _ _ _)
    · have here : w.unread = reply.bytes := by
        unfold unread
        rw [some, awaits.read, replyBytes_append, drop_left, replyBytes_singleton]
      rw [here] at result
      obtain ⟨whole, same, length, nothing⟩ :=
        readResponse_whole reply.encodes (List.take_prefix _ _) result
      refine ⟨⟨?_, ?_⟩, reply, some, same, length⟩
      · simp only [some, awaits.last, length_append, awaits.settled, length_singleton]
      · simp only [here, whole, nothing, some, awaits.read, replyBytes_append,
          replyBytes_singleton, length_append, length_nil, Nat.sub_zero]

end Wire

/-! ## What every task owes its connection -/

/-- The wire a task holds, by where it waits. -/
def Owes (task : Task) (held : Option (Wire fromUtf8)) : Prop :=
  match task.phase with
  | .finished _ => held = none
  | .suspended .connect => held = none
  | .suspended (.setUpWrite _ _ _ _) => ∃ wire, held = some wire ∧ wire.Quiet
  | .suspended (.setUpRead _ _ _ _) =>
    ∃ wire command earlier answered, held = some wire ∧ wire.Awaits command earlier answered
  | .suspended (.write _ bytes) =>
    bytes = encodeCommand task.spec.command task.spec.args ∧ ∃ wire, held = some wire ∧ wire.Quiet
  | .suspended (.read _ _) =>
    ∃ wire earlier answered, held = some wire ∧
      wire.Awaits (encodeCommand task.spec.command task.spec.args) earlier answered

/-- The server can only answer an outstanding command. -/
theorem Owes.answer {task : Task} {wire wire' : Wire fromUtf8} {reply : Reply fromUtf8}
    (owes : Owes task (some wire)) (answers : wire.answer reply = some wire') :
    Owes task (some wire') := by
  have answered : wire.Quiet → False := by
    intro quiet
    rw [quiet.answer] at answers
    cases answers
  obtain ⟨spec, phase⟩ := task
  cases phase with
  | finished result => cases owes
  | suspended at_ =>
    cases at_ with
    | connect => cases owes
    | setUpWrite conn command args rest =>
      obtain ⟨_, ⟨⟩, quiet⟩ := owes
      exact (answered quiet).elim
    | setUpRead conn command maxBytes rest =>
      obtain ⟨_, command, earlier, before, ⟨⟩, awaits⟩ := owes
      exact ⟨wire', command, earlier, before, rfl, awaits.answer answers⟩
    | write conn bytes =>
      obtain ⟨_, _, ⟨⟩, quiet⟩ := owes
      exact (answered quiet).elim
    | read conn maxBytes =>
      obtain ⟨_, earlier, before, ⟨⟩, awaits⟩ := owes
      exact ⟨wire', earlier, before, rfl, awaits.answer answers⟩

/-- A poll leaves the task owing what its next wait needs; a wire it gave back is quiet. -/
def Fate.Keeps (spec : RedisRequestSpec) (poll : Poll) : Fate fromUtf8 → Prop
  | .held wire => Owes (Task.polled spec poll) (some wire)
  | .pooled wire => Owes (Task.polled spec poll) (none : Option (Wire fromUtf8)) ∧ wire.Quiet
  | .closed => Owes (Task.polled spec poll) (none : Option (Wire fromUtf8))

/-- A quiet wire is what every step of setting up a connection starts from. -/
theorem owes_setUp (spec : RedisRequestSpec) (conn : PooledConnection)
    (commands : List (String × List String)) {wire : Wire fromUtf8} (quiet : wire.Quiet) :
    Owes (Task.polled spec (setUp spec conn commands)) (some wire) := by
  cases commands with
  | nil => exact ⟨rfl, wire, rfl, quiet⟩
  | cons command rest => exact ⟨wire, rfl, quiet⟩

variable {spec : RedisRequestSpec} {held : Option (Wire fromUtf8)}
  {outcome : Except String (RespValue × Nat)}

/-- The await completes: the wire is where the next poll needs it. -/
theorem complete_keeps (x : RedisExecutor) {at_ : Await} (owes : Owes ⟨spec, .suspended at_⟩ held)
    {arrived : Nat} {fate : Fate fromUtf8}
    (completes : complete arrived at_ held = some (outcome, fate)) :
    fate.Keeps spec (x.resume spec at_ outcome).2 := by
  cases at_ with
  | connect =>
    cases owes
    cases completes
    exact owes_setUp spec _ _ ⟨rfl, rfl⟩
  | setUpWrite conn command args rest =>
    obtain ⟨wire, rfl, quiet⟩ := owes
    cases completes
    exact ⟨_, _, _, _, rfl, quiet.write _⟩
  | setUpRead conn command maxBytes rest =>
    obtain ⟨wire, sent, earlier, answered, rfl, awaits⟩ := owes
    obtain ⟨⟨value, total, read⟩, finished, same⟩ := map_eq_some_iff.mp completes
    cases same
    have quiet := (awaits.finish finished).1
    cases value with
    | error message => rfl
    | simpleString text | integer n | bulkString data | array elements =>
      exact owes_setUp spec _ _ quiet
  | write conn bytes =>
    obtain ⟨own, wire, rfl, quiet⟩ := owes
    have own : bytes = encodeCommand spec.command spec.args := own
    cases own
    cases completes
    exact ⟨_, _, _, rfl, quiet.write _⟩
  | read conn maxBytes =>
    obtain ⟨wire, earlier, answered, rfl, awaits⟩ := owes
    obtain ⟨⟨value, total, read⟩, finished, same⟩ := map_eq_some_iff.mp completes
    cases same
    exact ⟨rfl, (awaits.finish finished).1⟩

/-- Connections an operation gives back to the pool. -/
def Fate.returned : Fate fromUtf8 → Nat
  | .held _ => 0
  | .pooled _ => 1
  | .closed => 0

/-! ## Whole runs -/

namespace Wired

/-- Quiet wires in the pool, one for each connection, and every task owing what its wait
needs. -/
structure Paired (s : Wired fromUtf8) : Prop where
  idle : ∀ wire ∈ s.pool, wire.Quiet
  count : s.pool.length = s.core.executor.pool.length
  tasks : Forall₂ Owes s.core.tasks s.tasks

variable {s s' : Wired fromUtf8} {spec : RedisRequestSpec}

theorem Paired.execute (paired : s.Paired) (taken : s.step (.execute spec) = some s') :
    s'.Paired := by
  simp only [step] at taken
  obtain ⟨core, stepped, rfl⟩ := map_eq_some_iff.mp taken
  have core_eq : core = ⟨(s.core.executor.start spec).1,
      s.core.tasks ++ [Task.polled spec (s.core.executor.start spec).2]⟩ :=
    (some.inj stepped).symm
  rw [core_eq]
  have count := paired.count
  -- a pooled connection comes with its quiet wire; otherwise there is neither
  cases pool : s.pool with
  | nil =>
    have none : s.core.executor.pool = [] :=
      length_eq_zero_iff.mp (by rw [← count, pool]; rfl)
    have opens : s.core.executor.start spec = (s.core.executor, .pending .connect) := by
      simp only [start, none]
    refine ⟨by simp, ?_, ?_⟩
    · simp [opens, none]
    · simp only [opens]
      exact rel_append paired.tasks (.cons rfl .nil)
  | cons wire rest =>
    obtain ⟨conn, conns, some⟩ : ∃ conn conns, s.core.executor.pool = conn :: conns :=
      exists_cons_of_length_eq_add_one (by rw [← count, pool]; rfl)
    have reuses : s.core.executor.start spec =
        ({ s.core.executor with pool := conns }, useConnection spec conn) := by
      simp only [start, some]
    rw [pool, some] at count
    have quiet : wire.Quiet := paired.idle wire (by simp [pool])
    refine ⟨?_, ?_, ?_⟩
    · intro other member
      exact paired.idle other (by rw [pool]; exact mem_cons_of_mem _ member)
    · rw [reuses]
      exact Nat.succ.inj count
    · simp only [reuses]
      exact rel_append paired.tasks (.cons ⟨rfl, wire, rfl, quiet⟩ .nil)

/-- Task `i` has gone on: its wire is where it needs it. -/
theorem Paired.settle (paired : s.Paired) (i : Nat) {executor : RedisExecutor} {poll : Poll}
    {fate : Fate fromUtf8} (keeps : fate.Keeps spec poll)
    (pool : executor.pool.length = s.core.executor.pool.length + fate.returned) :
    (s.settle i ⟨executor, s.core.tasks.set i (Task.polled spec poll)⟩ fate).Paired := by
  have count := paired.count
  cases fate with
  | held wire | closed =>
    exact ⟨paired.idle, count.trans pool.symm, forall₂_set paired.tasks i keeps⟩
  | pooled wire =>
    refine ⟨?_, ?_, forall₂_set paired.tasks i keeps.1⟩
    · intro other member
      rcases mem_append.mp member with old | new
      · exact paired.idle other old
      · exact mem_singleton.mp new ▸ keeps.2
    · simp only [Wired.settle, length_append, length_singleton, count]
      exact pool.symm

/-- What a completed operation does, with the guards it needs. -/
theorem step_completes {i arrived : Nat} (taken : s.step (.completes i arrived) = some s') :
    ∃ spec at_ held outcome fate, s.core.tasks[i]? = some ⟨spec, .suspended at_⟩ ∧
      s.tasks[i]? = some held ∧ complete arrived at_ held = some (outcome, fate) ∧
      s' = s.settle i ⟨(s.core.executor.resume spec at_ outcome).1,
        s.core.tasks.set i (Task.polled spec (s.core.executor.resume spec at_ outcome).2)⟩
        fate := by
  simp only [step] at taken
  split at taken
  · rename_i spec at_ held here own
    obtain ⟨⟨outcome, fate⟩, completes, taken⟩ := bind_eq_some_iff.mp taken
    obtain ⟨core, stepped, rfl⟩ := map_eq_some_iff.mp taken
    simp only [Core.step, here, some.injEq] at stepped
    exact ⟨spec, at_, held, outcome, fate, here, own, completes, by rw [← stepped]⟩
  · cases taken

theorem Paired.step {e : WireEvent fromUtf8} (paired : s.Paired) (taken : s.step e = some s') :
    s'.Paired := by
  cases e with
  | execute spec => exact paired.execute taken
  | completes i arrived =>
    obtain ⟨spec, at_, held, outcome, fate, here, own, completes, rfl⟩ := step_completes taken
    have owes := forall₂_getElem? paired.tasks here own
    refine paired.settle i (complete_keeps _ owes completes) ?_
    cases at_ with
    | connect | setUpWrite conn command args rest | write conn bytes =>
      cases held <;> cases completes; rfl
    | setUpRead conn command maxBytes rest | read conn maxBytes =>
      cases held with
      | none => cases completes
      | some wire =>
        obtain ⟨⟨value, total, read⟩, -, same⟩ := map_eq_some_iff.mp completes
        cases same
        cases value <;> simp [resume, Fate.returned]
  | fails i error =>
    obtain ⟨core, stepped, rfl⟩ := map_eq_some_iff.mp taken
    obtain ⟨_, ⟨⟩, _⟩ | ⟨_, _, spec, at_, ⟨⟩, here, rfl⟩ | ⟨_, _, _, ⟨⟩, _⟩ :=
      Core.step_cases stepped
    -- a failed operation ends the request and returns nothing
    cases at_ <;> exact paired.settle i rfl rfl
  | timeout i =>
    obtain ⟨core, stepped, rfl⟩ := map_eq_some_iff.mp taken
    obtain ⟨_, ⟨⟩, _⟩ | ⟨_, _, _, _, ⟨⟩, _⟩ | ⟨_, spec, at_, ⟨⟩, here, rfl⟩ :=
      Core.step_cases stepped
    exact ⟨paired.idle, paired.count, forall₂_set paired.tasks i rfl⟩
  | answer i reply =>
    simp only [Wired.step] at taken
    split at taken
    · rename_i wire own
      obtain ⟨wire', answers, rfl⟩ := map_eq_some_iff.mp taken
      refine ⟨paired.idle, paired.count, forall₂_set_right paired.tasks i ?_⟩
      intro task here
      exact (forall₂_getElem? paired.tasks here own).answer answers
    · cases taken
  | answerIdle k reply =>
    simp only [Wired.step] at taken
    split at taken
    · rename_i wire here
      rw [(paired.idle wire (mem_of_getElem? here)).answer] at taken
      cases taken
    · cases taken

/-- In every run, whatever fails and whichever requests time out: every connection in the
pool has its commands answered and its replies read, and what a request reports is the
reply to its own command. -/
theorem reply_pairing (password : Option String) (db : Option UInt16)
    (events : List (WireEvent fromUtf8)) (s : Wired fromUtf8)
    (run : exec step (new password db) events = some s) :
    (s.pool.length = s.core.executor.pool.length ∧
      ∀ wire ∈ s.pool, wire.unread = [] ∧ wire.replies.length = wire.commands.length) ∧
    ∀ i arrived spec conn maxBytes s',
      s.core.tasks[i]? = some ⟨spec, .suspended (.read conn maxBytes)⟩ →
      s.step (.completes i arrived) = some s' →
      ∃ wire earlier answered reply, s.tasks[i]? = some (some wire) ∧
        wire.commands = earlier ++ [encodeCommand spec.command spec.args] ∧
        wire.replies = answered ++ [reply] ∧ answered.length = earlier.length ∧
        s'.core.tasks[i]? = some ⟨spec, .finished (executionResult spec (some (.ok
          ⟨reply.bytes.length, (statusOf reply.value).1, (statusOf reply.value).2⟩)))⟩ := by
  have paired : s.Paired :=
    exec_invariant (I := fun _ s => s.Paired) ⟨by simp [new], rfl, .nil⟩
      (fun {_ _ _ _} paired taken => Paired.step paired taken) run
  refine ⟨⟨paired.count, fun wire member => ?_⟩, ?_⟩
  · have quiet := paired.idle wire member
    exact ⟨quiet.unread, quiet.answered⟩
  · intro i arrived spec conn maxBytes s' here taken
    obtain ⟨_, _, held, outcome, fate, found, own, completes, rfl⟩ := step_completes taken
    cases here.symm.trans found
    obtain ⟨wire, earlier, answered, rfl, awaits⟩ := forall₂_getElem? paired.tasks here own
    obtain ⟨⟨value, total, read⟩, finished, same⟩ := map_eq_some_iff.mp completes
    cases same
    obtain ⟨-, reply, replies, rfl, rfl⟩ := awaits.finish finished
    refine ⟨wire, earlier, answered, reply, own, awaits.last, replies, awaits.settled, ?_⟩
    exact List.getElem?_set_self (List.getElem?_eq_some_iff.mp here).1

/-- Text of one byte a character. -/
def latin (bytes : List UInt8) : Option String :=
  some (String.ofList (bytes.map fun byte => Char.ofNat byte.toNat))

def pong : Reply latin :=
  ⟨43 :: [80, 79, 78, 71] ++ crlf, .simpleString "PONG",
    .simpleString _ _ (by decide) (by decide)⟩

def ping : RedisRequestSpec := ⟨⟨.v4 0x7f000001, 6379⟩, "PING", []⟩

/-- A `PING` that is answered gives its connection back. A second one takes it, and a third opens
one of its own and times out. -/
def pings : List (WireEvent latin) :=
  [.execute ping, .completes 0 0, .completes 0 0, .answer 0 pong, .completes 0 7, .execute ping,
    .execute ping, .completes 2 0, .timeout 2, .completes 1 0, .answer 1 pong]

/-- The reply to the second is read once all of it is there. -/
theorem reply_pairing_ping :
    ∃ s s', exec step (new none none) pings = some s ∧
      s.step (.completes 1 6) = none ∧ s.step (.completes 1 7) = some s' ∧
      ∃ reply : Reply latin, s'.core.tasks[1]? = some ⟨ping, .finished (executionResult ping (some
        (.ok ⟨reply.bytes.length, (statusOf reply.value).1, (statusOf reply.value).2⟩)))⟩ := by
  have run : exec step (new none none) pings = some _ := rfl
  obtain ⟨wire, earlier, answered, reply, -, -, -, -, reported⟩ :=
    (reply_pairing none none _ _ run).2 1 7 ping _ _ _ rfl rfl
  exact ⟨_, _, run, rfl, rfl, reply, reported⟩

end Wired

end Netanvil.Redis
