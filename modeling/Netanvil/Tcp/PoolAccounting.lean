/-
# The pool's books over every interleaving

One core runs any number of `execute` tasks. The elapse of a request timeout drops the inner
future where it stands: no code of `do_execute` runs, so nothing tells the pool. In every
reachable state `active` is the number of suspended futures plus the number of timeouts so far
(`active_eq_held_add_timeouts`), so the books are right precisely when no timeout elapsed
(`poolAccounted_iff_no_timeout`).
-/
import Netanvil.Theory.Trace
import Netanvil.Tcp.Executor

namespace Netanvil.Tcp

open Theory.Trace Netanvil.Types List TcpExecutor

/-! ## One core -/

inductive Phase where
  | suspended (at_ : Await)
  | finished (result : ExecutionResult)

structure Task where
  spec : TcpRequestSpec
  phase : Phase

/-- The task after a poll. -/
def Task.polled (spec : TcpRequestSpec) : Poll → Task
  | .pending at_ => ⟨spec, .suspended at_⟩
  | .ready result => ⟨spec, .finished (executionResult spec (some result))⟩

/-- A live `do_execute` future holds, or is opening, one connection at each of its
awaits. -/
def Task.holds (t : Task) : Bool :=
  match t.phase with
  | .suspended _ => true
  | .finished _ => false

structure Core where
  executor : TcpExecutor
  tasks : List Task

inductive Event where
  /-- A new `execute` call and the first poll of its future. -/
  | execute (spec : TcpRequestSpec) (draws : Draws)
  /-- The awaited operation of task `i` completed. -/
  | resume (i : Nat) (outcome : Except String Nat) (draws : Draws)
  /-- The request timeout of task `i` elapsed: its inner future is dropped. -/
  | timeout (i : Nat)

namespace Core

def new (executor : TcpExecutor) : Core := ⟨executor, []⟩

def step (c : Core) : Event → Option Core
  | .execute spec draws =>
    let (executor, poll) := c.executor.start spec draws
    some ⟨executor, c.tasks ++ [.polled spec poll]⟩
  | .resume i outcome draws =>
    match c.tasks[i]? with
    | some ⟨spec, .suspended at_⟩ =>
      let (executor, poll) := c.executor.resume spec draws at_ outcome
      some ⟨executor, c.tasks.set i (.polled spec poll)⟩
    | _ => none
  | .timeout i =>
    match c.tasks[i]? with
    | some ⟨spec, .suspended _⟩ =>
      some { c with tasks := c.tasks.set i ⟨spec, .finished (executionResult spec none)⟩ }
    | _ => none

/-- Connections held by live futures. -/
def held (c : Core) : Nat := c.tasks.countP Task.holds

end Core

/-- The pool's books are right: `active` counts the held connections, the limit covers
active and idle ones, and a request is refused only when that many connections exist. -/
structure PoolAccounted (c : Core) : Prop where
  active : c.executor.pool.active = c.held
  bounded : c.executor.pool.maxConnections = 0 ∨
    c.executor.pool.active + c.executor.pool.idle.length ≤ c.executor.pool.maxConnections
  exhausted : ∀ e, c.executor.acquireConnection.2 = .error e →
    c.executor.pool.maxConnections ≤ c.held + c.executor.pool.idle.length

/-! ## Counting holders -/

theorem holds_polled (spec : TcpRequestSpec) (poll : Poll) :
    (if (Task.polled spec poll).holds then 1 else 0) = poll.holds := by
  cases poll <;> rfl

/-- Replacing a suspended task takes one holder out and puts its replacement in. -/
theorem countP_set_suspended {tasks : List Task} {i : Nat} {spec : TcpRequestSpec} {at_ : Await}
    (here : tasks[i]? = some ⟨spec, .suspended at_⟩) (t : Task) :
    (tasks.set i t).countP Task.holds + 1 = tasks.countP Task.holds + if t.holds then 1 else 0 := by
  obtain ⟨inside, same⟩ := List.getElem?_eq_some_iff.mp here
  have holds : tasks[i].holds = true := by rw [same]; rfl
  have positive : 0 < tasks.countP Task.holds :=
    countP_pos_iff.mpr ⟨tasks[i], getElem_mem inside, holds⟩
  rw [countP_set inside, if_pos holds]
  omega

open Tcp.Core

/-- What one event does, with the guards it needs. -/
theorem Core.step_cases {c c' : Core} {e : Event} (taken : c.step e = some c') :
    (∃ spec draws, e = .execute spec draws ∧
        c' = ⟨(c.executor.start spec draws).1,
          c.tasks ++ [.polled spec (c.executor.start spec draws).2]⟩) ∨
      (∃ i outcome draws spec at_, e = .resume i outcome draws ∧
        c.tasks[i]? = some ⟨spec, .suspended at_⟩ ∧
        c' = ⟨(c.executor.resume spec draws at_ outcome).1,
          c.tasks.set i (.polled spec (c.executor.resume spec draws at_ outcome).2)⟩) ∨
      (∃ i spec at_, e = .timeout i ∧ c.tasks[i]? = some ⟨spec, .suspended at_⟩ ∧
        c' = { c with
          tasks := c.tasks.set i ⟨spec, .finished (executionResult spec none)⟩ }) := by
  cases e with
  | execute spec draws =>
    exact .inl ⟨spec, draws, rfl, by simpa [step] using taken.symm⟩
  | resume i outcome draws | timeout i =>
    simp only [step] at taken
    split at taken
    · rename_i spec at_ here
      first
      | exact .inr (.inl ⟨i, _, _, spec, at_, rfl, here, by simpa using taken.symm⟩)
      | exact .inr (.inr ⟨i, spec, at_, rfl, here, by simpa using taken.symm⟩)
    · cases taken

/-! ## Every run -/

def Event.isTimeout : Event → Bool
  | .timeout _ => true
  | _ => false

/-- The books of every reachable state: a timeout leaves one connection on them that
nobody holds. -/
structure Books (events : List Event) (c : Core) : Prop where
  active : c.executor.pool.active = c.held + events.countP Event.isTimeout
  bounded : c.executor.pool.Bounded

theorem books_step {events : List Event} {c c' : Core} {e : Event} (books : Books events c)
    (taken : c.step e = some c') : Books (events ++ [e]) c' := by
  obtain ⟨active, bounded⟩ := books
  unfold held at active
  rcases step_cases taken with
    ⟨spec, draws, rfl, rfl⟩ | ⟨i, outcome, draws, spec, at_, rfl, here, rfl⟩ |
      ⟨i, spec, at_, rfl, here, rfl⟩
  · obtain ⟨activeNext, boundedNext⟩ : (c.executor.start spec draws).1.pool.active =
          c.executor.pool.active + (c.executor.start spec draws).2.holds ∧
        (c.executor.start spec draws).1.pool.Bounded := by
      unfold start
      rcases acquireConnection_cases c.executor with
        ⟨conn, x', acquired, active, size, limit⟩ | ⟨x', acquired, room, active, size, limit⟩ |
          ⟨acquired, full⟩
      · rw [acquired]
        obtain ⟨activeNext, size_le, limitNext⟩ :=
          useConnection_settles (x := x') (by omega) spec conn draws
        dsimp only
        refine ⟨by omega, ?_⟩
        unfold ConnectionPool.Bounded at bounded ⊢
        rw [limitNext, limit]
        omega
      · rw [acquired]
        refine ⟨active, ?_⟩
        unfold ConnectionPool.Bounded
        rw [limit, size]
        exact room.imp id Nat.succ_le_of_lt
      · rw [acquired]
        exact ⟨rfl, bounded⟩
    refine ⟨?_, boundedNext⟩
    have holder := holds_polled spec (c.executor.start spec draws).2
    simp only [held, countP_append, countP_singleton, Event.isTimeout]
    simp only [Bool.false_eq_true, if_false]
    omega
  · have holder := countP_set_suspended here
      (.polled spec (c.executor.resume spec draws at_ outcome).2)
    rw [holds_polled] at holder
    have positive : 0 < c.tasks.countP Task.holds :=
      countP_pos_iff.mpr ⟨_, mem_of_getElem? here, rfl⟩
    obtain ⟨activeNext, size_le, limit⟩ :=
      c.executor.resume_settles (by omega) spec draws at_ outcome
    refine ⟨?_, ?_⟩
    · simp only [held, countP_append, countP_singleton, Event.isTimeout]
      simp only [Bool.false_eq_true, if_false]
      omega
    · unfold ConnectionPool.Bounded at bounded ⊢
      dsimp only
      rw [limit]
      exact bounded.imp id fun fits => size_le.trans fits
  · have holder := countP_set_suspended here ⟨spec, .finished (executionResult spec none)⟩
    refine ⟨?_, bounded⟩
    simp only [held, countP_append, countP_singleton, Event.isTimeout]
    simp only [Task.holds, Bool.false_eq_true, if_false, if_true] at holder ⊢
    omega

section

variable {maxConnections sample : Nat} {policy : ConnectionPolicy} {events : List Event} {c : Core}

section

variable (run : exec step (new (.withPool maxConnections policy sample)) events = some c)
include run

theorem books_of_run : Books events c :=
  exec_invariant ⟨rfl, by simp [new, withPool, ConnectionPool.new,
    ConnectionPool.Bounded, ConnectionPool.size]⟩ (fun books taken => books_step books taken) run

/-- **`active` counts the held connections and, besides, every timeout that has
elapsed.** -/
theorem active_eq_held_add_timeouts :
    c.executor.pool.active = c.held + events.countP Event.isTimeout :=
  (books_of_run run).active

end

/-- **The pool's books are right in every state of a run if and only if no request
timeout elapses in it.** -/
theorem poolAccounted_iff_no_timeout
    (run : (exec step (new (.withPool maxConnections policy sample)) events).isSome) :
    (∀ done c, done <+: events →
        exec step (new (.withPool maxConnections policy sample)) done = some c →
        PoolAccounted c) ↔
      ∀ i, .timeout i ∉ events := by
  constructor
  · intro accounted i member
    obtain ⟨earlier, later, rfl⟩ := append_of_mem member
    obtain ⟨c, cut, runTo⟩ := exec_through run
    have books := (accounted _ c cut runTo).active
    have leaked := active_eq_held_add_timeouts runTo
    rw [countP_append, countP_singleton, Event.isTimeout, if_pos rfl] at leaked
    omega
  · rintro none_ done c ⟨later, rfl⟩ runs
    obtain ⟨active, bounded⟩ := books_of_run runs
    rw [countP_eq_zero.mpr ?none, Nat.add_zero] at active
    · refine ⟨active, bounded, fun e refused => ?_⟩
      rcases acquireConnection_cases c.executor with
        ⟨conn, x', acquired, -⟩ | ⟨x', acquired, -⟩ | ⟨acquired, full⟩
      · rw [acquired] at refused
        cases refused
      · rw [acquired] at refused
        cases refused
      · rw [← active]
        exact full
    intro e member elapsed
    cases e with
    | timeout i => exact none_ i (mem_append_left _ member)
    | execute spec draws | resume i outcome draws => cases elapsed

end

/-- A four-byte echo request that expects no answer. -/
def echoRequest : TcpRequestSpec where
  target := ⟨.v4 0x7F000001#32, 9000⟩
  payload := [112, 105, 110, 103]
  framing := .raw
  expectResponse := false
  responseMaxBytes := 0
  mode := .echo
  requestSize := 0
  responseSize := 0
  latencyUs := none
  errorRate := none

/-- Connect, write, return the connection: the books are right all along. -/
theorem poolAccounted_echo :
    (exec step (new (.withPool 1 .keepAlive 0))
        [.execute echoRequest ⟨0, 0⟩, .resume 0 (.ok 0) ⟨0, 0⟩,
          .resume 0 (.ok 4) ⟨0, 0⟩]).isSome ∧
      ∀ done c, done <+: [.execute echoRequest ⟨0, 0⟩, .resume 0 (.ok 0) ⟨0, 0⟩,
          .resume 0 (.ok 4) ⟨0, 0⟩] →
        exec step (new (.withPool 1 .keepAlive 0)) done = some c → PoolAccounted c :=
  ⟨rfl, (poolAccounted_iff_no_timeout rfl).mpr (by simp)⟩

/-- A limit of one, and a request whose timeout elapses while it connects: nothing is
open any more, yet the pool counts an active connection and refuses the next request. -/
theorem exhausted_after_timeout :
    ∃ c, exec step (new (.withPool 1 .keepAlive 0))
          [.execute echoRequest ⟨0, 0⟩, .timeout 0] = some c ∧
      c.held = 0 ∧ c.executor.pool.idle.length = 0 ∧ c.executor.pool.active = 1 ∧
      c.executor.acquireConnection.2 = .error (.connect "connection pool exhausted") ∧
      ¬ PoolAccounted c := by
  refine ⟨_, rfl, rfl, rfl, rfl, rfl, ?_⟩
  intro accounted
  exact absurd accounted.active (by decide)

end Netanvil.Tcp
