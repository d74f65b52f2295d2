/-
# Start requests, test threads and their clean-up

Three parties write the same mutex-protected record (`AgentInner`): the handler of a start
request, which claims the agent and waits for the test to report ready; the test thread, whose
last act is a completion block that frees the agent; and a helper thread, which clears the
metrics some seconds later. None of them carries the identity of its test to the record.

`step` is one move of one party. Handlers share a single-threaded runtime: while one is
between claiming the agent and spawning its thread (`spawning`), no other handler moves, but
the threads of earlier tests do. A handler whose client goes away is dropped where it waits
(`abandon`): it answers nobody and frees nothing.
-/
import Netanvil.Theory.Trace
import Netanvil.Agent.SharedState

namespace Netanvil.Agent

open Netanvil.Types SharedStateInner List

/-! ## The record and its tests -/

structure AgentInner where
  nodeId : NodeId
  listenAddr : String
  cores : Nat
  state : NodeState
  /-- The cell of the current `SharedState` handle. -/
  sharedState : Nat
  /-- The test whose command channel is open to the handlers. -/
  commandTx : Option Nat
  lastResult : Option TestResult

inductive Thread where
  /-- The agent is claimed; the thread does not exist yet. -/
  | accepted
  | running
  /-- The test function has returned; the completion block has not run. -/
  | returned (result : Except String TestResult)
  /-- The completion block has run, with the cell its helper is still to clear. -/
  | completed (pendingReset : Option Nat)
  | panicked
  | notSpawned

/-- The sending side of the readiness channel. A message sent stays readable after the
sender is gone. -/
inductive Ready where
  | unsent
  | sent
  | dropped
  deriving DecidableEq

def Ready.dropSender : Ready → Ready
  | .sent => .sent
  | _ => .dropped

inductive Wait where
  | waiting
  | ready
  | failed (message : String)
  /-- The handler was dropped with its client. -/
  | abandoned
  deriving DecidableEq

structure TestRun where
  config : TestConfig
  /-- The cell of the handle the thread was given. -/
  cell : Nat
  thread : Thread
  ready : Ready
  wait : Wait

/-- The thread exists and has not run its completion block. -/
def TestRun.alive (t : TestRun) : Bool :=
  match t.thread with
  | .running => true
  | .returned _ => true
  | _ => false

structure AgentState where
  inner : AgentInner
  cells : List SharedStateInner
  tests : List TestRun
  spawning : Option Nat

/-! ## Start requests -/

/-- How a readiness wait ends, unless its client goes away. -/
inductive WaitOutcome where
  | ready
  | dropped
  | timedOut
  deriving DecidableEq

/-- The answer of `start_test_async` once the wait has ended. -/
def WaitOutcome.answer : WaitOutcome → Except String Unit
  | .ready => .ok ()
  | .dropped => .error "coordinator startup failed"
  | .timedOut => .error "coordinator startup timed out"

def AgentInner.release (a : AgentInner) : AgentInner :=
  { a with state := .idle, commandTx := none }

namespace AgentState

def new (nodeId : NodeId) (listenAddr : String) (cores : Nat) : AgentState where
  inner :=
    { nodeId := nodeId
      listenAddr := listenAddr
      cores := cores
      state := .idle
      sharedState := 0
      commandTx := none
      lastResult := none }
  cells := [SharedStateInner.new]
  tests := []
  spawning := none

/-- Test `i` exists and its thread is alive. -/
def Alive (a : AgentState) (i : Nat) : Prop := ∃ t, a.tests[i]? = some t ∧ t.alive = true

/-- What the handlers see through the current handle. -/
def view (a : AgentState) : Option SharedStateInner := a.cells[a.inner.sharedState]?

/-- The locked block of `start_test_spawn`: refuse, or claim the agent for a new test
with a fresh shared state. -/
def acceptTest (a : AgentState) (config : TestConfig) : Except String AgentState :=
  if a.inner.state = .running then .error "test already running"
  else
    let config :=
      if config.numCores = 0 then { config with numCores := a.inner.cores } else config
    .ok
      { a with
        inner :=
          { a.inner with
            state := .running
            sharedState := a.cells.length
            commandTx := some a.tests.length
            lastResult := none }
        cells := a.cells ++ [SharedStateInner.new]
        tests := a.tests ++ [⟨config, a.cells.length, .accepted, .unsent, .waiting⟩]
        spawning := some a.tests.length }

/-- The thread is spawned, or the request fails where it stands. -/
def spawnThread (a : AgentState) (i : Nat) (t : TestRun) : Except String Unit → AgentState
  | .ok _ => { a with tests := a.tests.set i { t with thread := .running }, spawning := none }
  | .error e =>
    { a with
      tests := a.tests.set i
        { t with
          thread := .notSpawned
          ready := .dropped
          wait := .failed ("spawn test thread: " ++ e) }
      spawning := none }

def setWait (a : AgentState) (i : Nat) (t : TestRun) (wait : Wait) : AgentState :=
  { a with tests := a.tests.set i { t with wait := wait } }

/-- The end of the readiness wait. Both failures free the agent. -/
def endWait (a : AgentState) (i : Nat) (t : TestRun) : WaitOutcome → AgentState
  | .ready => a.setWait i t .ready
  | .dropped =>
    { a with
      inner := a.inner.release
      tests := a.tests.set i { t with wait := .failed "coordinator startup failed" } }
  | .timedOut =>
    { a with
      inner := a.inner.release
      tests := a.tests.set i { t with wait := .failed "coordinator startup timed out" } }

/-- `start_test_async`, as its caller sees it: the answer, given how the spawn and the
wait turn out. -/
def startTestAsync (a : AgentState) (config : TestConfig) (spawn : Except String Unit)
    (wait : WaitOutcome) : Except String Unit :=
  match a.acceptTest config with
  | .error message => .error message
  | .ok _ =>
    match spawn with
    | .error e => .error ("spawn test thread: " ++ e)
    | .ok _ => wait.answer

end AgentState

/-- Whether the wait can end this way: a readiness message or a dropped sender has to be
there, the 30 s may elapse at any time. -/
def TestRun.canEnd (t : TestRun) : WaitOutcome → Bool
  | .ready => t.ready = .sent
  | .dropped => t.ready = .dropped
  | .timedOut => true

/-! ## Test threads -/

inductive ThreadAct where
  | signalReady
  | dropReady
  | progress (update : ProgressUpdate)
  /-- The test function returns. -/
  | finish (result : Except String TestResult)
  | panic
  /-- The helper thread clears the metrics. -/
  | reset

/-- The thread's own move; `none` when it is not at that point. -/
def TestRun.act (t : TestRun) : ThreadAct → Option TestRun
  | .signalReady =>
    match t.thread, t.ready with
    | .running, .unsent => some { t with ready := .sent }
    | _, _ => none
  | .dropReady =>
    match t.thread, t.ready with
    | .running, .unsent => some { t with ready := .dropped }
    | _, _ => none
  | .progress _ =>
    match t.thread with
    | .running => some t
    | _ => none
  | .finish result =>
    match t.thread with
    | .running => some { t with thread := .returned result, ready := t.ready.dropSender }
    | _ => none
  | .panic =>
    if t.alive then some { t with thread := .panicked, ready := t.ready.dropSender } else none
  | .reset =>
    match t.thread with
    | .completed (some _) => some { t with thread := .completed none }
    | _ => none

/-- The cell a move writes, and what it writes there. -/
def TestRun.writes (t : TestRun) :
    ThreadAct → Option (Nat × (SharedStateInner → SharedStateInner))
  | .progress update => some (t.cell, fun s => s.updateFromProgress update)
  | .reset =>
    match t.thread with
    | .completed (some cell) => some (cell, resetMetrics)
    | _ => none
  | _ => none

def writeCell (cells : List SharedStateInner) :
    Option (Nat × (SharedStateInner → SharedStateInner)) → List SharedStateInner
  | some (cell, f) => cells.modify cell f
  | none => cells

/-- The completion block: free the agent, keep a result, and hand the current cell to
the helper thread. -/
def AgentState.completeTest (a : AgentState) (i : Nat) (t : TestRun)
    (result : Except String TestResult) : AgentState :=
  { a with
    inner :=
      { a.inner.release with
        lastResult :=
          match result with
          | .ok r => some r
          | .error _ => a.inner.lastResult }
    tests := a.tests.set i { t with thread := .completed (some a.inner.sharedState) } }

/-! ## Moves -/

inductive Event where
  | start (config : TestConfig)
  | spawn (outcome : Except String Unit)
  | endWait (i : Nat) (outcome : WaitOutcome)
  | abandon (i : Nat)
  | thread (i : Nat) (act : ThreadAct)
  | complete (i : Nat)

def AgentState.step (a : AgentState) : Event → Option AgentState
  | .start config =>
    match a.spawning with
    | some _ => none
    | none =>
      match a.acceptTest config with
      | .ok b => some b
      | .error _ => some a
  | .spawn outcome =>
    match a.spawning with
    | none => none
    | some i =>
      match a.tests[i]? with
      | some t => some (a.spawnThread i t outcome)
      | none => none
  | .endWait i outcome =>
    match a.spawning, a.tests[i]? with
    | none, some t =>
      if t.wait = .waiting ∧ t.canEnd outcome then some (a.endWait i t outcome) else none
    | _, _ => none
  | .abandon i =>
    match a.spawning, a.tests[i]? with
    | none, some t => if t.wait = .waiting then some (a.setWait i t .abandoned) else none
    | _, _ => none
  | .thread i act =>
    match a.tests[i]? with
    | some t =>
      match t.act act with
      | some t' =>
        some { a with tests := a.tests.set i t', cells := writeCell a.cells (t.writes act) }
      | none => none
    | none => none
  | .complete i =>
    match a.tests[i]? with
    | some t =>
      match t.thread with
      | .returned result => some (a.completeTest i t result)
      | _ => none
    | none => none

/-- A half-minute test at a fixed rate. -/
def shortTest : TestConfig := ⟨30000000000, .static 100, 0, 3000000000⟩

/-- The claimed agent. -/
theorem acceptTest_eq {a b : AgentState} {config : TestConfig}
    (accepted : a.acceptTest config = .ok b) :
    a.inner.state ≠ .running ∧ b.inner.state = .running ∧
      b.inner.sharedState = a.cells.length ∧ b.inner.commandTx = some a.tests.length ∧
      b.cells = a.cells ++ [new] ∧ b.spawning = some a.tests.length ∧
      ∃ config',
        b.tests = a.tests ++ [⟨config', a.cells.length, .accepted, .unsent, .waiting⟩] := by
  unfold AgentState.acceptTest at accepted
  split at accepted
  · cases accepted
  · rename_i free
    cases accepted
    exact ⟨free, rfl, rfl, rfl, rfl, rfl, _, rfl⟩

namespace AgentState

variable {a a' : AgentState} {i : Nat}

theorem step_start {config : TestConfig} (taken : a.step (.start config) = some a') :
    a.spawning = none ∧
      (a.acceptTest config = .ok a' ∨
        (∃ message, a.acceptTest config = .error message) ∧ a' = a) := by
  simp only [step] at taken
  split at taken
  · cases taken
  · rename_i quiet
    refine ⟨quiet, ?_⟩
    split at taken
    · rename_i b accepted
      cases taken
      exact .inl accepted
    · rename_i message refused
      cases taken
      exact .inr ⟨⟨message, refused⟩, rfl⟩

theorem step_spawn {outcome : Except String Unit} (taken : a.step (.spawn outcome) = some a') :
    ∃ i t, a.spawning = some i ∧ a.tests[i]? = some t ∧ a' = a.spawnThread i t outcome := by
  simp only [step] at taken
  split at taken
  · cases taken
  · rename_i i claimed
    split at taken
    · rename_i t here
      cases taken
      exact ⟨i, t, claimed, here, rfl⟩
    · cases taken

theorem step_endWait {outcome : WaitOutcome} (taken : a.step (.endWait i outcome) = some a') :
    a.spawning = none ∧ ∃ t, a.tests[i]? = some t ∧ t.wait = .waiting ∧
      t.canEnd outcome = true ∧ a' = a.endWait i t outcome := by
  simp only [step] at taken
  split at taken
  · rename_i t quiet here
    split at taken
    · rename_i ends
      cases taken
      exact ⟨quiet, t, here, ends.1, ends.2, rfl⟩
    · cases taken
  · cases taken

theorem step_abandon (taken : a.step (.abandon i) = some a') :
    a.spawning = none ∧ ∃ t, a.tests[i]? = some t ∧ a' = a.setWait i t .abandoned := by
  simp only [step] at taken
  split at taken
  · rename_i t quiet here
    split at taken
    · cases taken
      exact ⟨quiet, t, here, rfl⟩
    · cases taken
  · cases taken

theorem step_thread {act : ThreadAct} (taken : a.step (.thread i act) = some a') :
    ∃ t u, a.tests[i]? = some t ∧ t.act act = some u ∧
      a' = { a with tests := a.tests.set i u, cells := writeCell a.cells (t.writes act) } := by
  simp only [step] at taken
  split at taken
  · rename_i t here
    split at taken
    · rename_i u moved
      cases taken
      exact ⟨t, u, here, moved, rfl⟩
    · cases taken
  · cases taken

theorem step_complete (taken : a.step (.complete i) = some a') :
    ∃ t result, a.tests[i]? = some t ∧ t.thread = .returned result ∧
      a' = a.completeTest i t result := by
  simp only [step] at taken
  split at taken
  · rename_i t here
    split at taken
    · rename_i result returned
      cases taken
      exact ⟨t, result, here, returned, rfl⟩
    · cases taken
  · cases taken

end AgentState

/-- Looking up a list of tests in which test `i` was replaced. -/
theorem getElem?_set_cases {tests : List TestRun} {i j : Nat} {t u : TestRun}
    (found : (tests.set i t)[j]? = some u) : (j = i ∧ u = t) ∨ (j ≠ i ∧ tests[j]? = some u) := by
  rw [getElem?_set] at found
  split at found
  · rename_i same
    split at found <;> cases found
    exact .inl ⟨same.symm, rfl⟩
  · rename_i different
    exact .inr ⟨fun same => different same.symm, found⟩

/-- Looking up a list of tests to which one was added. -/
theorem getElem?_snoc_cases {tests : List TestRun} {j : Nat} {t u : TestRun}
    (found : (tests ++ [t])[j]? = some u) : (j = tests.length ∧ u = t) ∨ tests[j]? = some u := by
  rcases Nat.lt_trichotomy j tests.length with old | rfl | past
  · rw [getElem?_append_left old] at found
    exact .inr found
  · rw [getElem?_concat_length] at found
    cases found
    exact .inl ⟨rfl, rfl⟩
  · have beyond : (tests ++ [t])[j]? = none := by
      rw [getElem?_eq_none_iff, length_append, length_singleton]
      omega
    rw [beyond] at found
    cases found

/-! ## What a thread's move keeps -/

open TestRun

/-- A thread that does not exist yet makes no move. -/
theorem act_accepted {t : TestRun} (accepted : t.thread = .accepted) (act : ThreadAct) :
    t.act act = none := by
  cases act <;> simp [act, alive, accepted]

/-- A thread's move never revives it, never makes a pending reset, never takes a readiness
message back, and never touches its handler's wait. -/
theorem act_keeps {t t' : TestRun} {act : ThreadAct} (moved : t.act act = some t') :
    (t'.alive = true → t.alive = true) ∧
      (∀ cell, t'.thread = .completed (some cell) → t.thread = .completed (some cell)) ∧
      (t.ready = .sent → t'.ready = .sent) ∧ t'.wait = t.wait := by
  cases act with
  | signalReady | progress update =>
    simp only [act] at moved
    split at moved <;> cases moved
    exact ⟨id, fun _ => id, by simp, rfl⟩
  | dropReady =>
    simp only [act] at moved
    split at moved
    · rename_i unsent
      cases moved
      refine ⟨id, fun _ => id, fun sent => ?_, rfl⟩
      rw [unsent] at sent
      cases sent
    · cases moved
  | finish result | panic =>
    simp only [act] at moved
    split at moved
    · rename_i lives
      cases moved
      refine ⟨fun _ => by simp_all [alive], ?_, fun sent => ?_, rfl⟩
      · rintro cell ⟨⟩
      · simp [Ready.dropSender, sent]
    · cases moved
  | reset =>
    simp only [act] at moved
    split at moved <;> cases moved
    refine ⟨fun lives => absurd lives Bool.false_ne_true, ?_, id, rfl⟩
    rintro cell ⟨⟩

/-- A living thread stays alive through every move but a panic. -/
theorem act_alive {t t' : TestRun} {act : ThreadAct} (lives : t.alive = true)
    (calm : act ≠ .panic) (moved : t.act act = some t') : t'.alive = true := by
  cases act with
  | signalReady | dropReady | progress update | finish result =>
    simp only [act] at moved
    split at moved <;> cases moved
    first | exact lives | rfl
  | panic => exact absurd rfl calm
  | reset =>
    simp only [act] at moved
    split at moved
    · rename_i completed
      rw [alive, completed] at lives
      cases lives
    · cases moved

end Netanvil.Agent
