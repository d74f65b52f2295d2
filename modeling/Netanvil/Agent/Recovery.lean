/-
# The agent becomes idle again

A start claims the agent before its thread exists, so somebody has to free it on every way
out. Some have nobody: a thread that cannot be spawned leaves the agent claimed, and a thread
that panics never reaches its completion block, which its start request does not notice once
it is answered, or once its client has gone away. There are no others
(`neverWedged_of_threadsReturn`).
-/
import Netanvil.Agent.Lifecycle

namespace Netanvil.Agent

open Theory.Trace Netanvil.Types AgentState List TestRun Option

/-- No test thread is alive and no start request is in progress. -/
structure Quiet (a : AgentState) : Prop where
  dead : ∀ i, ¬ a.Alive i
  spawned : a.spawning = none
  answered : ∀ (i : Nat) (t : TestRun), a.tests[i]? = some t → t.wait ≠ .waiting

/-- The agent is not wedged: when it is quiet it is idle, and takes the next test. -/
def NeverWedged (a : AgentState) : Prop :=
  Quiet a → a.inner.state = .idle ∧ a.inner.commandTx = none ∧
    ∀ config, ∃ b, a.acceptTest config = .ok b

/-- Threads spawn. None panics after it has reported ready or its client has gone, unless
its start request had failed before, and no client goes after a panic. -/
def ThreadsReturn (a : AgentState) : Event → Prop
  | .spawn outcome => outcome = .ok ()
  | .thread i .panic => ∀ t, a.tests[i]? = some t →
      (t.ready ≠ .sent ∧ t.wait ≠ .abandoned) ∨ ∃ message, t.wait = .failed message
  | .abandon i => ∀ t, a.tests[i]? = some t → t.thread ≠ .panicked
  | _ => True

/-! ## The invariant -/

/-- Somebody will still free the agent that test `t` has claimed: its thread is being
spawned, or alive, or has panicked in a way its waiting handler will notice. -/
def WillFree (spawning : Prop) (t : TestRun) : Prop :=
  (∀ message, t.wait ≠ .failed message) ∧
    (spawning ∨ t.alive = true ∨ (t.thread = .panicked ∧ t.wait = .waiting ∧ t.ready ≠ .sent))

structure Guarded (a : AgentState) : Prop where
  spawning : ∀ i, a.spawning = some i →
    i + 1 = a.tests.length ∧ ∀ t, a.tests[i]? = some t → t.thread = .accepted
  answered : ∀ (i : Nat) (t : TestRun), a.tests[i]? = some t → t.wait = .ready → t.ready = .sent
  held : (a.inner.state = .idle ∧ a.inner.commandTx = none) ∨
    ∃ i t, i + 1 = a.tests.length ∧ a.tests[i]? = some t ∧ WillFree (a.spawning = some i) t

section

variable {a a' : AgentState} {i : Nat} {t u : TestRun}

theorem guarded_accept {config : TestConfig} (guarded : Guarded a)
    (accepted : a.acceptTest config = .ok a') : Guarded a' := by
  obtain ⟨-, -, -, -, -, spawning, config', tests⟩ := acceptTest_eq accepted
  have length : a.tests.length + 1 = a'.tests.length := by rw [tests]; simp
  have added : a'.tests[a.tests.length]? =
      some ⟨config', a.cells.length, .accepted, .unsent, .waiting⟩ := by
    rw [tests, getElem?_concat_length]
  refine ⟨?_, ?_, .inr ⟨_, _, length, added, by simp, .inl spawning⟩⟩
  · intro j claims
    rw [spawning] at claims
    cases claims
    refine ⟨length, ?_⟩
    intro v found
    rw [added] at found
    cases found
    rfl
  · intro j v found ready
    rw [tests] at found
    rcases getElem?_snoc_cases found with ⟨rfl, rfl⟩ | old
    · cases ready
    · exact guarded.answered j v old ready

/-- Both failures of the wait, and the completion block, free the agent. -/
theorem guarded_release (guarded : Guarded a) (here : a.tests[i]? = some t)
    (inner : a'.inner.state = .idle ∧ a'.inner.commandTx = none)
    (tests : a'.tests = a.tests.set i u) (spawning : a'.spawning = a.spawning)
    (unspawned : t.thread = .accepted → u.thread = .accepted)
    (ready : u.wait = .ready → t.wait = .ready ∧ u.ready = t.ready) : Guarded a' := by
  refine ⟨?_, ?_, .inl inner⟩
  · intro j claims
    rw [spawning] at claims
    obtain ⟨last, accepted⟩ := guarded.spawning j claims
    rw [tests, length_set]
    refine ⟨last, ?_⟩
    intro v found
    rcases getElem?_set_cases found with ⟨rfl, rfl⟩ | ⟨-, old⟩
    · exact unspawned (accepted t here)
    · exact accepted v old
  · intro j v found answered
    rw [tests] at found
    rcases getElem?_set_cases found with ⟨rfl, rfl⟩ | ⟨-, old⟩
    · obtain ⟨before, same⟩ := ready answered
      rw [same]
      exact guarded.answered j t here before
    · exact guarded.answered j v old answered

/-- A wait may end without freeing the agent if the thread has not panicked unready. -/
theorem guarded_setWait {wait : Wait} (guarded : Guarded a) (quiet : a.spawning = none)
    (here : a.tests[i]? = some t) (ended : ∀ message, wait ≠ .failed message)
    (sent : wait = .ready → t.ready = .sent)
    (returns : t.thread = .panicked → t.ready = .sent) : Guarded (a.setWait i t wait) := by
  obtain ⟨inside, -⟩ := List.getElem?_eq_some_iff.mp here
  refine ⟨by simp [setWait, quiet], ?_, ?_⟩
  · intro j v found ready
    rcases getElem?_set_cases found with ⟨rfl, rfl⟩ | ⟨-, old⟩
    · exact sent ready
    · exact guarded.answered j v old ready
  · rcases guarded.held with idle | ⟨k, v, last, there, notFailed, free⟩
    · exact .inl idle
    · refine .inr ?_
      by_cases same : k = i
      · subst same
        obtain rfl : t = v := some.inj (here.symm.trans there)
        refine ⟨k, { t with wait := wait }, by simpa [setWait] using last,
          getElem?_set_self inside, ended, ?_⟩
        rcases free with spawning | lives | ⟨panicked, -, notSent⟩
        · exact absurd (quiet.symm.trans spawning) (by simp)
        · exact .inr (.inl lives)
        · exact absurd (returns panicked) notSent
      · exact ⟨k, v, by simpa [setWait] using last,
          (getElem?_set_ne (Ne.symm same)).trans there, notFailed, free⟩

theorem guarded_act {act : ThreadAct} (guarded : Guarded a) (here : a.tests[i]? = some t)
    (returns : act = .panic →
      (t.ready ≠ .sent ∧ t.wait ≠ .abandoned) ∨ ∃ message, t.wait = .failed message)
    (moved : t.act act = some u) :
    Guarded { a with tests := a.tests.set i u, cells := writeCell a.cells (t.writes act) } := by
  obtain ⟨inside, -⟩ := List.getElem?_eq_some_iff.mp here
  obtain ⟨-, -, sentStays, wait⟩ := act_keeps moved
  refine ⟨?_, ?_, ?_⟩
  · intro j claims
    obtain ⟨last, accepted⟩ := guarded.spawning j claims
    refine ⟨by simpa using last, ?_⟩
    intro v found
    rcases getElem?_set_cases found with ⟨rfl, rfl⟩ | ⟨-, old⟩
    · rw [act_accepted (accepted t here) act] at moved
      cases moved
    · exact accepted v old
  · intro j v found ready
    rcases getElem?_set_cases found with ⟨rfl, rfl⟩ | ⟨-, old⟩
    · exact sentStays (guarded.answered j t here (wait ▸ ready))
    · exact guarded.answered j v old ready
  · rcases guarded.held with idle | ⟨k, v, last, there, free⟩
    · exact .inl idle
    · refine .inr ?_
      by_cases same : k = i
      · subst same
        obtain rfl : t = v := some.inj (here.symm.trans there)
        refine ⟨k, u, by simpa using last, getElem?_set_self inside, ?_⟩
        obtain ⟨notFailed, who⟩ := free
        refine ⟨by rw [wait]; exact notFailed, ?_⟩
        rcases who with claims | lives | ⟨panicked, -, -⟩
        · exact .inl claims
        · cases act with
          | panic =>
            -- not yet ready, so the handler is still waiting and will see the dropped sender
            obtain ⟨notSent, notGone⟩ : t.ready ≠ .sent ∧ t.wait ≠ .abandoned := by
              rcases returns rfl with unready | ⟨message, failed⟩
              · exact unready
              · exact absurd failed (notFailed message)
            have waiting : t.wait = .waiting := by
              cases ends : t.wait with
              | waiting => rfl
              | ready => exact absurd (guarded.answered k t here ends) notSent
              | failed message => exact absurd ends (notFailed message)
              | abandoned => exact absurd ends notGone
            have moved :
                some { t with thread := .panicked, ready := t.ready.dropSender } = some u := by
              rw [← moved]
              exact (if_pos lives).symm
            cases moved
            refine .inr (.inr ⟨rfl, waiting, ?_⟩)
            cases sender : t.ready with
            | sent => exact absurd sender notSent
            | unsent | dropped => simp [Ready.dropSender]
          | signalReady | dropReady | progress update | finish result | reset =>
            exact .inr (.inl (act_alive lives (by simp) moved))
        · cases act <;> simp [act, alive, panicked] at moved
      · exact ⟨k, v, by simpa using last, (getElem?_set_ne (Ne.symm same)).trans there, free⟩

/-! ## Every run -/

theorem guarded_step {e : Event} (guarded : Guarded a) (allowed : ThreadsReturn a e)
    (taken : a.step e = some a') : Guarded a' := by
  cases e with
  | start config =>
    obtain ⟨-, accepted | ⟨-, rfl⟩⟩ := step_start taken
    · exact guarded_accept guarded accepted
    · exact guarded
  | spawn outcome =>
    obtain ⟨i, t, claims, here, rfl⟩ := step_spawn taken
    obtain rfl : outcome = .ok () := allowed
    obtain ⟨last, -⟩ := guarded.spawning i claims
    obtain ⟨inside, -⟩ := List.getElem?_eq_some_iff.mp here
    refine ⟨by simp [spawnThread], ?_, ?_⟩
    · intro j v found ready
      rcases getElem?_set_cases found with ⟨rfl, rfl⟩ | ⟨-, old⟩
      · exact guarded.answered j t here ready
      · exact guarded.answered j v old ready
    · rcases guarded.held with idle | ⟨k, v, lastToo, there, notFailed, -⟩
      · exact .inl idle
      · -- the claim is that of the thread just spawned
        obtain rfl : k = i := by omega
        obtain rfl : t = v := some.inj (here.symm.trans there)
        refine .inr ⟨k, { t with thread := .running }, ?_, getElem?_set_self inside,
          notFailed, .inr (.inl rfl)⟩
        simpa [spawnThread] using last
  | endWait i outcome =>
    obtain ⟨quiet, t, here, -, ends, rfl⟩ := step_endWait taken
    cases outcome with
    | ready =>
      have sent : t.ready = .sent := by simpa [canEnd] using ends
      exact guarded_setWait guarded quiet here (by simp) (fun _ => sent) fun _ => sent
    | dropped | timedOut => exact guarded_release guarded here ⟨rfl, rfl⟩ rfl rfl id (by simp)
  | abandon i =>
    obtain ⟨quiet, t, here, rfl⟩ := step_abandon taken
    exact guarded_setWait guarded quiet here (by simp) (by simp)
      fun panicked => absurd panicked (allowed t here)
  | thread i act =>
    obtain ⟨t, u, here, moved, rfl⟩ := step_thread taken
    refine guarded_act guarded here ?_ moved
    rintro rfl
    exact allowed t here
  | complete i =>
    obtain ⟨t, result, here, returned, rfl⟩ := step_complete taken
    refine guarded_release guarded here ⟨rfl, rfl⟩ rfl rfl ?_ fun ready => ⟨ready, rfl⟩
    rw [returned]
    rintro ⟨⟩

theorem neverWedged_of_guarded (guarded : Guarded a) : NeverWedged a := by
  intro quiet
  rcases guarded.held with ⟨idle, noSender⟩ | ⟨i, t, -, here, -, spawning | lives | ⟨-, waits, -⟩⟩
  · refine ⟨idle, noSender, ?_⟩
    intro config
    have free : ¬ a.inner.state = .running := by rw [idle]; decide
    exact ⟨_, if_neg free⟩
  · exact absurd (quiet.spawned.symm.trans spawning) (by simp)
  · exact absurd ⟨t, here, lives⟩ (quiet.dead i)
  · exact absurd waits (quiet.answered i t here)

end

/-- **In a run whose threads all spawn, and none of which panics where its start request
does not notice, the agent is never wedged**, whatever else happens: slow starts, dropped
readiness channels, clients that go away, early panics, overlapping tests. -/
theorem neverWedged_of_threadsReturn {nodeId : NodeId} {listenAddr : String} {cores : Nat}
    {events : List Event} {a : AgentState}
    (returns : Allowed step ThreadsReturn (new nodeId listenAddr cores) events)
    (run : exec step (new nodeId listenAddr cores) events = some a) :
    NeverWedged a :=
  neverWedged_of_guarded
    (Allowed.invariant ⟨by simp [new], by simp [new], .inl ⟨rfl, rfl⟩⟩ guarded_step returns run)

/-- A thread that panics before it is ready: its start request notices and frees the
agent. -/
theorem neverWedged_earlyPanic :
    ∃ a, exec step (new ⟨"agent"⟩ "0.0.0.0:9090" 4)
        [.start shortTest, .spawn (.ok ()), .thread 0 .panic, .endWait 0 .dropped] = some a ∧
      NeverWedged a := by
  have returns : Allowed step ThreadsReturn (new ⟨"agent"⟩ "0.0.0.0:9090" 4)
      ([] ++ [Event.start shortTest] ++ [Event.spawn (.ok ())] ++ [Event.thread 0 .panic] ++
        [Event.endWait 0 .dropped]) := by
    simp only [Allowed, along_snoc, along_nil, true_and]
    refine ⟨⟨⟨?_, ?_⟩, ?_⟩, ?_⟩
    · intro a _
      trivial
    · intro a _
      rfl
    · intro a run t here
      cases run
      cases here
      exact .inl ⟨by decide, by decide⟩
    · intro a _
      trivial
  exact ⟨_, rfl, neverWedged_of_threadsReturn returns rfl⟩

/-- The gaps. The thread cannot be spawned; or it reports ready, its start request is
answered, and it panics; or it panics before, and the client has gone. Nothing is left of the
test, and the next one is refused. -/
theorem wedged_spawnFailure_latePanic :
    (∃ a, exec step (new ⟨"agent"⟩ "0.0.0.0:9090" 4)
        [.start shortTest, .spawn (.error "Resource temporarily unavailable")] = some a ∧
      Quiet a ∧ a.acceptTest shortTest = .error "test already running" ∧ ¬ NeverWedged a) ∧
    (∃ a, exec step (new ⟨"agent"⟩ "0.0.0.0:9090" 4)
        [.start shortTest, .spawn (.ok ()), .thread 0 .signalReady, .endWait 0 .ready,
          .thread 0 .panic] = some a ∧
      Quiet a ∧ a.acceptTest shortTest = .error "test already running" ∧ ¬ NeverWedged a) ∧
    (∃ a, exec step (new ⟨"agent"⟩ "0.0.0.0:9090" 4)
        [.start shortTest, .spawn (.ok ()), .abandon 0, .thread 0 .panic] = some a ∧
      Quiet a ∧ a.acceptTest shortTest = .error "test already running" ∧ ¬ NeverWedged a) := by
  -- a single test, over and answered, that still holds the agent
  have wedged : ∀ a : AgentState, ∀ t : TestRun, a.tests = [t] → t.alive = false →
      t.wait ≠ .waiting → a.spawning = none → a.inner.state = .running →
      Quiet a ∧ a.acceptTest shortTest = .error "test already running" ∧ ¬ NeverWedged a := by
    intro a t tests dead answered spawned state
    have quiet : Quiet a := by
      refine ⟨?_, spawned, ?_⟩
      · rintro i ⟨u, here, lives⟩
        rw [tests] at here
        obtain rfl : u = t := by simpa using mem_of_getElem? here
        rw [dead] at lives
        cases lives
      · intro i u here
        rw [tests] at here
        obtain rfl : u = t := by simpa using mem_of_getElem? here
        exact answered
    refine ⟨quiet, if_pos state, ?_⟩
    intro never
    rw [(never quiet).1] at state
    cases state
  exact ⟨⟨_, rfl, wedged _ _ rfl rfl (by simp) rfl rfl⟩,
    ⟨_, rfl, wedged _ _ rfl rfl (by simp) rfl rfl⟩, _, rfl, wedged _ _ rfl rfl (by simp) rfl rfl⟩

end Netanvil.Agent
