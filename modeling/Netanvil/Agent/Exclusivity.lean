/-
# One test at a time

The agent means to run one test at a time, and a test owns the record until its completion
block has run. The failure branches of the readiness wait free the agent without asking
whether the thread they gave up on still lives: tests stay exclusive exactly if each failing
wait ends at a moment without a living test thread (`exclusive_iff_waitFailsAlone`).
-/
import Netanvil.Agent.Lifecycle

namespace Netanvil.Agent

open Theory.Trace Netanvil.Types AgentState List TestRun Event

/-- Tests are exclusive: one living thread at most, it owns the record, and what is left
of the completion of a test does nothing once a later test has been accepted. -/
structure Exclusive (a : AgentState) : Prop where
  oneAlive : ∀ i j, a.Alive i → a.Alive j → i = j
  owner : ∀ i, a.Alive i → a.inner.state = .running ∧ a.inner.commandTx = some i
  settled : ∀ i e a', e = .complete i ∨ e = .thread i .reset → a.step e = some a' →
    i + 1 < a.tests.length → a'.inner = a.inner ∧ a'.view = a.view

/-- A wait fails only while no test thread is alive. -/
def WaitFailsAlone (a : AgentState) : Event → Prop
  | .endWait _ outcome => outcome ≠ .ready → ∀ j, ¬ a.Alive j
  | _ => True

/-! ## Cells and pending resets -/

/-- Each test has its own cell, the current handle is the last test's, and each pending
reset is of the cell of its own test. -/
structure Layout (a : AgentState) : Prop where
  cells : a.cells.length = a.tests.length + 1
  shared : a.inner.sharedState = a.tests.length
  resets : ∀ i t cell, a.tests[i]? = some t → t.thread = .completed (some cell) → cell = i + 1

section

variable {a a' : AgentState} {i j : Nat} {t u : TestRun} {config : TestConfig}

theorem Layout.accept (layout : Layout a)
    (accepted : a.acceptTest config = .ok a') : Layout a' := by
  obtain ⟨-, -, shared, -, cells, -, config', tests⟩ := acceptTest_eq accepted
  have length : a'.tests.length = a.tests.length + 1 := by rw [tests]; simp
  refine ⟨?_, ?_, ?_⟩
  · rw [cells, length, length_append, layout.cells]
    rfl
  · rw [shared, length, layout.cells]
  · intro j v cell found completed
    rw [tests] at found
    rcases getElem?_snoc_cases found with ⟨rfl, rfl⟩ | old
    · cases completed
    · exact layout.resets j v cell old completed

/-- A step that replaces one test and allocates nothing. -/
theorem Layout.replace (layout : Layout a) (tests : a'.tests = a.tests.set i u)
    (cells : a'.cells.length = a.cells.length) (shared : a'.inner.sharedState = a.inner.sharedState)
    (own : ∀ cell, u.thread = .completed (some cell) → cell = i + 1) : Layout a' := by
  refine ⟨?_, ?_, ?_⟩
  · rw [cells, tests, length_set, layout.cells]
  · rw [shared, tests, length_set, layout.shared]
  · intro j v cell found completed
    rw [tests] at found
    rcases getElem?_set_cases found with ⟨rfl, rfl⟩ | ⟨-, old⟩
    · exact own cell completed
    · exact layout.resets j v cell old completed

/-! ## The claim on the record -/

/-- Test `i` is the last one accepted and the record is its. -/
def Owns (a : AgentState) (i : Nat) : Prop :=
  i + 1 = a.tests.length ∧ a.inner.state = .running ∧ a.inner.commandTx = some i

/-- A test whose thread is alive, or is just being spawned, owns the record. -/
structure Claimed (a : AgentState) : Prop extends Layout a where
  alive : ∀ i t, a.tests[i]? = some t → t.alive = true → Owns a i
  spawning : ∀ i, a.spawning = some i → Owns a i ∧ ∀ t, a.tests[i]? = some t → t.thread = .accepted

theorem Owns.unique (first : Owns a i) (second : Owns a j) : i = j := by
  have last := first.1
  have lastToo := second.1
  omega

theorem Owns.replace (owns : Owns a i) (tests : a'.tests = a.tests.set j u)
    (inner : a'.inner = a.inner) : Owns a' i := by
  unfold Owns at owns ⊢
  rw [tests, length_set, inner]
  exact owns

theorem claimed_accept (claimed : Claimed a)
    (accepted : a.acceptTest config = .ok a') : Claimed a' := by
  obtain ⟨free, state, -, commandTx, -, spawning, config', tests⟩ := acceptTest_eq accepted
  refine ⟨claimed.toLayout.accept accepted, ?_, ?_⟩
  · intro j v found lives
    rw [tests] at found
    rcases getElem?_snoc_cases found with ⟨rfl, rfl⟩ | old
    · cases lives
    · -- a living test would have kept the agent claimed
      exact absurd (claimed.alive j v old lives).2.1 free
  · intro j claims
    rw [spawning] at claims
    cases claims
    refine ⟨⟨by rw [tests]; simp, state, commandTx⟩, ?_⟩
    intro v found
    rw [tests, List.getElem?_concat_length] at found
    cases found
    rfl

/-- The completion block runs only for the owner, so it takes the record from nobody else. -/
theorem claimed_complete (claimed : Claimed a) (here : a.tests[i]? = some t)
    {result : Except String TestResult} (returned : t.thread = .returned result) :
    Claimed (a.completeTest i t result) := by
  have lives : t.alive = true := by simp [alive, returned]
  have owns := claimed.alive i t here lives
  refine ⟨claimed.toLayout.replace rfl rfl rfl ?_, ?_, ?_⟩
  · rintro cell ⟨⟩
    rw [claimed.shared]
    exact owns.1.symm
  · intro j v found livesToo
    rcases getElem?_set_cases found with ⟨rfl, rfl⟩ | ⟨different, old⟩
    · cases livesToo
    · exact absurd ((claimed.alive j v old livesToo).unique owns) different
  · intro j claims
    -- the test being spawned would be the one that has returned
    obtain ⟨ownsToo, unspawned⟩ := claimed.spawning j claims
    obtain rfl := ownsToo.unique owns
    rw [unspawned t here] at returned
    cases returned

/-- A wait that ends without freeing the agent changes no owner. -/
theorem claimed_setWait {wait : Wait} (claimed : Claimed a) (quiet : a.spawning = none)
    (here : a.tests[i]? = some t) : Claimed (a.setWait i t wait) := by
  refine ⟨claimed.toLayout.replace rfl rfl rfl fun cell => claimed.resets i t cell here, ?_, ?_⟩
  · intro j v found lives
    rcases getElem?_set_cases found with ⟨rfl, rfl⟩ | ⟨-, old⟩
    · exact (claimed.alive j t here lives).replace rfl rfl
    · exact (claimed.alive j v old lives).replace rfl rfl
  · intro j claims
    exact absurd (quiet.symm.trans claims) (by simp)

/-! ## Every run -/

theorem claimed_step {e : Event} (claimed : Claimed a) (allowed : WaitFailsAlone a e)
    (taken : a.step e = some a') : Claimed a' := by
  cases e with
  | start config =>
    obtain ⟨-, accepted | ⟨-, rfl⟩⟩ := step_start taken
    · exact claimed_accept claimed accepted
    · exact claimed
  | spawn outcome =>
    obtain ⟨i, t, claims, -, rfl⟩ := step_spawn taken
    obtain ⟨owns, -⟩ := claimed.spawning i claims
    cases outcome with
    | ok value | error e =>
      refine ⟨claimed.toLayout.replace rfl rfl rfl (by simp), ?_, by simp [spawnThread]⟩
      intro j v found lives
      rcases getElem?_set_cases found with ⟨rfl, rfl⟩ | ⟨-, old⟩
      · exact owns.replace rfl rfl
      · exact (claimed.alive j v old lives).replace rfl rfl
  | endWait i outcome =>
    obtain ⟨quiet, t, here, -, -, rfl⟩ := step_endWait taken
    cases outcome with
    | ready => exact claimed_setWait claimed quiet here
    | dropped | timedOut =>
      -- a wait that fails while nobody is alive takes the record from nobody
      refine ⟨claimed.toLayout.replace rfl rfl rfl fun cell => claimed.resets i t cell here, ?_, ?_⟩
      · intro j v found lives
        rcases getElem?_set_cases found with ⟨rfl, rfl⟩ | ⟨-, old⟩
        · exact absurd ⟨t, here, lives⟩ (allowed (by simp) j)
        · exact absurd ⟨v, old, lives⟩ (allowed (by simp) j)
      · intro j claims
        exact absurd (quiet.symm.trans claims) (by simp)
  | abandon i =>
    obtain ⟨quiet, t, here, rfl⟩ := step_abandon taken
    exact claimed_setWait claimed quiet here
  | thread i act =>
    obtain ⟨t, u, here, moved, rfl⟩ := step_thread taken
    obtain ⟨livedBefore, resetBefore, -, -⟩ := act_keeps moved
    refine ⟨claimed.toLayout.replace rfl (by cases t.writes act <;> simp [writeCell]) rfl
      fun cell completed => claimed.resets i t cell here (resetBefore cell completed), ?_, ?_⟩
    · intro j v found lives
      rcases getElem?_set_cases found with ⟨rfl, rfl⟩ | ⟨-, old⟩
      · exact (claimed.alive j t here (livedBefore lives)).replace rfl rfl
      · exact (claimed.alive j v old lives).replace rfl rfl
    · intro j claims
      obtain ⟨owns, unspawned⟩ := claimed.spawning j claims
      refine ⟨owns.replace rfl rfl, ?_⟩
      intro v found
      rcases getElem?_set_cases found with ⟨rfl, rfl⟩ | ⟨-, old⟩
      · rw [act_accepted (unspawned t here) act] at moved
        cases moved
      · exact unspawned v old
  | complete i =>
    obtain ⟨t, result, here, returned, rfl⟩ := step_complete taken
    exact claimed_complete claimed here returned

theorem exclusive_of_claimed (claimed : Claimed a) : Exclusive a := by
  refine ⟨?_, ?_, ?_⟩
  · rintro i j ⟨t, here, lives⟩ ⟨u, there, livesToo⟩
    exact (claimed.alive i t here lives).unique (claimed.alive j u there livesToo)
  · rintro i ⟨t, here, lives⟩
    exact (claimed.alive i t here lives).2
  · rintro i e a' (rfl | rfl) taken later
    · obtain ⟨t, result, here, returned, -⟩ := step_complete taken
      have last := (claimed.alive i t here (by simp [alive, returned])).1
      omega
    · -- a reset writes the cell of its own test, which is not the current one any more
      obtain ⟨t, u, here, -, rfl⟩ := step_thread taken
      refine ⟨rfl, ?_⟩
      simp only [view]
      cases pending : t.thread with
      | completed cell =>
        cases cell with
        | none => simp [writes, pending, writeCell]
        | some cell =>
          have own := claimed.resets i t cell here pending
          have other : cell ≠ a.inner.sharedState := by
            rw [own, claimed.shared]
            omega
          simp [writes, pending, writeCell, other]
      | accepted | running | returned result | panicked | notSpawned =>
        simp [writes, pending, writeCell]

end

/-- **Tests are exclusive along a run if and only if each failing readiness wait ends
while no test thread is alive.** -/
theorem exclusive_iff_waitFailsAlone {nodeId : NodeId} {listenAddr : String} {cores : Nat}
    {events : List Event} (run : (exec step (new nodeId listenAddr cores) events).isSome) :
    (∀ done a, done <+: events →
        exec step (new nodeId listenAddr cores) done = some a → Exclusive a) ↔
      Allowed step WaitFailsAlone (new nodeId listenAddr cores) events := by
  constructor
  · rintro exclusive earlier e later rfl a runEarlier
    obtain ⟨a', cut, runTo⟩ := exec_through run
    have holds := exclusive _ a' cut runTo
    rw [exec_snoc, runEarlier] at runTo
    cases e with
    | endWait i outcome =>
      intro fails j alive
      obtain ⟨-, t, here, -, -, rfl⟩ := step_endWait runTo
      obtain ⟨u, there, lives⟩ := alive
      -- both failure branches free the record and leave every thread as it is
      have stillAlive : ∀ message, ∃ v,
          (a.tests.set i { t with wait := .failed message })[j]? = some v ∧ v.alive = true := by
        intro message
        by_cases same : j = i
        · subst same
          obtain rfl : t = u := Option.some.inj (here.symm.trans there)
          obtain ⟨inside, -⟩ := List.getElem?_eq_some_iff.mp here
          exact ⟨_, List.getElem?_set_self inside, lives⟩
        · exact ⟨u, (List.getElem?_set_ne (Ne.symm same)).trans there, lives⟩
      cases outcome with
      | ready => exact fails rfl
      | dropped | timedOut => cases (holds.owner j (stillAlive _)).1
    | start config | spawn outcome | abandon i | thread i act | complete i => trivial
  · rintro allowed done a cut runs
    have claimed : Claimed (new nodeId listenAddr cores) :=
      ⟨⟨rfl, rfl, by simp [new]⟩, by simp [new], by simp [new]⟩
    exact exclusive_of_claimed (Allowed.invariant claimed claimed_step (allowed.restrict cut) runs)

/-- A test whose thread panics before it is ready, one that runs to its end, and a third. -/
def threeTests : List Event :=
  [] ++ [.start shortTest] ++ [.spawn (.ok ())] ++ [.thread 0 .panic] ++ [.endWait 0 .dropped] ++
    [.start shortTest] ++ [.spawn (.ok ())] ++ [.thread 1 .signalReady] ++ [.endWait 1 .ready] ++
    [.thread 1 (.finish (.ok ⟨3000, 0⟩))] ++ [.complete 1] ++ [.start shortTest] ++
    [.spawn (.ok ())]

theorem exclusive_threeTests :
    (exec step (new ⟨"agent"⟩ "0.0.0.0:9090" 4) threeTests).isSome ∧
      ∀ done a, done <+: threeTests → exec step (new ⟨"agent"⟩ "0.0.0.0:9090" 4) done = some a →
        Exclusive a := by
  refine ⟨rfl, (exclusive_iff_waitFailsAlone rfl).mpr ?_⟩
  simp only [threeTests, Allowed, along_snoc, along_nil, true_and, WaitFailsAlone, implies_true,
    and_true, ne_eq, not_true_eq_false, false_implies, and_self]
  -- the only wait that fails
  rintro a run - j ⟨t, here, lives⟩
  cases run
  obtain _ | j := j
  · cases here
    cases lives
  · cases here

/-- A test takes more than 30 s to get ready. Its start request gives up and frees the
agent, a second test is accepted, and two test threads are alive. -/
theorem not_exclusive_slowStart :
    ∃ a, exec step (new ⟨"agent"⟩ "0.0.0.0:9090" 4)
          [.start shortTest, .spawn (.ok ()), .endWait 0 .timedOut, .start shortTest,
            .spawn (.ok ())] = some a ∧
      a.Alive 0 ∧ a.Alive 1 ∧ ¬ Exclusive a := by
  refine ⟨_, rfl, ⟨_, rfl, rfl⟩, ⟨_, rfl, rfl⟩, ?_⟩
  intro exclusive
  exact absurd (exclusive.oneAlive 0 1 ⟨_, rfl, rfl⟩ ⟨_, rfl, rfl⟩) (by decide)

end Netanvil.Agent
