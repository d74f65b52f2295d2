/-
# The totals an agent reports over time

A test's coordinator reports totals that only grow, and each report replaces the one before in
the test's cell. So as long as no new test is accepted, what `GET /metrics` serves either grows
or is gone, once the deferred reset has run.
-/
import Netanvil.Agent.Api

namespace Netanvil.Types

/-- Requests and errors. -/
def ProgressUpdate.totals (u : ProgressUpdate) : Nat × Nat := (u.totalRequests, u.totalErrors)

def MetricsView.totals (m : MetricsView) : Nat × Nat := (m.totalRequests, m.totalErrors)

end Netanvil.Types

namespace Netanvil.Agent

open Theory.Trace Netanvil.Types AgentState List Option Function TestRun

/-- An agent, and the totals each of its tests has last reported. -/
structure Reporting where
  agent : AgentState
  last : Nat → Nat × Nat

namespace Reporting

def new (nodeId : NodeId) (listenAddr : String) (cores : Nat) : Reporting :=
  ⟨.new nodeId listenAddr cores, fun _ => (0, 0)⟩

def noteReport (last : Nat → Nat × Nat) : Event → Nat → Nat × Nat
  | .thread i (.progress u) => update last i u.totals
  | _ => last

def step (s : Reporting) (e : Event) : Option Reporting :=
  (s.agent.step e).map fun a => ⟨a, noteReport s.last e⟩

end Reporting

/-- Totals only grow while a test runs, as those of its coordinator do
(`Core.Coordinator.tick_counters`). -/
def Honest (s : Reporting) : Event → Prop
  | .thread i (.progress u) => s.last i ≤ u.totals
  | _ => True

/-- No test is accepted. -/
def NoNewTest (s : Reporting) : Event → Prop
  | .start _ => s.agent.inner.state = .running
  | _ => True

/-! ## What a step does to the cells -/

section

variable {a a' : AgentState} {e : Event} {t u : TestRun}

/-- The change a step makes to the cells: none, a report of a test, or a reset. -/
inductive CellChange (a : AgentState) : Event → List SharedStateInner → Prop
  | same (e : Event) : CellChange a e a.cells
  | report (i : Nat) (u : ProgressUpdate) (t : TestRun) (here : a.tests[i]? = some t) :
      CellChange a (.thread i (.progress u))
        (a.cells.modify t.cell fun s => s.updateFromProgress u)
  | reset (i cell : Nat) :
      CellChange a (.thread i .reset) (a.cells.modify cell .resetMetrics)

theorem act_cell {act : ThreadAct} (moved : t.act act = some u) : u.cell = t.cell := by
  cases act <;> simp only [act] at moved <;> split at moved <;> cases moved <;> rfl

theorem map_cell_set {tests : List TestRun} {i : Nat} (here : tests[i]? = some t)
    (same : u.cell = t.cell) : (tests.set i u).map cell = tests.map cell := by
  obtain ⟨inside, rfl⟩ := List.getElem?_eq_some_iff.mp here
  rw [map_set, same, ← getElem_map cell]
  · exact set_getElem_self _
  · simpa using inside

/-- Unless it accepts a test, a step keeps the current handle and the tests' cells. -/
theorem step_cells (taken : a.step e = some a') :
    (∃ config, e = .start config ∧ a.acceptTest config = .ok a') ∨
      (a'.inner.sharedState = a.inner.sharedState ∧
        a'.tests.map cell = a.tests.map cell ∧ CellChange a e a'.cells) := by
  cases e with
  | start config =>
    obtain ⟨-, accepted | ⟨-, rfl⟩⟩ := step_start taken
    · exact .inl ⟨config, rfl, accepted⟩
    · exact .inr ⟨rfl, rfl, .same _⟩
  | spawn outcome =>
    obtain ⟨i, t, -, here, rfl⟩ := step_spawn taken
    refine .inr ?_
    cases outcome <;> exact ⟨rfl, map_cell_set here rfl, .same _⟩
  | endWait i outcome =>
    obtain ⟨-, t, here, -, -, rfl⟩ := step_endWait taken
    refine .inr ?_
    cases outcome <;> exact ⟨rfl, map_cell_set here rfl, .same _⟩
  | abandon i =>
    obtain ⟨-, t, here, rfl⟩ := step_abandon taken
    exact .inr ⟨rfl, map_cell_set here rfl, .same _⟩
  | thread i act =>
    obtain ⟨t, u, here, moved, rfl⟩ := step_thread taken
    refine .inr ⟨rfl, map_cell_set here (act_cell moved), ?_⟩
    cases act with
    | progress update => exact .report i update t here
    | reset =>
      simp only [writes]
      split
      · rename_i cell pending
        exact .reset i cell
      · exact .same _
    | signalReady | dropReady | finish result | panic => exact .same _
  | complete i =>
    obtain ⟨t, result, here, -, rfl⟩ := step_complete taken
    exact .inr ⟨rfl, map_cell_set here rfl, .same _⟩

variable {cells : List SharedStateInner} {c : SharedStateInner}

/-- Looking up a list of cells in which one was changed. -/
theorem getElem?_modify_cases {k j : Nat} {f : SharedStateInner → SharedStateInner}
    (found : (cells.modify k f)[j]? = some c) :
    ∃ d, cells[j]? = some d ∧ (k = j ∧ c = f d ∨ k ≠ j ∧ c = d) := by
  rw [getElem?_modify] at found
  obtain ⟨d, there, rfl⟩ := map_eq_some_iff.mp found
  refine ⟨d, there, ?_⟩
  split
  · rename_i same
    exact .inl ⟨same, rfl⟩
  · rename_i different
    exact .inr ⟨different, rfl⟩

theorem CellChange.length (change : CellChange a e cells) : cells.length = a.cells.length := by
  cases change with
  | same => rfl
  | report | reset => simp

/-- Metrics shown after a step were there before, or are of the report just made. -/
theorem CellChange.shows {j : Nat} {m : MetricsView} (change : CellChange a e cells)
    (found : cells[j]? = some c) (shows : c.metrics = some m) :
    (∃ d, a.cells[j]? = some d ∧ d.metrics = some m) ∨
      ∃ i u t, e = .thread i (.progress u) ∧ a.tests[i]? = some t ∧ t.cell = j ∧
        m.totals = u.totals := by
  cases change with
  | same => exact .inl ⟨c, found, shows⟩
  | report i u t here =>
    obtain ⟨d, there, ⟨same, rfl⟩ | ⟨-, rfl⟩⟩ := getElem?_modify_cases found
    · cases shows
      exact .inr ⟨i, u, t, rfl, here, same, rfl⟩
    · exact .inl ⟨c, there, shows⟩
  | reset i cell =>
    obtain ⟨d, there, ⟨-, rfl⟩ | ⟨-, rfl⟩⟩ := getElem?_modify_cases found
    · cases shows
    · exact .inl ⟨c, there, shows⟩

end

/-! ## Every history -/

/-- Each test has a cell of its own, and what the cell shows is not above what the test
has last reported. -/
structure Kept (s : Reporting) : Prop where
  cells : s.agent.tests.map cell = (range s.agent.tests.length).map (· + 1)
  count : s.agent.cells.length = s.agent.tests.length + 1
  unowned : ∀ c, s.agent.cells[0]? = some c → c.metrics = none
  marks : ∀ i c m, s.agent.cells[i + 1]? = some c → c.metrics = some m → m.totals ≤ s.last i

section

variable {s s' : Reporting} {e : Event}

theorem Kept.cell_eq (kept : Kept s) {i : Nat} {t : TestRun} (here : s.agent.tests[i]? = some t) :
    t.cell = i + 1 := by
  have inside := (List.getElem?_eq_some_iff.mp here).1
  have same := congrArg (fun l => l[i]?) kept.cells
  simp only [List.getElem?_map, here, List.getElem?_range inside, map_some] at same
  exact some.inj same

theorem kept_new (nodeId : NodeId) (listenAddr : String) (cores : Nat) :
    Kept (.new nodeId listenAddr cores) := by
  refine ⟨rfl, rfl, ?_, ?_⟩
  · rintro c found
    cases found
    rfl
  · rintro i c m found
    cases found

theorem Kept.accept {config : TestConfig} (kept : Kept s)
    (accepted : s.agent.acceptTest config = .ok s'.agent) (last : s'.last = s.last) : Kept s' := by
  obtain ⟨-, -, -, -, cells, -, config', tests⟩ := acceptTest_eq accepted
  have fresh : ∀ (j : Nat) (c : SharedStateInner), s'.agent.cells[j]? = some c →
      s.agent.cells[j]? = some c ∨ c.metrics = none := by
    intro j c found
    rw [cells] at found
    rcases Nat.lt_or_ge j s.agent.cells.length with old | added
    · rw [getElem?_append_left old] at found
      exact .inl found
    · rw [getElem?_append_right added] at found
      obtain rfl := mem_singleton.mp (mem_of_getElem? found)
      exact .inr rfl
  refine ⟨?_, ?_, ?_, ?_⟩
  · rw [tests, map_append, kept.cells, length_append, length_singleton,
      range_succ, map_append, kept.count]
    rfl
  · rw [cells, tests, length_append, length_append, kept.count]
    rfl
  · intro c found
    rcases fresh 0 c found with old | empty
    · exact kept.unowned c old
    · exact empty
  · intro i c m found shows
    rcases fresh (i + 1) c found with old | empty
    · rw [last]
      exact kept.marks i c m old shows
    · rw [empty] at shows
      cases shows

/-- An honest report is not below the one before. -/
theorem last_le (honest : Honest s e) (i : Nat) : s.last i ≤ Reporting.noteReport s.last e i := by
  unfold Reporting.noteReport
  split
  · rename_i j u
    by_cases same : i = j
    · subst same
      rw [update_self]
      exact honest
    · rw [update_of_ne same]
  · exact le_refl _

theorem kept_step (kept : Kept s) (honest : Honest s e) (taken : s.step e = some s') : Kept s' := by
  obtain ⟨a, moved, rfl⟩ := map_eq_some_iff.mp taken
  rcases step_cells moved with ⟨config, rfl, accepted⟩ | ⟨-, tests, change⟩
  · exact kept.accept accepted rfl
  · have length : a.tests.length = s.agent.tests.length := by
      simpa using congrArg length tests
    refine ⟨?_, ?_, ?_, ?_⟩
    · rw [tests, kept.cells, length]
    · rw [change.length, length, kept.count]
    · intro c found
      cases shows : c.metrics with
      | none => rfl
      | some m =>
        rcases change.shows found shows with ⟨d, there, shown⟩ | ⟨i, u, t, -, here, first, -⟩
        · rw [kept.unowned d there] at shown
          cases shown
        · rw [kept.cell_eq here] at first
          omega
    · intro i c m found shows
      rcases change.shows found shows with ⟨d, there, shown⟩ | ⟨j, u, t, rfl, here, own, totals⟩
      · exact le_trans (kept.marks i d m there shown) (last_le honest i)
      · obtain rfl : j = i := by
          rw [kept.cell_eq here] at own
          omega
        show m.totals ≤ update s.last j u.totals j
        rw [update_self, totals]

/-! ## While no test is accepted -/

/-- The current handle is that of cell `k`, and neither what it shows nor what its test
will report is below `low`. -/
structure Since (k : Nat) (low : Nat × Nat) (s : Reporting) : Prop where
  kept : Kept s
  shared : s.agent.inner.sharedState = k
  last : ∀ i, k = i + 1 → low ≤ s.last i
  shown : ∀ c m, s.agent.cells[k]? = some c → c.metrics = some m → low ≤ m.totals

theorem metrics_eq_some {a : AgentState} {m : MetricsView} :
    a.metrics = some m ↔ ∃ c, a.cells[a.inner.sharedState]? = some c ∧ c.metrics = some m := by
  exact bind_eq_some_iff

end

/-- An agent over time: some honest past, and then honest moves without a new test. -/
structure History (h : Nat → Reporting) : Prop where
  past : ∃ nodeId listenAddr cores events,
    Allowed Reporting.step Honest (.new nodeId listenAddr cores) events ∧
      exec Reporting.step (.new nodeId listenAddr cores) events = some (h 0)
  next : ∀ i, ∃ events,
    Allowed Reporting.step (fun s e => Honest s e ∧ NoNewTest s e) (h i) events ∧
      exec Reporting.step (h i) events = some (h (i + 1))

theorem History.kept {h : Nat → Reporting} (history : History h) (i : Nat) : Kept (h i) := by
  induction i with
  | zero =>
    obtain ⟨nodeId, listenAddr, cores, events, allowed, run⟩ := history.past
    exact allowed.invariant (kept_new nodeId listenAddr cores) kept_step run
  | succ i ih =>
    obtain ⟨events, allowed, run⟩ := history.next i
    exact allowed.invariant ih (fun kept ok => kept_step kept ok.1) run

/-- **Without a new test, metrics that are still there have not gone down.** -/
theorem History.totals_le {h : Nat → Reporting} (history : History h) {i j : Nat} (order : i ≤ j)
    {m m' : MetricsView} (before : (h i).agent.metrics = some m)
    (after : (h j).agent.metrics = some m') : m.totals ≤ m'.totals := by
  have since : Since (h i).agent.inner.sharedState m.totals (h j) := by
    clear after
    induction order with
    | refl =>
      obtain ⟨c, here, shows⟩ := metrics_eq_some.mp before
      refine ⟨history.kept i, rfl, fun j owner => ?_, fun d x there shown => ?_⟩
      · rw [owner] at here
        exact (history.kept i).marks j c _ here shows
      · obtain rfl := some.inj (here.symm.trans there)
        obtain rfl := some.inj (shows.symm.trans shown)
        exact le_refl _
    | @step j _ ih =>
      obtain ⟨events, allowed, run⟩ := history.next j
      refine allowed.invariant ih (fun {s e s'} since ok taken => ?_) run
      obtain ⟨honest, noNew⟩ := ok
      have kept := kept_step since.kept honest taken
      obtain ⟨a, moved, rfl⟩ := map_eq_some_iff.mp taken
      rcases step_cells moved with ⟨config, rfl, accepted⟩ | ⟨shared, -, change⟩
      · exact absurd noNew (acceptTest_eq accepted).1
      · refine ⟨kept, shared.trans since.shared, ?_, ?_⟩
        · exact fun i owner => le_trans (since.last i owner) (last_le honest i)
        · intro c m found shows
          rcases change.shows found shows with ⟨d, there, shown⟩ | ⟨i, u, t, rfl, here, own, totals⟩
          · exact since.shown d m there shown
          · rw [totals]
            refine le_trans (since.last i ?_) honest
            rw [← own]
            exact since.kept.cell_eq here
  obtain ⟨c, here, shows⟩ := metrics_eq_some.mp after
  rw [since.shared] at here
  exact since.shown c m' here shows

/-! ## One test from start to reset -/

/-- A report that says nothing but its request total. -/
def requestsOnly (totalRequests : Nat) : ProgressUpdate :=
  ⟨0, 0, 0, 0, totalRequests, 0, ⟨0, 0, 0, 0, 0, 0, 0, 0, 0, 0, 0, 0, [], 0, 0⟩, [], .zero,
    0, 0, 0, 0, 0, 0⟩

def Reporting.after (s : Reporting) (events : List Event) : Reporting :=
  (exec step s events).getD s

def reports : List Event :=
  [.start shortTest, .spawn (.ok ()), .thread 0 .signalReady, .endWait 0 .ready,
    .thread 0 (.progress (requestsOnly 100))]

def ends : List Event := [.thread 0 (.finish (.ok ⟨100, 0⟩)), .complete 0]

def reported : Reporting := (Reporting.new ⟨"a"⟩ "10.0.0.1:9090" 4).after reports

def ended : Reporting := reported.after ends

def cleared : Reporting := ended.after [.thread 0 .reset]

/-- A test that has reported, has ended, and has had its metrics cleared. -/
def phase : Nat → Reporting
  | 0 => reported
  | 1 => ended
  | _ => cleared

/-- An agent that goes through the phases up to `final` and stays there. -/
def oneTest (final i : Nat) : Reporting := phase (min i final)

theorem history_oneTest (final : Nat) : History (oneTest final) where
  past := by
    refine ⟨⟨"a"⟩, "10.0.0.1:9090", 4, reports, ?_, ?_⟩
    · have split : reports = [.start shortTest, .spawn (.ok ()), .thread 0 .signalReady,
        .endWait 0 .ready] ++ [.thread 0 (.progress (requestsOnly 100))] := rfl
      rw [split]
      refine along_snoc.mpr ⟨Allowed.of_forall fun e member s => ?_, fun s run => ?_⟩
      · simp only [mem_cons, not_mem_nil, or_false] at member
        rcases member with rfl | rfl | rfl | rfl <;> exact trivial
      · cases run
        exact ⟨Nat.zero_le _, Nat.zero_le _⟩
    · rfl
  next i := by
    unfold oneTest
    rcases Nat.lt_or_ge i final with before | past
    · rw [Nat.min_eq_left before.le, Nat.min_eq_left before]
      match i with
      | 0 =>
        refine ⟨ends, .of_forall fun e member s => ?_, rfl⟩
        simp only [ends, mem_cons, not_mem_nil, or_false] at member
        rcases member with rfl | rfl <;> exact ⟨trivial, trivial⟩
      | 1 =>
        refine ⟨[.thread 0 .reset], .of_forall fun e member s => ?_, rfl⟩
        obtain rfl := mem_singleton.mp member
        exact ⟨trivial, trivial⟩
      | i + 2 => exact ⟨[], along_nil _, rfl⟩
    · rw [Nat.min_eq_right past, Nat.min_eq_right (by omega)]
      exact ⟨[], along_nil _, rfl⟩

/-! ## Tests that another one has followed -/

/-- Each test has a cell of its own, and the current handle is the last test's. -/
structure OwnCells (a : AgentState) : Prop where
  cells : a.tests.map cell = (range a.tests.length).map (· + 1)
  count : a.cells.length = a.tests.length + 1
  current : a.inner.sharedState = a.tests.length

variable {a a' : AgentState}

theorem ownCells_step {e : Event} (own : OwnCells a) (taken : a.step e = some a') :
    OwnCells a' := by
  rcases step_cells taken with ⟨config, -, accepted⟩ | ⟨shared, tests, change⟩
  · obtain ⟨-, -, shared, -, cells, -, config', tests⟩ := acceptTest_eq accepted
    constructor <;> simp [shared, cells, tests, own.cells, own.count, range_succ]
  · have length : a'.tests.length = a.tests.length := by simpa using congrArg length tests
    exact ⟨by rw [tests, own.cells, length], by rw [change.length, own.count, length],
      by rw [shared, own.current, length]⟩

/-- **What a test reports is not shown once another test has been accepted**, even if its thread
goes on because its start request has given up. -/
theorem earlier_report_not_shown {nodeId : NodeId} {listenAddr : String} {cores i : Nat}
    {events : List Event} {u : ProgressUpdate}
    (run : exec step (new nodeId listenAddr cores) events = some a)
    (followed : i + 1 < a.tests.length) (taken : a.step (.thread i (.progress u)) = some a') :
    a'.view = a.view := by
  have own : OwnCells a :=
    exec_invariant (I := fun _ => OwnCells) ⟨rfl, rfl, rfl⟩ ownCells_step run
  obtain ⟨t, v, here, -, rfl⟩ := step_thread taken
  have cell := congrArg (fun cells => cells[i]?) own.cells
  have inside : i < a.tests.length := by omega
  simp only [List.getElem?_map, here, List.getElem?_range inside, map_some, some.injEq] at cell
  have other : t.cell ≠ a.inner.sharedState := by rw [cell, own.current]; omega
  simp [view, writes, writeCell, other]

theorem slow_start_not_shown :
    ∃ a a', exec step (new ⟨"a"⟩ "" 4) [.start shortTest, .spawn (.ok ()), .endWait 0 .timedOut,
        .start shortTest] = some a ∧ 1 < a.tests.length ∧
      a.step (.thread 0 (.progress (requestsOnly 9))) = some a' ∧ a'.view = a.view :=
  ⟨_, _, evaluates, by decide, rfl, earlier_report_not_shown (i := 0) (evaluates _) (by decide) rfl⟩

end Netanvil.Agent
