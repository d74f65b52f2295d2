/-
# What a warm-up keeps out of the result

Neither the tick that completes warm-up nor the drains at the end ask when a snapshot was
taken, so one taken during warm-up is counted if it is received there. `excludes_iff`
says exactly when nothing taken during warm-up is in the result.
-/
import Netanvil.Core.Accounting
import Mathlib.Algebra.Order.Monoid.Prod

namespace Netanvil.Metrics

/-- The counters and the histogram a result is read off. -/
abbrev Reported := ℕ × ℕ × ℕ × ℕ × Multiset ℕ

def MetricsSnapshot.reported (s : MetricsSnapshot) : Reported :=
  (s.totalRequests, s.totalErrors, s.bytesSent, s.bytesReceived, s.latencyHistogram)

def AggregateMetrics.reported (a : AggregateMetrics) : Reported :=
  (a.totalRequests, a.totalErrors, a.bytesSent, a.bytesReceived, a.histogram)

theorem AggregateMetrics.reported_merge (a : AggregateMetrics) (s : MetricsSnapshot) :
    (a.merge s).reported = a.reported + s.reported := rfl

end Netanvil.Metrics

namespace Netanvil.Core.Session

open Netanvil.Types Metrics Theory.Trace List AggregateMetrics Function

variable {n : Nat} {S : Type} {setup : SessionSetup S} {warmup next : Nat}

/-- Taken before the warm-up had elapsed. -/
def early (warmup : Nat) (x : MetricsSnapshot) : Bool := x.windowEnd < warmup

/-- What was taken after warm-up and counted. -/
def lateCounted (setup : SessionSetup S) (warmup : Nat) (s : Session n S) : List MetricsSnapshot :=
  (s.counted setup).filter fun x => !early warmup x

/-- The result shows only what was taken after warm-up. -/
structure ExcludesWarmup (setup : SessionSetup S) (warmup : Nat) (s : Session n S)
    (result : TestResult) : Prop where
  requests : result.totalRequests = ((s.lateCounted setup warmup).map (·.totalRequests)).sum
  errors : result.totalErrors = ((s.lateCounted setup warmup).map (·.totalErrors)).sum
  bytesSent : result.totalBytesSent = ((s.lateCounted setup warmup).map (·.bytesSent)).sum
  bytesReceived : result.totalBytesReceived =
    ((s.lateCounted setup warmup).map (·.bytesReceived)).sum
  /-- The histogram the result's latencies are read off. -/
  histogram : s.coordinator.totalAggregate.histogram =
    ((s.lateCounted setup warmup).map (·.latencyHistogram)).sum

/-- If the event receives a snapshot that was taken during warm-up and holds anything, it
belongs to a tick that began during warm-up. -/
def Gated (warmup : Nat) (s : Session n S) (event : SessionEvent n) : Prop :=
  event = .tryRecv → ∀ (drain : Drain) (batch : Batch n) (i : Fin n) (x : MetricsSnapshot)
    (rest : List MetricsSnapshot), s.phase = .draining drain batch i →
      (s.workers i).queue = x :: rest → early warmup x = true → x.reported ≠ 0 →
        ∃ commands elapsed, drain = .tick commands elapsed ∧ elapsed < warmup

/-! ## Which drains are clean -/

variable (setup warmup) in
/-- If the drain counts, it has received nothing of the warm-up. -/
def CleanDrain (drain : Drain) (batch : Batch n) : Prop :=
  counts setup drain = true → ∀ i, ∀ x ∈ batch i, early warmup x = true → x.reported = 0

variable (setup warmup) in
def Clean (s : Session n S) : Prop :=
  (∀ d ∈ s.drains, CleanDrain setup warmup d.drain d.batch) ∧
    ∀ {drain batch next}, s.phase = .draining drain batch next → CleanDrain setup warmup drain batch

variable {drain : Drain} {batch : Batch n} {x : MetricsSnapshot} {s s' : Session n S}
  {result : TestResult} {i : Fin n}

theorem cleanDrain_update :
    CleanDrain setup warmup drain (update batch i (batch i ++ [x])) ↔
      CleanDrain setup warmup drain batch ∧
        (counts setup drain = true → early warmup x = true → x.reported = 0) := by
  constructor
  · intro clean
    refine ⟨fun counted j y mem isEarly => clean counted j y ?_ isEarly, fun counted isEarly =>
      clean counted i x (by simp) isEarly⟩
    by_cases same : j = i
    · subst same
      simp [mem]
    · simpa [same] using mem
  · rintro ⟨clean, last⟩ counted j y mem isEarly
    by_cases same : j = i
    · subst same
      rw [update_self, mem_append, mem_singleton] at mem
      rcases mem with earlier | rfl
      · exact clean counted j y earlier isEarly
      · exact last counted isEarly
    · rw [update_of_ne same] at mem
      exact clean counted j y mem isEarly

theorem clean_draining (here : s.phase = .draining drain batch next) :
    s.Clean setup warmup ↔
      (∀ d ∈ s.drains, CleanDrain setup warmup d.drain d.batch) ∧
        CleanDrain setup warmup drain batch := by
  refine and_congr_right fun _ => ⟨fun clean => clean here, fun clean => ?_⟩
  intro drain' batch' next' here'
  cases here.symm.trans here'
  exact clean

theorem clean_idle (idle : ∀ drain batch next, s.phase ≠ .draining drain batch next) :
    s.Clean setup warmup ↔ ∀ d ∈ s.drains, CleanDrain setup warmup d.drain d.batch :=
  and_iff_left fun here => absurd here (idle _ _ _)

section

variable (timed : setup.warmupDuration = some warmup)
include timed

theorem counts_eq_false_iff :
    counts setup drain = false ↔ ∃ commands elapsed, drain = .tick commands elapsed ∧
      elapsed < warmup := by
  cases drain with
  | tick commands elapsed => simp [counts, timed]
  | beforeJoin | afterJoin => simp [counts]

/-- The receipt of `x` is gated exactly if the drain does not count, or `x` holds nothing
of the warm-up. -/
theorem gated_takes {rest : List MetricsSnapshot} (here : s.phase = .draining drain batch i)
    (waiting : (s.workers i).queue = x :: rest) : Gated warmup s .tryRecv ↔
      (counts setup drain = true → early warmup x = true → x.reported = 0) := by
  constructor
  · intro gated counted isEarly
    by_contra holds
    have dropped := gated rfl drain batch i x rest here waiting isEarly holds
    rw [← counts_eq_false_iff timed, counted] at dropped
    cases dropped
  · intro clean _ drain' batch' j y rest' here' waiting' isEarly holds
    obtain ⟨rfl, -, same⟩ := Phase.draining.inj (here.symm.trans here')
    obtain rfl := Fin.ext same
    obtain ⟨rfl, -⟩ := List.cons.inj (waiting.symm.trans waiting')
    rw [← counts_eq_false_iff timed, ← Bool.not_eq_true]
    exact fun counted => holds (clean counted isEarly)

/-- A step keeps the drains clean exactly if it is gated. -/
theorem clean_moves {event : SessionEvent n} (move : Moves setup s event s') :
    s'.Clean setup warmup ↔ s.Clean setup warmup ∧ Gated warmup s event := by
  cases move with
  | passes other clock timerRunning running later ends | sends other i x running taken =>
    exact (and_iff_left fun same => absurd same other).symm
  | turns other turn =>
    rw [and_iff_left (show Gated warmup s event from fun same => absurd same other)]
    have idle : ∀ drain batch next, s.phase ≠ .draining drain batch next := by
      intro drain batch next here
      cases turn <;> simp_all
    rw [clean_idle idle]
    refine ⟨fun clean => clean.1, fun clean => ⟨clean, ?_⟩⟩
    intro drain batch next here
    cases turn <;> cases here <;>
      exact fun _ _ _ mem => absurd mem not_mem_nil
  | @finds drain batch i here empty =>
    have gated : Gated warmup s .tryRecv := by
      intro _ drain' batch' j x rest here' waiting
      obtain ⟨-, -, same⟩ := Phase.draining.inj (here.symm.trans here')
      rw [← Fin.ext same, empty] at waiting
      cases waiting
    rw [and_iff_left gated, clean_draining here, clean_draining rfl]
  | takes here waiting =>
    rw [gated_takes timed here waiting, clean_draining here, clean_draining rfl,
      cleanDrain_update, and_assoc]
    rfl
  | @merges _ other drain batch next k phase here all merged =>
    rw [and_iff_left (show Gated warmup s event from fun same => absurd same other),
      clean_draining here, clean_idle (by cases merged <;> simp)]
    -- the batch in hand is now the last drain of the log
    simp only [logDrain, mem_append, mem_singleton]
    exact ⟨fun clean => ⟨fun d logged => clean d (.inl logged), clean _ (.inr rfl)⟩,
      fun clean d logged => logged.elim (clean.1 d) fun now => now ▸ clean.2⟩

theorem clean_iff_of_run {events : List (SessionEvent n)}
    (run : exec (step setup) (start setup) events = some s) :
    s.Clean setup warmup ↔ Allowed (step setup) (Gated warmup) (start setup) events := by
  induction events using List.reverseRecOn generalizing s with
  | nil =>
    obtain rfl : start setup = s := by simpa [exec] using run
    refine iff_of_true ?_ (along_nil _)
    rw [clean_idle (by simp [start])]
    simp [start]
  | append_singleton events event ih =>
    obtain ⟨t, earlier, taken⟩ := exec_snoc_iff.mp run
    rw [clean_moves timed (step_moves taken), ih earlier, Allowed, along_snoc]
    refine and_congr_right fun _ => ⟨fun gated t' reached => ?_, fun gated => gated t earlier⟩
    obtain rfl := Option.some.inj (reached.symm.trans earlier)
    exact gated

end

/-! ## The result -/

/-- At the end, the drains are clean exactly if nothing counted holds anything of the
warm-up. -/
theorem clean_returned (returned : s.phase = .returned result) :
    s.Clean setup warmup ↔ ∀ x ∈ s.counted setup, early warmup x = true → x.reported = 0 := by
  rw [clean_idle (by simp [returned])]
  simp only [counted, mem_flatMap, mem_filter, Batch.all, mem_flatten,
    mem_ofFn, exists_exists_eq_and, CleanDrain]
  constructor
  · rintro clean x ⟨d, ⟨logged, counted⟩, i, mem⟩ isEarly
    exact clean d logged counted i x mem isEarly
  · intro clean d logged counted i x mem isEarly
    exact clean x ⟨d, ⟨logged, counted⟩, i, mem⟩ isEarly

theorem sum_eq_sum_filter_iff (p : MetricsSnapshot → Bool) (l : List MetricsSnapshot) :
    (l.map (·.reported)).sum = ((l.filter fun x => !p x).map (·.reported)).sum ↔
      ∀ x ∈ l, p x = true → x.reported = 0 := by
  have split : (l.map (·.reported)).sum = ((l.filter fun x => !p x).map (·.reported)).sum +
      ((l.filter p).map (·.reported)).sum := by
    rw [add_comm, ← sum_append, ← map_append]
    exact ((filter_append_perm p l).map _).sum_eq.symm
  rw [split, add_eq_left, sum_eq_zero_iff]
  simp only [mem_map, mem_filter]
  exact ⟨fun zero x mem here => zero _ ⟨x, ⟨mem, here⟩, rfl⟩,
    fun zero r ⟨x, ⟨mem, here⟩, same⟩ => same ▸ zero x mem here⟩

theorem reported_sum (l : List MetricsSnapshot) :
    (l.map (·.reported)).sum = ((l.map (·.totalRequests)).sum, (l.map (·.totalErrors)).sum,
      (l.map (·.bytesSent)).sum, (l.map (·.bytesReceived)).sum,
      (l.map (·.latencyHistogram)).sum) := by
  induction l with
  | nil => rfl
  | cons x rest ih => simp only [map_cons, sum_cons, ih]; rfl

theorem excludes_iff_reported
    (readOff : ∃ stats elapsed, result = testResult s.coordinator.totalAggregate stats
      setup.valueAtQuantile setup.maxValue elapsed) :
    s.ExcludesWarmup setup warmup result ↔
      s.coordinator.totalAggregate.reported =
        ((s.lateCounted setup warmup).map (·.reported)).sum := by
  obtain ⟨stats, elapsed, rfl⟩ := readOff
  rw [reported_sum, reported]
  simp only [Prod.mk.injEq]
  exact ⟨fun ⟨requests, errors, sent, received, histogram⟩ =>
      ⟨requests, errors, sent, received, histogram⟩,
    fun ⟨requests, errors, sent, received, histogram⟩ =>
      ⟨requests, errors, sent, received, histogram⟩⟩

/-- **A result shows nothing of the warm-up exactly if every snapshot that was taken during
warm-up and holds anything was received by a tick that began during warm-up.** -/
theorem excludes_iff (timed : setup.warmupDuration = some warmup) {events : List (SessionEvent n)}
    {s : Session n S} (run : exec (step setup) (start setup) events = some s) {result : TestResult}
    (returned : s.phase = .returned result) :
    s.ExcludesWarmup setup warmup result ↔
      Allowed (step setup) (Gated warmup) (start setup) events := by
  have total : s.coordinator.totalAggregate.reported =
      ((s.counted setup).map (·.reported)).sum := by
    rw [(books_of_run run).total, foldl_merge_of_adds reported_merge]
    exact zero_add _
  rw [excludes_iff_reported ((atEnd_of_run run).readOff returned), total, lateCounted,
    sum_eq_sum_filter_iff, ← clean_returned returned, clean_iff_of_run timed run]

def warmSetup (warmup : Nat) : SessionSetup ℚ := { coldSetup with warmupDuration := some warmup }

/-- A snapshot of the warm-up reaches a tick during warm-up, and one taken after it the
tick that completes warm-up. -/
def receivedInTime : List (SessionEvent 1) :=
  [.elapse 500000000, .send (Fin.last 0) oneRequest, .elapse 500000000, .beginTick [], .tryRecv,
    .tryRecv, .endTick none none, .check, .elapse 1500000000,
    .send (Fin.last 0) { oneRequest with windowEnd := 2000000000 }, .beginTick [.stop], .tryRecv,
    .tryRecv, .endTick none none, .check, .elapse 200000000, .beginDrain, .tryRecv, .endDrain,
    .workerEnds (Fin.last 0), .timerEnds, .join, .tryRecv, .report ⟨2, 0⟩]

theorem received_in_time_excludes :
    ∃ (s : Session 1 ℚ) (result : TestResult),
      exec (step (warmSetup 1500000000)) (start (warmSetup 1500000000)) receivedInTime = some s ∧
        s.phase = .returned result ∧ result.totalRequests = 1 ∧
        (s.ExcludesWarmup (warmSetup 1500000000) 1500000000 result ↔
          Allowed (step (warmSetup 1500000000)) (Gated 1500000000) (start (warmSetup 1500000000))
            receivedInTime) :=
  ⟨_, _, evaluates,
    phase_of_result evaluates, by decide +kernel,
    excludes_iff rfl (evaluates _) (phase_of_result (evaluates _))⟩

/-- A test stopped at its first tick, long before its warm-up of ten seconds has elapsed:
the drains at the end put two requests of the warm-up into the result. -/
theorem stopped_during_warmup :
    ∃ (s : Session 2 ℚ) (result : TestResult),
      exec (step (warmSetup 10000000000)) (start (warmSetup 10000000000)) stoppedAtOnce = some s ∧
        s.phase = .returned result ∧ result.totalRequests = 2 ∧
        ¬ s.ExcludesWarmup (warmSetup 10000000000) 10000000000
          result := by
  refine ⟨_, _, evaluates, phase_of_result evaluates, by decide +kernel, fun excludes => ?_⟩
  exact absurd excludes.requests (by decide +kernel)

end Netanvil.Core.Session
