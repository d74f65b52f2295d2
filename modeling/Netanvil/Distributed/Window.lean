/-
# What window the leader's controller sees

The local coordinator gives its controller the window since the last tick
(`Core.Coordinator.tick_isWindow`). The agents of a leader report totals since their start, and
it hands the sums of these on as they are: the summary of a tick is the window since the tick
before if and only if that tick's sums were all 0 (`isWindow_iff`).
-/
import Netanvil.Core.StaticRate
import Netanvil.Distributed.Run

namespace Netanvil.Distributed

open Netanvil.Types Netanvil.Core Theory.Tally DistributedCoordinator Counters

variable {S : Type} {c : RateController S}

/-- The sums of the counters the agents report at a tick. -/
def reported (t : Tick S) : Counters :=
  (t.nodes.map fun n => (t.input.fetch n).elim 0 RemoteMetrics.counters).sum

/-- The sums at the last of these ticks; 0 before the first. -/
def lastReported (ticks : List (Tick S)) : Counters :=
  ticks.getLast?.elim 0 reported

/-- A leader of the nodes `present` that has stored no report but theirs. -/
structure Steady (present : List NodeInfo) (l : DistributedCoordinator S) : Prop where
  distinct : (l.discovery.nodes.map NodeInfo.id).Nodup
  discover : l.discover = present
  others : ∀ id, id ∉ present.map NodeInfo.id → l.nodeMetrics.lookup id = none

section

variable {l : DistributedCoordinator S} {present : List NodeInfo} {input : TickInput}
  (steady : Steady present l)
include steady

theorem Steady.distinctPresent : (present.map NodeInfo.id).Nodup := by
  rw [← steady.discover]
  exact StaticDiscovery.nodup_discover steady.distinct

theorem Steady.tick (answered : ∀ n ∈ l.discover, (input.fetch n).isSome) :
    Steady present (l.tick c l.discover input).after := by
  refine ⟨?_, ?_, ?_⟩
  · rw [tick_nodes_eq]
    exact steady.distinct
  · rw [tick_discover steady.distinct, List.filter_eq_self.mpr answered]
    exact steady.discover
  · intro id absent
    rw [tick_nodeMetrics, steady.discover, lookup_collected_of_notMem absent]
    exact steady.others id absent

/-- The sums the leader aggregates are those of the answers. -/
theorem Steady.counters_tick (answered : ∀ n ∈ l.discover, (input.fetch n).isSome) :
    (l.tick c l.discover input).after.aggregateMetrics.counters =
      reported (l.tick c l.discover input) := by
  have listed : ∀ n ∈ l.discover,
      (l.tick c l.discover input).after.nodeMetrics.lookup n.id = input.fetch n := by
    intro n there
    obtain ⟨x, answer⟩ := Option.isSome_iff_exists.mp (answered n there)
    rw [tick_nodeMetrics, lookup_collected_of_mem ?_ there, answer, Option.some_or]
    rw [steady.discover]
    exact steady.distinctPresent
  have others : ∀ id, id ∉ l.discover.map NodeInfo.id →
      (l.tick c l.discover input).after.nodeMetrics.lookup id = none := by
    rw [steady.discover]
    intro id absent
    rw [← steady.discover]
    exact (steady.tick answered).others id absent
  have distinct : (l.discover.map NodeInfo.id).Nodup := by
    rw [steady.discover]
    exact steady.distinctPresent
  have sum : ∀ f : RemoteMetrics → Nat, tally f (l.tick c l.discover input).after.nodeMetrics =
      (l.discover.map fun n => (input.fetch n).elim 0 f).sum :=
    fun f => tally_eq_sum f distinct input.fetch listed others
  have pick : ∀ (g : Counters → Nat), g 0 = 0 → ∀ n : NodeInfo,
      g ((input.fetch n).elim 0 RemoteMetrics.counters) =
        (input.fetch n).elim 0 fun m => g m.counters := by
    intro g zero n
    cases input.fetch n with
    | none => exact zero
    | some x => rfl
  rw [reported, tick_nodes, tick_input, sum_map]
  simp only [pick requests rfl, pick errors rfl, pick timeouts rfl]
  simp only [MetricsSummary.counters, aggregateMetrics, totalRequests, totalErrors, sum]
  rfl

end

section

variable {nodes : List NodeInfo} {config : TestConfig} {s : S} {input : RunInput}
  {earlier later : List (Tick S)} {t : Tick S}

/-- A run without failed fetches keeps its leader steady. -/
theorem steady_before (distinct : (nodes.map NodeInfo.id).Nodup)
    (split : (loop c (launched c (.new nodes config s) input) input.ticks).ticks = earlier ++ later)
    (answered : ∀ t ∈ earlier, ∀ n ∈ t.nodes, (t.input.fetch n).isSome) :
    Steady (launched c (.new nodes config s) input).discover
      (afterTicks (launched c (.new nodes config s) input) earlier) := by
  refine loop_invariant (fun l input steady answered => steady.tick answered) ?_ split answered
  refine ⟨?_, rfl, ?_⟩
  · rw [launched_nodes]
    exact distinct
  · intro id absent
    rw [launched_nodeMetrics]
    exact Finmap.lookup_empty id

/-- **While every fetch succeeds, the controller is given the window since the tick
before if and only if the sums reported at that tick were all 0.** -/
theorem isWindow_iff (distinct : (nodes.map NodeInfo.id).Nodup)
    (answered : ∀ t ∈ (run c (.new nodes config s) input).ticks, ∀ n ∈ t.nodes,
      (t.input.fetch n).isSome)
    (split : (run c (.new nodes config s) input).ticks = earlier ++ t :: later)
    {summary : MetricsSummary} (given : t.summary = some summary) :
    IsWindow (lastReported earlier) (reported t) summary ↔ lastReported earlier = 0 := by
  rw [split] at answered
  rw [run_ticks] at split
  obtain ⟨-, step⟩ := loop_split split
  have steady := steady_before distinct split fun t there => answered t (by simp [there])
  have answeredHere := answered t (by simp)
  generalize afterTicks (launched c (.new nodes config s) input) earlier = l at step steady
  rw [step] at given answeredHere
  rw [tick_nodes, tick_input] at answeredHere
  have shown := tick_summary c l _ _ given
  have counters : summary.counters = reported t := by
    rw [step, ← steady.counters_tick answeredHere, shown]
    rfl
  constructor
  · rintro ⟨increase, -⟩
    rw [counters] at increase
    have parts := Counters.ext_iff.mp increase
    simp only [Counters.counters_add] at parts
    ext
    · exact (by omega : (lastReported earlier).requests = 0)
    · exact (by omega : (lastReported earlier).errors = 0)
    · exact (by omega : (lastReported earlier).timeouts = 0)
  · intro zero
    refine .of_guarded ?_ ?_
    · rw [zero, zero_add, counters]
    · rw [shown]
      rfl

end

/-- The first tick shows what has happened so far, which is its window. -/
theorem isWindow_oneTick :
    ∃ t summary, (twoNodes.run staticRateController oneTick).ticks = [t] ∧
      t.summary = some summary ∧ IsWindow 0 (reported t) summary := by
  have ticks : (twoNodes.run staticRateController oneTick).ticks = [] ++ _ :: [] := rfl
  refine ⟨_, _, ticks, rfl, (isWindow_iff (by decide) ?_ ticks rfl).mpr rfl⟩
  intro t there n member
  obtain rfl := List.mem_singleton.mp (ticks ▸ there)
  rfl

/-- Both agents have done 100 requests at the first tick and 300 at the second. -/
def growingTotals : RunInput where
  startOk _ _ := true
  ticks :=
    [.quiet 3000000000 fun n => some (totalsOnly n 100 10),
      .quiet 10000000000 fun n => some (totalsOnly n 300 10)]
  finalFetch _ := none
  finalElapsed := 0

/-- The second window has 400 requests and no error; the controller is shown 600 and 20. -/
theorem not_isWindow_growingTotals :
    ∃ t₁ t₂ summary, (twoNodes.run staticRateController growingTotals).ticks = [t₁, t₂] ∧
      t₂.summary = some summary ∧ reported t₁ = ⟨200, 20, 0⟩ ∧ reported t₂ = ⟨600, 20, 0⟩ ∧
      summary.counters = ⟨600, 20, 0⟩ ∧ ¬ IsWindow (reported t₁) (reported t₂) summary := by
  refine ⟨_, _, _, rfl, rfl, rfl, rfl, by decide +kernel, fun window => ?_⟩
  exact absurd window.increase (by decide +kernel)

end Netanvil.Distributed
