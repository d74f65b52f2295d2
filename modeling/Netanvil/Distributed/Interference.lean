/-
# What a failed node leaves behind

The report a node was last fetched with before it failed stays in the leader's map, and every
later summary counts it. Two runs that differ in what such a node reported can differ in every
summary after it, unless its last reports agree in what a summary is made of
(`summaries_agree`).
-/
import Netanvil.Core.StaticRate
import Netanvil.Distributed.Run

namespace Netanvil.Distributed

open Netanvil.Types Netanvil.Core Theory.Tally DistributedCoordinator List StaticDiscovery Option

variable {S : Type} {c : RateController S}

/-- The part of a report that summaries are made of. -/
def shown (m : RemoteMetrics) : RemoteMetrics :=
  { m with
    nodeId := ⟨""⟩, targetRps := 0, errorRate := 0, inFlightCount := 0, inFlightCapacity := 0 }

/-- Two leaders that may differ in their controllers and weights, and in the reports of
nodes without `alike`. -/
structure Alike (alike : NodeId → Prop) (l l' : DistributedCoordinator S) : Prop where
  discovery : l.discovery = l'.discovery
  config : l.config = l'.config
  holdState : l.holdState = l'.holdState
  reports : ∀ id, alike id →
    (l.nodeMetrics.lookup id).map shown = (l'.nodeMetrics.lookup id).map shown

section

variable {l l' : DistributedCoordinator S} {alike : NodeId → Prop} {a b : TickInput}

theorem Alike.discover (same : Alike alike l l') : l.discover = l'.discover := by
  unfold DistributedCoordinator.discover
  rw [same.discovery]

theorem Alike.aggregateMetrics (same : Alike (fun _ => True) l l') :
    l.aggregateMetrics = l'.aggregateMetrics := by
  have via : ∀ {M : Type} (f : RemoteMetrics → M), (∀ m, f (shown m) = f m) → ∀ id,
      (l.nodeMetrics.lookup id).map f = (l'.nodeMetrics.lookup id).map f := by
    intro M f factors id
    have := congrArg (Option.map f) (same.reports id trivial)
    simpa only [Option.map_map, Function.comp_def, factors] using this
  unfold DistributedCoordinator.aggregateMetrics totalRequests totalErrors
  rw [tally_congr (via RemoteMetrics.totalRequests fun _ => rfl),
    tally_congr (via RemoteMetrics.totalErrors fun _ => rfl),
    tally_congr (via RemoteMetrics.currentRps fun _ => rfl),
    tally_congr (via RemoteMetrics.timeoutCount fun _ => rfl),
    tally_congr (via RemoteMetrics.inFlightDrops fun _ => rfl),
    peak_congr 0 (via RemoteMetrics.latencyP50Ms fun _ => rfl),
    peak_congr 0 (via RemoteMetrics.latencyP90Ms fun _ => rfl),
    peak_congr 0 (via RemoteMetrics.latencyP99Ms fun _ => rfl), same.config]

theorem collected_alike {fetch fetch' : NodeInfo → Option RemoteMetrics} {id : NodeId}
    {nodes : List NodeInfo}
    (fetches : ∀ n ∈ nodes, n.id = id → (fetch n).map shown = (fetch' n).map shown)
    {m m' : Finmap fun _ : NodeId => RemoteMetrics}
    (before : (m.lookup id).map shown = (m'.lookup id).map shown) :
    ((nodes.foldl (storeReport fetch) m).lookup id).map shown =
      ((nodes.foldl (storeReport fetch') m').lookup id).map shown := by
  induction nodes generalizing m m' with
  | nil => exact before
  | cons node rest ih =>
    rw [foldl_cons, foldl_cons]
    refine ih (fun n member => fetches n (by simp [member])) ?_
    rw [lookup_storeReport, lookup_storeReport]
    split
    · rename_i same
      rw [map_or, map_or, fetches node (by simp) same.symm, before]
    · exact before

/-- One tick on inputs that may differ in the answers of nodes without `alike`. -/
theorem Alike.tick (same : Alike alike l l') (rest : { a with fetch := b.fetch } = b)
    (fetches : ∀ n ∈ l.discover, alike n.id → (a.fetch n).map shown = (b.fetch n).map shown)
    (answered : ∀ n ∈ l.discover, (a.fetch n).isSome = (b.fetch n).isSome) :
    Alike alike (l.tick c l.discover a).after (l'.tick c l'.discover b).after := by
  refine ⟨?_, ?_, ?_, ?_⟩
  · rw [tick_discovery, tick_discovery, ← same.discover, ← same.discovery]
    refine foldl_ext _ _ _ fun d n there => ?_
    rw [markMissing, markMissing, answered n there]
  · rw [tick_config, tick_config, same.config]
  · have commands : ∀ hold, holdAfter hold a = holdAfter hold b := by
      intro hold
      rw [← rest]
      rfl
    rw [tick_holdState, tick_holdState, same.holdState, commands]
  · intro id there
    rw [tick_nodeMetrics, tick_nodeMetrics, ← same.discover]
    refine collected_alike (fun n member sameId => fetches n member ?_) (same.reports id there)
    rw [sameId]
    exact there

theorem Alike.summary (same : Alike (fun _ => True) l l') :
    (l.tick c l.discover a).summary = (l'.tick c l'.discover a).summary := by
  have after := (same.tick (c := c) (a := a) rfl (fun _ _ _ => rfl) fun _ _ => rfl).aggregateMetrics
  rw [tick_summary_eq, tick_summary_eq, after, same.holdState]

end

/-- Leaders alike in all reports go on alike. -/
theorem loop_summaries {l l' : DistributedCoordinator S} (inputs : List TickInput)
    (same : Alike (fun _ => True) l l') :
    (loop c l inputs).ticks.map Tick.summary = (loop c l' inputs).ticks.map Tick.summary := by
  induction inputs generalizing l l' with
  | nil => rfl
  | cons a rest ih =>
    have next := same.tick (c := c) (a := a) rfl (fun _ _ _ => rfl) fun _ _ => rfl
    rw [loop_ticks_cons, loop_ticks_cons, ← same.config]
    by_cases empty : l.discover = []
    · rw [if_pos empty, if_pos (same.discover ▸ empty)]
    · have empty' : ¬ l'.discover = [] := same.discover ▸ empty
      rw [if_neg empty, if_neg empty', map_cons, map_cons, same.summary]
      split
      · rfl
      · rw [ih next]

/-! ## Two runs -/

/-- Inputs that differ at most in what nodes of id `x` answer. -/
structure AgreeOutside (x : NodeId) (a b : TickInput) : Prop where
  rest : { a with fetch := b.fetch } = b
  others : ∀ n, n.id ≠ x → a.fetch n = b.fetch n

/-- The inputs of two runs up to the tick at which `x` fails: they differ at most in
what `x` reports, and `x` answers at every tick but the last. -/
structure FailsAfter (x : NodeId) (early early' : List TickInput) (last : TickInput) : Prop where
  agree : Forall₂ (AgreeOutside x) early early'
  answered : ∀ a ∈ early, ∀ n, n.id = x → (a.fetch n).isSome
  answered' : ∀ a ∈ early', ∀ n, n.id = x → (a.fetch n).isSome
  fails : ∀ n, n.id = x → last.fetch n = none

/-- What a node was last fetched with in these ticks. -/
def lastReport (early : List TickInput) (n : NodeInfo) : Option RemoteMetrics :=
  early.getLast?.bind fun a => a.fetch n

section

variable {l l' : DistributedCoordinator S} {x : NodeId} {a b last : TickInput}

/-- Of the nodes with one id it is always the same one whose report is kept. -/
theorem kept_report (x : NodeId) (nodes : List NodeInfo) :
    x ∉ nodes.map NodeInfo.id ∨ ∃ n, n.id = x ∧
      ∀ fetch : NodeInfo → Option RemoteMetrics, (∀ n, n.id = x → (fetch n).isSome) →
        ∀ m, (nodes.foldl (storeReport fetch) m).lookup x = fetch n := by
  induction nodes using reverseRecOn with
  | nil => exact .inl (by simp)
  | append_singleton before node ih =>
    by_cases same : node.id = x
    · refine .inr ⟨node, same, fun fetch answered m => ?_⟩
      obtain ⟨r, answer⟩ := isSome_iff_exists.mp (answered node same)
      rw [foldl_append, foldl_cons, foldl_nil, lookup_storeReport, if_pos same.symm, answer]
      rfl
    · rcases ih with absent | ⟨n, sameId, kept⟩
      · exact .inl (by simpa [Ne.symm same] using absent)
      · refine .inr ⟨n, sameId, fun fetch answered m => ?_⟩
        rw [foldl_append, foldl_cons, foldl_nil, lookup_storeReport,
          if_neg (Ne.symm same), kept fetch answered]

/-- Alike outside `x`, and in all reports while `x` takes no part. -/
def AlikeOutside (x : NodeId) (l l' : DistributedCoordinator S) : Prop :=
  Alike (fun id => id ≠ x) l l' ∧ (x ∉ l.discover.map NodeInfo.id → Alike (fun _ => True) l l')

theorem AlikeOutside.tick (same : AlikeOutside x l l') (agree : AgreeOutside x a b)
    (answered : ∀ n, n.id = x → (a.fetch n).isSome)
    (answered' : ∀ n, n.id = x → (b.fetch n).isSome) :
    AlikeOutside x (l.tick c l.discover a).after (l'.tick c l'.discover b).after := by
  have both : ∀ n, (a.fetch n).isSome = (b.fetch n).isSome := by
    intro n
    by_cases own : n.id = x
    · rw [answered n own, answered' n own]
    · rw [agree.others n own]
  refine ⟨?_, ?_⟩
  · exact same.1.tick agree.rest (fun n _ other => by rw [agree.others n other]) fun n _ => both n
  · intro gone
    -- `x` answered, so it was not there before either
    have absent : x ∉ l.discover.map NodeInfo.id := by
      intro there
      obtain ⟨n, member, rfl⟩ := mem_map.mp there
      refine gone (mem_map.mpr ⟨n, ?_, rfl⟩)
      obtain ⟨known, unmarked⟩ := mem_discover.mp member
      refine mem_discover.mpr ⟨?_, ?_⟩
      · rw [tick_nodes_eq]
        exact known
      · rw [tick_discovery, mem_foldl_markMissing]
        rintro (before | ⟨m, -, own, missing⟩)
        · exact unmarked before
        · have := answered m own
          rw [missing] at this
          cases this
    refine (same.2 absent).tick agree.rest (fun n member _ => ?_) fun n _ => both n
    rw [agree.others n fun own => absent (mem_map.mpr ⟨n, member, own⟩)]

/-- Two tick loops from leaders alike outside `x`. -/
theorem loop_summaries_agree {early early' later : List TickInput}
    (fails : FailsAfter x early early' last)
    (reports : ∀ n, n.id = x → (lastReport early n).map shown = (lastReport early' n).map shown)
    (same : AlikeOutside x l l') (start : early = [] → Alike (fun _ => True) l l') :
    ((loop c l (early ++ last :: later)).ticks.map Tick.summary).drop (early.length + 1) =
      ((loop c l' (early' ++ last :: later)).ticks.map Tick.summary).drop (early.length + 1) := by
  obtain ⟨agree, answered, answered', failed⟩ := fails
  induction agree generalizing l l' with
  | nil => exact congrArg (drop 1) (loop_summaries (last :: later) (start rfl))
  | @cons a b restA restB agreeHere agreeRest ih =>
    have answeredA := answered a (by simp)
    have answeredB := answered' b (by simp)
    have ends : a.ends l.config.duration = b.ends l'.config.duration := by
      rw [← same.1.config, ← agreeHere.rest]
      rfl
    rw [cons_append, cons_append, loop_ticks_cons, loop_ticks_cons, ← ends]
    by_cases empty : l.discover = []
    · rw [if_pos empty, if_pos (same.1.discover ▸ empty)]
    · have empty' : ¬ l'.discover = [] := same.1.discover ▸ empty
      rw [if_neg empty, if_neg empty', map_cons, map_cons, length_cons,
        drop_succ_cons, drop_succ_cons]
      split
      · rfl
      · refine ih ?_ (same.tick agreeHere answeredA answeredB) ?_
          (fun t member => answered t (by simp [member]))
          (fun t member => answered' t (by simp [member]))
        · intro n own
          cases agreeRest with
          | nil => rfl
          | cons _ _ => exact reports n own
        · rintro rfl
          cases agreeRest
          obtain ⟨outside, -⟩ := same.tick (c := c) agreeHere answeredA answeredB
          refine ⟨outside.discovery, outside.config, outside.holdState, fun id _ => ?_⟩
          by_cases own : id = x
          · subst own
            rw [tick_nodeMetrics, tick_nodeMetrics, ← same.1.discover]
            rcases kept_report id l.discover with absent | ⟨n, sameId, kept⟩
            · rw [lookup_collected_of_notMem absent, lookup_collected_of_notMem absent]
              exact (same.2 absent).reports id trivial
            · rw [kept a.fetch answeredA, kept b.fetch answeredB]
              exact reports n sameId
          · exact outside.reports id own

/-- **Runs that differ only in what a node reported before it failed give the controller
the same summaries afterwards, if its last reports agree in what summaries are made
of.** -/
theorem summaries_agree (input : RunInput) {early early' later : List TickInput}
    {last : TickInput} (fails : FailsAfter x early early' last)
    (reports : ∀ n, n.id = x → (lastReport early n).map shown = (lastReport early' n).map shown) :
    ((l.run c { input with ticks := early ++ last :: later }).ticks.map Tick.summary).drop
        (early.length + 1) =
      ((l.run c { input with ticks := early' ++ last :: later }).ticks.map Tick.summary).drop
        (early.length + 1) := by
  have self : Alike (fun _ => True) (launched c l input) (launched c l input) :=
    ⟨rfl, rfl, rfl, fun _ _ => rfl⟩
  rw [run_ticks, run_ticks]
  exact loop_summaries_agree fails reports
    ⟨⟨rfl, rfl, rfl, fun _ _ => rfl⟩, fun _ => self⟩ fun _ => self

end

/-! ## Two runs of the small cluster -/

/-- A tick at which the first node reports this many requests, and the second 100. -/
def firstReports (requests : Nat) : TickInput :=
  .quiet 3000000000 fun n => some (totalsOnly n (if n.id = nodeA.id then requests else 100) 0)

/-- A tick at which the first node does not answer. -/
def firstGone : TickInput :=
  .quiet 6000000000 fun n => if n.id = nodeA.id then none else some (totalsOnly n 200 0)

/-- The first node's last reports before it fails. -/
def firstFails (early : List TickInput) : RunInput :=
  ⟨fun _ _ => true, early ++ firstGone :: [.quiet 10000000000 fun n => some (totalsOnly n 300 0)],
    fun _ => none, 0⟩

theorem failsAfter_firstReports (early early' : List Nat) (same : early.length = early'.length) :
    FailsAfter nodeA.id (early.map firstReports) (early'.map firstReports) firstGone := by
  refine ⟨?_, ?_, ?_, fun n own => if_pos own⟩
  · rw [forall₂_map_left_iff, forall₂_map_right_iff, forall₂_iff_get]
    exact ⟨same, fun i _ _ => ⟨rfl, fun n other => by simp [firstReports, TickInput.quiet, other]⟩⟩
  all_goals
    rintro a member n -
    obtain ⟨r, -, rfl⟩ := mem_map.mp member
    rfl

/-- Different reports, then the same ones, then the failure. -/
theorem summaries_agree_sameLast :
    ((twoNodes.run staticRateController
        (firstFails [firstReports 50, firstReports 200])).ticks.map Tick.summary).drop 3 =
      ((twoNodes.run staticRateController
        (firstFails [firstReports 90, firstReports 200])).ticks.map Tick.summary).drop 3 :=
  summaries_agree (firstFails []) (failsAfter_firstReports [50, 200] [90, 200] rfl)
    fun _ _ => rfl

/-- The second node reports 300 requests after the failure of the first, and the
controller is shown 400 or 1200, as the first had reported before. -/
theorem summaries_differ_afterFailure :
    FailsAfter nodeA.id [firstReports 100] [firstReports 900] firstGone ∧
      (((twoNodes.run staticRateController (firstFails [firstReports 100])).ticks.map
        Tick.summary).drop 2).map (Option.map MetricsSummary.totalRequests) = [some 400] ∧
      (((twoNodes.run staticRateController (firstFails [firstReports 900])).ticks.map
        Tick.summary).drop 2).map (Option.map MetricsSummary.totalRequests) = [some 1200] := by
  exact ⟨failsAfter_firstReports [100] [900] rfl, by decide +kernel⟩

end Netanvil.Distributed
