/-
# A threshold that changes at run time

Where a metric has limits of its own, the threshold of a constraint is stored twice: as the
threshold, which severities are relative to, and in the mapping that was chosen when the constraint
was built. A change at run time is only a change of the first. Constraints that differ in nothing
an evaluation reads go on giving the same answers (`answers_of_alike`).
-/
import Netanvil.Core.Controller.ThresholdBuilder

namespace Netanvil.Core

open Netanvil.Types Theory.Trace Option MetricExtractor Smoother ConstraintAction
open Config (MetricRef ThresholdConstraintConfig)

/-! ## The limit of a mapping -/

namespace SeverityMapping

/-- The lowest reading a mapping reacts to, where it is derived from the threshold. -/
def limit : SeverityMapping → Option ℚ
  | .timeoutDirect maxErrorRatePct => some (max (maxErrorRatePct / 100 * (1 / 2)) (1 / 100))
  | .errorRateDirect maxErrorRatePct => some maxErrorRatePct
  | .graduated | .inFlightDirect => none

theorem allowIncrease_iff {m : SeverityMapping} {limit : ℚ} (derived : m.limit = some limit)
    (severity rawValue : ℚ) :
    m.mapToAction severity rawValue = .allowIncrease ↔ rawValue < limit := by
  cases m with
  | graduated | inFlightDirect => cases derived
  | timeoutDirect pct =>
    cases derived
    have soft : max (pct / 100 * (1 / 2)) (1 / 100) ≤ max (pct / 100 * (5 / 2)) (5 / 100) := by
      refine max_le ?_ (le_max_of_le_right (by norm_num))
      rcases le_total pct 0 with neg | pos
      · exact le_max_of_le_right (by linarith)
      · exact le_max_of_le_left (by linarith)
    simp only [mapToAction]
    split
    · rename_i hard
      exact iff_of_false (by simp) (not_lt.mpr (soft.trans hard))
    · split
      · rename_i high
        exact iff_of_false (by simp) (not_lt.mpr high)
      · rename_i low
        exact iff_of_true rfl (not_le.mp low)
  | errorRateDirect pct =>
    cases derived
    simp only [mapToAction]
    split
    · rename_i low
      exact iff_of_true rfl low
    · rename_i high
      split <;> exact iff_of_false (by simp) high

/-- Mappings for one metric that have the same limit are the same to readings. -/
theorem mapToAction_congr (metric : MetricRef) {level level' : ℚ}
    (same : (mapSeverityForThreshold level metric).limit =
      (mapSeverityForThreshold level' metric).limit) (severity rawValue : ℚ) :
    (mapSeverityForThreshold level metric).mapToAction severity rawValue =
      (mapSeverityForThreshold level' metric).mapToAction severity rawValue := by
  unfold mapSeverityForThreshold at same ⊢
  split
  · have soft : max (level * 100 / 100 * (1 / 2)) (1 / 100) =
        max (level' * 100 / 100 * (1 / 2)) (1 / 100) := some.inj same
    -- the upper limit is five times the lower one
    have scaled : ∀ x : ℚ, max (x / 100 * (5 / 2)) (5 / 100) =
        5 * max (x / 100 * (1 / 2)) (1 / 100) := by
      intro x
      rw [mul_max_of_nonneg _ _ (by norm_num)]
      congr 1
      · ring
      · norm_num
    simp only [mapToAction, scaled, soft]
  · rfl
  · obtain rfl : level = level' := some.inj same
    rfl
  · rfl

end SeverityMapping

namespace ThresholdConstraint

variable {config : ThresholdConstraintConfig} {c c' d c₀ : ThresholdConstraint}
  {ctx : EvalContext} {hasWarmup : Bool}

/-! ## Constraints that answer alike -/

/-- Everything evaluations of an unsmoothed metric depend on. -/
structure Alike (c d : ThresholdConstraint) : Prop where
  metric : d.metric = c.metric
  threshold : d.threshold = c.threshold
  direction : d.direction = c.direction
  backoff : d.backoff = c.backoff
  cap : d.selfCausedCap = c.selfCausedCap
  persistence : d.state.persistence = c.state.persistence
  streak : d.state.violationStreak = c.state.violationStreak
  external : d.externalState = c.externalState
  smoother : (∃ value, c.smoother = .none value) ∧ ∃ value, d.smoother = .none value
  mapping : ∀ severity rawValue, d.severityMapping.mapToAction severity rawValue =
    c.severityMapping.mapToAction severity rawValue

variable (alike : Alike c d)
include alike

theorem Alike.withExternal (ext : Option ExternalSignalState) :
    Alike { c with externalState := ext } { d with externalState := ext } :=
  { alike with external := rfl }

theorem Alike.actionToIntent (action : ConstraintAction) (currentRate : ℚ) :
    d.actionToIntent action currentRate = c.actionToIntent action currentRate := by
  simp only [ThresholdConstraint.actionToIntent, alike.backoff]

theorem Alike.gate (action : ConstraintAction) (severity currentRate : ℚ) :
    (d.gate action severity currentRate).1 = (c.gate action severity currentRate).1 ∧
      Alike (c.gate action severity currentRate).2 (d.gate action severity currentRate).2 := by
  constructor
  · simp only [ThresholdConstraint.gate, alike.actionToIntent, alike.streak, alike.persistence]
  · exact { alike with streak := congrArg (updateStreak · severity) alike.streak }

theorem Alike.severityOf (rawValue : ℚ) : d.severityOf rawValue = c.severityOf rawValue := by
  obtain ⟨⟨value, plain⟩, ⟨value', plain'⟩⟩ := alike.smoother
  simp only [ThresholdConstraint.severityOf, plain, plain', smooth, computeSeverity,
    alike.direction, alike.threshold]

/-- A constraint that was fed a value. -/
def fed (c : ThresholdConstraint) (rawValue : ℚ) : ThresholdConstraint :=
  { c with
    smoother := (c.smoother.smooth rawValue).1
    lastSmoothedValue := (c.smoother.smooth rawValue).2
    lastSeverity := c.severityOf rawValue }

theorem Alike.fed (rawValue : ℚ) : Alike (c.fed rawValue) (d.fed rawValue) := by
  obtain ⟨⟨value, plain⟩, ⟨value', plain'⟩⟩ := alike.smoother
  exact { alike with
    smoother := ⟨⟨rawValue, by simp only [ThresholdConstraint.fed, plain, smooth]⟩,
      ⟨rawValue, by simp only [ThresholdConstraint.fed, plain', smooth]⟩⟩ }

variable {rawValue t level limit limit' : ℚ}

omit alike in
theorem judge_of_noise (noise : c.IsNoise ctx (c.severityOf rawValue)) : c.judge ctx rawValue =
      (⟨(c.fed rawValue).actionToIntent
          (c.severityMapping.mapToAction (c.severityOf rawValue) rawValue).cappedAtHold
          ctx.currentRate, c.severityOf rawValue⟩, c.fed rawValue) :=
  if_pos noise

omit alike in
theorem judge_of_not_noise (serious : ¬ c.IsNoise ctx (c.severityOf rawValue)) :
    c.judge ctx rawValue =
      (c.fed rawValue).gate (c.severityMapping.mapToAction (c.severityOf rawValue) rawValue)
        (c.severityOf rawValue) ctx.currentRate :=
  if_neg serious

theorem Alike.judge (ctx : EvalContext) (rawValue : ℚ) :
    (d.judge ctx rawValue).1 = (c.judge ctx rawValue).1 ∧
      Alike (c.judge ctx rawValue).2 (d.judge ctx rawValue).2 := by
  have noise : d.IsNoise ctx (d.severityOf rawValue) ↔ c.IsNoise ctx (c.severityOf rawValue) := by
    rw [alike.severityOf, IsNoise, IsNoise, alike.cap]
  have fed := alike.fed rawValue
  by_cases mild : c.IsNoise ctx (c.severityOf rawValue)
  · rw [judge_of_noise mild, judge_of_noise (noise.mpr mild), fed.actionToIntent, alike.mapping,
      alike.severityOf]
    exact ⟨rfl, fed⟩
  · rw [judge_of_not_noise mild, judge_of_not_noise (mild ∘ noise.mp), alike.mapping,
      alike.severityOf]
    exact fed.gate _ _ _

theorem Alike.judgeMetric (ctx : EvalContext) :
    (d.judgeMetric ctx).1 = (c.judgeMetric ctx).1 ∧
      Alike (c.judgeMetric ctx).2 (d.judgeMetric ctx).2 := by
  simp only [ThresholdConstraint.judgeMetric, alike.metric]
  cases c.metric.extract ctx with
  | none => exact ⟨rfl, alike⟩
  | some rawValue =>
    obtain ⟨same, after⟩ := alike.judge ctx rawValue
    exact ⟨congrArg some same, after⟩

theorem Alike.missing (ctx : EvalContext) (ext : ExternalSignalState) :
    (d.missing ctx ext).1 = (c.missing ctx ext).1 ∧
      Alike (c.missing ctx ext).2 (d.missing ctx ext).2 := by
  have noted := alike.withExternal (some ext.absent)
  simp only [ThresholdConstraint.missing, alike.persistence]
  split
  · exact ⟨rfl, noted⟩
  · cases ext.config.onMissing with
    | ignore => exact ⟨rfl, noted⟩
    | hold =>
      obtain ⟨same, after⟩ := noted.gate .hold (85 / 100) ctx.currentRate
      exact ⟨congrArg some same, after⟩
    | backoff =>
      obtain ⟨same, after⟩ :=
        noted.gate .hardBackoff (severityBypassPersistence + 1) ctx.currentRate
      exact ⟨congrArg some same, after⟩

theorem Alike.evaluate (ctx : EvalContext) :
    (d.evaluate ctx).1 = (c.evaluate ctx).1 ∧ Alike (c.evaluate ctx).2 (d.evaluate ctx).2 := by
  simp only [ThresholdConstraint.evaluate, alike.external]
  cases c.externalState with
  | none => exact alike.judgeMetric ctx
  | some ext =>
    dsimp only
    split
    · exact (alike.withExternal _).judgeMetric ctx
    · exact alike.missing ctx ext

theorem Alike.postSelect (isBinding : Bool) :
    Alike (c.postSelect isBinding) (d.postSelect isBinding) := by
  obtain ⟨ema, samples, ticks, same⟩ := c.postSelect_frame isBinding
  obtain ⟨ema', samples', ticks', same'⟩ := d.postSelect_frame isBinding
  rw [same, same']
  exact { alike with }

omit alike

/-! ## Later evaluations -/

/-- What the arbiter does tick by tick. -/
def Call.isRoutine : Call → Bool
  | .evaluate _ | .postSelect _ => true
  | .applyUpdate _ _ | .onWarmupComplete _ => false

def answerShown (c : ThresholdConstraint) : Call → List (Option ConstraintIntent)
  | .evaluate ctx => [(c.evaluate ctx).1.map (·.intent)]
  | _ => []

/-- The intents of the evaluations among these calls. -/
def answers (c : ThresholdConstraint) (calls : List Call) : List (Option ConstraintIntent) :=
  observed step answerShown c calls

theorem answers_of_alike (alike : Alike c d) {calls : List Call}
    (routine : ∀ call ∈ calls, call.isRoutine) : answers d calls = answers c calls := by
  induction calls generalizing c d with
  | nil => rfl
  | cons call calls ih =>
    have later := fun call mem => routine call (List.mem_cons_of_mem _ mem)
    cases call with
    | evaluate ctx =>
      obtain ⟨same, after⟩ := alike.evaluate ctx
      exact congrArg₂ List.cons (congrArg (Option.map _) same) (ih after later)
    | postSelect isBinding => exact ih (alike.postSelect isBinding) later
    | applyUpdate action params | onWarmupComplete baseline => cases routine _ List.mem_cons_self

/-! ## What is built, and stays -/

/-- What is settled by the configuration, apart from the threshold and the limits derived of it. -/
structure Settled (config : ThresholdConstraintConfig) (c : ThresholdConstraint) : Prop where
  metric : mapMetricRefToExtractor config.metric = some c.metric
  direction : c.direction = mapMetricDirection config.metric
  backoff : c.backoff = mapBackoffConfig config.backoff
  cap : c.selfCausedCap = config.selfCausedCap
  persistence : c.state.persistence = config.persistence
  smoother : config.smoother = some .none → ∃ value, c.smoother = .none value
  external : c.externalState.map (·.config) = mapExternalConstraintConfig config.metric
  mapping : ∃ level, c.severityMapping = mapSeverityForThreshold level config.metric

theorem settled_of_build (built : buildThreshold config hasWarmup = some c) : Settled config c := by
  unfold buildThreshold at built
  split at built
  · rename_i metric threshold multiplier floor found is
    cases built
    refine ⟨found, rfl, rfl, rfl, rfl, fun plain => ⟨0, ?_⟩, ?_, ⟨threshold, rfl⟩⟩
    · simp [new, plain, mapSmootherConfig, Smoother.plain]
    · simp only [new, map_map]
      exact map_id'
  · cases built

theorem mapping_setMaxErrorRate {metric : MetricRef}
    (derived : c.severityMapping = mapSeverityForThreshold level metric) (rate : ℚ) :
    ∃ level', (c.setMaxErrorRate rate).severityMapping = mapSeverityForThreshold level' metric := by
  have whole := derived
  unfold mapSeverityForThreshold at derived
  split at derived
  · refine ⟨rate / 100, ?_⟩
    simp [setMaxErrorRate, derived, mapSeverityForThreshold]
  · exact ⟨level, by simp [setMaxErrorRate, derived, mapSeverityForThreshold]⟩
  · exact ⟨rate, by simp [setMaxErrorRate, derived, mapSeverityForThreshold]⟩
  · refine ⟨level, ?_⟩
    rw [← whole]
    simp only [setMaxErrorRate, derived]

theorem settled_step {call : Call} (settled : Settled config c) (taken : c.step call = some c') :
    Settled config c' := by
  cases call with
  | evaluate ctx =>
    cases taken
    obtain ⟨smoother, external, streak, severity, smoothed, same, fed, watched⟩ :=
      c.evaluate_frame ctx
    rw [same]
    refine { settled with
      smoother := fun plain => ?_
      external := watched.trans settled.external }
    obtain ⟨value, plain⟩ := settled.smoother plain
    rcases fed with rfl | ⟨rawValue, rfl⟩
    · exact ⟨value, plain⟩
    · exact ⟨rawValue, by rw [plain]; rfl⟩
  | postSelect isBinding =>
    cases taken
    obtain ⟨ema, samples, ticks, same⟩ := c.postSelect_frame isBinding
    rw [same]
    exact { settled with }
  | applyUpdate action params =>
    cases taken
    rcases c.applyUpdate_cases action params with same | ⟨threshold, same⟩ | ⟨rate, same⟩
    · rwa [same]
    · rw [same]
      exact { settled with }
    · obtain ⟨level, derived⟩ := settled.mapping
      obtain ⟨level', derived'⟩ := mapping_setMaxErrorRate derived rate
      obtain ⟨threshold, mapping, frame⟩ := c.setMaxErrorRate_frame rate
      rw [same]
      rw [frame] at derived' ⊢
      exact { settled with mapping := ⟨level', derived'⟩ }
  | onWarmupComplete baseline =>
    cases taken
    obtain ⟨threshold, same⟩ := c.onWarmupComplete_frame baseline
    rw [same]
    exact { settled with }

/-! ## The change -/

/-- The threshold becomes `t`, by an update or by what the warm-up measured. -/
inductive Becomes (t : ℚ) (c : ThresholdConstraint) : ThresholdConstraint → Prop
  | set {params : Json} (given : (params.get "threshold").bind Json.asF64 = some t) :
      Becomes t c (c.applyUpdate "set_threshold" params).2
  | warmed {baseline : WarmupBaseline} {multiplier : ℚ}
      (relative : c.baselineMultiplier = some multiplier)
      (usable : ¬ (baseline.sampleCount = 0 ∨ baseline.baselineP99Ms ≤ 0))
      (level : t = max baseline.baselineP99Ms (c.baselineFloorMs.getD 0) * multiplier) :
      Becomes t c (c.onWarmupComplete baseline)

theorem Becomes.eq_setThreshold (becomes : Becomes t c c') : c' = c.setThreshold t := by
  cases becomes with
  | set given => simp only [applyUpdate, if_true, given]
  | warmed relative usable level => simp only [onWarmupComplete, relative, if_neg usable, level]

/-- The streaks of another constraint. -/
def withStreaksOf (d c : ThresholdConstraint) : ThresholdConstraint :=
  { d with
    state := { d.state with violationStreak := c.state.violationStreak }
    externalState := c.externalState }

theorem alike_rebuilt (settled : Settled config c) (plain : config.smoother = some .none)
    (rebuilt : Settled config d) (level : d.threshold = t)
    (derived : d.severityMapping = mapSeverityForThreshold t config.metric)
    (same : c.severityMapping.limit = d.severityMapping.limit) :
    Alike (c.setThreshold t) (d.withStreaksOf c) where
  metric := some.inj (rebuilt.metric.symm.trans settled.metric)
  threshold := level
  direction := rebuilt.direction.trans settled.direction.symm
  backoff := rebuilt.backoff.trans settled.backoff.symm
  cap := rebuilt.cap.trans settled.cap.symm
  persistence := rebuilt.persistence.trans settled.persistence.symm
  streak := rfl
  external := rfl
  smoother := ⟨settled.smoother plain, rebuilt.smoother plain⟩
  mapping := by
    obtain ⟨level', derived'⟩ := settled.mapping
    rw [derived, derived'] at same
    intro severity rawValue
    show d.severityMapping.mapToAction severity rawValue =
      c.severityMapping.mapToAction severity rawValue
    rw [derived, derived']
    exact (SeverityMapping.mapToAction_congr config.metric same severity rawValue).symm

/-! A reading on which two mappings with different limits disagree. -/

theorem actionToIntent_eq_noObjection (c : ThresholdConstraint) (action : ConstraintAction)
    (currentRate : ℚ) :
    c.actionToIntent action currentRate = .noObjection ↔ action = .allowIncrease := by
  cases action <;> simp [actionToIntent]

/-- A window in which the fraction of timeouts and the percentage of errors are `rawValue`. -/
def windowReading (rawValue : ℚ) : EvalContext where
  summary := ⟨rawValue.den, 0, rawValue / 100, 0, 0, 0, 0, 1000000000, 0, 0, 0, 0, [],
    rawValue.num.toNat, 0⟩
  currentRate := 100
  ticksSinceIncrease := 0
  minRps := 1
  maxRps := 1000

theorem extract_timeoutFraction (nonneg : 0 ≤ rawValue) :
    timeoutFraction.extract (windowReading rawValue) = some rawValue := by
  have num : ((rawValue.num.toNat : ℤ) : ℚ) = rawValue.num := by
    rw [Int.toNat_of_nonneg (Rat.num_nonneg.mpr nonneg)]
  simp only [extract, windowReading, rawValue.den_ne_zero, if_false]
  rw [← Int.cast_natCast, num, Rat.num_div_den]

/-- Where mappings have limits, the lower one is seen for what it is. -/
theorem sees_lower_limit (settled : Settled config c) (mine : c.severityMapping.limit = some limit)
    (other : (mapSeverityForThreshold level config.metric).limit = some limit') :
    c.Sees (windowReading (min limit limit')) (min limit limit') := by
  obtain ⟨level', mapping⟩ := settled.mapping
  have metric := settled.metric
  have external := settled.external
  rw [mapping] at mine
  unfold mapSeverityForThreshold at mine other
  split at mine
  · rename_i timeouts
    simp only [timeouts] at metric external other
    have nonneg : 0 ≤ min limit limit' := by
      rw [← some.inj mine, ← some.inj other]
      exact le_min (le_max_of_le_right (by norm_num)) (le_max_of_le_right (by norm_num))
    have extractor : c.metric = .timeoutFraction := (some.inj metric).symm
    refine ⟨?_, by simp [map_eq_none_iff.mp external]⟩
    rw [extractor, extract_timeoutFraction nonneg]
  · cases mine
  · rename_i errors
    simp only [errors] at metric external
    have extractor : c.metric = .errorRatePct := (some.inj metric).symm
    refine ⟨?_, by simp [map_eq_none_iff.mp external]⟩
    rw [extractor]
    simp [extract, windowReading]
  · cases mine

theorem intent_of_sees (sees : c.Sees ctx rawValue) :
    answers c [.evaluate ctx] = [some (c.refreshed.judge ctx rawValue).1.intent] := by
  simp only [answers, observed, answerShown, evaluate_of_sees sees, map_some]
  rfl

theorem objects_iff (sees : c.Sees ctx rawValue) (derived : c.severityMapping.limit = some limit) :
    answers c [.evaluate ctx] = [some .noObjection] ↔ rawValue < limit := by
  rw [intent_of_sees sees, ← SeverityMapping.allowIncrease_iff derived (c.severityOf rawValue),
    List.singleton_inj, some_inj]
  show _ ↔ c.refreshed.severityMapping.mapToAction (c.refreshed.severityOf rawValue) rawValue = _
  by_cases mild : c.refreshed.IsNoise ctx (c.refreshed.severityOf rawValue)
  · rw [judge_of_noise mild, actionToIntent_eq_noObjection]
    cases c.refreshed.severityMapping.mapToAction (c.refreshed.severityOf rawValue) rawValue <;>
      simp [cappedAtHold]
  · rw [judge_of_not_noise mild, gate, actionToIntent_eq_noObjection]
    generalize c.refreshed.severityMapping.mapToAction _ _ = action
    unfold applyPersistence
    split
    · rfl
    · rename_i backs
      split
      · rfl
      · cases action <;> simp [isBackoff] at backs ⊢

/-- The lower of two limits is an objection to the mapping that has it and not to the other. -/
theorem limit_of_answers (settled : Settled config c) (rebuilt : Settled config d)
    (derived : d.severityMapping = mapSeverityForThreshold t config.metric)
    (same : ∀ ctx, answers (c.setThreshold t) [.evaluate ctx] =
      answers (d.withStreaksOf c) [.evaluate ctx]) :
    c.severityMapping.limit = d.severityMapping.limit := by
  have both : c.severityMapping.limit.isSome = d.severityMapping.limit.isSome := by
    obtain ⟨level, mapping⟩ := settled.mapping
    rw [mapping, derived]
    unfold mapSeverityForThreshold
    split <;> rfl
  cases mine : c.severityMapping.limit with
  | none =>
    rw [mine] at both
    exact (not_isSome_iff_eq_none.mp (by rw [← both]; simp)).symm
  | some limit =>
    obtain ⟨limit', other⟩ : ∃ limit', d.severityMapping.limit = some limit' :=
      isSome_iff_exists.mp (by rw [← both, mine]; rfl)
    have changed : Settled config (c.setThreshold t) := { settled with }
    have streaks : Settled config (d.withStreaksOf c) :=
      { rebuilt with external := settled.external }
    have here := sees_lower_limit changed mine (derived ▸ other)
    have there :
        (d.withStreaksOf c).Sees (windowReading (min limit limit')) (min limit limit') := by
      obtain ⟨level, mapping⟩ := settled.mapping
      rw [min_comm]
      exact sees_lower_limit streaks other (mapping ▸ mine)
    have agree : min limit limit' < limit ↔ min limit limit' < limit' := by
      rw [← objects_iff here mine, ← objects_iff there other, same]
    rw [other]
    rcases lt_trichotomy limit limit' with low | rfl | high
    · rw [min_eq_left low.le] at agree
      exact absurd (agree.mpr low) (lt_irrefl _)
    · rfl
    · rw [min_eq_right high.le] at agree
      exact absurd (agree.mp high) (lt_irrefl _)

/-- **A constraint whose threshold became `t` at run time answers all later evaluations as one built
with the threshold `t` does, given its streaks, exactly if the limit of its mapping is the one
derived from `t`.** -/
theorem threshold_change_rebuilds {t : ℚ} {calls : List Call}
    (built : buildThreshold config hasWarmup = some c₀) (plain : config.smoother = some .none)
    (run : exec step c₀ calls = some c) (becomes : Becomes t c c')
    (rebuilt : buildThreshold { config with thresholdSource := .absolute t } hasWarmup = some d) :
    (∀ later : List Call, (∀ call ∈ later, call.isRoutine) →
        answers c' later = answers (d.withStreaksOf c) later) ↔
      c.severityMapping.limit = (mapSeverityForThreshold t config.metric).limit := by
  have settled := exec_invariant (I := fun _ c => Settled config c) (settled_of_build built)
    (fun {_ _ _ _} settled taken => settled_step settled taken) run
  have fresh := settled_of_build rebuilt
  have again : Settled config d := { fresh with }
  obtain ⟨level, derived⟩ : d.threshold = t ∧
      d.severityMapping = mapSeverityForThreshold t config.metric := by
    unfold buildThreshold at rebuilt
    split at rebuilt
    · rename_i is
      cases is
      cases rebuilt
      exact ⟨rfl, rfl⟩
    · cases rebuilt
  rw [becomes.eq_setThreshold, ← derived]
  constructor
  · intro same
    refine limit_of_answers settled again derived fun ctx => same _ fun call mem => ?_
    obtain rfl := List.mem_singleton.mp mem
    rfl
  · intro limit later routine
    exact (answers_of_alike (alike_rebuilt settled plain again level derived limit) routine).symm

/-! Constraints with an absolute threshold, and an update of it. -/

def absoluteOn (metric : Config.InternalMetric) (threshold : ℚ) : ThresholdConstraintConfig where
  id := "limit"
  metric := .internal metric
  smoother := some .none
  classOverride := none
  thresholdSource := .absolute threshold
  persistence := 1
  selfCausedCap := none
  backoff := none

def setThresholdTo (t : ℚ) : Json := .obj [("threshold", .float t)]

/-- A latency constraint set from 100 ms to 200 ms is one built for 200 ms. -/
theorem latency_change_rebuilds : ∃ c d,
    buildThreshold (absoluteOn .latencyP99 100) false = some c ∧
      buildThreshold (absoluteOn .latencyP99 200) false = some d ∧
      ∀ later : List Call, (∀ call ∈ later, call.isRoutine) →
        answers (c.applyUpdate "set_threshold" (setThresholdTo 200)).2 later =
          answers (d.withStreaksOf c) later := by
  have built : buildThreshold (absoluteOn .latencyP99 100) false = some _ := rfl
  have rebuilt : buildThreshold (absoluteOn .latencyP99 200) false = some _ := rfl
  exact ⟨_, _, built, rebuilt,
    (threshold_change_rebuilds built rfl (show exec step _ [] = _ from rfl) (.set rfl) rebuilt).mpr
      rfl⟩

/-- An error rate constraint set from 5% to 10% holds the rate at 7%; one built for 10% does not
object. -/
theorem error_rate_change_differs : ∃ c d,
    buildThreshold (absoluteOn .errorRate 5) false = some c ∧
      buildThreshold (absoluteOn .errorRate 10) false = some d ∧
      answers (c.applyUpdate "set_threshold" (setThresholdTo 10)).2
        [.evaluate (windowReading 7)] = [some (.hold 100)] ∧
      answers (d.withStreaksOf c) [.evaluate (windowReading 7)] = [some .noObjection] :=
  ⟨_, _, rfl, rfl, by decide +kernel⟩

end ThresholdConstraint

end Netanvil.Core
