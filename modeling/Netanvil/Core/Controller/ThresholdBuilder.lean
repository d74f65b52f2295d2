/-
# The configured threshold, and the constraint built of it

`build_adaptive_constraint` makes a threshold constraint of its configuration. The severity is
relative to the configured threshold, but for two of the metrics the action is not taken from the
severity: timeouts have a lower limit of 1% of their own, and in-flight drops are measured against
fixed fractions (`threshold_honoured`).
-/
import Netanvil.Core.Controller.Persistence

namespace Netanvil.Core

open Netanvil.Types Theory.Trace SeverityMapping List Option Nat Config
open Config (SignalDirection MetricRef SmootherConfig ConstraintClassConfig
  ThresholdConstraintConfig)

open ConstraintAction (isBackoff)

/-! ## Building a constraint -/

/-- Thresholds on throughput are not supported: the source panics. -/
def mapMetricRefToExtractor : MetricRef → Option MetricExtractor
  | .internal .latencyP50 => some .latencyP50Ms
  | .internal .latencyP90 => some .latencyP90Ms
  | .internal .latencyP99 => some .latencyP99Ms
  | .internal .errorRate => some .errorRatePct
  | .internal .throughputSend | .internal .throughputRecv => none
  | .internal .timeoutFraction => some .timeoutFraction
  | .internal .inFlightDropFraction => some .inFlightDropFraction
  | .external ext => some (.external ext.name ext.direction)

def defaultSmootherForMetric : MetricRef → Smoother
  | .internal .latencyP50 | .internal .latencyP90 | .internal .latencyP99 => .newMedian 3
  | _ => .newEma (3 / 10)

def mapSmootherConfig (metric : MetricRef) : Option SmootherConfig → Smoother
  | some .none => .plain
  | some (.ema alpha) => .newEma alpha
  | some (.median size) => .newMedian size
  | none => defaultSmootherForMetric metric

def mapConstraintClass (metric : MetricRef) : Option ConstraintClassConfig → ConstraintClass
  | some .operatingPoint => .operatingPoint
  | some .catastrophic => .catastrophic
  | none =>
    match metric with
    | .internal .timeoutFraction | .internal .inFlightDropFraction => .catastrophic
    | _ => .operatingPoint

def mapMetricDirection : MetricRef → SignalDirection
  | .internal .throughputSend | .internal .throughputRecv => .lowerIsWorse
  | .external ext => ext.direction
  | _ => .higherIsWorse

def mapBackoffConfig : Option BackoffConfig → BackoffSchedule
  | some config => ⟨config.gentle, config.moderate, config.hard⟩
  | none => .default

def mapSeverityForThreshold (threshold : ℚ) : MetricRef → SeverityMapping
  | .internal .timeoutFraction => .timeoutDirect (threshold * 100)
  | .internal .inFlightDropFraction => .inFlightDirect
  | .internal .errorRate => .errorRateDirect threshold
  | _ => .graduated

def mapExternalConstraintConfig : MetricRef → Option ExternalConstraintConfig
  | .external ext => some ⟨ext.name, ext.onMissing, ext.staleAfterTicks⟩
  | .internal _ => none

def defaultRecoverySeed : ConstraintClass → ℚ
  | .catastrophic => 20
  | .operatingPoint => 5

/-- The threshold, and what it is derived from after warm-up; a baseline without warm-up is a
panic. -/
def thresholdOf (hasWarmup : Bool) : ThresholdSource → Option (ℚ × Option ℚ × Option ℚ)
  | .absolute threshold => some (threshold, none, none)
  | .fromBaseline baseline =>
    if hasWarmup then some (0, some baseline.multiplier, some baseline.baselineFloorMs) else none

/-- `build_adaptive_constraint` on a threshold constraint; `none` is a panic. -/
def buildThreshold (config : ThresholdConstraintConfig) (hasWarmup : Bool) :
    Option ThresholdConstraint :=
  match mapMetricRefToExtractor config.metric, thresholdOf hasWarmup config.thresholdSource with
  | some metric, some (threshold, baselineMultiplier, baselineFloorMs) =>
    let class_ := mapConstraintClass config.metric config.classOverride
    some (.new {
      id := config.id
      class_ := class_
      metric := metric
      smoother := mapSmootherConfig config.metric config.smoother
      threshold := threshold
      severityMapping := mapSeverityForThreshold threshold config.metric
      persistence := config.persistence
      recoverySeed := defaultRecoverySeed class_
      backoff := mapBackoffConfig config.backoff
      external := mapExternalConstraintConfig config.metric
      selfCausedCap := config.selfCausedCap
      direction := mapMetricDirection config.metric
      baselineMultiplier := baselineMultiplier
      baselineFloorMs := baselineFloorMs })
  | _, _ => none

/-- A constraint on a higher-is-worse metric with an absolute threshold, without smoothing and
without a cap. -/
structure Plain (config : ThresholdConstraintConfig) (threshold : ℚ) : Prop where
  direction : mapMetricDirection config.metric = .higherIsWorse
  source : config.thresholdSource = .absolute threshold
  positive : 0 < threshold
  persistence : 1 ≤ config.persistence
  smoother : config.smoother = some .none
  uncapped : config.selfCausedCap = none
  gentle : (mapBackoffConfig config.backoff).gentle < 1
  moderate : (mapBackoffConfig config.backoff).moderate < 1
  hard : (mapBackoffConfig config.backoff).hard < 1

namespace ThresholdConstraint

variable {config : ThresholdConstraintConfig} {threshold : ℚ} {c c' c₀ : ThresholdConstraint}
  {ctx : EvalContext}

/-! ## What evaluations leave as it is -/

/-- What the evaluations of a plain constraint depend on, apart from the streak. -/
structure Configured (config : ThresholdConstraintConfig) (threshold : ℚ)
    (c : ThresholdConstraint) : Prop where
  level : c.threshold = threshold
  direction : c.direction = .higherIsWorse
  mapping : c.severityMapping = mapSeverityForThreshold threshold config.metric
  backoff : c.backoff = mapBackoffConfig config.backoff
  uncapped : c.selfCausedCap = none
  persistence : c.state.persistence = config.persistence
  smoother : ∃ value, c.smoother = .none value
  absolute : c.baselineMultiplier = none

variable {hasWarmup : Bool} {rawValue : ℚ}

theorem configured_of_build (plain : Plain config threshold)
    (built : buildThreshold config hasWarmup = some c) : Configured config threshold c := by
  unfold buildThreshold at built
  rw [plain.source] at built
  split at built
  · rename_i metric threshold' multiplier floor found is
    cases is
    cases built
    exact ⟨rfl, plain.direction, rfl, rfl, plain.uncapped, rfl,
      ⟨0, by simp [new, plain.smoother, mapSmootherConfig, Smoother.plain]⟩, rfl⟩
  · cases built

section

variable (set : Configured config threshold c)
include set

/-- What is configured stays, whatever the state and the signal bookkeeping are. -/
theorem Configured.congr (level : c'.threshold = c.threshold)
    (direction : c'.direction = c.direction) (mapping : c'.severityMapping = c.severityMapping)
    (backoff : c'.backoff = c.backoff) (cap : c'.selfCausedCap = c.selfCausedCap)
    (persistence : c'.state.persistence = c.state.persistence)
    (smoother : ∃ value, c'.smoother = .none value)
    (absolute : c'.baselineMultiplier = c.baselineMultiplier) : Configured config threshold c' :=
  ⟨level.trans set.level, direction.trans set.direction, mapping.trans set.mapping,
    backoff.trans set.backoff, cap.trans set.uncapped, persistence.trans set.persistence, smoother,
    absolute.trans set.absolute⟩

theorem Configured.severity (positive : 0 < threshold)
    (rawValue : ℚ) : c.severityOf rawValue = rawValue / threshold := by
  obtain ⟨value, plain⟩ := set.smoother
  simp [severityOf, computeSeverity, set.direction, set.level, positive, plain, Smoother.smooth]

/-- What a reading comes to. -/
theorem Configured.judge (positive : 0 < threshold) (ctx : EvalContext) (rawValue : ℚ) :
    Configured config threshold (c.judge ctx rawValue).2 ∧
      (c.judge ctx rawValue).2.state.violationStreak =
        updateStreak c.state.violationStreak (rawValue / threshold) ∧
      (c.judge ctx rawValue).1.intent =
        c.actionToIntent
          (applyPersistence
            ((mapSeverityForThreshold threshold config.metric).mapToAction (rawValue / threshold)
              rawValue)
            (updateStreak c.state.violationStreak (rawValue / threshold)) config.persistence
            (rawValue / threshold))
          ctx.currentRate := by
  have severity := set.severity positive rawValue
  obtain ⟨value, plain⟩ := set.smoother
  have passed : c.judge ctx rawValue = _ := if_neg (by simp [IsNoise, set.uncapped])
  rw [passed]
  refine ⟨set.congr rfl rfl rfl rfl rfl rfl ⟨rawValue, ?_⟩ rfl, ?_, ?_⟩
  · simp [gate, plain]
  · rw [← severity]
    rfl
  · rw [← severity, ← set.mapping, ← set.persistence]
    rfl

end

/-! ## Readings and the streak -/

/-- The value of the metric, if the signal is there. -/
def reading (c : ThresholdConstraint) (ctx : EvalContext) : Option ℚ :=
  if c.externalState.all fun ext =>
      ctx.summary.externalSignals.any (·.1 = ext.config.signalName) then
    c.metric.extract ctx
  else none

theorem sees_iff_reading : c.Sees ctx rawValue ↔ c.reading ctx = some rawValue := by
  unfold Sees reading
  cases ext : c.externalState with
  | none => simp
  | some state =>
    simp only [all_some, mem_some_iff, forall_eq']
    split
    · rename_i there
      exact ⟨fun sees => sees.1, fun value => ⟨value, there⟩⟩
    · rename_i absent
      exact ⟨fun sees => absurd sees.2 absent, fun none => by cases none⟩

def readingShown (c : ThresholdConstraint) : Call → List (Option ℚ)
  | .evaluate ctx => [c.reading ctx]
  | _ => []

/-- What the evaluations among these calls read. -/
def readings (c : ThresholdConstraint) (calls : List Call) : List (Option ℚ) :=
  observed step readingShown c calls

/-- How many of the last readings are at or above the threshold. -/
def inARow (threshold : ℚ) (readings : List (Option ℚ)) : Nat :=
  (readings.reverse.takeWhile (·.any (threshold ≤ ·))).length

theorem inARow_snoc (threshold : ℚ) (readings : List (Option ℚ)) (last : Option ℚ) :
    inARow threshold (readings ++ [last]) =
      if last.any (threshold ≤ ·) then inARow threshold readings + 1 else 0 := by
  by_cases high : last.any (threshold ≤ ·)
  · simp [inARow, high]
  · simp [inARow, high]

/-- Without updates, the constraint is as configured, and the streak counts at least the readings
in a row, unless it wraps round. -/
structure InARow (config : ThresholdConstraintConfig) (threshold : ℚ)
    (readings : List (Option ℚ)) (c : ThresholdConstraint) : Prop where
  set : Configured config threshold c
  streak_le : c.state.violationStreak.toNat ≤ readings.length
  row_le : inARow threshold readings ≤ c.state.violationStreak.toNat

theorem toNat_updateStreak_le_succ {streak : UInt32} {n : Nat} (bound : streak.toNat ≤ n)
    (severity : ℚ) : (updateStreak streak severity).toNat ≤ n + 1 := by
  unfold updateStreak
  split
  · have wrap := mod_le (streak.toNat + (1 : UInt32).toNat) (2 ^ 32)
    have one : (1 : UInt32).toNat = 1 := rfl
    rw [UInt32.toNat_add]
    omega
  · split
    · exact zero_le _
    · omega

/-- A call other than an update. -/
def Call.isTick : Call → Bool
  | .applyUpdate _ _ => false
  | _ => true

section

variable {readings : List (Option ℚ)} (row : InARow config threshold readings c)
include row

theorem InARow.judge (positive : 0 < threshold) (short : readings.length + 1 < 2 ^ 32)
    (ctx : EvalContext) (rawValue : ℚ) :
    InARow config threshold (readings ++ [some rawValue]) (c.judge ctx rawValue).2 := by
  obtain ⟨set, streak, -⟩ := row.set.judge positive ctx rawValue
  refine ⟨set, ?_, ?_⟩
  · rw [streak, length_append]
    exact toNat_updateStreak_le_succ row.streak_le _
  · rw [streak, inARow_snoc]
    by_cases high : threshold ≤ rawValue
    · have violation : 1 ≤ rawValue / threshold := (one_le_div positive).mpr high
      have few := row.streak_le
      have before := row.row_le
      have fits : c.state.violationStreak.toNat + 1 < 2 ^ 32 := by omega
      have counted : (c.state.violationStreak + 1).toNat = c.state.violationStreak.toNat + 1 :=
        (UInt32.toNat_add ..).trans (Nat.mod_eq_of_lt fits)
      simp only [any_some, high, decide_true, if_true, updateStreak, violation]
      omega
    · simp [high]

theorem InARow.gate (action : ConstraintAction) (severity currentRate : ℚ) :
    InARow config threshold (readings ++ [none]) (c.gate action severity currentRate).2 := by
  refine ⟨row.set.congr rfl rfl rfl rfl rfl rfl row.set.smoother rfl, ?_, ?_⟩
  · rw [length_append]
    exact toNat_updateStreak_le_succ row.streak_le _
  · simp [inARow_snoc]

/-- Nothing was read, and the streak is as it was. -/
theorem InARow.blind (set : Configured config threshold c') (same : c'.state = c.state) :
    InARow config threshold (readings ++ [none]) c' := by
  refine ⟨set, ?_, by simp [inARow_snoc]⟩
  rw [same, length_append]
  exact row.streak_le.trans (le_add_right _ _)

/-- The bookkeeping of an external signal. -/
theorem InARow.withExternal (ext : Option ExternalSignalState) :
    InARow config threshold readings { c with externalState := ext } :=
  ⟨row.set.congr rfl rfl rfl rfl rfl rfl row.set.smoother rfl, row.streak_le, row.row_le⟩

theorem InARow.missing (ctx : EvalContext) (ext : ExternalSignalState) :
    InARow config threshold (readings ++ [none]) (c.missing ctx ext).2 := by
  have noted := row.withExternal (some ext.absent)
  by_cases early : ext.absent.missingStreak < c.state.persistence
  · simp only [ThresholdConstraint.missing, early, if_true]
    exact row.blind noted.set rfl
  · cases behavior : ext.config.onMissing with
    | ignore =>
      simp only [ThresholdConstraint.missing, early, if_false, behavior]
      exact row.blind noted.set rfl
    | hold | backoff =>
      simp only [ThresholdConstraint.missing, early, if_false, behavior]
      exact noted.gate _ _ _

theorem InARow.evaluate (positive : 0 < threshold) (short : readings.length + 1 < 2 ^ 32)
    (ctx : EvalContext) :
    InARow config threshold (readings ++ [c.reading ctx]) (c.evaluate ctx).2 := by
  have fresh : InARow config threshold readings c.refreshed := row.withExternal _
  cases read : c.reading ctx with
  | some rawValue =>
    rw [evaluate_of_sees (sees_iff_reading.mpr read)]
    exact fresh.judge positive short ctx rawValue
  | none =>
    have blind : ∀ rawValue, ¬ c.Sees ctx rawValue := by
      intro rawValue sees
      rw [sees_iff_reading, read] at sees
      cases sees
    rcases evaluate_of_not_sees blind with nothing | ⟨ext, -, absent⟩
    · rw [nothing]
      exact row.blind fresh.set rfl
    · rw [absent]
      exact row.missing ctx ext

theorem inARow_step (positive : 0 < threshold) (short : readings.length + 1 < 2 ^ 32) {call : Call}
    (tick : call.isTick) (taken : c.step call = some c') :
    InARow config threshold (readings ++ readingShown c call) c' := by
  cases call with
  | evaluate ctx =>
    cases taken
    exact row.evaluate positive short ctx
  | postSelect isBinding =>
    cases taken
    obtain ⟨streak, persists⟩ := c.streak_postSelect isBinding
    show InARow config threshold (readings ++ []) _
    rw [append_nil]
    refine ⟨row.set.congr rfl rfl rfl rfl rfl persists row.set.smoother rfl, ?_, ?_⟩
    · rw [streak]
      exact row.streak_le
    · rw [streak]
      exact row.row_le
  | applyUpdate action params => cases tick
  | onWarmupComplete baseline =>
    cases taken
    have same : c.onWarmupComplete baseline = c := by
      simp [onWarmupComplete, row.set.absolute]
    show InARow config threshold (readings ++ []) _
    rw [same, append_nil]
    exact row

end

theorem length_readings_le (c : ThresholdConstraint) (calls : List Call) :
    (readings c calls).length ≤ calls.length := by
  induction calls generalizing c with
  | nil => exact le_refl 0
  | cons call calls ih =>
    have rest : ∀ c', (observed step readingShown c' calls).length ≤ calls.length := ih
    simp only [readings, observed, length_append, length_cons]
    have one : (readingShown c call).length ≤ 1 := by cases call <;> simp [readingShown]
    cases taken : c.step call with
    | none => simpa using le_add_left_of_le one
    | some c' =>
      have := rest c'
      simp only [elim_some]
      omega

theorem inARow_le_streak (plain : Plain config threshold)
    (built : buildThreshold config hasWarmup = some c₀) {calls : List Call}
    (ticks : ∀ call ∈ calls, call.isTick) (short : calls.length < 2 ^ 32)
    (run : exec step c₀ calls = some c) : InARow config threshold (readings c₀ calls) c := by
  have start : InARow config threshold (readings c₀ []) c₀ := by
    refine ⟨configured_of_build plain built, ?_, ?_⟩
    · unfold buildThreshold at built
      split at built <;> cases built
      exact zero_le _
    · exact zero_le _
  refine exec_invariant_along (I := fun calls c => (∀ call ∈ calls, call.isTick) →
    calls.length < 2 ^ 32 → InARow config threshold (readings c₀ calls) c)
    (fun _ _ => start) ?_ run ticks short
  intro calls c call c' reached row taken ticks short
  rw [length_append, length_singleton] at short
  have before := row (fun call mem => ticks call (mem_append_left _ mem)) (by omega)
  have few := length_readings_le c₀ calls
  rw [readings, observed_snoc readingShown reached call]
  have fits : (observed step readingShown c₀ calls).length + 1 < 2 ^ 32 := by
    change (readings c₀ calls).length + 1 < 2 ^ 32
    omega
  exact inARow_step before plain.positive fits (ticks call (by simp)) taken

/-! ## The threshold -/

/-- A reading at or above the threshold is one to back off from: for timeouts and in-flight drops
only above a fraction of their own. -/
def BacksOff : MetricRef → ℚ → Prop
  | .internal .timeoutFraction, rawValue => 1 / 100 ≤ rawValue
  | .internal .inFlightDropFraction, rawValue => 1 / 100 < rawValue
  | _, _ => True

/-- A reading well below the threshold is no reason to object: for timeouts and in-flight drops
only below limits of their own. -/
def Unobjectionable (threshold : ℚ) : MetricRef → ℚ → Prop
  | .internal .timeoutFraction, rawValue => rawValue < max (threshold / 2) (1 / 100)
  | .internal .inFlightDropFraction, rawValue => rawValue ≤ 1 / 1000
  | _, _ => True

theorem graduatedAction_isBackoff {severity : ℚ} (violation : 1 ≤ severity) :
    (graduatedAction severity).isBackoff := by
  have low : ¬ severity < 7 / 10 := by linarith
  have mild : ¬ severity < 1 := by linarith
  simp only [graduatedAction, low, mild, if_false]
  split_ifs <;> rfl

theorem allowIncrease_iff (positive : 0 < threshold) (metric : MetricRef)
    (low : rawValue < 7 / 10 * threshold) :
    (mapSeverityForThreshold threshold metric).mapToAction (rawValue / threshold) rawValue =
        .allowIncrease ↔ Unobjectionable threshold metric rawValue := by
  have mild : rawValue / threshold < 7 / 10 := (div_lt_iff₀ positive).mpr low
  have graduated : graduatedAction (rawValue / threshold) = .allowIncrease := if_pos mild
  cases metric with
  | external ext => exact iff_of_true graduated trivial
  | internal metric =>
    cases metric with
    | latencyP50 | latencyP90 | latencyP99 | throughputSend | throughputRecv =>
      exact iff_of_true graduated trivial
    | errorRate => exact iff_of_true (if_pos (by linarith)) trivial
    | timeoutFraction =>
      have half : threshold * 100 / 100 * (1 / 2) = threshold / 2 := by ring
      simp only [mapSeverityForThreshold, mapToAction, Unobjectionable, half]
      split_ifs with hard gentle
      · refine iff_of_false (by simp) (not_lt.mpr (le_trans (max_le_max ?_ ?_) hard)) <;>
          linarith
      · exact iff_of_false (by simp) (not_lt.mpr gentle)
      · exact iff_of_true rfl (not_le.mp gentle)
    | inFlightDropFraction =>
      simp only [mapSeverityForThreshold, mapToAction, Unobjectionable]
      split_ifs with gentle hold
      · exact iff_of_false (by simp) (by linarith)
      · exact iff_of_false (by simp) (by linarith)
      · exact iff_of_true rfl (not_lt.mp hold)

section

variable (plain : Plain config threshold)
include plain

/-- Every backoff lowers a positive rate. -/
theorem intent_lowers_iff (set : Configured config threshold c)
    {rate : ℚ} (running : 0 < rate) (action : ConstraintAction) :
    (∃ lower, c.actionToIntent action rate = .desireRate lower ∧ lower < rate) ↔
      action.isBackoff := by
  have gentle := plain.gentle
  have moderate := plain.moderate
  have hard := plain.hard
  rw [← set.backoff] at gentle moderate hard
  cases action with
  | allowIncrease | hold => simp [actionToIntent, isBackoff]
  | gentleBackoff | moderateBackoff | hardBackoff =>
    exact iff_of_true ⟨_, rfl, mul_lt_of_lt_one_right running (by assumption)⟩ rfl

theorem persistence_pos : 0 < config.persistence.toNat := by
  have one := UInt32.le_iff_toNat_le.mp plain.persistence
  have value : (1 : UInt32).toNat = 1 := rfl
  omega

/-- Without a streak a mild severity holds back every backoff. -/
theorem held_of_low {severity : ℚ} (mild : severity < 7 / 10) (action : ConstraintAction) :
    applyPersistence action 0 config.persistence severity =
      if action.isBackoff then .hold else action := by
  have blocked : ¬ (config.persistence ≤ 0 ∨ severityBypassPersistence < severity) := by
    rintro (zero | severe)
    · have positive := persistence_pos plain
      have none := UInt32.le_iff_toNat_le.mp zero
      have value : (0 : UInt32).toNat = 0 := rfl
      omega
    · rw [severityBypassPersistence] at severe
      linarith
  simp only [applyPersistence, if_neg blocked]
  cases action <;> rfl

end

/-- A plain constraint as built, after fewer than `2 ^ 32` calls, none of them an update. A
reading that completes a row of `persistence` at or above the threshold makes it ask for less than
the current rate exactly if it is one to back off from; a reading below 0.7 of the threshold makes
it not object exactly if it is unobjectionable. -/
theorem threshold_honoured (plain : Plain config threshold) {hasWarmup : Bool}
    (built : buildThreshold config hasWarmup = some c₀) {calls : List Call}
    (ticks : ∀ call ∈ calls, call.isTick) (short : calls.length + 1 < 2 ^ 32)
    (run : exec step c₀ calls = some c) {ctx : EvalContext} {rawValue : ℚ}
    (read : c.reading ctx = some rawValue) :
    ∃ output, (c.evaluate ctx).1 = some output ∧
      (0 < ctx.currentRate →
        config.persistence.toNat ≤ inARow threshold (readings c₀ calls ++ [some rawValue]) →
        ((∃ rate, output.intent = .desireRate rate ∧ rate < ctx.currentRate) ↔
          BacksOff config.metric rawValue)) ∧
      (rawValue < 7 / 10 * threshold →
        (output.intent = .noObjection ↔ Unobjectionable threshold config.metric rawValue)) := by
  have positive := plain.positive
  have row := inARow_le_streak plain built ticks (by omega) run
  have fresh : InARow config threshold (readings c₀ calls) c.refreshed := row.withExternal _
  have few := length_readings_le c₀ calls
  have after := fresh.judge positive (by omega) ctx rawValue
  obtain ⟨-, streak, intent⟩ := fresh.set.judge positive ctx rawValue
  refine ⟨(c.refreshed.judge ctx rawValue).1, ?_, ?_, ?_⟩
  · rw [evaluate_of_sees (sees_iff_reading.mpr read)]
  · intro running persists
    -- the persistence asked for is positive, so the reading that completes a row is in it
    have high : threshold ≤ rawValue := by
      rw [inARow_snoc] at persists
      split at persists
      · rename_i inRow
        exact of_decide_eq_true inRow
      · have positive := persistence_pos plain
        omega
    have enough : config.persistence ≤
        updateStreak c.refreshed.state.violationStreak (rawValue / threshold) := by
      rw [← streak]
      exact UInt32.le_iff_toNat_le.mpr (persists.trans after.row_le)
    have passes : ∀ action : ConstraintAction,
        applyPersistence action
          (updateStreak c.refreshed.state.violationStreak (rawValue / threshold))
          config.persistence (rawValue / threshold) = action := by
      intro action
      simp [applyPersistence, enough]
    rw [intent, passes, intent_lowers_iff plain fresh.set running]
    have graduated : (graduatedAction (rawValue / threshold)).isBackoff :=
      graduatedAction_isBackoff ((one_le_div positive).mpr high)
    cases config.metric with
    | external ext => exact iff_of_true graduated trivial
    | internal metric =>
      cases metric with
      | latencyP50 | latencyP90 | latencyP99 | throughputSend | throughputRecv =>
        exact iff_of_true graduated trivial
      | errorRate =>
        refine iff_of_true ?_ trivial
        simp only [mapSeverityForThreshold, mapToAction, not_lt.mpr high, if_false]
        split <;> rfl
      | timeoutFraction =>
        have soft : max (threshold * 100 / 100 * (1 / 2)) (1 / 100) ≤ rawValue ↔
            1 / 100 ≤ rawValue := by
          rw [max_le_iff]
          exact ⟨fun both => both.2, fun limit => ⟨by linarith, limit⟩⟩
        simp only [mapSeverityForThreshold, mapToAction, BacksOff, ← soft]
        split_ifs with hard gentle
        · refine iff_of_true rfl (le_trans (max_le_max ?_ ?_) hard) <;> linarith
        · exact iff_of_true rfl gentle
        · exact iff_of_false (by simp [isBackoff]) gentle
      | inFlightDropFraction =>
        simp only [mapSeverityForThreshold, mapToAction, BacksOff]
        split_ifs with gentle hold
        · exact iff_of_true rfl gentle
        all_goals exact iff_of_false (by simp [isBackoff]) gentle
  · intro low
    have mild : rawValue / threshold < 7 / 10 := (div_lt_iff₀ positive).mpr low
    have reset : updateStreak c.refreshed.state.violationStreak (rawValue / threshold) = 0 := by
      have none : ¬ 1 ≤ rawValue / threshold := by linarith
      simp [updateStreak, none, mild]
    rw [intent, reset, held_of_low plain mild, ← allowIncrease_iff positive config.metric low]
    cases (mapSeverityForThreshold threshold config.metric).mapToAction (rawValue / threshold)
        rawValue <;>
      simp [isBackoff, actionToIntent]

/-- 100 ms at the 99th percentile, twice in a row. -/
def plainLatency : ThresholdConstraintConfig where
  id := "latency"
  metric := .internal .latencyP99
  smoother := some .none
  classOverride := none
  thresholdSource := .absolute 100
  persistence := 2
  selfCausedCap := none
  backoff := none

/-- 150 ms after 200 ms is a reason to back off. -/
theorem threshold_honoured_latency : ∃ c₀ c output,
    buildThreshold plainLatency false = some c₀ ∧
      exec step c₀ [.evaluate (p99Window 200 5)] = some c ∧
      (c.evaluate (p99Window 150 6)).1 = some output ∧
      ∃ rate, output.intent = .desireRate rate ∧ rate < 100 := by
  have plain : Plain plainLatency 100 :=
    ⟨rfl, rfl, by norm_num, by decide, rfl, rfl, by decide +kernel, by decide +kernel,
      by decide +kernel⟩
  have built : buildThreshold plainLatency false = some _ := rfl
  obtain ⟨output, said, backs, -⟩ := threshold_honoured plain built
    (show ∀ call ∈ [Call.evaluate (p99Window 200 5)], call.isTick by simp [Call.isTick]) (by decide)
    rfl (show reading _ (p99Window 150 6) = some 150 by decide +kernel)
  exact ⟨_, _, output, built, rfl, said,
    (backs (by decide +kernel) (by decide +kernel)).mpr trivial⟩

/-- A thousand requests a second, with so many timeouts and in-flight drops. -/
def troubledWindow (timeouts drops : Nat) : EvalContext where
  summary := ⟨1000, 0, 0, 100, 0, 0, 0, 1000000000, 0, 0, 0, 0, [], timeouts, drops⟩
  currentRate := 1000
  ticksSinceIncrease := 1
  minRps := 1
  maxRps := 10000

/-- A plain constraint on another metric. -/
def plainOn (metric : InternalMetric) (threshold : ℚ) : ThresholdConstraintConfig :=
  { plainLatency with
    metric := .internal metric, thresholdSource := .absolute threshold, persistence := 1 }

/-- 0.8% timeouts are above a threshold of 0.5%, and there is no objection; 2% in-flight drops are
far below a threshold of 50%, and the rate is held. -/
theorem threshold_not_honoured :
    (buildThreshold (plainOn .timeoutFraction (1 / 200)) false).map (fun c =>
        (c.reading (troubledWindow 8 0), (c.evaluate (troubledWindow 8 0)).1)) =
      some (some (8 / 1000), some ⟨.noObjection, 8 / 5⟩) ∧
    (buildThreshold (plainOn .inFlightDropFraction (1 / 2)) false).map (fun c =>
        (c.reading (troubledWindow 0 20), (c.evaluate (troubledWindow 0 20)).1)) =
      some (some (2 / 100), some ⟨.hold 1000, 1 / 25⟩) := by
  constructor
  · decide +kernel
  · decide +kernel

end ThresholdConstraint

end Netanvil.Core
