/-
# A rate configuration as JSON, and back

The encoders and decoders serde derives for `RateConfig` and what it is made of. A struct
is an object: unknown keys are ignored, a field of an optional type may be missing or null,
one with a default may be missing. Of an untagged enum the first variant that can be decoded
is taken.

Everything comes back but manual gains: both fields of `GainsConfig::Auto` have defaults,
so that variant takes every object (`decodeRate_iff`).
-/
import Netanvil.Config.Rate
import Netanvil.Theory.Pointwise
import Netanvil.Types.Json

namespace Netanvil.Config

open Theory Netanvil.Types ConstraintClassConfig Json RateConfig Option

/-! ## Plumbing -/

section

variable {α : Type} {decode : Json → Option α} (key : String)

/-- Only objects are structs. -/
def struct (decode : Json → Option α) (j : Json) : Option α := j.asObj.bind fun _ => decode j

def orNull (encode : α → Json) : Option α → Json
  | none => .null
  | some a => encode a

/-- The name of a unit variant, as a string or as an object with nothing under it. -/
def variantName : Json → Option String
  | .str s => some s
  | .obj [(s, .null)] => some s
  | _ => none

def decodeUnit (names : List (String × α)) (j : Json) : Option α :=
  (variantName j).bind fun name => names.lookup name

def encodeU32 (n : UInt32) : Json := .int n.toNat

def decodeU32 (j : Json) : Option UInt32 :=
  j.asU64.bind fun n => if n < 2 ^ 32 then some (.ofNat n) else none

def encodeDuration (d : Nat) : Json :=
  .obj [("secs", .int (d / 1000000000)), ("nanos", .int (d % 1000000000))]

def decodeDuration : Json → Option Nat := struct fun j => do
  let secs ← required asU64 "secs" j
  let nanos ← required decodeU32 "nanos" j
  return secs * 1000000000 + nanos.toNat

def decodeList (decode : Json → Option α) : Json → Option (List α)
  | .arr items => items.mapM decode
  | _ => none

@[simp] theorem get_self (v : Json) (rest : List (String × Json)) :
    Json.get key (.obj ((key, v) :: rest)) = some v := by
  simp [Json.get]

theorem get_other {key other : String} (different : key ≠ other) (v : Json)
    (rest : List (String × Json)) :
    Json.get key (.obj ((other, v) :: rest)) = Json.get key (.obj rest) := by
  simp [Json.get, List.lookup_cons, beq_eq_false_iff_ne.mpr different]

@[simp] theorem get_nil : Json.get key (.obj []) = none := rfl

@[simp] theorem decodeU32_encodeU32 (n : UInt32) : decodeU32 (encodeU32 n) = some n := by
  have bound := n.toNat_lt
  simp [decodeU32, encodeU32, asU64, bound]

@[simp] theorem decodeDuration_encodeDuration (d : Nat) :
    decodeDuration (encodeDuration d) = some d := by
  have small : d % 1000000000 < 2 ^ 32 := by omega
  have nanos : (UInt32.ofNat (d % 1000000000)).toNat = d % 1000000000 := by
    rw [UInt32.toNat_ofNat']
    omega
  have secs : asU64 (.int ((d : Int) / 1000000000)) = some (d / 1000000000) := rfl
  have rest : asU64 (.int ((d : Int) % 1000000000)) = some (d % 1000000000) := rfl
  simp only [decodeDuration, struct, encodeDuration, asObj, required, decodeU32, get_self,
    get_other (by decide : "nanos" ≠ "secs"), secs, rest, small, nanos, bind_some,
    bind_eq_bind, pure_def, if_true, some.injEq]
  omega

/-- What an optional field is read as: missing and null are the same. -/
def heldOption (decode : Json → Option α) : Option Json → Option (Option α)
  | none => some none
  | some .null => some none
  | some v => (decode v).map some

theorem optional_eq (decode : Json → Option α) (key : String) (j : Json) :
    optional decode key j = heldOption decode (j.get key) := rfl

@[simp] theorem heldOption_none (decode : Json → Option α) : heldOption decode none = some none :=
  rfl

theorem heldOption_value {v : Json} (proper : v ≠ .null) :
    heldOption decode (some v) = (decode v).map some := by
  cases v with
  | null => exact absurd rfl proper
  | _ => rfl

/-- A value comes back from its text exactly if its numbers do. -/
def Returns (text : ℚ → ℚ) (encode : α → Json) (decode : Json → Option α) : Prop :=
  ∀ a, decode ((encode a).reread text) = some a ↔ (encode a).reread text = encode a

/-- An optional field that is there comes back as its value does. -/
theorem heldOption_orNull {text : ℚ → ℚ} {encode : α → Json}
    (proper : ∀ a, (encode a).reread text ≠ .null) (returns : Returns text encode decode)
    (o : Option α) : heldOption decode (some ((orNull encode o).reread text)) = some o ↔
      (orNull encode o).reread text = orNull encode o := by
  cases o with
  | none => simp [orNull, reread, heldOption]
  | some a =>
    rw [orNull, heldOption_value (proper a), ← returns a]
    simp

end

attribute [local simp] struct asObj required defaulted asStr asF64
  get_other optional_eq reread bind_eq_some_iff

/-! ## Metrics -/

def SignalDirection.names : List (String × SignalDirection) :=
  [("HigherIsWorse", .higherIsWorse), ("LowerIsWorse", .lowerIsWorse)]

def MissingSignalBehavior.names : List (String × MissingSignalBehavior) :=
  [("Ignore", .ignore), ("Hold", .hold), ("Backoff", .backoff)]

def InternalMetric.names : List (String × InternalMetric) :=
  [("LatencyP50", .latencyP50), ("LatencyP90", .latencyP90), ("LatencyP99", .latencyP99),
    ("ErrorRate", .errorRate), ("ThroughputSend", .throughputSend),
    ("ThroughputRecv", .throughputRecv), ("TimeoutFraction", .timeoutFraction),
    ("InFlightDropFraction", .inFlightDropFraction)]

def ConstraintClassConfig.names : List (String × ConstraintClassConfig) :=
  [("OperatingPoint", .operatingPoint), ("Catastrophic", .catastrophic)]

/-- A unit variant is written as its name. -/
def encodeUnit {α : Type} [DecidableEq α] (names : List (String × α)) (a : α) : Json :=
  .str (((names.find? fun entry => entry.2 = a).map Prod.fst).getD "")

@[simp] theorem decode_direction (d : SignalDirection) :
    decodeUnit SignalDirection.names (encodeUnit SignalDirection.names d) = some d := by
  cases d <;> decide

@[simp] theorem decode_missing (m : MissingSignalBehavior) :
    decodeUnit MissingSignalBehavior.names (encodeUnit MissingSignalBehavior.names m) = some m := by
  cases m <;> decide

@[simp] theorem decode_metric (m : InternalMetric) :
    decodeUnit InternalMetric.names (encodeUnit InternalMetric.names m) = some m := by
  cases m <;> decide

@[simp] theorem decode_class (c : ConstraintClassConfig) :
    decodeUnit names (encodeUnit names c) = some c := by
  cases c <;> decide

def encodeExternal (m : ExternalMetricRef) : Json :=
  .obj [("name", .str m.name), ("direction", encodeUnit SignalDirection.names m.direction),
    ("stale_after_ticks", encodeU32 m.staleAfterTicks),
    ("on_missing", encodeUnit MissingSignalBehavior.names m.onMissing)]

def decodeExternal : Json → Option ExternalMetricRef := struct fun j => do
  let name ← required asStr "name" j
  let direction ← defaulted (decodeUnit SignalDirection.names) "direction" j .higherIsWorse
  let staleAfterTicks ← defaulted decodeU32 "stale_after_ticks" j defaultStaleTicks
  let onMissing ← defaulted (decodeUnit MissingSignalBehavior.names) "on_missing" j .ignore
  return ⟨name, direction, staleAfterTicks, onMissing⟩

def encodeMetric : MetricRef → Json
  | .internal m => encodeUnit InternalMetric.names m
  | .external m => encodeExternal m

def decodeMetric (j : Json) : Option MetricRef :=
  ((decodeUnit InternalMetric.names j).map .internal).or ((decodeExternal j).map .external)

@[simp] theorem decodeExternal_encodeExternal (m : ExternalMetricRef) :
    decodeExternal (encodeExternal m) = some m := by
  simp [decodeExternal, encodeExternal]

@[simp] theorem decodeMetric_encodeMetric (m : MetricRef) :
    decodeMetric (encodeMetric m) = some m := by
  cases m with
  | internal m => simp [decodeMetric, encodeMetric]
  | external m =>
    have several : decodeUnit InternalMetric.names (encodeExternal m) = none := rfl
    simp [decodeMetric, encodeMetric, several]

/-! ## Constraints -/

def encodeSmoother : SmootherConfig → Json
  | .none => .obj [("type", .str "None")]
  | .ema alpha => .obj [("type", .str "Ema"), ("alpha", .float alpha)]
  | .median size => .obj [("type", .str "Median"), ("size", .int size)]

def decodeSmoother (j : Json) : Option SmootherConfig := do
  let tag ← required asStr "type" j
  if tag = "None" then return .none
  else if tag = "Ema" then return .ema (← required asF64 "alpha" j)
  else if tag = "Median" then return .median (← required asU64 "size" j)
  else none

def encodeBackoff (b : BackoffConfig) : Json :=
  .obj [("gentle", .float b.gentle), ("moderate", .float b.moderate), ("hard", .float b.hard)]

def decodeBackoff : Json → Option BackoffConfig := struct fun j => do
  let gentle ← defaulted asF64 "gentle" j defaultGentle
  let moderate ← defaulted asF64 "moderate" j defaultModerate
  let hard ← defaulted asF64 "hard" j defaultHard
  return ⟨gentle, moderate, hard⟩

def encodeBaseline (b : BaselineMultiplier) : Json :=
  .obj [("multiplier", .float b.multiplier), ("baseline_floor_ms", .float b.baselineFloorMs)]

def decodeBaseline : Json → Option BaselineMultiplier := struct fun j => do
  let multiplier ← required asF64 "multiplier" j
  let baselineFloorMs ← defaulted asF64 "baseline_floor_ms" j defaultBaselineFloorMs
  return ⟨multiplier, baselineFloorMs⟩

/-- The field the source of a threshold adds to its constraint. -/
def sourceField : ThresholdSource → String × Json
  | .absolute threshold => ("threshold", .float threshold)
  | .fromBaseline baseline => ("threshold_from_baseline", encodeBaseline baseline)

def decodeSource (j : Json) : Option ThresholdSource :=
  ((required asF64 "threshold" j).map .absolute).or
    ((required decodeBaseline "threshold_from_baseline" j).map .fromBaseline)

/-- Nothing is written for an unset `class_override`. -/
def classField (c : Option ConstraintClassConfig) : List (String × Json) :=
  (c.map fun c => ("class_override", encodeUnit names c)).toList

def thresholdFields (t : ThresholdConstraintConfig) : List (String × Json) :=
  [("id", .str t.id), ("metric", encodeMetric t.metric),
    ("smoother", orNull encodeSmoother t.smoother)] ++ classField t.classOverride ++
    [sourceField t.thresholdSource, ("persistence", encodeU32 t.persistence),
      ("self_caused_cap", orNull .float t.selfCausedCap),
      ("backoff", orNull encodeBackoff t.backoff)]

def decodeThreshold : Json → Option ThresholdConstraintConfig := struct fun j => do
  let id ← required asStr "id" j
  let metric ← required decodeMetric "metric" j
  let smoother ← optional decodeSmoother "smoother" j
  let classOverride ← optional (decodeUnit names) "class_override" j
  let thresholdSource ← decodeSource j
  let persistence ← defaulted decodeU32 "persistence" j defaultPersistence
  let selfCausedCap ← optional asF64 "self_caused_cap" j
  let backoff ← optional decodeBackoff "backoff" j
  return ⟨id, metric, smoother, classOverride, thresholdSource, persistence, selfCausedCap, backoff⟩

def encodeGains : GainsConfig → Json
  | .auto autotuneDuration smoothing =>
    .obj [("autotune_duration", encodeDuration autotuneDuration), ("smoothing", .float smoothing)]
  | .manual kp ki kd => .obj [("kp", .float kp), ("ki", .float ki), ("kd", .float kd)]

def decodeAuto : Json → Option GainsConfig := struct fun j => do
  let autotuneDuration ←
    defaulted decodeDuration "autotune_duration" j defaultAutotuneDuration
  let smoothing ← defaulted asF64 "smoothing" j defaultSmoothing
  return .auto autotuneDuration smoothing

def decodeManual : Json → Option GainsConfig := struct fun j => do
  let kp ← required asF64 "kp" j
  let ki ← required asF64 "ki" j
  let kd ← required asF64 "kd" j
  return .manual kp ki kd

def decodeGains (j : Json) : Option GainsConfig := (decodeAuto j).or (decodeManual j)

def setpointFields (s : SetpointConstraintConfig) : List (String × Json) :=
  [("id", .str s.id), ("metric", encodeMetric s.metric),
    ("smoother", orNull encodeSmoother s.smoother), ("target", .float s.target),
    ("gains", encodeGains s.gains), ("tracking_gain", .float s.trackingGain)]

def decodeSetpoint : Json → Option SetpointConstraintConfig := struct fun j => do
  let id ← required asStr "id" j
  let metric ← required decodeMetric "metric" j
  let smoother ← optional decodeSmoother "smoother" j
  let target ← required asF64 "target" j
  let gains ← defaulted decodeGains "gains" j .default
  let trackingGain ← defaulted asF64 "tracking_gain" j defaultTrackingGain
  return ⟨id, metric, smoother, target, gains, trackingGain⟩

def encodeConstraint : ConstraintConfig → Json
  | .threshold t => .obj (("type", .str "Threshold") :: thresholdFields t)
  | .setpoint s => .obj (("type", .str "Setpoint") :: setpointFields s)

def decodeConstraint (j : Json) : Option ConstraintConfig := do
  let tag ← required asStr "type" j
  if tag = "Threshold" then return .threshold (← decodeThreshold j)
  else if tag = "Setpoint" then return .setpoint (← decodeSetpoint j)
  else none

/-! ## Policies -/

def encodeBounds (b : BoundsConfig) : Json :=
  .obj [("min_rps", .float b.minRps), ("max_rps", .float b.maxRps)]

def decodeBounds : Json → Option BoundsConfig := struct fun j => do
  let minRps ← required asF64 "min_rps" j
  let maxRps ← required asF64 "max_rps" j
  return ⟨minRps, maxRps⟩

def encodeWarmup (w : WarmupConfig) : Json :=
  .obj [("rps", .float w.rps), ("duration", encodeDuration w.duration)]

def decodeWarmup : Json → Option WarmupConfig := struct fun j => do
  let rps ← required asF64 "rps" j
  let duration ← required decodeDuration "duration" j
  return ⟨rps, duration⟩

def encodeAvoidance (c : CongestionAvoidanceConfig) : Json :=
  .obj [("trigger_threshold", .float c.triggerThreshold),
    ("additive_fraction", .float c.additiveFraction),
    ("failure_rate_alpha", .float c.failureRateAlpha)]

def decodeAvoidance : Json → Option CongestionAvoidanceConfig := struct fun j => do
  let trigger ← defaulted asF64 "trigger_threshold" j defaultCaTriggerThreshold
  let fraction ← defaulted asF64 "additive_fraction" j defaultCaAdditiveFraction
  let alpha ← defaulted asF64 "failure_rate_alpha" j defaultCaFailureRateAlpha
  return ⟨trigger, fraction, alpha⟩

def encodeIncrease : IncreasePolicyConfig → Json
  | .multiplicative factor avoidance =>
    .obj [("type", .str "Multiplicative"), ("factor", .float factor),
      ("congestion_avoidance", orNull encodeAvoidance avoidance)]
  | .additive increment => .obj [("type", .str "Additive"), ("increment", .float increment)]

def decodeIncrease (j : Json) : Option IncreasePolicyConfig := do
  let tag ← required asStr "type" j
  if tag = "Multiplicative" then
    let factor ← defaulted asF64 "factor" j defaultIncreaseFactor
    let avoidance ← optional decodeAvoidance "congestion_avoidance" j
    return .multiplicative factor avoidance
  else if tag = "Additive" then return .additive (← required asF64 "increment" j)
  else none

def encodeCooldown (c : CooldownPolicyConfig) : Json :=
  .obj [("min_ticks", encodeU32 c.minTicks), ("recovery_multiplier", .float c.recoveryMultiplier)]

def decodeCooldown : Json → Option CooldownPolicyConfig := struct fun j => do
  let minTicks ← defaulted decodeU32 "min_ticks" j defaultCooldownMinTicks
  let multiplier ← defaulted asF64 "recovery_multiplier" j defaultCooldownMultiplier
  return ⟨minTicks, multiplier⟩

def encodeFloor (f : FloorPolicyConfig) : Json :=
  .obj [("fraction", .float f.fraction), ("window", encodeDuration f.window)]

def decodeFloor : Json → Option FloorPolicyConfig := struct fun j => do
  let fraction ← defaulted asF64 "fraction" j defaultFloorFraction
  let window ← defaulted decodeDuration "window" j defaultFloorWindow
  return ⟨fraction, window⟩

def encodeLimits (l : RateChangeLimitsConfig) : Json :=
  .obj [("max_increase_pct", .float l.maxIncreasePct),
    ("max_decrease_pct", .float l.maxDecreasePct)]

def decodeLimits : Json → Option RateChangeLimitsConfig := struct fun j => do
  let maxIncreasePct ← defaulted asF64 "max_increase_pct" j defaultMaxIncrease
  let maxDecreasePct ← defaulted asF64 "max_decrease_pct" j defaultMaxDecrease
  return ⟨maxIncreasePct, maxDecreasePct⟩

/-! ## The rate -/

def encodeAdaptive (a : AdaptiveConfig) : Json :=
  .obj [("bounds", encodeBounds a.bounds), ("warmup", orNull encodeWarmup a.warmup),
    ("initial_rps", orNull .float a.initialRps),
    ("constraints", .arr (a.constraints.map encodeConstraint)),
    ("increase", orNull encodeIncrease a.increase), ("cooldown", orNull encodeCooldown a.cooldown),
    ("floor", orNull encodeFloor a.floor),
    ("rate_change_limits", orNull encodeLimits a.rateChangeLimits)]

def decodeAdaptive : Json → Option AdaptiveConfig := struct fun j => do
  let bounds ← required decodeBounds "bounds" j
  let warmup ← optional decodeWarmup "warmup" j
  let initialRps ← optional asF64 "initial_rps" j
  let constraints ← required (decodeList decodeConstraint) "constraints" j
  let increase ← optional decodeIncrease "increase" j
  let cooldown ← optional decodeCooldown "cooldown" j
  let floor ← optional decodeFloor "floor" j
  let rateChangeLimits ← optional decodeLimits "rate_change_limits" j
  return ⟨bounds, warmup, initialRps, constraints, increase, cooldown, floor, rateChangeLimits⟩

def encodeStep (step : Nat × ℚ) : Json := .arr [encodeDuration step.1, .float step.2]

def decodeStep : Json → Option (Nat × ℚ)
  | .arr [offset, rps] => do return (← decodeDuration offset, ← rps.asF64)
  | _ => none

def encodeRate : RateConfig → Json
  | .static rps => .obj [("Static", .obj [("rps", .float rps)])]
  | .step steps => .obj [("Step", .obj [("steps", .arr (steps.map encodeStep))])]
  | .adaptive config => .obj [("Adaptive", encodeAdaptive config)]

def decodeRate : Json → Option RateConfig
  | .obj [(tag, j)] =>
    if tag = "Static" then
      struct (fun j => do return .static (← required asF64 "rps" j)) j
    else if tag = "Step" then
      struct (fun j => do return .step (← required (decodeList decodeStep) "steps" j)) j
    else if tag = "Adaptive" then do return .adaptive (← decodeAdaptive j)
    else none
  | _ => none

/-! ## There and back -/

variable (text : ℚ → ℚ)

@[simp] theorem reread_u32 (n : UInt32) : (encodeU32 n).reread text = encodeU32 n := by
  simp [encodeU32]

@[simp] theorem reread_unit {α : Type} [DecidableEq α] (names : List (String × α)) (a : α) :
    (encodeUnit names a).reread text = encodeUnit names a := by
  simp [encodeUnit]

@[simp] theorem reread_duration (d : Nat) :
    (encodeDuration d).reread text = encodeDuration d := by
  simp [encodeDuration]

@[simp] theorem reread_metric (m : MetricRef) : (encodeMetric m).reread text = encodeMetric m := by
  cases m <;> simp [encodeMetric, encodeExternal]

theorem returns_float : Returns text .float asF64 := by
  intro x
  simp

theorem returns_smoother : Returns text encodeSmoother decodeSmoother := by
  rintro (_ | alpha | size)
  · simp [decodeSmoother, encodeSmoother]
  · simp [decodeSmoother, encodeSmoother]
  · have read : asU64 (.int (size : Int)) = some size := rfl
    simp [decodeSmoother, encodeSmoother, read]

theorem returns_backoff : Returns text encodeBackoff decodeBackoff := by
  rintro ⟨gentle, moderate, hard⟩
  simp [decodeBackoff, encodeBackoff]

theorem returns_warmup : Returns text encodeWarmup decodeWarmup := by
  rintro ⟨rps, duration⟩
  simp [decodeWarmup, encodeWarmup]

theorem returns_avoidance : Returns text encodeAvoidance decodeAvoidance := by
  rintro ⟨trigger, fraction, alpha⟩
  simp [decodeAvoidance, encodeAvoidance]

theorem returns_increase : Returns text encodeIncrease decodeIncrease := by
  rintro (⟨factor, avoidance⟩ | increment)
  · simp [decodeIncrease, encodeIncrease,
      heldOption_orNull (by simp [encodeAvoidance]) (returns_avoidance text) avoidance, and_comm]
  · simp [decodeIncrease, encodeIncrease]

theorem returns_cooldown : Returns text encodeCooldown decodeCooldown := by
  rintro ⟨minTicks, multiplier⟩
  simp [decodeCooldown, encodeCooldown]

theorem returns_floor : Returns text encodeFloor decodeFloor := by
  rintro ⟨fraction, window⟩
  simp [decodeFloor, encodeFloor]

theorem returns_limits : Returns text encodeLimits decodeLimits := by
  rintro ⟨increase, decrease⟩
  simp [decodeLimits, encodeLimits]

/-! ### Constraints -/

/-- `Auto` takes manual gains for its own, with nothing set. -/
theorem decodeGains_iff (g : GainsConfig) :
    decodeGains ((encodeGains g).reread text) = some g ↔
      (∀ kp ki kd, g ≠ .manual kp ki kd) ∧ (encodeGains g).reread text = encodeGains g := by
  cases g with
  | auto autotuneDuration smoothing | manual kp ki kd =>
    simp [decodeGains, decodeAuto, encodeGains]

/-- A smoother, if one is set, comes back. -/
theorem heldOption_smoother (o : Option SmootherConfig) :
    heldOption decodeSmoother (some ((orNull encodeSmoother o).reread text)) = some o ↔
      (orNull encodeSmoother o).reread text = orNull encodeSmoother o :=
  heldOption_orNull (fun s => by cases s <;> simp [encodeSmoother]) (returns_smoother text) o

theorem heldOption_float (o : Option ℚ) :
    heldOption asF64 (some ((orNull .float o).reread text)) = some o ↔
      (orNull .float o).reread text = orNull .float o :=
  heldOption_orNull (by simp) (returns_float text) o

/-- The keys of the optional and flattened fields do not get in each other's way. -/
theorem decodeThreshold_iff (t : ThresholdConstraintConfig) :
    decodeThreshold ((encodeConstraint (.threshold t)).reread text) = some t ↔
      (encodeConstraint (.threshold t)).reread text = encodeConstraint (.threshold t) := by
  obtain ⟨id, metric, smoother, classOverride, source, persistence, cap, backoff⟩ := t
  have backs := heldOption_orNull (by simp [encodeBackoff]) (returns_backoff text) backoff
  have named : ∀ c, heldOption (decodeUnit names) (some (encodeUnit names c)) = some (some c) := by
    intro c
    rw [heldOption_value (by simp [encodeUnit]), decode_class]
    rfl
  rcases classOverride with _ | c <;> rcases source with threshold | ⟨multiplier, floor⟩ <;>
    simp [decodeThreshold, decodeSource, encodeConstraint, thresholdFields, classField, sourceField,
      heldOption_smoother, heldOption_float, backs, named, decodeBaseline, encodeBaseline] <;>
    tauto

/-- The constraint's gains, if it tracks a setpoint, are not set by hand. -/
def ConstraintConfig.NotManual : ConstraintConfig → Prop
  | .threshold _ => True
  | .setpoint s => ∀ kp ki kd, s.gains ≠ .manual kp ki kd

theorem decodeConstraint_iff (c : ConstraintConfig) :
    decodeConstraint ((encodeConstraint c).reread text) = some c ↔
      c.NotManual ∧ (encodeConstraint c).reread text = encodeConstraint c := by
  cases c with
  | threshold t =>
    have tag : required asStr "type" ((encodeConstraint (.threshold t)).reread text) =
        some "Threshold" := by
      simp [encodeConstraint]
    simp [-required, decodeConstraint, tag, decodeThreshold_iff, ConstraintConfig.NotManual]
  | setpoint s =>
    obtain ⟨id, metric, smoother, target, gains, trackingGain⟩ := s
    simp [decodeConstraint, decodeSetpoint, encodeConstraint, setpointFields, heldOption_smoother,
      decodeGains_iff, ConstraintConfig.NotManual]
    tauto

/-! ### The rate -/

theorem decodeAdaptive_iff (a : AdaptiveConfig) :
    decodeAdaptive ((encodeAdaptive a).reread text) = some a ↔
      (∀ c ∈ a.constraints, c.NotManual) ∧
        (encodeAdaptive a).reread text = encodeAdaptive a := by
  obtain ⟨⟨low, high⟩, warmup, initialRps, constraints, increase, cooldown, floor, limits⟩ := a
  have warmups := heldOption_orNull (by simp [encodeWarmup]) (returns_warmup text) warmup
  have increases := heldOption_orNull (by rintro (_ | _) <;> simp [encodeIncrease])
    (returns_increase text) increase
  have cooldowns := heldOption_orNull (by simp [encodeCooldown]) (returns_cooldown text) cooldown
  have floors := heldOption_orNull (by simp [encodeFloor]) (returns_floor text) floor
  have limited := heldOption_orNull (by simp [encodeLimits]) (returns_limits text) limits
  simp [decodeAdaptive, encodeAdaptive, decodeBounds, encodeBounds, warmups, decodeList,
    mapM_eq_self_iff, decodeConstraint_iff, increases, cooldowns, floors, limited, heldOption_float,
    forall_and]
  tauto

def RateConfig.constraints : RateConfig → List ConstraintConfig
  | .adaptive config => config.constraints
  | _ => []

theorem decodeRate_iff (c : RateConfig) :
    decodeRate ((encodeRate c).reread text) = some c ↔
      (∀ constraint ∈ c.constraints, constraint.NotManual) ∧
        (encodeRate c).reread text = encodeRate c := by
  cases c with
  | static rps | adaptive config =>
    simp [decodeRate, encodeRate, decodeAdaptive_iff, constraints]
  | step steps =>
    simp [decodeRate, encodeRate, decodeList, mapM_eq_self_iff, decodeStep, encodeStep, constraints]

end Netanvil.Config
