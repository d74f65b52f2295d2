/-
# A test as it is posted, and the configuration made of it

`TestSpec` is the body of `POST /tests`: the rate has durations as text, which `into_config`
parses. Its gains are untagged with `Auto` first and all of its fields defaulted, so a setpoint
constraint that gives `kp`, `ki` and `kd` is read as one with automatic gains unless that
variant cannot take the object (`rate_survives_iff`).
-/
import Netanvil.Config.Wire

namespace Netanvil.Config

open Theory Netanvil.Types Json RateConfig String

open Option (bind_eq_bind bind_eq_some_iff bind_some pure_def some)

/-! ## Durations -/

/-- A parsed float; `-0` is `0`. -/
inductive F64 where
  | finite (x : ℚ)
  | infinite (negative : Bool)
  | nan

/-- Neither negative nor beyond the seconds of a `Duration`, a `u64`. -/
def F64.InRange : F64 → Prop
  | .finite x => 0 ≤ x ∧ x < 18446744073709551616
  | _ => False

/-- What is used of the standard library. `times k x` is the float `x * k`, rounded;
`fromSecsF64` is `none` where `Duration::from_secs_f64` panics. -/
structure DurationFunctions where
  trim : String → String
  parseU64 : String → Option Nat
  parseF64 : String → Option F64
  times : ℚ → F64 → F64
  fromSecsF64 : F64 → Option Nat
  panics : ∀ x, fromSecsF64 x = none ↔ ¬ x.InRange

inductive SpecFailure where
  | error (message : String)
  | panic
  deriving DecidableEq

def inContext {α : Type} (context : String) : Except SpecFailure α → Except SpecFailure α
  | .error (.error message) => .error (.error (context ++ message))
  | result => result

def stripSuffix (end_ s : String) : Option String :=
  if end_.toList <:+ s.toList then
    some (ofList (s.toList.take (s.toList.length - end_.toList.length)))
  else none

section

variable (std : DurationFunctions)

/-- A number of units, which `seconds` turns into seconds. -/
def parseUnits (message text : String) (seconds : F64 → F64) : Except SpecFailure Nat :=
  match std.parseF64 text with
  | none => .error (.error (message ++ text))
  | some n =>
    match std.fromSecsF64 (seconds n) with
    | none => .error .panic
    | some duration => .ok duration

/-- In nanoseconds. -/
def parseDuration (text : String) : Except SpecFailure Nat :=
  let s := std.trim text
  if s.isEmpty then .error (.error "empty duration string")
  else
    match stripSuffix "ms" s, stripSuffix "h" s, stripSuffix "m" s, stripSuffix "s" s with
    | some ms, _, _, _ =>
      match std.parseU64 ms with
      | none => .error (.error ("invalid milliseconds: " ++ ms))
      | some n => .ok (n * 1000000)
    | none, some h, _, _ => parseUnits std "invalid hours: " h (std.times 3600)
    | none, none, some m, _ => parseUnits std "invalid minutes: " m (std.times 60)
    | none, none, none, some secs => parseUnits std "invalid seconds: " secs id
    | none, none, none, none => parseUnits std "invalid duration: " s id

end

/-! ## The specification -/

inductive GainsSpecConfig where
  | auto (autotuneDuration : String) (smoothing : ℚ)
  | manual (kp ki kd : ℚ)

def defaultAutotuneDurationStr : String := "3s"

def GainsSpecConfig.default : GainsSpecConfig := .auto defaultAutotuneDurationStr defaultSmoothing

structure SetpointSpecConstraintConfig where
  id : String
  metric : MetricRef
  smoother : Option SmootherConfig
  target : ℚ
  gains : GainsSpecConfig
  trackingGain : ℚ

inductive ConstraintSpecConfig where
  | threshold (config : ThresholdConstraintConfig)
  | setpoint (config : SetpointSpecConstraintConfig)

structure WarmupSpecConfig where
  rps : ℚ
  duration : String

inductive RateSpecConfig where
  | static (rps : ℚ)
  | step (steps : List (String × ℚ))
  | adaptive (bounds : BoundsConfig) (warmup : Option WarmupSpecConfig) (initialRps : Option ℚ)
      (constraints : List ConstraintSpecConfig)

/-- `rest` are the fields that `into_config` hands on as they are. -/
structure TestSpec (ρ : Type) where
  duration : String
  timeout : String
  rate : RateSpecConfig
  rest : ρ

structure TestConfig (ρ : Type) where
  duration : Nat
  requestTimeout : Nat
  rate : RateConfig
  rest : ρ

/-! ## Decoding -/

def decodeAutoSpec : Json → Option GainsSpecConfig := struct fun j => do
  let autotuneDuration ← defaulted asStr "autotune_duration" j defaultAutotuneDurationStr
  let smoothing ← defaulted asF64 "smoothing" j defaultSmoothing
  return .auto autotuneDuration smoothing

def decodeManualSpec : Json → Option GainsSpecConfig := struct fun j => do
  let kp ← required asF64 "kp" j
  let ki ← required asF64 "ki" j
  let kd ← required asF64 "kd" j
  return .manual kp ki kd

def decodeGainsSpec (j : Json) : Option GainsSpecConfig :=
  (decodeAutoSpec j).or (decodeManualSpec j)

def decodeSetpointSpec : Json → Option SetpointSpecConstraintConfig := struct fun j => do
  let id ← required asStr "id" j
  let metric ← required decodeMetric "metric" j
  let smoother ← optional decodeSmoother "smoother" j
  let target ← required asF64 "target" j
  let gains ← defaulted decodeGainsSpec "gains" j GainsSpecConfig.default
  let trackingGain ← defaulted asF64 "tracking_gain" j defaultTrackingGain
  return ⟨id, metric, smoother, target, gains, trackingGain⟩

def decodeConstraintSpec (j : Json) : Option ConstraintSpecConfig := do
  let tag ← required asStr "type" j
  if tag = "Threshold" then return .threshold (← decodeThreshold j)
  else if tag = "Setpoint" then return .setpoint (← decodeSetpointSpec j)
  else none

def decodeWarmupSpec : Json → Option WarmupSpecConfig := struct fun j => do
  let rps ← required asF64 "rps" j
  let duration ← required asStr "duration" j
  return ⟨rps, duration⟩

def decodeStepSpec : Json → Option (String × ℚ)
  | .arr [offset, rps] => do return (← offset.asStr, ← rps.asF64)
  | _ => none

def decodeRateSpec (j : Json) : Option RateSpecConfig := do
  let tag ← required asStr "type" j
  if tag = "Static" then return .static (← required asF64 "rps" j)
  else if tag = "Step" then return .step (← required (decodeList decodeStepSpec) "steps" j)
  else if tag = "Adaptive" then
    let bounds ← required decodeBounds "bounds" j
    let warmup ← optional decodeWarmupSpec "warmup" j
    let initialRps ← optional asF64 "initial_rps" j
    let constraints ← required (decodeList decodeConstraintSpec) "constraints" j
    return .adaptive bounds warmup initialRps constraints
  else none

/-- The fields not modelled here are decoded by `decodeRest`. -/
def decodeTestSpec {ρ : Type} (decodeRest : Json → Option ρ) : Json → Option (TestSpec ρ) :=
  struct fun j => do
    let duration ← required asStr "duration" j
    let timeout ← defaulted asStr "timeout" j "30s"
    let rate ← required decodeRateSpec "rate" j
    let rest ← decodeRest j
    return ⟨duration, timeout, rate, rest⟩

/-! ## Conversion -/

section

variable (std : DurationFunctions)

/-- Parse a duration; an error says which one it was. -/
def parseNamed (name text : String) : Except SpecFailure Nat :=
  inContext ("invalid " ++ name ++ " '" ++ text ++ "': ") (parseDuration std text)

def convertGainsSpec : GainsSpecConfig → Except SpecFailure GainsConfig
  | .auto autotuneDuration smoothing => do
      return .auto (← parseNamed std "autotune_duration" autotuneDuration) smoothing
  | .manual kp ki kd => .ok (.manual kp ki kd)

def convertConstraintSpec : ConstraintSpecConfig → Except SpecFailure ConstraintConfig
  | .threshold config => .ok (.threshold config)
  | .setpoint config => do
      let gains ← convertGainsSpec std config.gains
      return .setpoint ⟨config.id, config.metric, config.smoother, config.target, gains,
        config.trackingGain⟩

def convertStep (step : String × ℚ) : Except SpecFailure (Nat × ℚ) := do
  return (← parseNamed std "step duration" step.1, step.2)

def convertWarmup : Option WarmupSpecConfig → Except SpecFailure (Option WarmupConfig)
  | none => .ok none
  | some w => do return some ⟨w.rps, ← parseNamed std "warmup duration" w.duration⟩

def convertRate : RateSpecConfig → Except SpecFailure RateConfig
  | .static rps => .ok (.static rps)
  | .step steps => do return .step (← steps.mapM (convertStep std))
  | .adaptive bounds warmup initialRps constraints => do
      let warmup ← convertWarmup std warmup
      let constraints ← constraints.mapM (convertConstraintSpec std)
      return .adaptive ⟨bounds, warmup, initialRps, constraints, none, none, none, none⟩

def intoConfig {ρ : Type} (spec : TestSpec ρ) : Except SpecFailure (TestConfig ρ) := do
  let duration ← parseNamed std "duration" spec.duration
  let timeout ← parseNamed std "timeout" spec.timeout
  let rate ← convertRate std spec.rate
  return ⟨duration, timeout, rate, spec.rest⟩

end

/-! ## Gains given by hand -/

/-- The gains object of setpoint constraint `i` of a test's JSON, and the manual gains it
gives. -/
def GivesGains (j : Json) (i : Nat) (gains : Json) (kp ki kd : ℚ) : Prop :=
  ∃ rate items constraint, j.get "rate" = some rate ∧
    rate.get "type" = some (.str "Adaptive") ∧ rate.get "constraints" = some (.arr items) ∧
    items[i]? = some constraint ∧ constraint.get "type" = some (.str "Setpoint") ∧
    constraint.get "gains" = some gains ∧ required asF64 "kp" gains = some kp ∧
    required asF64 "ki" gains = some ki ∧ required asF64 "kd" gains = some kd

/-- The object has something under a key of `Auto` that is not of its type. -/
def AutoRefuses (gains : Json) : Prop :=
  (∃ v, gains.get "autotune_duration" = some v ∧ v.asStr = none) ∨
    ∃ v, gains.get "smoothing" = some v ∧ v.asF64 = none

def RateConfig.gainsAt (c : RateConfig) (i : Nat) : Option GainsConfig :=
  match c.constraints[i]? with
  | some (.setpoint s) => some s.gains
  | _ => none

variable {α ε β ρ : Type} {key : String} {gains j v : Json} {kd ki kp : ℚ} {spec : GainsSpecConfig}
  {decode : Json → Option α} {std : DurationFunctions}

theorem defaulted_eq_none (default : α) :
    defaulted decode key j default = none ↔ ∃ v, j.get key = some v ∧ decode v = none := by
  unfold defaulted
  cases j.get key with
  | none | some v => simp

theorem asObj_of_required {a : α} (here : required decode key j = some a) :
    ∃ fields, j.asObj = some fields := by
  cases j with
  | obj fields => exact ⟨fields, rfl⟩
  | _ => cases here

theorem decodeAutoSpec_eq_none {fields : List (String × Json)} (object : j.asObj = some fields) :
    decodeAutoSpec j = none ↔ AutoRefuses j := by
  unfold AutoRefuses
  rw [← defaulted_eq_none defaultAutotuneDurationStr, ← defaulted_eq_none defaultSmoothing]
  simp only [decodeAutoSpec, struct, object, bind_some, bind_eq_bind]
  cases defaulted asStr "autotune_duration" j defaultAutotuneDurationStr with
  | none => simp
  | some duration =>
    cases defaulted asF64 "smoothing" j defaultSmoothing with
    | none | some smoothing => simp

/-- The gains read from an object that gives manual ones. -/
theorem decodeGainsSpec_of_given (p : required asF64 "kp" gains = some kp)
    (i : required asF64 "ki" gains = some ki)
    (d : required asF64 "kd" gains = some kd)
    (decoded : decodeGainsSpec gains = some spec) : (AutoRefuses gains ∧ spec = .manual kp ki kd) ∨
      (¬ AutoRefuses gains ∧ ∃ duration smoothing, spec = .auto duration smoothing) := by
  obtain ⟨fields, object⟩ := asObj_of_required p
  unfold decodeGainsSpec at decoded
  cases auto : decodeAutoSpec gains with
  | none =>
    refine .inl ⟨(decodeAutoSpec_eq_none object).mp auto, ?_⟩
    simp only [auto, Option.none_or, decodeManualSpec, struct, object, p, i, d, bind_some,
      bind_eq_bind, pure_def, some.injEq] at decoded
    exact decoded.symm
  | some taken =>
    have refuses : ¬ AutoRefuses gains := by
      rw [← decodeAutoSpec_eq_none object, auto]
      simp
    refine .inr ⟨refuses, ?_⟩
    obtain rfl : taken = spec := by simpa [auto] using decoded
    simp only [decodeAutoSpec, struct, object, bind_some, bind_eq_bind,
      bind_eq_some_iff, pure_def, some.injEq] at auto
    obtain ⟨duration, -, smoothing, -, same⟩ := auto
    exact ⟨duration, smoothing, same.symm⟩

/-- Conversion keeps the kind of the gains. -/
theorem convertGainsSpec_manual_iff {gains : GainsConfig}
    (converted : convertGainsSpec std spec = .ok gains) :
    gains = .manual kp ki kd ↔ spec = .manual kp ki kd := by
  cases spec with
  | manual p i d =>
    cases converted
    simp
  | auto duration smoothing =>
    simp only [convertGainsSpec] at converted
    cases parsed : parseNamed std "autotune_duration" duration with
    | error e => rw [parsed] at converted; cases converted
    | ok d =>
      rw [parsed] at converted
      cases converted
      simp

theorem required_of_get (here : j.get key = some v) : required decode key j = decode v := by
  rw [required, here, bind_some]

theorem decodeConstraintSpec_setpoint {constraint : ConstraintSpecConfig}
    (tag : j.get "type" = some (.str "Setpoint")) (given : j.get "gains" = some gains)
    (decoded : decodeConstraintSpec j = some constraint) :
    ∃ setpoint, constraint = .setpoint setpoint ∧ decodeGainsSpec gains = some setpoint.gains := by
  have read : required asStr "type" j = some "Setpoint" := required_of_get tag
  have taken : defaulted decodeGainsSpec "gains" j GainsSpecConfig.default =
      decodeGainsSpec gains := by
    rw [defaulted, given]
  simp only [decodeConstraintSpec, decodeSetpointSpec, struct, read, taken, bind_eq_bind, bind_some,
    bind_eq_some_iff, pure_def, some.injEq, reduceEq, if_false, if_true] at decoded
  obtain ⟨_, ⟨_, -, id, -, metric, -, smoother, -, target, -, manual, found, gain, -, rfl⟩, rfl⟩ :=
    decoded
  exact ⟨_, rfl, found⟩

/-- Setpoint constraint `i` of the JSON is constraint `i` of the specification, with the
gains its object decodes to. -/
theorem decodeTestSpec_gains {decodeRest : Json → Option ρ} {spec : TestSpec ρ}
    {i : Nat} (decoded : decodeTestSpec decodeRest j = some spec)
    (given : GivesGains j i gains kp ki kd) : ∃ bounds warmup initialRps constraints setpoint,
      spec.rate = .adaptive bounds warmup initialRps constraints ∧
      constraints[i]? = some (.setpoint setpoint) ∧
      decodeGainsSpec gains = some setpoint.gains := by
  obtain ⟨rate, items, constraint, atRate, tag, listed, here, kind, atGains, -⟩ := given
  have found : required decodeRateSpec "rate" j = decodeRateSpec rate := required_of_get atRate
  simp only [decodeTestSpec, struct, found, bind_eq_bind, bind_eq_some_iff,
    pure_def, some.injEq] at decoded
  obtain ⟨_, -, duration, -, timeout, -, rateSpec, decoded, rest, -, rfl⟩ := decoded
  have read : required asStr "type" rate = some "Adaptive" := required_of_get tag
  have traversed : required (decodeList decodeConstraintSpec) "constraints" rate =
      items.mapM decodeConstraintSpec := required_of_get listed
  simp only [decodeRateSpec, read, traversed, bind_eq_bind, bind_some, bind_eq_some_iff, pure_def,
    some.injEq, reduceEq, if_false, if_true] at decoded
  obtain ⟨bounds, -, warmup, -, initialRps, -, constraints, all, rfl⟩ := decoded
  obtain ⟨constraintSpec, there, decoded⟩ := forall₂_counterpart (forall₂_of_mapM all) here
  obtain ⟨setpoint, rfl, read⟩ := decodeConstraintSpec_setpoint kind atGains decoded
  exact ⟨bounds, warmup, initialRps, constraints, setpoint, rfl, there, read⟩

theorem bind_ok {x : Except ε α} {f : α → Except ε β} {b : β} (ok : x >>= f = .ok b) :
    ∃ a, x = .ok a ∧ f a = .ok b := by
  cases x with
  | error e => cases ok
  | ok a => exact ⟨a, rfl, ok⟩

/-- A rate configuration survives the wire exactly if no setpoint constraint of it has manual
gains and its numbers survive printing and parsing (`text`); and manual gains given in a test's
JSON arrive exactly if `Auto` refuses their object. -/
theorem rate_survives_iff (std : DurationFunctions) {ρ : Type} (decodeRest : Json → Option ρ) :
    (∀ (text : ℚ → ℚ) (c : RateConfig), decodeRate ((encodeRate c).reread text) = some c ↔
      (∀ constraint ∈ c.constraints, constraint.NotManual) ∧
        (encodeRate c).reread text = encodeRate c) ∧
    ∀ (j : Json) (spec : TestSpec ρ) (config : TestConfig ρ) (i : Nat) (gains : Json)
      (kp ki kd : ℚ), decodeTestSpec decodeRest j = some spec → intoConfig std spec = .ok config →
      GivesGains j i gains kp ki kd →
      (config.rate.gainsAt i = some (.manual kp ki kd) ↔ AutoRefuses gains) := by
  constructor
  · exact decodeRate_iff
  · intro j spec config i gains kp ki kd decoded converted given
    obtain ⟨bounds, warmup, initialRps, constraints, setpoint, rate, here, read⟩ :=
      decodeTestSpec_gains decoded given
    obtain ⟨_, -, converted⟩ := bind_ok converted
    obtain ⟨_, -, converted⟩ := bind_ok converted
    obtain ⟨_, ratePart, same⟩ := bind_ok converted
    cases same
    rw [rate] at ratePart
    -- conversion keeps every constraint at its place
    obtain ⟨_, -, ratePart⟩ := bind_ok ratePart
    obtain ⟨results, all, same⟩ := bind_ok ratePart
    cases same
    obtain ⟨result, there, converted⟩ := forall₂_counterpart (forall₂_of_mapM_ok all) here
    obtain ⟨gains, convertedGains, same⟩ := bind_ok converted
    cases same
    simp only [RateConfig.gainsAt, RateConfig.constraints, there]
    rw [some.injEq, convertGainsSpec_manual_iff convertedGains]
    obtain ⟨_, _, _, _, _, _, _, _, _, p, i', d⟩ := given
    rcases decodeGainsSpec_of_given p i' d read with ⟨refuses, manual⟩ | ⟨takes, _, _, auto⟩
    · exact iff_of_true manual refuses
    · refine iff_of_false ?_ takes
      rw [auto]
      simp

/-! ### One setpoint constraint -/

/-- Manual gains, and whatever else the object holds. -/
def handGains (more : List (String × Json)) : Json :=
  .obj (("kp", .float 1) :: ("ki", .float (1 / 10)) :: ("kd", .int 0) :: more)

def posted (gains : Json) : Json :=
  .obj [("targets", .arr [.str "http://localhost"]), ("duration", .str "60s"),
    ("rate", .obj [("type", .str "Adaptive"),
      ("bounds", .obj [("min_rps", .int 10), ("max_rps", .int 1000)]),
      ("constraints", .arr [.obj [("type", .str "Setpoint"), ("id", .str "p99"),
        ("metric", .str "LatencyP99"), ("target", .int 100), ("gains", gains)]])])]

/-- The standard library on the durations used here. -/
def wholeSeconds : DurationFunctions where
  trim := id
  parseU64 _ := none
  parseF64 s := ([("60", 60), ("30", 30), ("3", 3), ("-1", -1)].lookup s).map .finite
  times k
    | .finite x => .finite (x * k)
    | x => x
  fromSecsF64
    | .finite x =>
      if 0 ≤ x ∧ x < 18446744073709551616 then some (x.num.toNat * 1000000000) else none
    | _ => none
  panics x := by cases x <;> simp [F64.InRange]

theorem wholeSeconds_parses (name : String) :
    parseNamed wholeSeconds name "60s" = .ok 60000000000 ∧
      parseNamed wholeSeconds name "30s" = .ok 30000000000 ∧
      parseNamed wholeSeconds name "3s" = .ok 3000000000 := by
  have minute : parseDuration wholeSeconds "60s" = .ok 60000000000 := by decide +kernel
  have half : parseDuration wholeSeconds "30s" = .ok 30000000000 := by decide +kernel
  have three : parseDuration wholeSeconds "3s" = .ok 3000000000 := by decide +kernel
  simp [parseNamed, minute, half, three, inContext]

theorem posted_gives (more : List (String × Json)) :
    GivesGains (posted (handGains more)) 0 (handGains more) 1 (1 / 10) 0 :=
  ⟨_, _, _, rfl, rfl, rfl, rfl, rfl, rfl, rfl, rfl, rfl⟩

/-- What is read of the one constraint, with the gains of its object. -/
def p99 (gains : GainsSpecConfig) : SetpointSpecConstraintConfig :=
  ⟨"p99", .internal .latencyP99, none, 100, gains, defaultTrackingGain⟩

def postedSpec (gains : GainsSpecConfig) : TestSpec Unit :=
  ⟨"60s", "30s", .adaptive ⟨10, 1000⟩ none none [.setpoint (p99 gains)], ()⟩

theorem postedSpec_converts {gains : GainsConfig}
    (converted : convertGainsSpec wholeSeconds spec = .ok gains) :
    ∃ config, intoConfig wholeSeconds (postedSpec spec) = .ok config ∧
      config.rate.gainsAt 0 = some gains := by
  have minute := fun name => (wholeSeconds_parses name).1
  have half := fun name => (wholeSeconds_parses name).2.1
  refine ⟨⟨60000000000, 30000000000, .adaptive ⟨⟨10, 1000⟩, none, none,
    [.setpoint ⟨"p99", .internal .latencyP99, none, 100, gains, defaultTrackingGain⟩], none, none,
    none, none⟩, ()⟩, ?_, rfl⟩
  simp only [intoConfig, postedSpec, minute, half, convertRate, convertWarmup, List.mapM_cons,
    List.mapM_nil, convertConstraintSpec, p99, converted]
  rfl

/-- Manual gains come back as the default ones, and are converted to them. -/
theorem manual_gains_lost :
    (∃ c : RateConfig, ∀ text, decodeRate ((encodeRate c).reread text) ≠ some c) ∧
    ∃ spec config, decodeTestSpec (fun _ => some ()) (posted (handGains [])) = some spec ∧
      intoConfig wholeSeconds spec = .ok config ∧
      GivesGains (posted (handGains [])) 0 (handGains []) 1 (1 / 10) 0 ∧
      config.rate.gainsAt 0 = some GainsConfig.default := by
  constructor
  · refine ⟨.adaptive ⟨⟨10, 1000⟩, none, none,
      [.setpoint ⟨"p99", .internal .latencyP99, none, 100, .manual 1 (1 / 10) 0, 1 / 2⟩], none,
      none, none, none⟩, fun text => ?_⟩
    rw [Ne, decodeRate_iff]
    simp [RateConfig.constraints, ConstraintConfig.NotManual]
  · have automatic : convertGainsSpec wholeSeconds .default = .ok GainsConfig.default := by
      simp only [convertGainsSpec, GainsSpecConfig.default, defaultAutotuneDurationStr,
        (wholeSeconds_parses _).2.2]
      rfl
    obtain ⟨config, converts, gains⟩ := postedSpec_converts automatic
    exact ⟨postedSpec .default, config, rfl, converts, posted_gives [], gains⟩

/-- They arrive if the object also has a smoothing that is no number. -/
theorem rate_survives_null_smoothing :
    ∃ spec config, decodeTestSpec (fun _ => some ()) (posted (handGains [("smoothing", .null)])) =
        some spec ∧
      intoConfig wholeSeconds spec = .ok config ∧
      config.rate.gainsAt 0 = some (.manual 1 (1 / 10) 0) := by
  have decoded : decodeTestSpec (fun _ => some ()) (posted (handGains [("smoothing", .null)])) =
      some (postedSpec (.manual 1 (1 / 10) 0)) := rfl
  have manual : convertGainsSpec wholeSeconds (.manual 1 (1 / 10) 0) = .ok (.manual 1 (1 / 10) 0) :=
    rfl
  obtain ⟨config, converted, -⟩ := postedSpec_converts manual
  refine ⟨_, config, decoded, converted, ?_⟩
  exact ((rate_survives_iff wholeSeconds _).2 _ _ config 0 _ 1 (1 / 10) 0 decoded converted
    (posted_gives _)).mpr (.inr ⟨.null, rfl, rfl⟩)

end Netanvil.Config
