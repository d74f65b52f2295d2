/-
# The durations that stop the conversion

`Duration::from_secs_f64` takes a number of seconds that is finite, not negative and below
`2 ^ 64`, and panics on others. Both parsers of durations hand it what the text says.
`never_panics_iff` says for which specifications, and which texts on the command line, no such
number gets there.
-/
import Netanvil.Config.TestSpec

namespace Netanvil.Config

/-! ## The command line -/

section

variable (std : DurationFunctions)

/-- `parse_duration` of the command line, in nanoseconds. -/
def cliParseDuration (text : String) : Except SpecFailure Nat :=
  let s := std.trim text
  let units (message digits : String) (seconds : F64 → F64) :=
    match std.parseF64 digits with
    | none => .error (.error message)
    | some n =>
      match std.fromSecsF64 (seconds n) with
      | none => .error .panic
      | some duration => .ok duration
  match stripSuffix "ms" s, stripSuffix "s" s, stripSuffix "m" s with
  | some ms, _, _ =>
    match std.parseU64 ms with
    | none => .error (.error "invalid milliseconds")
    | some n => .ok (n * 1000000)
  | none, some secs, _ => units "invalid seconds" secs id
  | none, none, some mins => units "invalid minutes" mins (std.times 60)
  | none, none, none => units "invalid duration" s id

/-! ## Numbers out of range -/

/-- The text is a number with the first of the units that it ends with, or with none, and the
number of seconds is out of range. Milliseconds are integers and never are. -/
def OutOfRange (units : List (String × (F64 → F64))) (text : String) : Prop :=
  let s := std.trim text
  let (digits, seconds) :=
    (units.findSome? fun unit => (stripSuffix unit.1 s).map (·, unit.2)).getD (s, id)
  stripSuffix "ms" s = none ∧ ∃ n, std.parseF64 digits = some n ∧ ¬ (seconds n).InRange

/-- Of a specification, where an empty text is refused before. -/
def SpecOutOfRange (text : String) : Prop :=
  (std.trim text).isEmpty = false ∧
    OutOfRange std [("h", std.times 3600), ("m", std.times 60), ("s", id)] text

/-- Of the command line. -/
def CliOutOfRange (text : String) : Prop := OutOfRange std [("s", id), ("m", std.times 60)] text

def Parses (text : String) : Prop := ∃ duration, parseDuration std text = .ok duration

/-- A number is out of range and all texts before it are durations. -/
def Panics : List String → Prop
  | [] => False
  | text :: rest => SpecOutOfRange std text ∨ Parses std text ∧ Panics rest

def autotuneDurations : ConstraintSpecConfig → List String
  | .setpoint ⟨_, _, _, _, .auto autotuneDuration _, _⟩ => [autotuneDuration]
  | _ => []

/-- The texts of a specification, in the order they are parsed in. -/
def durations {ρ : Type} (spec : TestSpec ρ) : List String :=
  spec.duration :: spec.timeout ::
    match spec.rate with
    | .static _ => []
    | .step steps => steps.map (·.1)
    | .adaptive _ warmup _ constraints =>
      (warmup.map (·.duration)).toList ++ constraints.flatMap autotuneDurations

variable {std} (text : String)

theorem cliParseDuration_panics :
    cliParseDuration std text = .error .panic ↔ CliOutOfRange std text := by
  unfold cliParseDuration CliOutOfRange OutOfRange
  cases ms : stripSuffix "ms" (std.trim text) <;> cases s : stripSuffix "s" (std.trim text) <;>
    cases m : stripSuffix "m" (std.trim text) <;> simp [ms, s, m, ← std.panics] <;> grind

theorem parseDuration_panics :
    parseDuration std text = .error .panic ↔ SpecOutOfRange std text := by
  unfold parseDuration SpecOutOfRange OutOfRange parseUnits
  by_cases empty : (std.trim text).isEmpty
  · simp [empty]
  · cases ms : stripSuffix "ms" (std.trim text) <;> cases h : stripSuffix "h" (std.trim text) <;>
      cases m : stripSuffix "m" (std.trim text) <;> cases s : stripSuffix "s" (std.trim text) <;>
      simp [empty, ms, h, m, s, ← std.panics] <;> grind

/-! ## Conversions that read texts -/

/-- The result of a conversion that reads these texts, one after the other. -/
structure Reads {α : Type} (std : DurationFunctions) (texts : List String)
    (result : Except SpecFailure α) : Prop where
  panics : result = .error .panic ↔ Panics std texts
  succeeds : (∃ a, result = .ok a) ↔ ∀ text ∈ texts, Parses std text

variable {α β ρ : Type} {texts more : List String} {result : Except SpecFailure α}

theorem panics_append :
    Panics std (texts ++ more) ↔
      Panics std texts ∨ (∀ text ∈ texts, Parses std text) ∧ Panics std more := by
  induction texts with
  | nil => simp [Panics]
  | cons text rest ih =>
    simp only [List.cons_append, Panics, ih, List.forall_mem_cons]
    tauto

theorem Reads.nothing (a : α) : Reads std [] (.ok a) := ⟨by simp [Panics], by simp⟩

theorem Reads.bind {next : α → Except SpecFailure β}
    (first : Reads std texts result) (then_ : ∀ a, Reads std more (next a)) :
    Reads std (texts ++ more) (result >>= next) := by
  obtain ⟨panics, succeeds⟩ := first
  cases result with
  | error e =>
    have fails : ¬ ∀ text ∈ texts, Parses std text := by simpa using succeeds
    refine ⟨?_, ?_⟩
    · rw [panics_append, ← panics]
      simp [fails, Bind.bind, Except.bind]
    · simp only [List.forall_mem_append, fails, false_and, iff_false]
      simp [Bind.bind, Except.bind]
  | ok a =>
    have all := succeeds.mp ⟨a, rfl⟩
    have none_ : ¬ Panics std texts := by simpa using panics
    refine ⟨?_, ?_⟩
    · rw [panics_append, or_iff_right none_, and_iff_right all]
      exact (then_ a).panics
    · rw [List.forall_mem_append, and_iff_right all]
      exact (then_ a).succeeds

theorem Reads.returns (first : Reads std texts result)
    (g : α → β) : Reads std texts (result >>= fun a => .ok (g a)) :=
  texts.append_nil ▸ first.bind fun a => .nothing (g a)

theorem Reads.traverse {convert : α → Except SpecFailure β} {of : α → List String}
    (each : ∀ a, Reads std (of a) (convert a)) (items : List α) :
    Reads std (items.flatMap of) (items.mapM convert) := by
  induction items with
  | nil => exact .nothing _
  | cons a items ih =>
    rw [List.mapM_cons, List.flatMap_cons]
    exact (each a).bind fun _ => ih.returns _

theorem reads_named (name text : String) : Reads std [text] (parseNamed std name text) := by
  have out : parseDuration std text = .error .panic ↔ _ := parseDuration_panics text
  unfold parseNamed
  constructor
  · rw [Panics, ← out]
    cases parseDuration std text with
    | ok _ => simp [inContext, Panics]
    | error e => cases e <;> simp [inContext, Panics]
  · rw [List.forall_mem_singleton, Parses]
    cases parseDuration std text with
    | ok _ => simp [inContext]
    | error e => cases e <;> simp [inContext]

theorem reads_constraint (config : ConstraintSpecConfig) :
    Reads std (autotuneDurations config) (convertConstraintSpec std config) := by
  obtain _ | ⟨_, _, _, _, _ | _, _⟩ := config
  · exact .nothing _
  · exact ((reads_named _ _).returns _).returns _
  · exact (Reads.nothing _).returns _

theorem reads_spec (spec : TestSpec ρ) : Reads std (durations spec) (intoConfig std spec) := by
  obtain ⟨duration, timeout, rate, rest⟩ := spec
  refine (reads_named _ _).bind fun _ => (reads_named _ _).bind fun _ => Reads.returns ?_ _
  cases rate with
  | static _ => exact .nothing _
  | step steps =>
    change Reads std (steps.map (·.1)) _
    rw [List.map_eq_flatMap]
    exact (Reads.traverse (fun step => (reads_named _ step.1).returns _) steps).returns _
  | adaptive _ warmup _ constraints =>
    refine Reads.bind ?_ fun _ => (Reads.traverse reads_constraint constraints).returns _
    cases warmup with
    | none => exact .nothing _
    | some warmup => exact (reads_named _ _).returns _

end

/-! ## No panic -/

/-- **No panic, exactly if no duration that gets parsed is out of range.** -/
theorem never_panics_iff (std : DurationFunctions) :
    (∀ {ρ : Type} (spec : TestSpec ρ),
      intoConfig std spec ≠ .error .panic ↔ ¬ Panics std (durations spec)) ∧
    ∀ text, cliParseDuration std text ≠ .error .panic ↔ ¬ CliOutOfRange std text :=
  ⟨fun spec => (reads_spec spec).panics.not, fun text => (cliParseDuration_panics text).not⟩

theorem three_hours_convert :
    intoConfig wholeSeconds (⟨"3h", "30s", .static 100, ()⟩ : TestSpec Unit) ≠ .error .panic ∧
      cliParseDuration wholeSeconds "3m" ≠ .error .panic := by
  have inRange : ∀ text ∈ ["3h", "30s"], ¬ SpecOutOfRange wholeSeconds text := by
    simp only [← parseDuration_panics]
    decide +kernel
  have minutes : ¬ CliOutOfRange wholeSeconds "3m" := by
    rw [← cliParseDuration_panics]
    decide +kernel
  refine ⟨((never_panics_iff wholeSeconds).1 _).mpr ?_, ((never_panics_iff _).2 _).mpr minutes⟩
  rintro (hours | ⟨-, seconds | ⟨-, none⟩⟩)
  · exact inRange _ (by simp) hours
  · exact inRange _ (by simp) seconds
  · exact none

theorem negative_panics :
    intoConfig wholeSeconds (⟨"-1s", "30s", .static 100, ()⟩ : TestSpec Unit) = .error .panic ∧
      cliParseDuration wholeSeconds "-1s" = .error .panic := by
  have stops : parseDuration wholeSeconds "-1s" = .error .panic := by decide +kernel
  refine ⟨?_, by decide +kernel⟩
  simp [intoConfig, parseNamed, stops, inContext, Bind.bind, Except.bind]

end Netanvil.Config
