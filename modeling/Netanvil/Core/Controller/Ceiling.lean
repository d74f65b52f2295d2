/-
# The progressive ceiling, and the floor above it

The ceiling goes from the initial rate to the upper bound in half the test's duration
(`ramp_of_run`). A tick is cut off at the ceiling and only then raised to the known-good floor.
The floor is a fraction of rates that were under the ceiling, which rises; so it is enough
that it starts below (`held_of_run`).
-/
import Netanvil.Core.Controller.Phases

namespace Netanvil.Core

open Netanvil.Types Theory Theory.Trace Option

/-! ## The ramp -/

namespace ProgressiveCeiling

variable {c : ProgressiveCeiling} {t t' began : Nat}

theorem progress_mem (c : ProgressiveCeiling) (t : Nat) : 0 ≤ c.progress t ∧ c.progress t ≤ 1 := by
  unfold progress
  split
  · exact ⟨le_rfl, zero_le_one⟩
  · split
    · exact ⟨zero_le_one, le_rfl⟩
    · exact ⟨le_min (by positivity) zero_le_one, min_le_right _ _⟩

theorem progress_mono (c : ProgressiveCeiling) (later : t ≤ t') : c.progress t ≤ c.progress t' := by
  unfold progress
  split
  · exact le_rfl
  · rename_i began started
    split
    · exact le_rfl
    · have elapsed : ((t - began : Nat) : ℚ) ≤ ((t' - began : Nat) : ℚ) :=
        Nat.cast_le.mpr (Nat.sub_le_sub_right later began)
      refine min_le_min_right _ ?_
      gcongr

theorem ceiling_mono (rises : c.startValue ≤ c.endValue) (later : t ≤ t') :
    c.ceiling t ≤ c.ceiling t' :=
  add_le_add_right
    (mul_le_mul_of_nonneg_right (c.progress_mono later) (sub_nonneg.mpr rises)) _

theorem ends_le_ceiling (c : ProgressiveCeiling) (t : Nat) :
    min c.endValue c.startValue ≤ c.ceiling t := by
  obtain ⟨nonneg, le_one⟩ := c.progress_mem t
  rw [ceiling]
  rcases le_total c.startValue c.endValue with rises | falls
  · rw [min_eq_right rises]
    exact le_add_of_nonneg_right (mul_nonneg nonneg (sub_nonneg.mpr rises))
  · rw [min_eq_left falls]
    nlinarith

/-- A ramp that falls stays above its end. -/
theorem min_ceiling_le (c : ProgressiveCeiling) (later : t ≤ t') :
    min c.endValue (c.ceiling t) ≤ c.ceiling t' := by
  rcases le_total c.startValue c.endValue with rises | falls
  · exact (min_le_right _ _).trans (ceiling_mono rises later)
  · have least := c.ends_le_ceiling t'
    rw [min_eq_left falls] at least
    exact (min_le_left _ _).trans least

theorem ceiling_at_start (ramps : 0 < c.rampDuration) (started : c.startTime = some t) :
    c.ceiling t = c.startValue := by
  simp [ceiling, progress, started, ramps.ne']

theorem ceiling_of_ramped (started : c.startTime = some began)
    (ramped : began + c.rampDuration ≤ t) : c.ceiling t = c.endValue := by
  have done : c.progress t = 1 := by
    simp only [progress, started]
    split
    · rfl
    · rename_i ramps
      have positive : (0 : ℚ) < c.rampDuration := Nat.cast_pos.mpr (Nat.pos_of_ne_zero ramps)
      have elapsed : (c.rampDuration : ℚ) ≤ ((t - began : Nat) : ℚ) :=
        Nat.cast_le.mpr (Nat.le_sub_of_add_le' ramped)
      exact min_eq_right ((one_le_div positive).mpr elapsed)
  rw [ceiling, done]
  ring

end ProgressiveCeiling

/-- When a call is made, if that matters to it. -/
def ArbiterCall.time : ArbiterCall → Option Nat
  | .update now _ => some now
  | .setRate now _ => some now
  | _ => none

namespace Arbiter

variable {C Q : Type} {parts : ArbiterParts C Q} {a a' : Arbiter C Q}
  {now t duration start created began : Nat}
  {summary : MetricsSummary} {decision : RateDecision} {time : Option Nat}

/-- The ceiling is as it was, or is started, which is when active control begins. -/
structure StartsCeiling (a a' : Arbiter C Q) (time : Option Nat) : Prop where
  start : a'.ceiling.startValue = a.ceiling.startValue
  duration : a'.ceiling.rampDuration = a.ceiling.rampDuration
  stop : a.ceiling.endValue = a.maxRps → a'.ceiling.endValue = a'.maxRps
  goesOn : a.phase = .active → a'.ceiling.startTime = a.ceiling.startTime
  begins : a.phase ≠ .active → a'.phase = .active →
    ∃ now, time = some now ∧ a'.ceiling.startTime = some now

theorem StartsCeiling.of_same (ceiling : a'.ceiling = a.ceiling)
    (max : a'.maxRps = a.maxRps) (phase : a'.phase = .active → a.phase = .active) :
    StartsCeiling a a' time := by
  refine ⟨by rw [ceiling], by rw [ceiling], fun stop => ?_, fun _ => by rw [ceiling],
    fun other here => absurd (phase here) other⟩
  rw [ceiling, max, stop]

theorem StartsCeiling.refl (a : Arbiter C Q) (time : Option Nat) : StartsCeiling a a time :=
  .of_same rfl rfl id

theorem StartsCeiling.of_activeTick (taken : a.activeTick parts now summary = some (a', decision))
    (here : a.phase = .active) :
    StartsCeiling a a' time :=
  .of_same (activeTick_policies_after taken).2.1 (activeTick_spec taken).1.max fun _ => here

variable {b : Arbiter C Q} {manager manager' : ExplorationManager} {config : ArbiterConfig C Q}
  {calls : List ArbiterCall} {x fraction lower z rate clamped rps : ℚ}

/-- Active control begins, in a state whose ceiling was started. -/
theorem StartsCeiling.begin (next : StartsCeiling b a' (some now)) (other : a.phase ≠ .active)
    (starts : b.ceiling = a.ceiling.startNow now) (max : b.maxRps = a.maxRps)
    (here : b.phase = .active) : StartsCeiling a a' (some now) := by
  obtain ⟨start, duration, stop, goesOn, -⟩ := next
  rw [starts] at start duration stop goesOn
  refine ⟨start, duration, fun stopped => stop ?_, fun active => absurd active other,
    fun _ _ => ⟨now, rfl, goesOn here⟩⟩
  rw [max]
  exact stopped

/-- Nothing happens to the ceiling before the step is taken. -/
theorem StartsCeiling.of_waiting (next : StartsCeiling b a' time)
    (other : a.phase ≠ .active) (ceiling : b.ceiling = a.ceiling) (max : b.maxRps = a.maxRps)
    (waits : b.phase ≠ .active) : StartsCeiling a a' time := by
  obtain ⟨start, duration, stop, -, begins⟩ := next
  rw [ceiling] at start duration stop
  refine ⟨start, duration, fun stopped => stop ?_, fun active => absurd active other,
    fun _ => begins waits⟩
  rw [max]
  exact stopped

theorem StartsCeiling.of_finishExploration
    (next : StartsCeiling (a.finishExploration parts now manager) a' (some now))
    (other : a.phase ≠ .active) : StartsCeiling a a' (some now) := by
  obtain ⟨constraints, ⟨rps, duration, -, follows⟩ | ⟨-, follows⟩⟩ :=
    finishExploration_cases parts a now manager <;> rw [follows] at next
  · exact next.of_waiting other rfl rfl (by simp)
  · exact next.begin other rfl rfl rfl

theorem StartsCeiling.finishExploration (other : a.phase ≠ .active) :
    StartsCeiling a (a.finishExploration parts now manager) (some now) :=
  .of_finishExploration (.refl _ _) other

/-- The upper bound is also where the ceiling ends. -/
theorem StartsCeiling.setMaxRps (a : Arbiter C Q) (maxRps : ℚ) (time : Option Nat) :
    StartsCeiling a (a.setMaxRps maxRps) time :=
  ⟨rfl, rfl, fun _ => rfl, fun _ => rfl, fun other here => absurd here other⟩

theorem tick_startsCeiling (tick : Tick parts now summary a' decision a) :
    StartsCeiling a a' (some now) := by
  induction tick with
  | active here taken => exact .of_activeTick taken here
  | waiting here waits same decided | exploring here ticked goes given same decided =>
    subst same
    exact .of_same rfl rfl (by simp [watched])
  | warmed here ends taken =>
    exact (StartsCeiling.of_activeTick taken rfl).begin (by simp [here]) rfl rfl rfl
  | @aborted a manager manager' rate clamped here ticked aborts given same decided =>
    subst same
    have explores : (a.watched parts summary rate manager' clamped).phase ≠ .active := by
      simp [watched]
    exact (StartsCeiling.finishExploration explores).of_waiting (by simp [here]) rfl rfl explores
  | explored here ticked next ih => exact ih.of_finishExploration (by simp [here])

theorem call_startsCeiling {made : ArbiterCall} (taken : a.call parts made = some a') :
    StartsCeiling a a' made.time := by
  cases made with
  | update now summary =>
    obtain ⟨⟨after, decision⟩, updated, rfl⟩ := map_eq_some_iff.mp taken
    exact tick_startsCeiling (tick_of_update updated)
  | setRate now rps =>
    obtain ⟨rate, -, taken⟩ := map_eq_some_iff.mp taken
    dsimp only at taken
    split at taken
    · rename_i manager here
      subst taken
      have other : a.phase ≠ .active := by simp [here]
      refine .of_waiting (.finishExploration ?_) other rfl rfl ?_
      · exact other
      · exact other
    · subst taken
      exact .of_same rfl rfl id
  | setMaxRps maxRps =>
    cases taken
    exact .setMaxRps a maxRps _
  | applyUpdate action params =>
    cases taken
    rcases applyUpdate_cases parts a action params with ⟨constraints, same⟩ | ⟨maxRps, same⟩ |
      ⟨minRps, -, -, same⟩ <;> rw [same]
    · exact .of_same rfl rfl id
    · exact .setMaxRps a maxRps _
    · exact .of_same rfl rfl id

/-- Active control began at this time: with the arbiter, or with a call. -/
def BeganAt (parts : ArbiterParts C Q) (config : ArbiterConfig C Q) (created : Nat)
    (calls : List ArbiterCall) (began : Nat) : Prop :=
  ((new config created).phase = .active ∧ began = created) ∨
    ∃ earlier made later a a', calls = earlier ++ made :: later ∧
      exec (call parts) (new config created) earlier = some a ∧ a.phase ≠ .active ∧
      a.call parts made = some a' ∧ a'.phase = .active ∧ made.time = some began

theorem BeganAt.append (at_ : BeganAt parts config created calls began)
    (more : List ArbiterCall) : BeganAt parts config created (calls ++ more) began := by
  obtain atOnce | ⟨earlier, made, later, a, a', rfl, rest⟩ := at_
  · exact .inl atOnce
  · exact .inr ⟨earlier, made, later ++ more, a, a', by simp, rest⟩

/-- The ceiling of an arbiter, from the initial rate to the upper bound in force. -/
structure Ramp (config : ArbiterConfig C Q) (a : Arbiter C Q) : Prop where
  start : a.ceiling.startValue = config.initialRps
  stop : a.ceiling.endValue = a.maxRps
  duration : a.ceiling.rampDuration = config.testDuration / 2

/-- In every run the ceiling is such a ramp, and starts when active control begins. -/
theorem ramp_of_run (run : exec (call parts) (new config created) calls = some a) :
    a.Ramp config ∧ (a.phase = .active →
      ∃ began, BeganAt parts config created calls began ∧ a.ceiling.startTime = some began) := by
  induction calls using List.reverseRecOn generalizing a with
  | nil =>
    obtain rfl : new config created = a := some.inj run
    refine ⟨⟨rfl, rfl, rfl⟩, fun active => ⟨created, .inl ⟨active, rfl⟩, ?_⟩⟩
    have phase : startPhase config created = .active := active
    simp only [new, phase]
  | append_singleton calls made ih =>
    obtain ⟨b, earlier, taken⟩ := exec_snoc_iff.mp run
    obtain ⟨⟨start, stop, duration⟩, started⟩ := ih earlier
    have step := call_startsCeiling taken
    refine ⟨⟨step.start.trans start, step.stop stop, step.duration.trans duration⟩,
      fun active => ?_⟩
    by_cases before : b.phase = .active
    · obtain ⟨began, at_, time⟩ := started before
      exact ⟨began, at_.append _, (step.goesOn before).trans time⟩
    · obtain ⟨now, time, starts⟩ := step.begins before active
      exact ⟨now, .inr ⟨calls, made, [], b, a, rfl, earlier, before, taken, active, time⟩, starts⟩

theorem ceiling_of_run (active : a.phase = .active) (stop : a.ceiling.endValue = a.maxRps)
    (run : exec (call parts) a calls = some b) :
    b.phase = .active ∧ b.ceiling = { a.ceiling with endValue := b.maxRps } := by
  induction calls using List.reverseRecOn generalizing b with
  | nil =>
    obtain rfl : a = b := some.inj run
    refine ⟨active, ?_⟩
    rw [← stop]
  | append_singleton calls made ih =>
    obtain ⟨before, earlier, taken⟩ := exec_snoc_iff.mp run
    obtain ⟨activeThen, same⟩ := ih earlier
    obtain ⟨start, duration, stop, goesOn, -⟩ := call_startsCeiling taken
    have started := goesOn activeThen
    have stopped := stop (by rw [same])
    refine ⟨call_active activeThen taken, ?_⟩
    calc b.ceiling
      _ = ⟨b.ceiling.startValue, b.ceiling.endValue, b.ceiling.rampDuration,
            b.ceiling.startTime⟩ := rfl
      _ = { before.ceiling with endValue := b.maxRps } := by
            rw [start, stopped, duration, started]
      _ = { a.ceiling with endValue := b.maxRps } := by rw [same]

/-! ## The floor below it -/

/-- The floor takes a fraction of a rate, and the ceiling goes from the initial rate to the upper
bound. -/
structure Regular (a : Arbiter C Q) : Prop where
  lower : 0 ≤ a.minRps
  fraction : 0 ≤ a.knownGood.floorFraction
  fraction_le : a.knownGood.floorFraction ≤ 1
  start : a.ceiling.startValue = a.initialRps
  stop : a.ceiling.endValue = a.maxRps
  ramps : 0 < a.ceiling.rampDuration

/-- From this time on the floor that a rate of `x` makes is not above the ceiling. -/
def Under (a : Arbiter C Q) (t : Nat) (x : ℚ) : Prop :=
  ∀ t', t ≤ t' → min a.maxRps (x * a.knownGood.floorFraction) ≤ max a.minRps (a.ceiling.ceiling t')

theorem Under.later (under : a.Under t x) (later : t ≤ now) : a.Under now x :=
  fun t' le => under t' (later.trans le)

theorem scaled_le (nonneg : 0 ≤ fraction) (le_one : fraction ≤ 1)
    (positive : 0 ≤ lower) (le : x ≤ max lower z) : x * fraction ≤ max lower z := by
  rcases le_total x 0 with negative | nonneg'
  · exact (mul_nonpos_of_nonpos_of_nonneg negative nonneg).trans (positive.trans (le_max_left _ _))
  · exact (mul_le_of_le_one_right nonneg' le_one).trans le

theorem Regular.under_of_initial (regular : a.Regular)
    (low : x * a.knownGood.floorFraction ≤ max a.minRps a.initialRps) (t : Nat) : a.Under t x := by
  intro t' _
  rcases le_max_iff.mp low with low | low
  · exact (min_le_right _ _).trans (low.trans (le_max_left _ _))
  · have least := a.ceiling.ends_le_ceiling t'
    rw [regular.start, regular.stop] at least
    exact (min_le_min_left _ low).trans (least.trans (le_max_right _ _))

theorem Regular.under_update (regular : a.Regular)
    (known : a.Under now a.knownGood.maxRecentRate) (current : a.Under now a.currentRps) :
    a.Under now (a.knownGood.update now a.currentRps).maxRecentRate := by
  unfold KnownGoodTracker.update
  split
  · exact current
  · split
    · intro t' later
      rw [mul_right_comm]
      rcases min_le_iff.mp (known t' later) with high | low
      · exact (min_le_left _ _).trans high
      · exact (min_le_right _ _).trans (scaled_le (by norm_num) (by norm_num) regular.lower low)
    · exact known

theorem floorFraction_update (tracker : KnownGoodTracker) (now : Nat) (rate : ℚ) :
    (tracker.update now rate).floorFraction = tracker.floorFraction := by
  unfold KnownGoodTracker.update
  split
  · rfl
  · split <;> rfl

/-- A tick keeps to the ceiling exactly if the floor does, or does not hold. -/
theorem rate_le_ceiling_iff (taken : a.activeTick parts now summary = some (a', decision)) :
    decision.targetRps ≤ max a.minRps (a.ceiling.ceiling now) ↔
      a.Bypasses parts summary ∨
        min a.maxRps (a.floorAt now) ≤ max a.minRps (a.ceiling.ceiling now) := by
  have limits : min a.maxRps (a.limited now (a.composedRate parts summary)) ≤
      max a.minRps (a.ceiling.ceiling now) :=
    (min_le_right _ _).trans (limited_le_iff.mpr (.inl (le_max_right _ _)))
  rw [rate_le_iff taken]
  exact ⟨fun held => held.2.2, fun held => ⟨le_max_left _ _, limits, held⟩⟩

/-- The rate and the best rate known both make floors that are not above the ceiling. -/
def Held (a : Arbiter C Q) (t : Nat) : Prop :=
  a.Under t a.currentRps ∧ a.Under t a.knownGood.maxRecentRate

/-- What a tick of active control keeps. -/
theorem activeTick_held (regular : a.Regular) (held : a.Held now)
    (taken : a.activeTick parts now summary = some (a', decision)) :
    a'.Regular ∧ a'.Held now ∧ decision.targetRps ≤ max a'.minRps (a'.ceiling.ceiling now) := by
  obtain ⟨same, -, current, -, upper⟩ := activeTick_spec taken
  obtain ⟨initial, ceiling, known, -⟩ := activeTick_policies_after taken
  have best := regular.under_update held.2 held.1
  have floor : min a.maxRps (a.floorAt now) ≤ max a.minRps (a.ceiling.ceiling now) := by
    rw [floorAt, KnownGoodTracker.floor, floorFraction_update, min_max_distrib_left]
    exact max_le (best now le_rfl) ((min_le_right _ _).trans (le_max_left _ _))
  have low := (rate_le_ceiling_iff taken).mpr (.inr floor)
  have fraction : a'.knownGood.floorFraction = a.knownGood.floorFraction := by
    rw [known, floorFraction_update]
  have under : ∀ {x}, a.Under now x → a'.Under now x := by
    intro x under t' later
    rw [same.max, same.min, fraction, ceiling]
    exact under t' later
  refine ⟨⟨?_, ?_, ?_, ?_, ?_, ?_⟩, ⟨under ?_, under ?_⟩, ?_⟩
  · exact same.min ▸ regular.lower
  · exact fraction ▸ regular.fraction
  · exact fraction ▸ regular.fraction_le
  · rw [ceiling, initial, regular.start]
  · rw [ceiling, same.max, regular.stop]
  · exact ceiling ▸ regular.ramps
  · rw [current]
    intro t' later
    have ceiling := a.ceiling.min_ceiling_le later
    rw [regular.stop] at ceiling
    have below : decision.targetRps ≤ max a.minRps (a.ceiling.ceiling t') := by
      rcases le_max_iff.mp low with low | low
      · exact low.trans (le_max_left _ _)
      · exact (le_min upper low).trans (ceiling.trans (le_max_right _ _))
    exact (min_le_right _ _).trans
      (scaled_le regular.fraction regular.fraction_le regular.lower below)
  · rw [known]
    exact best
  · rw [same.min, ceiling]
    exact low

/-- The floor of every rate that is, or will be, known when active control begins is not above the
initial rate; in active control no floor is above the ceiling. -/
structure Poised (a : Arbiter C Q) (t : Nat) : Prop where
  regular : a.Regular
  exploring : ∀ manager, a.phase = .exploration manager →
    ∀ rate, (a.warmupConfig.map (·.1)).getD a.knownGood.maxRecentRate = rate →
      rate * a.knownGood.floorFraction ≤ max a.minRps a.initialRps
  warming : ∀ rps duration start samples, a.phase = .warmup rps duration start samples →
    rps * a.knownGood.floorFraction ≤ max a.minRps a.initialRps ∧ a.currentRps = rps
  active : a.phase = .active → a.Held t

theorem Poised.of_active (regular : a.Regular) (phase : a.phase = .active) (held : a.Held t) :
    a.Poised t :=
  ⟨regular, by simp [phase], by simp [phase], fun _ => held⟩

theorem Poised.of_warmup {samples : List ℚ} (regular : a.Regular)
    (phase : a.phase = .warmup rps duration start samples)
    (low : rps * a.knownGood.floorFraction ≤ max a.minRps a.initialRps)
    (current : a.currentRps = rps) : a.Poised t := by
  refine ⟨regular, by simp [phase], ?_, by simp [phase]⟩
  intro rps' duration' start' samples' here
  rw [phase] at here
  cases here
  exact ⟨low, current⟩

/-- The step experiment ends at a rate that the ceiling allows. -/
theorem Poised.finishExploration (poised : a.Poised t) (here : a.phase = .exploration manager)
    (now : Nat) (manager' : ExplorationManager) :
    (a.finishExploration parts now manager').Poised now ∧
      ((a.finishExploration parts now manager').phase = .active →
        (a.finishExploration parts now manager').currentRps ≤
          (a.finishExploration parts now manager').ceiling.ceiling now) := by
  have low := poised.exploring manager here
  obtain ⟨constraints, ⟨rps, duration, warms, follows⟩ | ⟨warms, follows⟩⟩ :=
    finishExploration_cases parts a now manager' <;> rw [follows]
  · rw [warms] at low
    exact ⟨.of_warmup { poised.regular with } rfl (low rps rfl) rfl, by simp⟩
  · rw [warms] at low
    have starts : (a.ceiling.startNow now).ceiling now = a.initialRps :=
      (ProgressiveCeiling.ceiling_at_start (c := a.ceiling.startNow now) poised.regular.ramps
        rfl).trans poised.regular.start
    have regular : Regular { a with
        constraints := constraints
        currentRps := a.initialRps
        ceiling := a.ceiling.startNow now
        phase := .active } := { poised.regular with }
    have first : a.initialRps * a.knownGood.floorFraction ≤ max a.minRps a.initialRps :=
      scaled_le regular.fraction regular.fraction_le regular.lower (le_max_right _ _)
    exact ⟨.of_active regular rfl
      ⟨regular.under_of_initial first now, regular.under_of_initial (low _ rfl) now⟩,
      fun _ => starts.ge⟩

theorem Poised.watched (poised : a.Poised t) (here : a.phase = .exploration manager) :
    (a.watched parts summary rate manager' clamped).Poised now :=
  ⟨{ poised.regular with }, fun _ _ => poised.exploring _ here, by simp [Arbiter.watched],
    by simp [Arbiter.watched]⟩

/-- What a tick keeps, in every phase. -/
theorem tick_poised (poised : a.Poised t) (later : t ≤ now)
    (tick : Tick parts now summary a' decision a) :
    a'.Poised now ∧
      (a'.phase = .active → decision.targetRps ≤ max a'.minRps (a'.ceiling.ceiling now)) := by
  induction tick generalizing t with
  | active here taken =>
    obtain ⟨current, known⟩ := poised.active here
    obtain ⟨regular, held, low⟩ :=
      activeTick_held poised.regular ⟨current.later later, known.later later⟩ taken
    have phase := (activeTick_spec taken).2.1.trans here
    exact ⟨.of_active regular phase held, fun _ => low⟩
  | waiting here waits same decided =>
    subst same
    obtain ⟨low, current⟩ := poised.warming _ _ _ _ here
    exact ⟨.of_warmup { poised.regular with } rfl low current, by simp⟩
  | @warmed a rps duration start samples here ends taken =>
    obtain ⟨low, current⟩ := poised.warming _ _ _ _ here
    have regular : (a.warmedUp parts now rps (collectSample summary samples)).Regular :=
      { poised.regular with }
    have under := regular.under_of_initial low now
    have rate : (a.warmedUp parts now rps (collectSample summary samples)).currentRps = rps :=
      current
    obtain ⟨regular', held, low⟩ :=
      activeTick_held regular ⟨by rw [rate]; exact under, under⟩ taken
    exact ⟨.of_active regular' (activeTick_spec taken).2.1 held, fun _ => low⟩
  | exploring here ticked goes given same decided =>
    subst same
    exact ⟨poised.watched here, by simp [watched]⟩
  | @aborted a manager manager' rate clamped here ticked aborts given same decided =>
    subst same decided
    have watching : (a.watched parts summary rate manager' clamped).Poised t :=
      poised.watched here
    obtain ⟨after, low⟩ := watching.finishExploration rfl now manager'
    exact ⟨after, fun active => (low active).trans (le_max_right _ _)⟩
  | explored here ticked next ih => exact ih (poised.finishExploration here now _).1 le_rfl

/-- Updates only, at times that do not go back. -/
def Chronological : Nat → List ArbiterCall → Prop
  | _, [] => True
  | t, .update now _ :: rest => t ≤ now ∧ Chronological now rest
  | _, _ :: _ => False

/-- What every run of updates keeps. -/
theorem held_of_run (poised : a.Poised t)
    (chronological : Chronological t (calls ++ [.update now summary]))
    (run : exec (call parts) a calls = some a') : ∃ t' ≤ now, a'.Poised t' := by
  induction calls generalizing a t with
  | nil =>
    obtain rfl : a = a' := some.inj run
    exact ⟨t, chronological.1, poised⟩
  | cons made calls ih =>
    obtain ⟨b, taken, run⟩ := exec_cons_iff.mp run
    cases made with
    | update time window =>
      obtain ⟨⟨after, decision⟩, updated, rfl⟩ := map_eq_some_iff.mp taken
      obtain ⟨later, rest⟩ := chronological
      exact ih (tick_poised poised later (tick_of_update updated)).1 rest run
    | setRate time rps | setMaxRps maxRps | applyUpdate action params => exact chronological.elim

/-- The best rate the arbiter will know of when active control begins. -/
def firstKnown (config : ArbiterConfig C Q) : ℚ :=
  (config.warmup.map (·.1)).getD
    ((config.explorationManager.map (·.initialRps / 2)).getD config.initialRps)

/-- A floor that begins not above the initial rate. -/
structure Modest (config : ArbiterConfig C Q) : Prop where
  lower : 0 ≤ config.minRps
  fraction : 0 ≤ config.knownGoodFloorFraction
  fraction_le : config.knownGoodFloorFraction ≤ 1
  known : firstKnown config * config.knownGoodFloorFraction ≤ max config.minRps config.initialRps

theorem poised_new (modest : Modest config) (lasts : 2 ≤ config.testDuration) (created : Nat) :
    (new config created).Poised created := by
  have regular : (new config created).Regular :=
    ⟨modest.lower, modest.fraction, modest.fraction_le, rfl, rfl, Nat.div_pos lasts two_pos⟩
  have known := modest.known
  unfold firstKnown at known
  cases explores : config.explorationManager with
  | some manager =>
    refine ⟨regular, ?_, by simp [new, startPhase, explores], by simp [new, startPhase, explores]⟩
    rintro - - rate rfl
    simpa [new, startPhase, explores] using known
  | none =>
    cases warms : config.warmup with
    | some warmup =>
      rw [warms] at known
      have phase : (new config created).phase = .warmup warmup.1 warmup.2 created [] := by
        simp [new, startPhase, explores, warms]
      refine .of_warmup regular phase known ?_
      simp [new, startPhase, explores, warms]
    | none =>
      rw [explores, warms] at known
      have rate : (new config created).currentRps = config.initialRps := by
        simp [new, startPhase, explores, warms]
      have under := regular.under_of_initial known created
      have phase : (new config created).phase = .active := by
        simp [new, startPhase, explores, warms]
      refine .of_active regular phase ⟨?_, ?_⟩
      · rw [rate]
        exact under
      · have best : (new config created).knownGood.maxRecentRate = config.initialRps := rate
        rw [best]
        exact under

/-- **A tick of active control keeps to the ceiling exactly if the known-good floor does, or the
constraint that decides is catastrophic. Every tick of every run of updates does if the floor
begins not above the initial rate. The ceiling is the initial rate when active control begins
and the upper bound half the test later, and does not fall while that bound stays.** -/
theorem ceiling_respected (parts : ArbiterParts C Q) {config : ArbiterConfig C Q}
    (lasts : 2 ≤ config.testDuration) (created : Nat) :
    (∀ (a : Arbiter C Q) now summary a' decision,
      a.activeTick parts now summary = some (a', decision) →
      (decision.targetRps ≤ max a.minRps (a.ceiling.ceiling now) ↔
        a.Bypasses parts summary ∨
          min a.maxRps (a.floorAt now) ≤ max a.minRps (a.ceiling.ceiling now))) ∧
    (Modest config → ∀ calls a now summary a' decision,
      Chronological created (calls ++ [.update now summary]) →
      exec (call parts) (new config created) calls = some a →
      a.update parts now summary = some (a', decision) → a'.phase = .active →
      decision.targetRps ≤ max a'.minRps (a'.ceiling.ceiling now)) ∧
    ∀ calls a, exec (call parts) (new config created) calls = some a → a.phase = .active →
      ∃ began, BeganAt parts config created calls began ∧
        a.ceiling.ceiling began = config.initialRps ∧
        (∀ t, began + config.testDuration / 2 ≤ t → a.ceiling.ceiling t = a.maxRps) ∧
        (config.initialRps ≤ a.maxRps →
          ∀ more b, exec (call parts) a more = some b → b.maxRps = a.maxRps →
            ∀ t t', t ≤ t' → a.ceiling.ceiling t ≤ b.ceiling.ceiling t') := by
  refine ⟨fun a now summary a' decision taken => rate_le_ceiling_iff taken, ?_, ?_⟩
  · intro modest calls a now summary a' decision chronological run taken active
    obtain ⟨t, later, poised⟩ := held_of_run (poised_new modest lasts created) chronological run
    exact (tick_poised poised later (tick_of_update taken)).2 active
  · intro calls a run active
    obtain ⟨⟨start, stop, duration⟩, started⟩ := ramp_of_run run
    obtain ⟨began, at_, time⟩ := started active
    have ramps : 0 < a.ceiling.rampDuration := duration ▸ Nat.div_pos lasts two_pos
    refine ⟨began, at_, ?_, fun t ramped => ?_, fun rises more b run' max t t' later => ?_⟩
    · exact (ProgressiveCeiling.ceiling_at_start ramps time).trans start
    · rw [← duration] at ramped
      exact (ProgressiveCeiling.ceiling_of_ramped time ramped).trans stop
    · have same : b.ceiling = a.ceiling := by
        rw [(ceiling_of_run active stop run').2, max, ← stop]
      rw [same]
      exact ProgressiveCeiling.ceiling_mono (by rw [start, stop]; exact rises) later

/-- A warm-up at 1000, and this rate as the initial one. -/
def warmsAt1000 (initialRps : ℚ) : ArbiterConfig Script Unit :=
  { ArbiterConfig.new [] initialRps 10 10000 60000000000 with warmup := some (1000, 2000000000) }

/-- A window with a request. -/
def oneRequest : MetricsSummary := { emptyWindow with totalRequests := 1, latencyP99Ns := 5000000 }

/-- The warm-up but for its last tick. -/
def warmingTicks : List ArbiterCall :=
  [.update 1000000000 oneRequest, .update 2000000000 oneRequest]

/-- Only active control has no rates to come. -/
theorem active_of_pending (none : a.pending.isEmpty) : a.phase = .active := by
  cases here : a.phase with
  | active => rfl
  | exploration manager | warmup rps duration start samples => simp [pending, here] at none

/-- From 1000 the first tick of active control stays at the ceiling. -/
theorem warmup_at_initial_rate :
    Modest (warmsAt1000 1000) ∧
      ∃ a, exec (call scripted) (new (warmsAt1000 1000) 0) warmingTicks = some a ∧
        ∃ a' decision, a.update scripted 3000000000 oneRequest = some (a', decision) ∧
          a'.phase = .active ∧
          decision.targetRps ≤ max a'.minRps (a'.ceiling.ceiling 3000000000) := by
  have modest : Modest (warmsAt1000 1000) :=
    ⟨by decide +kernel, by decide +kernel, by decide +kernel, by decide +kernel⟩
  have lasts : 2 ≤ (warmsAt1000 1000).testDuration := by decide +kernel
  have chronological : Chronological 0 (warmingTicks ++ [.update 3000000000 oneRequest]) :=
    ⟨by decide, by decide, by decide, trivial⟩
  refine ⟨modest, _, evaluates, _, _, evaluates, active_of_pending (by decide +kernel), ?_⟩
  exact (ceiling_respected scripted lasts 0).2.1 modest _ _ _ _ _ _ chronological
    (evaluates _) (evaluates _) (active_of_pending (by decide +kernel))

/-- From 100 it is at the floor of 800, and the ceiling at 100. -/
theorem floor_above_ceiling :
    ∃ a, exec (call scripted) (new (warmsAt1000 100) 0) warmingTicks = some a ∧
      ∃ a' decision, a.update scripted 3000000000 oneRequest = some (a', decision) ∧
        a'.phase = .active ∧
        max a'.minRps (a'.ceiling.ceiling 3000000000) < decision.targetRps :=
  ⟨_, evaluates, _, _,
    evaluates, active_of_pending (by decide +kernel),
    by decide +kernel⟩

end Arbiter

end Netanvil.Core
