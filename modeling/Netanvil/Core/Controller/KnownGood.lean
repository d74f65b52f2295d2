/-
# The known-good floor and the rates it is to be a fraction of

The tracker keeps one rate and the time it is from. A higher rate replaces it; when it is older
than the window it loses 5%, and counts as new. So the floor is the fraction of the largest rate of
the window as long as the kept rate does not decay below a rate of the window: a rate as high as
the kept one does not make it new.
-/
import Netanvil.Core.Controller.Arbiter
import Netanvil.Theory.Trace

namespace Netanvil.Core.KnownGoodTracker

open Theory.Trace List

variable {t t' : KnownGoodTracker} {calls : List (Nat × ℚ)} {fraction initial : ℚ}
  {created window now later : Nat} {rate bound bound' : ℚ}

/-- An update: its time, and the rate it is given. -/
def step (t : KnownGoodTracker) (call : Nat × ℚ) : Option KnownGoodTracker :=
  some (t.update call.1 call.2)

/-! ## One update -/

/-- The kept rate decays: no higher one has come for more than the window. -/
def Decays (t : KnownGoodTracker) (now : Nat) (rate : ℚ) : Prop :=
  rate ≤ t.maxRecentRate ∧ t.window < now - t.maxRecentRateTime

theorem update_cases (t : KnownGoodTracker) (now : Nat) (rate : ℚ) :
    (t.maxRecentRate < rate ∧
        t.update now rate = { t with maxRecentRate := rate, maxRecentRateTime := now }) ∨
      (t.Decays now rate ∧ t.update now rate =
        { t with maxRecentRate := t.maxRecentRate * (95 / 100), maxRecentRateTime := now }) ∨
      (rate ≤ t.maxRecentRate ∧ ¬ t.Decays now rate ∧ t.update now rate = t) := by
  by_cases higher : t.maxRecentRate < rate
  · exact .inl ⟨higher, if_pos higher⟩
  · have kept := not_lt.mp higher
    by_cases old : t.window < now - t.maxRecentRateTime
    · exact .inr (.inl ⟨⟨kept, old⟩, by rw [update, if_neg higher, if_pos old]⟩)
    · exact .inr (.inr ⟨kept, fun decays => old decays.2,
        by rw [update, if_neg higher, if_neg old]⟩)

/-- The settings do not change. -/
theorem update_settings (t : KnownGoodTracker) (now : Nat) (rate : ℚ) :
    (t.update now rate).floorFraction = t.floorFraction ∧
      (t.update now rate).window = t.window := by
  rcases t.update_cases now rate with ⟨-, same⟩ | ⟨-, same⟩ | ⟨-, -, same⟩ <;> rw [same] <;>
    exact ⟨rfl, rfl⟩

/-! ## The rates of the window -/

/-- No rate of the window that ends at `now` is above `bound`. -/
def Bounds (window now : Nat) (bound : ℚ) (calls : List (Nat × ℚ)) : Prop :=
  ∀ call ∈ calls, now ≤ call.1 + window → call.2 ≤ bound

theorem Bounds.mono (bounds : Bounds window now bound calls)
    (le : bound ≤ bound') (after : now ≤ later) : Bounds window later bound' calls :=
  fun call mem recent => (bounds call mem (after.trans recent)).trans le

theorem bounds_snoc :
    Bounds window now bound (calls ++ [(now, rate)]) ↔
      Bounds window now bound calls ∧ rate ≤ bound := by
  constructor
  · intro bounds
    exact ⟨fun call mem => bounds call (mem_append_left _ mem),
      bounds (now, rate) (by simp) (Nat.le_add_right _ _)⟩
  · rintro ⟨bounds, last⟩ call mem recent
    rcases mem_append.mp mem with earlier | here
    · exact bounds call earlier recent
    · obtain rfl := mem_singleton.mp here
      exact last

/-- The kept rate decays only below what is not of the window any more, the new rate included. -/
def DecaysBelow (calls : List (Nat × ℚ)) (t : KnownGoodTracker) (call : Nat × ℚ) : Prop :=
  t.Decays call.1 call.2 → Bounds t.window call.1 (t.maxRecentRate * (95 / 100)) (calls ++ [call])

/-- An update keeps the rates of the window below the kept one exactly if the latter does not decay
below them. -/
theorem covers_step_iff (covers : Bounds t.window now t.maxRecentRate calls) :
    Bounds t.window now (t.update now rate).maxRecentRate (calls ++ [(now, rate)]) ↔
      DecaysBelow calls t (now, rate) := by
  rcases t.update_cases now rate with ⟨higher, same⟩ | ⟨decays, same⟩ | ⟨kept, stays, same⟩ <;>
    rw [same]
  · refine iff_of_true (bounds_snoc.mpr ⟨covers.mono higher.le le_rfl, le_rfl⟩) ?_
    intro decays
    exact absurd decays.1 (not_le.mpr higher)
  · exact ⟨fun below _ => below, fun below => below decays⟩
  · refine iff_of_true (bounds_snoc.mpr ⟨covers, kept⟩) ?_
    intro decays
    exact absurd decays stays

/-! ## Every sequence of updates -/

/-- The largest rate given so far, or at the start. -/
def largest (initial : ℚ) (calls : List (Nat × ℚ)) : ℚ := (calls.map (·.2)).foldl max initial

/-- What every run keeps: the settings, and a rate between zero and the largest. -/
structure Kept (fraction initial : ℚ) (window : Nat) (calls : List (Nat × ℚ))
    (t : KnownGoodTracker) : Prop where
  fraction : t.floorFraction = fraction
  window : t.window = window
  nonneg : 0 ≤ t.maxRecentRate
  le : t.maxRecentRate ≤ largest initial calls

theorem kept_of_run (nonneg : 0 ≤ initial)
    (run : exec step ⟨initial, created, fraction, window⟩ calls = some t) :
    Kept fraction initial window calls t := by
  refine exec_invariant (I := fun calls t => Kept fraction initial window calls t)
    ⟨rfl, rfl, nonneg, le_rfl⟩ ?_ run
  rintro calls t ⟨now, rate⟩ t' ⟨sameFraction, sameWindow, positive, le⟩ taken
  cases taken
  obtain ⟨fraction, window⟩ := t.update_settings now rate
  refine ⟨fraction.trans sameFraction, window.trans sameWindow, ?_, ?_⟩
  · rcases t.update_cases now rate with ⟨higher, same⟩ | ⟨-, same⟩ | ⟨-, -, same⟩
    · rw [same]
      exact positive.trans higher.le
    · rw [same]
      exact mul_nonneg positive (by norm_num)
    · rwa [same]
  · simp only [largest, map_append, foldl_append, map_cons, map_nil, foldl_cons, foldl_nil]
    rcases t.update_cases now rate with ⟨-, same⟩ | ⟨-, same⟩ | ⟨-, -, same⟩
    · rw [same]
      exact le_max_right _ _
    · rw [same]
      have decayed : t.maxRecentRate * (95 / 100) ≤ t.maxRecentRate := by linarith
      exact (decayed.trans le).trans (le_max_left _ _)
    · rw [same]
      exact le.trans (le_max_left _ _)

/-- The condition on a run: every update that lets the kept rate decay, lets it decay below no rate
of the window. -/
def DecaysLate (init : KnownGoodTracker) (calls : List (Nat × ℚ)) : Prop :=
  Along (fun earlier call => ∀ t, exec step init earlier = some t → DecaysBelow earlier t call)
    calls

/-- What the floor is for, after the updates `calls`, the last of them at `now`. -/
structure Honours (fraction initial : ℚ) (window now : Nat) (calls : List (Nat × ℚ))
    (t : KnownGoodTracker) (minRps : ℚ) : Prop where
  above : ∀ call ∈ calls, now ≤ call.1 + window → fraction * call.2 ≤ t.floor minRps
  below : t.floor minRps ≤ max minRps (fraction * largest initial calls)

/-- **With a fraction and a first rate that are not negative, the floor is what it is for after
every update, whatever the lower bound, exactly if the fraction is zero or the kept rate never
decays below a rate of the window.** -/
theorem known_good_floor (nonneg : 0 ≤ fraction) (first : 0 ≤ initial)
    (ordered : calls.Pairwise (·.1 ≤ ·.1)) :
    (∀ earlier now rate t minRps, earlier ++ [(now, rate)] <+: calls →
        exec step ⟨initial, created, fraction, window⟩ (earlier ++ [(now, rate)]) = some t →
        Honours fraction initial window now (earlier ++ [(now, rate)]) t minRps) ↔
      fraction = 0 ∨ DecaysLate ⟨initial, created, fraction, window⟩ calls := by
  constructor
  · intro honours
    refine or_iff_not_imp_left.mpr fun nonzero => ?_
    rintro earlier ⟨now, rate⟩ later rfl t run decays
    have updated : exec step ⟨initial, created, fraction, window⟩ (earlier ++ [(now, rate)]) =
        some (t.update now rate) := by
      rw [exec_snoc, run]
      rfl
    have kept := kept_of_run first updated
    have decayed : (t.update now rate).maxRecentRate = t.maxRecentRate * (95 / 100) := by
      rw [update, if_neg (not_lt.mpr decays.1), if_pos decays.2]
    intro call mem recent
    rw [← decayed]
    -- the floor for a low lower bound tells the rate that is kept
    set minRps := (t.update now rate).maxRecentRate * fraction with low
    suffices below : fraction * call.2 ≤ (t.update now rate).floor minRps by
      rw [floor, kept.fraction, max_self, mul_comm] at below
      exact le_of_mul_le_mul_right below (lt_of_le_of_ne nonneg (Ne.symm nonzero))
    have held := honours earlier now rate _ minRps (by simp) updated
    rw [(kept_of_run first run).window] at recent
    exact held.above call mem recent
  · rintro condition earlier now rate t minRps cut run
    have kept := kept_of_run first run
    have chronological := ordered.sublist cut.sublist
    refine ⟨fun call mem recent => ?_, ?_⟩
    swap
    · rw [floor, kept.fraction, mul_comm, max_comm]
      exact max_le_max_left _ (mul_le_mul_of_nonneg_left kept.le nonneg)
    rcases condition with rfl | late
    · rw [zero_mul]
      refine (mul_nonneg ?_ ?_).trans (le_max_left _ _)
      · exact kept.nonneg
      · rw [kept.fraction]
    · obtain ⟨-, -, latest⟩ := pairwise_append.mp chronological
      have after : ∀ call ∈ earlier ++ [(now, rate)], call.1 ≤ now := by
        intro call mem
        rcases mem_append.mp mem with before | here
        · exact latest call before (now, rate) (by simp)
        · obtain rfl := mem_singleton.mp here
          exact le_rfl
      -- no rate of the window is above the kept one, at the last update or later
      have covers := exec_invariant_along (I := fun calls t => calls.Pairwise (·.1 ≤ ·.1) →
        DecaysLate ⟨initial, created, fraction, window⟩ calls →
        ∀ now, (∀ call ∈ calls, call.1 ≤ now) → Bounds t.window now t.maxRecentRate calls)
        (fun _ _ _ _ => by simp [Bounds]) (by
          rintro calls t ⟨last, rate⟩ t' reached covers taken ordered late now after
          cases taken
          obtain ⟨before, -, latest⟩ := pairwise_append.mp ordered
          obtain ⟨lateBefore, below⟩ := along_snoc.mp late
          have here := covers before lateBefore last fun call mem =>
            latest call mem (last, rate) (by simp)
          have kept := (covers_step_iff here).mpr (below t reached)
          rw [(t.update_settings last rate).2]
          exact kept.mono le_rfl (after (last, rate) (by simp)))
        run chronological (Along.restrict late cut) now after
      rw [kept.window] at covers
      rw [floor, kept.fraction, mul_comm]
      exact le_max_of_le_left (mul_le_mul_of_nonneg_right (covers call mem recent) nonneg)

/-! The default policy, 80% over a minute, from a rate of 100. -/

def minuteTracker : KnownGoodTracker := ⟨100, 0, 8 / 10, 60000000000⟩

/-- At 90 from half a minute on, the kept rate decays to 95 after a minute, and the floor to 76. -/
theorem floor_decays_above_rates : ∃ t,
    exec step minuteTracker ([(30000000000, 90)] ++ [(61000000000, 90)]) = some t ∧
      Honours (8 / 10) 100 60000000000 61000000000
        ([(30000000000, 90)] ++ [(61000000000, 90)]) t 1 := by
  have late : DecaysLate minuteTracker ([(30000000000, 90)] ++ [(61000000000, 90)]) := by
    refine along_snoc.mpr ⟨along_snoc.mpr ⟨along_nil _, fun t run => ?_⟩, fun t run => ?_⟩
    · cases Option.some.inj run
      intro _ call mem _
      obtain rfl : call = (30000000000, 90) := by simpa using mem
      decide +kernel
    · cases Option.some.inj run
      intro _ call mem _
      obtain rfl | rfl : call = (30000000000, 90) ∨ call = (61000000000, 90) := by simpa using mem
      all_goals decide +kernel
  have honours := (known_good_floor (by norm_num) (by norm_num) (by simp)).mpr (.inr late)
  exact ⟨_, rfl, honours [(30000000000, 90)] 61000000000 90 _ 1 (prefix_refl _) rfl⟩

/-- At a steady 100 the kept rate decays after a minute, and the floor with it, to 76. -/
theorem floor_decays_at_steady_rate :
    ∃ t, exec step minuteTracker [(61000000000, 100)] = some t ∧ t.floor 1 = 76 ∧
      ¬ Honours (8 / 10) 100 60000000000 61000000000 [(61000000000, 100)] t 1 := by
  refine ⟨_, rfl, by decide +kernel, fun honours => ?_⟩
  have above := honours.above (61000000000, 100) (by simp) (by norm_num)
  revert above
  decide +kernel

end Netanvil.Core.KnownGoodTracker
