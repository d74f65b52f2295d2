/-
# The date and time of a number of seconds

`secs_to_utc` counts years from 1970 and then months, taking the days of each off until what is
left fits. The way back is the closed formula for the days from 1970 to a civil date, which a
year, and a month within it, move on by exactly the days the loop takes off.
-/
import Mathlib.Data.Prod.Lex
import Mathlib.Tactic.IntervalCases

namespace Netanvil.Distributed

/-! ## The code -/

def isLeap (y : Nat) : Bool := y % 4 == 0 && (y % 100 != 0 || y % 400 == 0)

def daysInYear (year : Nat) : Nat := if isLeap year then 366 else 365

/-- The loop over the years: the days that are left and the year they are in. -/
def yearLoop (days year : Nat) : Nat × Nat :=
  if days < daysInYear year then (days, year)
  else yearLoop (days - daysInYear year) (year + 1)
termination_by days
decreasing_by
  have positive : 0 < daysInYear year := by
    unfold daysInYear
    split <;> decide
  omega

def monthDays (leap : Bool) : List Nat :=
  if leap then [31, 29, 31, 30, 31, 30, 31, 31, 30, 31, 30, 31]
  else [31, 28, 31, 30, 31, 30, 31, 31, 30, 31, 30, 31]

/-- The loop over the months. -/
def monthLoop : List Nat → Nat → Nat → Nat × Nat
  | [], days, month => (days, month)
  | md :: rest, days, month =>
    if days < md then (days, month) else monthLoop rest (days - md) (month + 1)

/-- Year, month, day, hour, minute and second. -/
abbrev Utc : Type := Nat × Nat × Nat × Nat × Nat × Nat

def secsToUtc (secs : Nat) : Utc :=
  let ss := secs % 60
  let totalMins := secs / 60
  let mm := totalMins % 60
  let totalHours := totalMins / 60
  let hh := totalHours % 24
  let (days, year) := yearLoop (totalHours / 24) 1970
  let (days, month) := monthLoop (monthDays (isLeap year)) days 1
  (year, month, days + 1, hh, mm, ss)

/-! ## The calendar -/

/-- The length of a month by the Gregorian rule. -/
def monthLength (year month : Nat) : Nat :=
  if month = 2 then
    if 4 ∣ year ∧ (¬ 100 ∣ year ∨ 400 ∣ year) then 29 else 28
  else if month ∈ [4, 6, 9, 11] then 30 else 31

def Utc.Valid : Utc → Prop
  | (year, month, day, hh, mm, ss) => (1 ≤ month ∧ month ≤ 12) ∧
      (1 ≤ day ∧ day ≤ monthLength year month) ∧ hh < 24 ∧ mm < 60 ∧ ss < 60

/-- The days from 1970-01-01 to a date: `era` is its cycle of 400 years, all counted from
March. -/
def daysFromCivil (year month day : ℤ) : ℤ :=
  let y := if month ≤ 2 then year - 1 else year
  let era := y / 400
  let yoe := y - era * 400
  let doy := (153 * (if 2 < month then month - 3 else month + 9) + 2) / 5 + day - 1
  let doe := yoe * 365 + yoe / 4 - yoe / 100 + doy
  era * 146097 + doe - 719468

def Utc.toSecs : Utc → ℤ
  | (year, month, day, hh, mm, ss) =>
    ((daysFromCivil year month day * 24 + hh) * 60 + mm) * 60 + ss

/-- The order of tuples. -/
def Utc.Earlier : Utc → Utc → Prop :=
  Prod.Lex (· < ·) <| Prod.Lex (· < ·) <| Prod.Lex (· < ·) <| Prod.Lex (· < ·) <|
    Prod.Lex (· < ·) (· < ·)

/-! ## One step of each loop -/

theorem daysFromCivil_day (year month day : ℤ) :
    daysFromCivil year month day = daysFromCivil year month 1 + (day - 1) := by
  simp only [daysFromCivil]
  omega

variable (year : Nat) {k : Nat}

theorem daysFromCivil_year :
    daysFromCivil (year + 1 : Nat) 1 1 = daysFromCivil year 1 1 + daysInYear year := by
  simp only [daysFromCivil, daysInYear, isLeap, Bool.and_eq_true, Bool.or_eq_true, beq_iff_eq,
    bne_iff_ne]
  split_ifs <;> omega

theorem daysFromCivil_leap :
    daysFromCivil year 3 1 = daysFromCivil year 1 1 + if isLeap year then 60 else 59 := by
  simp only [daysFromCivil, isLeap, Bool.and_eq_true, Bool.or_eq_true, beq_iff_eq, bne_iff_ne]
  split_ifs <;> omega

/-- From March on the months follow one line. -/
theorem daysFromCivil_march (year : ℤ) {month : ℤ} (late : 3 ≤ month) :
    daysFromCivil year month 1 = daysFromCivil year 3 1 + (153 * (month - 3) + 2) / 5 := by
  simp only [daysFromCivil, if_neg (show ¬ month ≤ 2 by omega), if_pos (show 2 < month by omega)]
  norm_num
  omega

/-- Before month `k + 1` of a year lie the months the loop has taken off. -/
theorem daysFromCivil_month (inside : k ≤ 12) :
    daysFromCivil year (k + 1 : Nat) 1 =
      daysFromCivil year 1 1 + ((monthDays (isLeap year)).take k).sum := by
  rcases k with _ | _ | k
  · simp
  · cases isLeap year <;> simp [daysFromCivil, monthDays] <;> omega
  · have bound : k ≤ 10 := by omega
    rw [daysFromCivil_march _ (by omega), daysFromCivil_leap, add_assoc]
    congr 1
    cases isLeap year <;> interval_cases k <;> rfl

theorem monthLength_eq (inside : k < 12) :
    (monthDays (isLeap year))[k]? = some (monthLength year (k + 1)) := by
  have leap : isLeap year = true ↔ 4 ∣ year ∧ (¬ 100 ∣ year ∨ 400 ∣ year) := by
    simp [isLeap, Nat.dvd_iff_mod_eq_zero]
  simp only [monthLength, ← leap]
  cases isLeap year <;> interval_cases k <;> rfl

/-! ## The loops -/

theorem yearLoop_spec (days year : Nat) :
    (yearLoop days year).1 < daysInYear (yearLoop days year).2 ∧
      daysFromCivil (yearLoop days year).2 1 1 + (yearLoop days year).1 =
        daysFromCivil year 1 1 + days := by
  induction days, year using yearLoop.induct with
  | case1 days year fits =>
    rw [yearLoop, if_pos fits]
    exact ⟨fits, rfl⟩
  | case2 days year more ih =>
    rw [yearLoop, if_neg more]
    refine ⟨ih.1, ih.2.trans ?_⟩
    rw [daysFromCivil_year]
    omega

/-- The loop stops in the month whose days are not all there. -/
theorem monthLoop_spec (mds : List Nat) (days month : Nat) (fits : days < mds.sum) :
    ∃ k md, mds[k]? = some md ∧ (monthLoop mds days month).2 = month + k ∧
      (monthLoop mds days month).1 < md ∧
      (mds.take k).sum + (monthLoop mds days month).1 = days := by
  induction mds generalizing days month with
  | nil => simp at fits
  | cons md rest ih =>
    by_cases here : days < md
    · exact ⟨0, md, by simp [monthLoop, here]⟩
    · rw [List.sum_cons] at fits
      obtain ⟨k, md', there, stops, left, total⟩ := ih (days - md) (month + 1) (by omega)
      rw [monthLoop, if_neg here]
      refine ⟨k + 1, md', there, by omega, left, ?_⟩
      rw [List.take_succ_cons, List.sum_cons]
      omega

/-! ## There and back -/

theorem secsToUtc_spec (s : Nat) : (secsToUtc s).Valid ∧ (secsToUtc s).toSecs = s := by
  obtain ⟨fits, years⟩ := yearLoop_spec (s / 60 / 60 / 24) 1970
  simp only [secsToUtc]
  generalize yearLoop (s / 60 / 60 / 24) 1970 = found at fits years ⊢
  obtain ⟨days, year⟩ := found
  obtain ⟨k, md, there, stops, left, months⟩ :=
    monthLoop_spec (monthDays (isLeap year)) days 1 (by
      cases rule : isLeap year <;> simpa [daysInYear, monthDays, rule] using fits)
  have inside : k < 12 := by
    have bound := (List.getElem?_eq_some_iff.mp there).1
    cases rule : isLeap year <;> simpa [monthDays, rule] using bound
  rw [monthLength_eq year inside] at there
  cases there
  dsimp only
  generalize monthLoop (monthDays (isLeap year)) days 1 = found at stops left months ⊢
  obtain ⟨day, month⟩ := found
  dsimp only at stops left months years ⊢
  rw [Nat.add_comm] at stops
  have epoch : daysFromCivil (1970 : Nat) 1 1 = 0 := rfl
  have before := daysFromCivil_month year inside.le
  rw [← stops] at before left
  have date := daysFromCivil_day year month (day + 1 : Nat)
  simp only [Utc.Valid, Utc.toSecs]
  refine ⟨by omega, ?_⟩
  rw [date]
  omega

/-! ## Order -/

theorem monthDays_before : ∀ leap, ∀ k ≤ 12, ∀ j < k, ((monthDays leap).take j).sum +
    (monthDays leap)[j]?.getD 0 ≤ ((monthDays leap).take k).sum := by
  decide

/-- The days of a month are before the next ones; there is a thirteenth, January. -/
theorem daysFromCivil_lt {year month day month' : Nat} (low : 1 ≤ month) (later : month < month')
    (high : month' ≤ 13) (inside : day ≤ monthLength year month) :
    daysFromCivil year month day < daysFromCivil year month' 1 := by
  obtain ⟨j, rfl⟩ : ∃ j, month = j + 1 := ⟨month - 1, by omega⟩
  obtain ⟨k, rfl⟩ : ∃ k, month' = k + 1 := ⟨month' - 1, by omega⟩
  have before := monthDays_before (isLeap year) k (by omega) j (by omega)
  rw [monthLength_eq year (by omega), Option.getD_some] at before
  rw [daysFromCivil_day, daysFromCivil_month year (by omega), daysFromCivil_month year (by omega)]
  omega

theorem daysFromCivil_next :
    daysFromCivil year (13 : Nat) 1 = daysFromCivil (year + 1 : Nat) 1 1 := by
  simp [daysFromCivil]

theorem daysFromCivil_mono {year later : Nat} (le : year ≤ later) :
    daysFromCivil year 1 1 ≤ daysFromCivil later 1 1 := by
  induction le with
  | refl => rfl
  | step _ ih =>
    rw [daysFromCivil_year]
    omega

/-- A date lies in its year. -/
theorem daysFromCivil_mem {year month day : Nat} (months : 1 ≤ month ∧ month ≤ 12)
    (days : 1 ≤ day ∧ day ≤ monthLength year month) :
    daysFromCivil year 1 1 ≤ daysFromCivil year month day ∧
      daysFromCivil year month day < daysFromCivil (year + 1 : Nat) 1 1 := by
  constructor
  · obtain ⟨k, rfl⟩ : ∃ k, month = k + 1 := ⟨month - 1, by omega⟩
    rw [daysFromCivil_day _ _ day, daysFromCivil_month year (by omega)]
    omega
  · rw [← daysFromCivil_next]
    exact daysFromCivil_lt months.1 (by omega) le_rfl days.2

theorem earlier_of_toSecs {u v : Utc} (first : u.Valid) (second : v.Valid)
    (less : u.toSecs < v.toSecs) : u.Earlier v := by
  obtain ⟨year, month, day, hh, mm, ss⟩ := u
  obtain ⟨year', month', day', hh', mm', ss'⟩ := v
  obtain ⟨months, days, hour, minute, second_⟩ := first
  obtain ⟨months', days', hour', minute', second'⟩ := second
  simp only [Utc.toSecs] at less
  simp only [Utc.Earlier, Prod.lex_def]
  rcases lt_trichotomy year year' with before | rfl | after
  · exact .inl before
  · rcases lt_trichotomy month month' with before | rfl | after
    · exact .inr ⟨rfl, .inl before⟩
    · rw [daysFromCivil_day _ _ day, daysFromCivil_day _ _ day'] at less
      omega
    · have apart := daysFromCivil_lt months'.1 after (by omega) days'.2
      rw [daysFromCivil_day _ _ day] at less
      omega
  · have low := (daysFromCivil_mem months days).1
    have high := (daysFromCivil_mem months' days').2
    have between : daysFromCivil (year' + 1 : Nat) 1 1 ≤ daysFromCivil year 1 1 :=
      daysFromCivil_mono after
    omega

/-- **The result is a date of the calendar, converts back to the seconds it was made of, and is
later for more of them.** -/
theorem calendar (s : Nat) : (secsToUtc s).Valid ∧ (secsToUtc s).toSecs = s ∧
    ∀ t, s < t → (secsToUtc s).Earlier (secsToUtc t) := by
  obtain ⟨valid, back⟩ := secsToUtc_spec s
  refine ⟨valid, back, fun t later => ?_⟩
  obtain ⟨valid', back'⟩ := secsToUtc_spec t
  refine earlier_of_toSecs valid valid' ?_
  rw [back, back']
  exact_mod_cast later

end Netanvil.Distributed
