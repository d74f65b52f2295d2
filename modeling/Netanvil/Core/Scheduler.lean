/-
# When a worker's requests are due

A scheduler answers each call with the next time, or with none once the test is over; its
rate may be changed between calls. `ConstantRateScheduler` steps by one interval,
`PoissonScheduler` draws each. Neither recomputes the time it has already stepped to when its
rate changes. Times are in nanoseconds and unbounded.
-/
import Netanvil.Core.TimerThread
import Mathlib.Data.List.ReduceOption

namespace Netanvil.Core

/-! ## Calls and answers -/

inductive SchedulerCall where
  | next
  | updateRate (rps : ℚ)

/-- The rates set by some calls. -/
def SchedulerCall.rates (calls : List SchedulerCall) : List ℚ :=
  calls.filterMap fun
    | .next => none
    | .updateRate rps => some rps

@[simp] theorem SchedulerCall.rates_updateRate (rps : ℚ) (rest : List SchedulerCall) :
    rates (.updateRate rps :: rest) = rps :: rates rest := rfl

namespace RequestScheduler

variable {H : Type} (scheduler : RequestScheduler H)

/-- The answers to some calls, and the state after them. -/
def replay (h : H) : List SchedulerCall → List (Option Nat) × H
  | [] => ([], h)
  | .next :: rest =>
    let (answer, h) := scheduler.nextRequestTime h
    let (answers, h) := replay h rest
    (answer :: answers, h)
  | .updateRate rps :: rest => replay (scheduler.updateRate h rps) rest

/-- The times answered never go back, whatever is done to the rate. -/
def NonDecreasing (h : H) : Prop :=
  ∀ calls, (scheduler.replay h calls).1.reduceOption.Pairwise (· ≤ ·)

/-- Some changes of rate, each to one of `rates`, and then a time. -/
def Answers (rates : Set ℚ) (h' h : H) : Prop :=
  ∃ (updates : List ℚ) (time : Nat), (∀ rps ∈ updates, rps ∈ rates) ∧
    scheduler.nextRequestTime (updates.foldl scheduler.updateRate h) = (some time, h')

/-- Asked again and again, the scheduler at some point has no time to give, whatever is
done to the rate meanwhile within `rates`. -/
def Finite (rates : Set ℚ) (h : H) : Prop := Acc (scheduler.Answers rates) h

theorem replay_append (h : H) (calls more : List SchedulerCall) :
    scheduler.replay h (calls ++ more) =
      ((scheduler.replay h calls).1 ++ (scheduler.replay (scheduler.replay h calls).2 more).1,
        (scheduler.replay (scheduler.replay h calls).2 more).2) := by
  induction calls generalizing h with
  | nil => rfl
  | cons call rest ih =>
    cases call with
    | next | updateRate rps => simp only [List.cons_append, replay, ih]

/-- A bound that each answer keeps to and moves up to, and that changes of rate leave where
it is, makes the answers come in order. -/
theorem nonDecreasing_of_bound (bound : H → Nat)
    (answers : ∀ h time h', scheduler.nextRequestTime h = (some time, h') →
      bound h ≤ time ∧ time ≤ bound h')
    (exhausted : ∀ h h', scheduler.nextRequestTime h = (none, h') → bound h ≤ bound h')
    (updates : ∀ h rps, bound h ≤ bound (scheduler.updateRate h rps)) (h : H) :
    scheduler.NonDecreasing h := by
  intro calls
  have sorted : (scheduler.replay h calls).1.reduceOption.Pairwise (· ≤ ·) ∧
      ∀ time ∈ (scheduler.replay h calls).1.reduceOption, bound h ≤ time := by
    induction calls generalizing h with
    | nil => exact ⟨.nil, by simp [replay]⟩
    | cons call rest ih =>
      cases call with
      | next =>
        cases answer : scheduler.nextRequestTime h with
        | mk time h' =>
          obtain ⟨sorted, above⟩ := ih h'
          simp only [replay, answer]
          cases time with
          | none =>
            have up := exhausted h h' answer
            exact ⟨by simpa using sorted, fun time later =>
              up.trans (above time (by simpa using later))⟩
          | some time =>
            obtain ⟨low, high⟩ := answers h time h' answer
            rw [List.reduceOption_cons_of_some]
            refine ⟨List.pairwise_cons.mpr ⟨fun t later => ?_, sorted⟩, fun t later => ?_⟩
            · exact high.trans (above t later)
            · rcases List.mem_cons.mp later with rfl | later
              · exact low
              · exact (low.trans high).trans (above t later)
      | updateRate rps =>
        obtain ⟨sorted, above⟩ := ih (scheduler.updateRate h rps)
        exact ⟨sorted, fun time later => (updates h rps).trans (above time later)⟩
  exact sorted.1

end RequestScheduler

/-! ## The schedulers -/

/-- `Duration::from_secs_f64`: to the nearest nanosecond, ties to even. -/
def fromSecsF64 (secs : ℚ) : Nat :=
  let nanos := secs * 1000000000
  let low := ⌊nanos⌋₊
  if nanos - low < 1 / 2 ∨ nanos - low = 1 / 2 ∧ low % 2 = 0 then low else low + 1

/-- One second. -/
def fallbackInterval : Nat := 1000000000

/-- At most half a nanosecond is lost. -/
theorem fromSecsF64_near {secs : ℚ} (positive : 0 ≤ secs) :
    |(fromSecsF64 secs : ℚ) - secs * 1000000000| ≤ 1 / 2 := by
  have low : (⌊secs * 1000000000⌋₊ : ℚ) ≤ secs * 1000000000 := Nat.floor_le (by positivity)
  have high := Nat.lt_floor_add_one (secs * 1000000000)
  rw [abs_le]
  unfold fromSecsF64
  dsimp only
  split
  · rename_i down
    have half : secs * 1000000000 - ⌊secs * 1000000000⌋₊ ≤ 1 / 2 := by
      rcases down with below | ⟨tie, -⟩
      · exact below.le
      · exact tie.le
    constructor <;> linarith
  · rename_i up
    have half : 1 / 2 ≤ secs * 1000000000 - ⌊secs * 1000000000⌋₊ :=
      not_lt.mp (not_or.mp up).1
    push_cast
    constructor <;> linarith

def intervalFromRps (rps : ℚ) : Nat :=
  if rps ≤ 0 then fallbackInterval else fromSecsF64 (1 / rps)

structure ConstantRateScheduler where
  interval : Nat
  nextTime : Nat
  endTime : Option Nat

namespace ConstantRateScheduler

def new (rps : ℚ) (startTime : Nat) (duration : Option Nat) : ConstantRateScheduler :=
  ⟨intervalFromRps rps, startTime, duration.map (startTime + ·)⟩

def nextRequestTime (s : ConstantRateScheduler) : Option Nat × ConstantRateScheduler :=
  if s.endTime.any (· ≤ s.nextTime) then (none, s)
  else (some s.nextTime, { s with nextTime := s.nextTime + s.interval })

/-- The time it has stepped to stays. -/
def updateRate (s : ConstantRateScheduler) (rps : ℚ) : ConstantRateScheduler :=
  { s with interval := intervalFromRps rps }

end ConstantRateScheduler

/-- With a random source whose states are in `R`. -/
structure PoissonScheduler (R : Type) where
  rate : ℚ
  nextTime : Nat
  endTime : Option Nat
  rng : R

namespace PoissonScheduler

variable {R : Type} (sampleExp : ℚ → R → ℚ × R)

def new (rps : ℚ) (startTime : Nat) (duration : Option Nat) (rng : R) : PoissonScheduler R :=
  ⟨rps, startTime, duration.map (startTime + ·), rng⟩

/-- `sampleExp` draws from the exponential distribution of a rate, in seconds. -/
def sampleInterval (s : PoissonScheduler R) : Nat × PoissonScheduler R :=
  if s.rate ≤ 0 then (fallbackInterval, s)
  else
    let (secs, rng) := sampleExp s.rate s.rng
    (fromSecsF64 secs, { s with rng := rng })

def nextRequestTime (s : PoissonScheduler R) : Option Nat × PoissonScheduler R :=
  if s.endTime.any (· ≤ s.nextTime) then (none, s)
  else
    let (interval, s') := s.sampleInterval sampleExp
    (some s.nextTime, { s' with nextTime := s.nextTime + interval })

def updateRate (s : PoissonScheduler R) (rps : ℚ) : PoissonScheduler R := { s with rate := rps }

end PoissonScheduler

/-- A scheduler of either kind. -/
inductive BoxedScheduler (R : Type) where
  | constantRate (s : ConstantRateScheduler)
  | poisson (s : PoissonScheduler R)

namespace BoxedScheduler

variable {R : Type} (sampleExp : ℚ → R → ℚ × R)

def nextRequestTime : BoxedScheduler R → Option Nat × BoxedScheduler R
  | .constantRate s => (s.nextRequestTime.1, .constantRate s.nextRequestTime.2)
  | .poisson s => ((s.nextRequestTime sampleExp).1, .poisson (s.nextRequestTime sampleExp).2)

def updateRate : BoxedScheduler R → ℚ → BoxedScheduler R
  | .constantRate s, rps => .constantRate (s.updateRate rps)
  | .poisson s, rps => .poisson (s.updateRate rps)

def requestScheduler : RequestScheduler (BoxedScheduler R) :=
  ⟨nextRequestTime sampleExp, updateRate⟩

/-- The time it has stepped to: its next answer, unless that is past the end. -/
def nextTime : BoxedScheduler R → Nat
  | .constantRate s => s.nextTime
  | .poisson s => s.nextTime

def endTime : BoxedScheduler R → Option Nat
  | .constantRate s => s.endTime
  | .poisson s => s.endTime

/-- At its present rate the scheduler steps by `interval` each time. -/
def Paced (interval : Nat) : BoxedScheduler R → Prop
  | .constantRate s => s.interval = interval
  | .poisson s => s.rate ≤ 0 ∧ interval = fallbackInterval

variable {sampleExp}

@[simp] theorem nextTime_updateRate (b : BoxedScheduler R) (rps : ℚ) :
    (b.updateRate rps).nextTime = b.nextTime := by
  cases b <;> rfl

variable {b b' : BoxedScheduler R} {rps : ℚ} (time interval k : Nat)

/-- An answer is the time stepped to. -/
theorem next_some {time : Nat} (asked : b.nextRequestTime sampleExp = (some time, b')) :
    time = b.nextTime ∧ b.nextTime ≤ b'.nextTime := by
  cases b with
  | constantRate s | poisson s =>
    simp only [nextRequestTime, ConstantRateScheduler.nextRequestTime,
      PoissonScheduler.nextRequestTime] at asked
    split at asked
    · cases asked
    · cases asked
      exact ⟨rfl, Nat.le_add_right _ _⟩

/-- Without an answer nothing changes. -/
theorem next_none (asked : b.nextRequestTime sampleExp = (none, b')) : b' = b := by
  cases b with
  | constantRate s | poisson s =>
    simp only [nextRequestTime, ConstantRateScheduler.nextRequestTime,
      PoissonScheduler.nextRequestTime] at asked
    split at asked <;> cases asked
    rfl

theorem nonDecreasing (b : BoxedScheduler R) : (requestScheduler sampleExp).NonDecreasing b := by
  refine RequestScheduler.nonDecreasing_of_bound _ nextTime ?_ ?_ ?_ b
  · intro h time h' asked
    obtain ⟨rfl, later⟩ := next_some asked
    exact ⟨le_rfl, later⟩
  · intro h h' asked
    rw [next_none asked]
  · intro h rps
    exact (nextTime_updateRate h rps).ge

/-- The scheduler was last set to this rate. -/
def AtRate (rps : ℚ) : BoxedScheduler R → Prop
  | .constantRate s => s.interval = intervalFromRps rps
  | .poisson s => s.rate = rps

theorem atRate_updateRate (b : BoxedScheduler R) (rps : ℚ) : (b.updateRate rps).AtRate rps := by
  cases b <;> rfl

open SchedulerCall List Nat

variable (sampleExp) in
theorem constantRate_replay (s : ConstantRateScheduler) (calls : List SchedulerCall) :
    ∃ s', ((requestScheduler sampleExp).replay (.constantRate s) calls).2 = .constantRate s' := by
  induction calls generalizing s with
  | nil => exact ⟨s, rfl⟩
  | cons call rest ih =>
    cases call with
    | next => exact ih s.nextRequestTime.2
    | updateRate rps => exact ih (s.updateRate rps)

/-- Both kinds fall back to one interval where there is no rate. -/
theorem AtRate.paced_zero (atRate : b.AtRate rps) (zero : rps ≤ 0) : b.Paced fallbackInterval := by
  cases b with
  | constantRate s => exact (show s.interval = _ from atRate).trans (if_pos zero)
  | poisson s => exact ⟨(show s.rate = _ from atRate) ▸ zero, rfl⟩

/-- The first times from `time` on, an interval apart. -/
def steps (time interval k : Nat) : List Nat := (range k).map fun j => time + j * interval

theorem steps_succ : steps time interval (k + 1) = time :: steps (time + interval) interval k := by
  simp only [steps, range_succ_eq_map, map_cons, map_map, zero_mul, add_zero, cons.injEq, true_and]
  exact map_congr_left fun j _ => by simp [succ_mul, add_assoc, add_comm]

theorem steps_prefix_succ : steps time interval k <+: steps time interval (k + 1) := by
  rw [steps, steps, range_succ, map_append]
  exact prefix_append _ _

/-- The answers of a paced scheduler, while nothing makes it faster. -/
theorem replay_paced {interval : Nat} (paced : b.Paced interval) {calls : List SchedulerCall}
    (slow : ∀ rps ∈ rates calls, rps ≤ 0 ∧ interval = fallbackInterval) :
    ((requestScheduler sampleExp).replay b calls).1.reduceOption <+:
      steps b.nextTime interval calls.length := by
  induction calls generalizing b with
  | nil => exact nil_prefix
  | cons call rest ih =>
    cases call with
    | next =>
      have slow' : ∀ rps ∈ rates rest, _ := slow
      cases answer : b.nextRequestTime sampleExp with
      | mk time b' =>
        have asked : (requestScheduler sampleExp).nextRequestTime b = (time, b') := answer
        rw [RequestScheduler.replay, asked]
        cases time with
        | none =>
          obtain rfl := next_none answer
          rw [reduceOption_cons_of_none]
          exact (ih paced slow').trans (steps_prefix_succ _ _ _)
        | some time =>
          obtain ⟨rfl, -⟩ := next_some answer
          -- at one rate the answers are one interval apart
          obtain ⟨next, paced'⟩ : b'.nextTime = b.nextTime + interval ∧ b'.Paced interval := by
            cases b with
            | constantRate s =>
              obtain rfl : s.interval = interval := paced
              simp only [nextRequestTime, ConstantRateScheduler.nextRequestTime] at answer
              split at answer <;> cases answer
              exact ⟨rfl, rfl⟩
            | poisson s =>
              obtain ⟨zero, same⟩ := paced
              have sampled : s.sampleInterval sampleExp = (interval, s) := by
                rw [same]
                exact if_pos zero
              simp only [nextRequestTime, PoissonScheduler.nextRequestTime, sampled] at answer
              split at answer <;> cases answer
              exact ⟨rfl, zero, same⟩
          rw [reduceOption_cons_of_some, length_cons, steps_succ, ← next]
          exact cons_prefix_cons.mpr ⟨rfl, ih paced' slow'⟩
    | updateRate rps =>
      rw [rates_updateRate] at slow
      obtain ⟨⟨zero, rfl⟩, slow'⟩ := forall_mem_cons.mp slow
      have later := ih ((atRate_updateRate b rps).paced_zero zero) slow'
      rw [nextTime_updateRate] at later
      exact later.trans (steps_prefix_succ _ _ _)

/-- A constant-rate scheduler with an end is finite if every rate it may be set to, and its
present one, is slow enough for an interval to last at least a nanosecond. -/
theorem finite_constantRate {rates : Set ℚ} (slow : ∀ rps ∈ rates, 0 < intervalFromRps rps)
    {endTime : Nat} {s : ConstantRateScheduler} (ends : s.endTime = some endTime)
    (steps : 0 < s.interval) : (requestScheduler sampleExp).Finite rates (.constantRate s) := by
  -- induction on the time left
  induction left : endTime - s.nextTime using Nat.strong_induction_on generalizing s with
  | _ time ih =>
    subst left
    refine Acc.intro _ ?_
    rintro h' ⟨updates, time, allowed, answer⟩
    have updated : ∃ s' : ConstantRateScheduler,
        updates.foldl (requestScheduler sampleExp).updateRate (.constantRate s) =
            .constantRate s' ∧
          s'.nextTime = s.nextTime ∧ s'.endTime = some endTime ∧ 0 < s'.interval := by
      clear answer ih
      induction updates generalizing s with
      | nil => exact ⟨s, rfl, rfl, ends, steps⟩
      | cons rps rest ih =>
        obtain ⟨positive, others⟩ := forall_mem_cons.mp allowed
        exact ih (s := s.updateRate rps) ends (slow rps positive) others
    obtain ⟨s', same, next, ends', steps'⟩ := updated
    rw [same] at answer
    simp only [requestScheduler, nextRequestTime, ConstantRateScheduler.nextRequestTime,
      ends', Option.any_some] at answer
    split at answer
    · cases answer
    · rename_i early
      cases answer
      rw [decide_eq_true_eq, next, not_le] at early
      have nearer : endTime - (s'.nextTime + s'.interval) < endTime - s.nextTime := by
        rw [next]
        omega
      exact ih _ nearer rfl steps' rfl

end BoxedScheduler

end Netanvil.Core
