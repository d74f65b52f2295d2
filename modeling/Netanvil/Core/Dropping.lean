/-
# Dropping a fraction of the requests

`DroppingExecutor` draws from a xorshift32 generator: once for every request, to decide
whether it is dropped, and once more for the delay of one that is. The state never becomes
0, but the largest word gives the fraction 1, which is not below a drop fraction of 1: one
state before a request lets it through (`extremes_iff`).
-/
import Netanvil.Theory.XorShift
import Mathlib.Algebra.Order.Floor.Semiring
import Mathlib.Data.Rat.Floor
import Mathlib.Tactic.Linarith
import Mathlib.Tactic.NormNum

namespace Netanvil.Core

open Theory.XorShift Function

/-- `frac < drop_fraction` and the delay are computed exactly here, not in f64. -/
structure DroppingExecutor where
  dropFraction : ℚ
  rngState : BitVec 32

namespace DroppingExecutor

/-- The next state of the generator. -/
def xorshift (s : BitVec 32) : BitVec 32 :=
  let s := s ^^^ s <<< 13
  let s := s ^^^ s >>> 17
  s ^^^ s <<< 5

def new (dropFraction : ℚ) (seed : BitVec 32) : DroppingExecutor :=
  ⟨dropFraction, if seed = 0 then 1 else seed⟩

def nextRandomF64 (x : DroppingExecutor) : DroppingExecutor × ℚ :=
  let s := xorshift x.rngState
  ({ x with rngState := s }, (s.toNat : ℚ) / (2 ^ 32 - 1 : Nat))

def shouldDrop (x : DroppingExecutor) : DroppingExecutor × Bool :=
  let (x, frac) := x.nextRandomF64
  (x, decide (frac < x.dropFraction))

/-- The delay before a drop, in ms. -/
def randomDropDelay (x : DroppingExecutor) : DroppingExecutor × Nat :=
  let (x, frac) := x.nextRandomF64
  (x, 10 + ⌊frac * 490⌋₊)

/-- What `execute` draws before it polls the inner executor: `some delay` races the request
against that delay. Nothing is awaited between the draws, so the requests of a core draw one
after another, in the order they start. -/
def execute (x : DroppingExecutor) : DroppingExecutor × Option Nat :=
  let (x, drop) := x.shouldDrop
  if drop then
    let (x, delay) := x.randomDropDelay
    (x, some delay)
  else (x, none)

/-- The executor after `n` requests. -/
def after (x : DroppingExecutor) (n : Nat) : DroppingExecutor := (fun x => x.execute.1)^[n] x

/-! ## The generator -/

theorem xorshift_injective : Function.Injective xorshift := by
  have first := shiftLeft_injective (w := 32) (k := 13) (by decide)
  have second := ushiftRight_injective (w := 32) (k := 17) (by decide)
  have third := shiftLeft_injective (w := 32) (k := 5) (by decide)
  exact third.comp (second.comp first)

theorem xorshift_ne_zero {s : BitVec 32} (nonzero : s ≠ 0) : xorshift s ≠ 0 :=
  fun zero => nonzero (xorshift_injective (zero.trans (by decide : (0 : BitVec 32) = xorshift 0)))

/-- The state whose next one is the largest word. -/
def beforeMax : BitVec 32 := 0x5e6cfce7

theorem xorshift_eq_max_iff (s : BitVec 32) : (xorshift s).toNat = 2 ^ 32 - 1 ↔ s = beforeMax := by
  have largest : (xorshift beforeMax).toNat = 2 ^ 32 - 1 := by decide
  constructor
  · intro is
    exact xorshift_injective (BitVec.eq_of_toNat_eq (is.trans largest.symm))
  · rintro rfl
    exact largest

variable (x : DroppingExecutor) (n : Nat)

/-- A request draws twice if it is dropped, else once. -/
theorem execute_state :
    x.execute.1 = { x with rngState := xorshift^[if x.shouldDrop.2 then 2 else 1] x.rngState } := by
  cases drop : x.shouldDrop.2 <;> simp only [execute, drop] <;> rfl

theorem after_succ : x.after (n + 1) = (x.after n).execute.1 :=
  iterate_succ_apply' _ n x

theorem dropFraction_after : (x.after n).dropFraction = x.dropFraction := by
  induction n with
  | zero => rfl
  | succ n ih => rw [after_succ, execute_state, ih]

theorem rngState_after_ne_zero (dropFraction : ℚ) (seed : BitVec 32) (n : Nat) :
    ((new dropFraction seed).after n).rngState ≠ 0 := by
  induction n with
  | zero =>
    simp only [after, new, iterate_zero, id]
    split
    · decide
    · assumption
  | succ n ih =>
    rw [after_succ, execute_state]
    dsimp only
    split
    · exact xorshift_ne_zero (xorshift_ne_zero ih)
    · exact xorshift_ne_zero ih

/-! ## The decision and the delay -/

theorem nextRandomF64_mem : 0 ≤ x.nextRandomF64.2 ∧ x.nextRandomF64.2 ≤ 1 := by
  refine ⟨by unfold nextRandomF64; positivity, ?_⟩
  refine (div_le_one (by norm_num)).mpr (Nat.cast_le.mpr ?_)
  have := (xorshift x.rngState).isLt
  omega

theorem shouldDrop_of_zero {x : DroppingExecutor} (none : x.dropFraction = 0) :
    x.shouldDrop.2 = false := by
  obtain ⟨nonneg, -⟩ := x.nextRandomF64_mem
  simp only [shouldDrop, decide_eq_false_iff_not, not_lt]
  exact none.trans_le nonneg

theorem shouldDrop_of_one {x : DroppingExecutor} (all : x.dropFraction = 1) :
    x.shouldDrop.2 = true ↔ x.rngState ≠ beforeMax := by
  have least := (xorshift x.rngState).isLt
  rw [ne_eq, ← xorshift_eq_max_iff]
  simp only [shouldDrop, nextRandomF64, all, decide_eq_true_iff]
  rw [div_lt_one (by norm_num), Nat.cast_lt]
  omega

theorem randomDropDelay_mem : 10 ≤ x.randomDropDelay.2 ∧ x.randomDropDelay.2 ≤ 500 := by
  obtain ⟨nonneg, le⟩ := x.nextRandomF64_mem
  have floor : ⌊x.nextRandomF64.2 * 490⌋₊ ≤ 490 := Nat.floor_le_of_le (by norm_num; linarith)
  constructor
  · exact Nat.le_add_right _ _
  · exact Nat.add_le_add_left floor 10

/-- What is expected of `n` requests at both extremes of the drop fraction and between. -/
structure Extremes (seed : BitVec 32) (n : Nat) : Prop where
  nonzero : ∀ dropFraction k, k ≤ n → ((new dropFraction seed).after k).rngState ≠ 0
  all : ∀ k < n, ((new 1 seed).after k).shouldDrop.2 = true
  none : ∀ k < n, ((new 0 seed).after k).shouldDrop.2 = false
  delay : ∀ dropFraction k delay, k < n →
    ((new dropFraction seed).after k).execute.2 = some delay → 10 ≤ delay ∧ delay ≤ 500

/-- **The extremes hold for `n` requests iff none of them starts in the one state whose
successor is the largest word.** While every request is dropped, each one takes two draws. -/
theorem extremes_iff (seed : BitVec 32) (n : Nat) :
    Extremes seed n ↔ ∀ k < n, xorshift^[2 * k] (if seed = 0 then 1 else seed) ≠ beforeMax := by
  have decides : ∀ k, ((new 1 seed).after k).shouldDrop.2 = true ↔
      ((new 1 seed).after k).rngState ≠ beforeMax :=
    fun k => shouldDrop_of_one (dropFraction_after _ k)
  -- up to the first request that is let through, the state advances by two draws
  have advances : ∀ k, (∀ j < k, ((new 1 seed).after j).shouldDrop.2 = true) →
      ((new 1 seed).after k).rngState = xorshift^[2 * k] (if seed = 0 then 1 else seed) := by
    intro k dropped
    induction k with
    | zero => rfl
    | succ k ih =>
      rw [after_succ, execute_state, if_pos (dropped k k.lt_succ_self),
        ih fun j less => dropped j (less.trans k.lt_succ_self)]
      exact (iterate_add_apply xorshift 2 _ _).symm.trans (by rw [Nat.add_comm]; rfl)
  constructor
  · intro extremes k less
    rw [← advances k fun j earlier => extremes.all j (earlier.trans less)]
    exact (decides k).mp (extremes.all k less)
  · intro apart
    refine ⟨fun dropFraction k _ => rngState_after_ne_zero dropFraction seed k, ?_, ?_, ?_⟩
    · intro k
      induction k using Nat.strongRecOn with
      | ind k ih =>
        intro less
        rw [decides, advances k fun j earlier => ih j earlier (earlier.trans less)]
        exact apart k less
    · intro k _
      exact shouldDrop_of_zero (dropFraction_after _ k)
    · intro dropFraction k delay _ drawn
      generalize (new dropFraction seed).after k = x at drawn
      cases drop : x.shouldDrop.2 with
      | false => simp [execute, drop] at drawn
      | true =>
        simp only [execute, drop, if_true, Option.some.injEq] at drawn
        exact drawn ▸ randomDropDelay_mem _

/-- With the seed `0x5e6cfce7` and a drop fraction of 1 the first request is not dropped. -/
theorem seed_lets_through : ((new 1 beforeMax).after 0).shouldDrop.2 = false ∧
    ¬ Extremes beforeMax 1 := by
  have through : ¬ ((new 1 beforeMax).after 0).shouldDrop.2 = true :=
    fun dropped => (shouldDrop_of_one rfl).mp dropped rfl
  exact ⟨Bool.eq_false_iff.mpr through, fun extremes => through (extremes.all 0 Nat.one_pos)⟩

end DroppingExecutor

end Netanvil.Core
