/-
# Drawing one of several weighted values

`buildWeighted` keeps the running sums of the weights, and `sampleWeighted` takes the first
one above its roll. Each entry is drawn for an interval of rolls as long as its weight, next
to the one before it (`weighted_intervals`).
-/
import Netanvil.Types.Connection
import Mathlib.Algebra.BigOperators.Group.List.Basic
import Mathlib.Algebra.Order.Ring.Rat
import Mathlib.Data.List.Induction
import Mathlib.Order.Interval.Set.Basic

namespace Netanvil.Types

open List

variable {T : Type}

/-- The weighted case of `SamplerKind`. -/
structure WeightedSampler (T : Type) where
  values : List T
  cumulativeWeights : List ℚ
  total : ℚ

def buildWeighted (entries : List (WeightedValue T)) : WeightedSampler T :=
  entries.foldl (fun s entry =>
    let total := s.total + entry.weight
    ⟨s.values ++ [entry.value], s.cumulativeWeights ++ [total], total⟩) ⟨[], [], 0⟩

namespace WeightedSampler

/-- Where the scan stops. -/
def index (s : WeightedSampler T) (roll : ℚ) : Option Nat :=
  s.cumulativeWeights.findIdx? (roll < ·)

/-- `none` stands for a panic: no value at the index, or no last value. -/
def sampleWeighted (s : WeightedSampler T) (roll : ℚ) : Option T :=
  match s.index roll with
  | some i => s.values[i]?
  | none => s.values.getLast?

end WeightedSampler

/-- The sum of the first `i` weights. -/
def edge (entries : List (WeightedValue T)) (i : Nat) : ℚ :=
  ((entries.take i).map (·.weight)).sum

variable {entries : List (WeightedValue T)}

theorem edge_succ {i : Nat} (inside : i < entries.length) :
    edge entries (i + 1) = edge entries i + (entries.get ⟨i, inside⟩).weight := by
  simp only [edge, take_add_one, getElem?_eq_getElem inside, Option.toList_some,
    map_append, sum_append, map_cons, map_nil, sum_singleton]
  rfl

theorem edge_mono (nonneg : ∀ e ∈ entries, 0 ≤ e.weight) : Monotone (edge entries) := by
  refine monotone_nat_of_le_succ fun i => ?_
  rcases lt_or_ge i entries.length with inside | outside
  · rw [edge_succ inside]
    exact le_add_of_nonneg_right (nonneg _ (get_mem _ _))
  · rw [edge, edge, take_of_length_le outside, take_of_length_le (by omega)]

theorem buildWeighted_eq (entries : List (WeightedValue T)) :
    buildWeighted entries = ⟨entries.map (·.value),
      (range entries.length).map fun i => edge entries (i + 1),
      edge entries entries.length⟩ := by
  induction entries using reverseRecOn with
  | nil => rfl
  | append_singleton entries e ih =>
    have before : ∀ i ∈ range entries.length,
        edge entries (i + 1) = edge (entries ++ [e]) (i + 1) := by
      intro i inside
      rw [edge, edge, take_append_of_le_length (mem_range.mp inside)]
    rw [buildWeighted, foldl_append, ← buildWeighted, ih, map_congr_left before]
    simp [edge, range_succ]

/-- The scan stops at `i` for the rolls from the `i`-th edge up to the next one. -/
theorem index_eq_some_iff (nonneg : ∀ e ∈ entries, 0 ≤ e.weight) {roll : ℚ} (low : 0 ≤ roll)
    (i : Nat) : (buildWeighted entries).index roll = some i ↔
      i < entries.length ∧ edge entries i ≤ roll ∧ roll < edge entries (i + 1) := by
  simp only [WeightedSampler.index, buildWeighted_eq, findIdx?_eq_some_iff_getElem,
    length_map, length_range, getElem_map, getElem_range, decide_eq_true_eq,
    not_lt, exists_prop, and_congr_right_iff]
  rintro -
  rw [and_comm, and_congr_left_iff]
  rintro -
  constructor
  · intro passed
    cases i with
    | zero => exact low
    | succ i => exact passed i i.lt_succ_self
  · intro le j before
    exact (edge_mono nonneg before).trans le

/-- **Every roll below the total stops the scan at one index, each entry is drawn by that of
its place for the rolls of an interval as long as its weight, and one of weight 0 never.** -/
theorem weighted_intervals (nonneg : ∀ e ∈ entries, 0 ≤ e.weight)
    (positive : 0 < (entries.map (·.weight)).sum) :
    let s := buildWeighted entries
    s.total = (entries.map (·.weight)).sum ∧
    (∀ roll, 0 ≤ roll → roll < s.total → ∃ i < entries.length, s.index roll = some i) ∧
    ∀ i (inside : i < entries.length), ∃ first,
      {roll | 0 ≤ roll ∧ roll < s.total ∧ s.index roll = some i} =
        Set.Ico first (first + (entries.get ⟨i, inside⟩).weight) ∧
      (∀ roll, s.index roll = some i →
        s.sampleWeighted roll = some (entries.get ⟨i, inside⟩).value) ∧
      ((entries.get ⟨i, inside⟩).weight = 0 →
        ∀ roll, 0 ≤ roll → roll < s.total → s.index roll ≠ some i) := by
  have total : (buildWeighted entries).total = edge entries entries.length := by
    rw [buildWeighted_eq]
  have whole : edge entries entries.length = (entries.map (·.weight)).sum := by
    rw [edge, take_length]
  have mono := edge_mono nonneg
  refine ⟨total.trans whole, fun roll low high => ?_, fun i inside => ⟨edge entries i, ?_, ?_, ?_⟩⟩
  · -- the last edge is above the roll
    rw [total] at high
    have some : 0 < entries.length := by
      by_contra none
      rw [length_eq_zero_iff.mp (by omega : entries.length = 0)] at positive
      exact lt_irrefl _ positive
    cases stops : (buildWeighted entries).index roll with
    | some i => exact ⟨i, ((index_eq_some_iff nonneg low i).mp stops).1, rfl⟩
    | none =>
      rw [WeightedSampler.index, buildWeighted_eq, findIdx?_eq_none_iff] at stops
      have last := stops (edge entries entries.length)
        (mem_map.mpr ⟨entries.length - 1, by simp; omega, by congr; omega⟩)
      simp [high] at last
  · ext roll
    rw [Set.mem_Ico, ← edge_succ inside]
    constructor
    · rintro ⟨low, -, stops⟩
      exact ((index_eq_some_iff nonneg low i).mp stops).2
    · rintro ⟨above, below⟩
      have low : 0 ≤ roll := le_trans (mono i.zero_le) above
      exact ⟨low, total ▸ below.trans_le (mono inside),
        (index_eq_some_iff nonneg low i).mpr ⟨inside, above, below⟩⟩
  · intro roll stops
    rw [WeightedSampler.sampleWeighted, stops]
    simp [buildWeighted_eq, inside]
  · intro zero roll low _ stops
    obtain ⟨-, above, below⟩ := (index_eq_some_iff nonneg low i).mp stops
    rw [edge_succ inside, zero, add_zero] at below
    exact absurd above (not_le.mpr below)

/-- An entry between two of weight 0. -/
theorem weighted_intervals_middle :
    let entries : List (WeightedValue Nat) := [⟨10, 0⟩, ⟨20, 3⟩, ⟨30, 0⟩]
    (∀ e ∈ entries, 0 ≤ e.weight) ∧ 0 < (entries.map (·.weight)).sum ∧
      ∀ roll, 0 ≤ roll → roll < (buildWeighted entries).total →
        (buildWeighted entries).index roll ≠ some 0 := by
  have nonneg : ∀ e ∈ ([⟨10, 0⟩, ⟨20, 3⟩, ⟨30, 0⟩] : List (WeightedValue Nat)), 0 ≤ e.weight := by
    decide +kernel
  obtain ⟨-, -, drawn⟩ := weighted_intervals nonneg (by decide +kernel)
  obtain ⟨_, -, -, never⟩ := drawn 0 (by decide)
  exact ⟨nonneg, by decide +kernel, never rfl⟩

end Netanvil.Types
