/-
# Infinite runs and what must happen in them

An infinite run of a machine has a state and an event for each time. A run is fair to a kind of
events if they are not passed over for ever while one of them could be taken: what is waited
for, and stays possible until it happens, happens (`Run.Fair.taken`), and a goal is reached if
each of the recurring events brings it nearer (`Run.reaches_of_rank`).
-/
import Netanvil.Theory.Trace

namespace Netanvil.Theory

open List Option Trace

variable {σ α : Type*}

structure Run (step : σ → α → Option σ) where
  state : Nat → σ
  event : Nat → α
  taken : ∀ k, step (state k) (event k) = some (state (k + 1))

namespace Run

variable {step : σ → α → Option σ} (run : Run step)

/-- If from some time on there is always an event of the kind that could be taken, one is
taken. -/
def Fair (kind : α → Prop) : Prop :=
  ∀ k, (∀ j ≥ k, ∃ a s, kind a ∧ step (run.state j) a = some s) → ∃ j ≥ k, kind (run.event j)

variable {run} {kind : α → Prop}

theorem invariant {I : σ → Prop} (initial : I (run.state 0))
    (keeps : ∀ {s a s'}, I s → step s a = some s' → I s') (k : Nat) : I (run.state k) := by
  induction k with
  | zero => exact initial
  | succ k ih => exact keeps ih (run.taken k)

/-- The states of an infinite run are those of finite runs. -/
theorem exec_state (k : Nat) :
    exec step (run.state 0) ((range k).map run.event) = some (run.state k) := by
  induction k with
  | zero => rfl
  | succ k ih =>
    rw [range_succ, map_append, map_singleton, exec_snoc, ih]
    exact run.taken k

/-- The run that takes one event after the other. -/
def ofEvents (init : σ) (event : Nat → α)
    (runs : ∀ k, (exec step init ((range k).map event)).isSome) : Run step where
  state k := (exec step init ((range k).map event)).get (runs k)
  event := event
  taken k := by
    obtain ⟨s, here⟩ := isSome_iff_exists.mp (runs k)
    have next : exec step init ((range (k + 1)).map event) = step s (event k) := by
      rw [range_succ, map_append, map_singleton, exec_snoc, here]
      rfl
    simp only [here, get_some, some_get, next]

/-- A sequence of events is a run if what holds before each of them enables it and holds again
after it. -/
theorem exists_ofEvents {init : σ} {event : Nat → α} {P : Nat → σ → Prop} (initial : P 0 init)
    (goes : ∀ {k s}, P k s → ∃ s', step s (event k) = some s' ∧ P (k + 1) s') :
    ∃ run : Run step, run.state 0 = init ∧ run.event = event ∧ ∀ k, P k (run.state k) := by
  have runs : ∀ k, ∃ s, exec step init ((range k).map event) = some s ∧ P k s := by
    intro k
    induction k with
    | zero => exact ⟨_, rfl, initial⟩
    | succ k ih =>
      obtain ⟨s, reached, holds⟩ := ih
      obtain ⟨s', taken, next⟩ := goes holds
      refine ⟨s', ?_, next⟩
      rw [range_succ, map_append, map_singleton, exec_snoc, reached]
      exact taken
  refine ⟨ofEvents init event fun k => isSome_iff_exists.mpr ((runs k).imp fun _ => And.left),
    rfl, rfl, fun k => ?_⟩
  obtain ⟨s, reached, holds⟩ := runs k
  rwa [some.inj ((exec_state k).symm.trans reached)]

/-- The events, and then one for ever. -/
def thenEver (events : List α) (a : α) (k : Nat) : α := events.getD k a

theorem range_thenEver (events : List α) (a : α) (k : Nat) :
    (range k).map (thenEver events a) = events.take k ++ replicate (k - events.length) a := by
  refine ext_getElem (by simp; omega) fun j inside _ => ?_
  simp only [getElem_map, getElem_range, thenEver, getD_eq_getElem?_getD, getElem_append]
  split
  · rename_i early
    rw [length_take] at early
    rw [getElem?_eq_getElem (by omega), getD_some, getElem_take]
  · rename_i late
    rw [length_take] at late
    rw [length_map, length_range] at inside
    rw [getElem?_eq_none (by omega), getD_none, getElem_replicate]

/-- A finite run, and then one event for ever. -/
theorem exists_thenEver {init s : σ} {events : List α} {a : α} {after : Nat → σ}
    (ends : exec step init events = some s)
    (idles : ∀ k, exec step s (replicate k a) = some (after k)) :
    ∃ run : Run step, run.state 0 = init ∧ run.event = thenEver events a ∧
      ∀ k ≥ events.length, run.state k = after (k - events.length) := by
  have runs : ∀ k, (exec step init ((range k).map (thenEver events a))).isSome := by
    intro k
    by_cases early : k ≤ events.length
    · obtain ⟨t, reached⟩ := exec_of_append
        ((congrArg (exec step _) (take_append_drop k events)).trans ends)
      rw [range_thenEver, Nat.sub_eq_zero_of_le early, replicate_zero, append_nil, reached]
      rfl
    · rw [range_thenEver, take_of_length_le (by omega), exec_append, ends, bind_some, idles]
      rfl
  refine ⟨.ofEvents init _ runs, rfl, rfl, fun k late => ?_⟩
  have reached := (ofEvents init _ runs).exec_state k
  rw [show (ofEvents init _ runs).event = thenEver events a from rfl, range_thenEver,
    take_of_length_le late, exec_append] at reached
  exact some.inj ((ends ▸ reached).symm.trans (idles _))

/-- What holds until something else does holds still, or that has happened. -/
theorem stays_or {P Q : σ → Prop} {k m : Nat} (now : P (run.state k)) (later : k ≤ m)
    (keeps : ∀ j, P (run.state j) → P (run.state (j + 1)) ∨ Q (run.state (j + 1))) :
    P (run.state m) ∨ ∃ j ≥ k, Q (run.state j) := by
  induction m, later using Nat.le_induction with
  | base => exact .inl now
  | succ m later ih =>
    rcases ih with here | happened
    · exact (keeps m here).imp_right fun there => ⟨m + 1, by omega, there⟩
    · exact .inr happened

theorem Fair.taken (fair : run.Fair kind) {P : σ → Prop} {k : Nat} (now : P (run.state k))
    (possible : ∀ j, P (run.state j) → ∃ a s, kind a ∧ step (run.state j) a = some s)
    (keeps : ∀ j ≥ k, P (run.state j) → ¬ kind (run.event j) → P (run.state (j + 1))) :
    ∃ j ≥ k, kind (run.event j) ∧ P (run.state j) := by
  by_contra never
  have waits : ∀ j, k ≤ j → P (run.state j) := by
    intro j later
    induction j, later using Nat.le_induction with
    | base => exact now
    | succ j later ih => exact keeps j later ih fun happens => never ⟨j, later, happens, ih⟩
  obtain ⟨j, later, happens⟩ := fair k fun j later => possible j (waits j later)
  exact never ⟨j, later, happens, waits j later⟩

theorem reaches_of_rank (kind : α → Prop)
    (again : ∀ k, ∃ j ≥ k, kind (run.event j)) {goal : Nat → Prop} (rank : σ → Nat)
    (keeps : ∀ j, ¬ goal j → ¬ kind (run.event j) → rank (run.state (j + 1)) ≤ rank (run.state j))
    (falls : ∀ j, ¬ goal j → kind (run.event j) →
      goal (j + 1) ∨ rank (run.state (j + 1)) < rank (run.state j)) (k : Nat) :
    ∃ j ≥ k, goal j := by
  by_contra never
  have far : ∀ j, k ≤ j → ¬ goal j := fun j later reached => never ⟨j, later, reached⟩
  have falls' : ∀ j, k ≤ j → kind (run.event j) →
      rank (run.state (j + 1)) < rank (run.state j) := fun j later happens =>
    (falls j (far j later) happens).resolve_left (far (j + 1) (by omega))
  have sinks : ∀ j, k ≤ j → ∀ i, j ≤ i → rank (run.state i) ≤ rank (run.state j) := by
    intro j later i after
    induction i, after using Nat.le_induction with
    | base => exact Nat.le_refl _
    | succ i after ih =>
      by_cases happens : kind (run.event i)
      · exact (falls' i (later.trans after) happens).le.trans ih
      · exact (keeps i (far i (later.trans after)) happens).trans ih
  -- a rank cannot fall for ever
  have bottomless : ∀ r j, k ≤ j → rank (run.state j) = r → False := by
    intro r
    induction r using Nat.strong_induction_on with
    | _ r ih =>
      intro j later here
      obtain ⟨i, after, happens⟩ := again j
      have lower := falls' i (later.trans after) happens
      have level := sinks j later i after
      exact ih _ (by omega) (i + 1) (by omega) rfl
  exact bottomless _ k (Nat.le_refl k) rfl

end Run

end Netanvil.Theory
