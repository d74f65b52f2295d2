/-
# Merging sources that are asked for one element at a time

A merge gives out elements one after another. Each source has at most one element pending; the
least pending element is given out next, and its source is asked again. What was given out
came in order and nothing pending is before it (`Ordered`).
-/
import Mathlib.Data.List.Basic
import Mathlib.Order.Basic

namespace Netanvil.Theory.Merge

open List

variable {α : Type*} [Preorder α]

structure Ordered (given pending : List α) : Prop where
  sorted : given.Pairwise (· ≤ ·)
  behind : ∀ a ∈ given, ∀ b ∈ pending, a ≤ b

variable {given pending rest : List α} {a b : α}

theorem ordered_nil (pending : List α) : Ordered [] pending :=
  ⟨.nil, by simp⟩

theorem Ordered.give (ordered : Ordered given pending) (taken : pending.Perm (a :: rest))
    (least : ∀ b ∈ rest, a ≤ b) : Ordered (given ++ [a]) rest := by
  have ahead : ∀ x ∈ given, x ≤ a := fun x old =>
    ordered.behind x old a (taken.mem_iff.mpr mem_cons_self)
  constructor
  · refine pairwise_append.mpr ⟨ordered.sorted, pairwise_singleton _ _, ?_⟩
    intro x old y last
    rw [mem_singleton.mp last]
    exact ahead x old
  · intro x old y waits
    rcases mem_append.mp old with old | last
    · exact ordered.behind x old y (taken.mem_iff.mpr (mem_cons_of_mem _ waits))
    · rw [mem_singleton.mp last]
      exact least y waits

theorem Ordered.refill (ordered : Ordered (given ++ [a]) pending) (later : a ≤ b) :
    Ordered (given ++ [a]) (b :: pending) := by
  refine ⟨ordered.sorted, fun x old y waits => ?_⟩
  rcases mem_cons.mp waits with rfl | waits
  · have upTo := (pairwise_append.mp ordered.sorted).2.2
    rcases mem_append.mp old with old | last
    · exact (upTo x old a (mem_singleton_self a)).trans later
    · rw [mem_singleton.mp last]
      exact later
  · exact ordered.behind x old y waits

end Netanvil.Theory.Merge
