/-
# Bounded channels

A channel holds what has been sent and not yet received, in order, and never more than
its capacity. A send into a full channel does not go through (`trySend`): a caller
that insists has to wait until something is received.
-/
import Mathlib.Tactic

namespace Netanvil.Theory

structure Channel (α : Type) where
  capacity : Nat
  queue : List α
  fits : queue.length ≤ capacity

namespace Channel

variable {α : Type}

/-- A send would go through. -/
def HasRoom (c : Channel α) : Prop := c.queue.length < c.capacity

def bounded (capacity : Nat) : Channel α := ⟨capacity, [], Nat.zero_le _⟩

/-- Send if there is room. -/
def trySend (c : Channel α) (a : α) : Option (Channel α) :=
  if room : c.queue.length < c.capacity then
    some ⟨c.capacity, c.queue ++ [a], by simpa using room⟩
  else none

/-- Receive the oldest message. -/
def tryRecv (c : Channel α) : Option (α × Channel α) :=
  match taken : c.queue with
  | [] => none
  | a :: rest =>
    some (a, ⟨c.capacity, rest, by have := c.fits; rw [taken, List.length_cons] at this; omega⟩)

/-- The channel after everything in it has been received. -/
def drained (c : Channel α) : Channel α := ⟨c.capacity, [], Nat.zero_le _⟩

variable {c c' : Channel α} {a : α}

@[simp] theorem bounded_queue (capacity : Nat) : (bounded capacity : Channel α).queue = [] := rfl

@[simp] theorem drained_queue (c : Channel α) : c.drained.queue = [] := rfl

theorem trySend_eq_none : c.trySend a = none ↔ ¬ c.HasRoom := by
  unfold trySend HasRoom
  split <;> simp_all

theorem queue_of_trySend (sent : c.trySend a = some c') : c'.queue = c.queue ++ [a] := by
  unfold trySend at sent
  split at sent <;> cases sent
  rfl

section

variable (taken : c.tryRecv = some (a, c'))
include taken

theorem queue_of_tryRecv : c.queue = a :: c'.queue := by
  unfold tryRecv at taken
  split at taken
  · cases taken
  · rename_i queue
    cases taken
    exact queue

theorem capacity_of_tryRecv : c'.capacity = c.capacity := by
  unfold tryRecv at taken
  split at taken
  · cases taken
  · cases taken
    rfl

/-- Receiving makes room. -/
theorem hasRoom_of_tryRecv : c'.HasRoom := by
  have fits := c.fits
  rw [queue_of_tryRecv taken, List.length_cons] at fits
  rw [HasRoom, capacity_of_tryRecv taken]
  omega

end

theorem tryRecv_eq_none (empty : c.queue = []) : c.tryRecv = none := by
  unfold tryRecv
  split
  · rfl
  · rename_i queue
    rw [empty] at queue
    cases queue

theorem queue_of_tryRecv_none (none : c.tryRecv = none) : c.queue = [] := by
  unfold tryRecv at none
  split at none
  · assumption
  · cases none

/-- The only message is received. -/
theorem exists_tryRecv_singleton (only : c.queue = [a]) : ∃ c', c.tryRecv = some (a, c') := by
  unfold tryRecv
  split
  · rename_i queue
    rw [only] at queue
    cases queue
  · rename_i queue
    obtain ⟨rfl, -⟩ := List.cons.inj (only.symm.trans queue)
    exact ⟨_, rfl⟩

theorem exists_tryRecv (message : c.queue ≠ []) : ∃ a c', c.tryRecv = some (a, c') := by
  unfold tryRecv
  split
  · contradiction
  · exact ⟨_, _, rfl⟩

end Channel

end Netanvil.Theory
