/-
# Holders that are emptied from time to time

Several holders are given records, each worth something in a commutative monoid, and are
emptied now and then; emptying one yields what it has held since it was last emptied.
However the calls interleave, what the takes yield is worth what was given before a later
take of its holder (`sum_taken`).
-/
import Mathlib.Algebra.BigOperators.Group.Finset.Piecewise
import Mathlib.Tactic.Abel

namespace Netanvil.Theory.Collect

open Finset

variable {ι R T M : Type*}

/-- A take may carry data of its own, such as when it happens. -/
inductive Call (ι R T : Type*) where
  | give (i : ι) (r : R)
  | take (i : ι) (t : T)

variable [DecidableEq ι]

def Call.takes (i : ι) : Call ι R T → Bool
  | .give _ _ => false
  | .take j _ => j = i

/-- The records given before a later take of their holder. -/
def covered : List (Call ι R T) → List R
  | [] => []
  | .give i r :: rest => if rest.any (Call.takes i) then r :: covered rest else covered rest
  | .take _ _ :: rest => covered rest

/-- The holders that are taken from. -/
def emptied : List (Call ι R T) → Finset ι
  | [] => ∅
  | .give _ _ :: rest => emptied rest
  | .take i _ :: rest => insert i (emptied rest)

theorem mem_emptied {i : ι} {calls : List (Call ι R T)} :
    i ∈ emptied calls ↔ calls.any (Call.takes i) = true := by
  induction calls with
  | nil => simp [emptied]
  | cons call rest ih =>
    cases call with
    | give j r => simp [emptied, Call.takes, ih]
    | take j t => simp [emptied, Call.takes, ih, @eq_comm _ j i]

variable [AddCommMonoid M] (worth : R → M)

/-- What the takes yield, from what each holder holds. -/
def taken : (ι → M) → List (Call ι R T) → List M
  | _, [] => []
  | held, .give i r :: rest => taken (Function.update held i (held i + worth r)) rest
  | held, .take i _ :: rest => held i :: taken (Function.update held i 0) rest

variable {worth}

/-- The takes yield what was held at first by the holders they empty, and what was given
before a later take. -/
theorem sum_taken_add (held : ι → M) (calls : List (Call ι R T)) :
    (taken worth held calls).sum =
      ∑ i ∈ emptied calls, held i + ((covered calls).map worth).sum := by
  induction calls generalizing held with
  | nil => simp [taken, emptied, covered]
  | cons call rest ih =>
    cases call with
    | give i r =>
      rw [taken, ih, emptied, covered]
      by_cases later : i ∈ emptied rest
      · rw [if_pos (mem_emptied.mp later), sum_update_of_mem later, ← add_sum_erase _ _ later,
          sdiff_singleton_eq_erase, List.map_cons, List.sum_cons]
        abel
      · rw [if_neg (fun any => later (mem_emptied.mpr any)), sum_update_of_notMem later]
    | take i t =>
      rw [taken, List.sum_cons, ih, emptied, covered]
      by_cases later : i ∈ emptied rest
      · rw [sum_update_of_mem later, insert_eq_of_mem later, ← add_sum_erase _ _ later,
          sdiff_singleton_eq_erase, zero_add, add_assoc]
      · rw [sum_update_of_notMem later, sum_insert later, add_assoc]

/-- **From empty holders, the takes yield exactly what was given before a later take.** -/
theorem sum_taken (calls : List (Call ι R T)) :
    (taken worth (fun _ => 0) calls).sum = ((covered calls).map worth).sum := by
  rw [sum_taken_add, sum_const_zero, zero_add]

end Netanvil.Theory.Collect
