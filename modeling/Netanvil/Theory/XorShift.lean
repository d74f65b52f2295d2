/-
# Xor-shifts of words are one-to-one

A shift distributes over xor and fixes no word but 0, so a word can be recovered from its
xor with its own shift, whatever the width (`shiftLeft_injective`, `ushiftRight_injective`).
-/
import Mathlib.Logic.Function.Basic

namespace Netanvil.Theory.XorShift

open BitVec Function

variable {w k : Nat}

theorem injective_of_linear {f : BitVec w → BitVec w} (linear : ∀ x y, f (x ^^^ y) = f x ^^^ f y)
    (fixed : ∀ z, f z = z → z = 0) : Injective fun x => x ^^^ f x := by
  intro x y same
  have moved : f (x ^^^ y) = x ^^^ y := by
    rw [linear]
    calc f x ^^^ f y = x ^^^ (x ^^^ f x) ^^^ f y := by
          rw [← BitVec.xor_assoc, BitVec.xor_self, BitVec.zero_xor]
      _ = x ^^^ (y ^^^ f y) ^^^ f y := by rw [show x ^^^ f x = y ^^^ f y from same]
      _ = x ^^^ y := by
          rw [BitVec.xor_assoc, BitVec.xor_assoc, BitVec.xor_self, BitVec.xor_zero]
  exact BitVec.xor_eq_zero_iff.mp (fixed _ moved)

theorem shiftLeft_injective (pos : 0 < k) : Injective fun x : BitVec w => x ^^^ x <<< k := by
  apply injective_of_linear fun x y => shiftLeft_xor_distrib x y k
  intro z same
  have clear : ∀ i, z.getLsbD i = false := by
    intro i
    -- bit `i` is bit `i - k`, and the lowest `k` bits are shifted in
    induction i using Nat.strongRecOn with
    | ind i ih =>
      rw [← same, getLsbD_shiftLeft]
      by_cases low : i < k
      · simp [low]
      · simp [ih (i - k) (by omega)]
  exact eq_of_getLsbD_eq fun i _ => by simp [clear]

theorem ushiftRight_injective (pos : 0 < k) : Injective fun x : BitVec w => x ^^^ x >>> k := by
  apply injective_of_linear fun x y => ushiftRight_xor_distrib x y k
  intro z same
  by_contra nonzero
  have less : z.toNat / 2 ^ k < z.toNat := by
    apply Nat.div_lt_self
    · exact Nat.pos_of_ne_zero fun zero => nonzero (eq_of_toNat_eq (by simpa using zero))
    · exact Nat.one_lt_two_pow (by omega)
  have halved := congrArg BitVec.toNat same
  rw [toNat_ushiftRight, Nat.shiftRight_eq_div_pow] at halved
  omega

end Netanvil.Theory.XorShift
