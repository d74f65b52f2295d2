/-
# A bitmap laid over a vector of 64-bit words

Bit `p` of the bitmap is bit `p % 64` of word `p / 64`. One bit is set (`bit_setBit`), and a run
of bits inside one word is counted by a population count under a mask and then cleared by the
complement of that mask (`countOnes_range`, `bit_clearRange`).
-/
import Mathlib.Tactic

namespace Netanvil.Theory.Bitmap

open BitVec Finset Nat

/-! ## Counting below a bound -/

variable {p q : Nat → Prop} {n start len m w : Nat} (x : BitVec 64)

theorem count_congr {_ : DecidablePred p} {_ : DecidablePred q}
    (same : ∀ k < n, (p k ↔ q k)) : Nat.count p n = Nat.count q n := by
  simp only [count_eq_card_filter_range]
  congr 1
  apply filter_congr
  intro k member
  exact same k (mem_range.mp member)

theorem count_add_count_not (p : Nat → Prop) [DecidablePred p] (n : Nat) :
    .count p n + .count (fun k => ¬ p k) n = n := by
  simp only [count_eq_card_filter_range]
  rw [card_filter_add_card_filter_not, card_range]

/-- Adding one number below the bound adds one to the count. -/
theorem count_insert {_ : DecidablePred p} {_ : DecidablePred fun k => p k ∨ k = m}
    (below : m < n) (absent : ¬ p m) : .count (fun k => p k ∨ k = m) n = .count p n + 1 := by
  have split : .count (fun k => p k ∨ k = m) n = (insert m {k ∈ range n | p k}).card := by
    rw [count_eq_card_filter_range]
    congr 1
    ext k
    simp only [mem_filter, mem_range, mem_insert]
    constructor
    · rintro ⟨small, holds | rfl⟩
      · exact .inr ⟨small, holds⟩
      · exact .inl rfl
    · rintro (rfl | ⟨small, holds⟩)
      · exact ⟨below, .inr rfl⟩
      · exact ⟨small, .inl holds⟩
  rw [split, card_insert_of_notMem (by simp [absent]), count_eq_card_filter_range]

theorem ncard_eq_count [DecidablePred p] (below : ∀ k, p k → k < n) :
    Set.ncard {k | p k} = Nat.count p n := by
  have same : {k | p k} = ((range n).filter p : Set Nat) := by
    ext k
    simp only [Set.mem_ofPred_eq, coe_filter, mem_range]
    exact ⟨fun h => ⟨below k h, h⟩, fun h => h.2⟩
  rw [same, Set.ncard_coe_finset, count_eq_card_filter_range]

/-! ## One word -/

/-- Population count of a word. -/
def countOnes (x : BitVec 64) : Nat := x.cpop.toNat

/-- The mask of the `len` bits from `start` on; the shift of a full word would be
out of range, so the full mask is spelled separately. -/
def rangeMask (start len : Nat) : BitVec 64 :=
  if len = 64 then .allOnes 64 else ((1#64 <<< len) - 1#64) <<< start

theorem cpopNatRec_eq_count (x : BitVec w) (n : Nat) :
    x.cpopNatRec n 0 = .count (fun i => x.getLsbD i = true) n := by
  induction n with
  | zero => simp
  | succ n ih =>
    rw [cpopNatRec_succ, cpopNatRec_eq, ih, count_succ]
    cases x.getLsbD n <;> simp

theorem countOnes_eq_count : countOnes x = .count (fun i => x.getLsbD i = true) 64 := by
  rw [countOnes, toNat_cpop, cpopNatRec_eq_count]

theorem getLsbD_lowMask (short : n < 64) (i : Nat) :
    ((1#64 <<< n) - 1#64).getLsbD i = decide (i < n) := by
  have value : ((1#64 <<< n) - 1#64).toNat = 2 ^ n - 1 := by
    have small : 2 ^ n < 2 ^ 64 := Nat.pow_lt_pow_right (by omega) short
    have positive : 0 < 2 ^ n := Nat.two_pow_pos n
    have shifted : (1#64 <<< n).toNat = 2 ^ n := by
      rw [toNat_shiftLeft, toNat_ofNat, Nat.shiftLeft_eq]
      simpa using Nat.mod_eq_of_lt small
    rw [toNat_sub, shifted, toNat_ofNat]
    omega
  rw [getLsbD, value, testBit_two_pow_sub_one]

theorem getLsbD_rangeMask (fits : start + len ≤ 64) (i : Nat) :
    (rangeMask start len).getLsbD i = decide (start ≤ i ∧ i < start + len) := by
  unfold rangeMask
  split
  · rename_i full
    have first : start = 0 := by omega
    subst first full
    rw [getLsbD_allOnes]
    simp
  · have short : len < 64 := by omega
    rw [getLsbD_shiftLeft, getLsbD_lowMask short]
    by_cases inRange : start ≤ i ∧ i < start + len
    · have h1 : i < 64 := by omega
      have h2 : ¬ i < start := by omega
      have h3 : i - start < len := by omega
      simp [inRange, h1, h2, h3]
    · by_cases below : i < start
      · simp [below, show ¬ start ≤ i by omega]
      · have h3 : ¬ i - start < len := by omega
        simp [below, h3]
        omega

/-- A masked population count counts the run it masks. -/
theorem countOnes_and_rangeMask (fits : start + len ≤ 64) :
    countOnes (x &&& rangeMask start len) =
      Nat.count (fun k => x.getLsbD (start + k) = true) len := by
  have masked : ∀ i, ((x &&& rangeMask start len).getLsbD i = true) ↔
      (x.getLsbD i = true ∧ start ≤ i ∧ i < start + len) := by
    intro i
    rw [getLsbD_and, getLsbD_rangeMask fits]
    simp
  have split : Nat.count (fun i => (x &&& rangeMask start len).getLsbD i = true) 64 =
      Nat.count (fun i => (x &&& rangeMask start len).getLsbD i = true)
        (start + (len + (64 - start - len))) :=
    congrArg _ (by omega)
  rw [countOnes_eq_count, split, count_add, count_add]
  -- before and after the run no masked bit is set
  have before : .count (fun i => (x &&& rangeMask start len).getLsbD i = true) start = 0 := by
    rw [count_iff_forall_not]
    intro i below
    rw [masked]
    omega
  have after : .count (fun k => (x &&& rangeMask start len).getLsbD (start + (len + k)) = true)
      (64 - start - len) = 0 := by
    rw [count_iff_forall_not]
    intro k _
    rw [masked]
    omega
  rw [before, after, zero_add, add_zero]
  apply count_congr
  intro k short
  rw [masked]
  constructor
  · exact fun h => h.1
  · exact fun h => ⟨h, by omega, by omega⟩

/-! ## The bitmap -/

variable {W : Nat}

/-- Bit `p` of the bitmap; positions past the last word read as unset. -/
def bit (ring : Vector (BitVec 64) W) (p : Nat) : Bool :=
  (ring[p / 64]?.getD 0#64).getLsbD (p % 64)

variable {p len : Nat} (ring : Vector (BitVec 64) W)

theorem bit_eq_get (inside : p / 64 < W) :
    bit ring p = (ring.get ⟨p / 64, inside⟩).getLsbD (p % 64) := by
  simp only [bit, inside, Vector.getElem?_eq_getElem, Option.getD_some]
  rfl

theorem bit_set (word : Nat) (inside : word < W) (value : BitVec 64) (q : Nat) :
    bit (ring.set word value inside) q =
      if q / 64 = word then value.getLsbD (q % 64) else bit ring q := by
  unfold bit
  by_cases same : q / 64 = word
  · subst same
    simp [inside]
  · have different : word ≠ q / 64 := fun h => same h.symm
    simp [same, Vector.getElem?_set_ne, different]

@[simp] theorem bit_replicate_zero (q : Nat) : bit (.replicate W 0#64) q = false := by
  unfold bit
  by_cases inside : q / 64 < W
  · simp [inside]
  · have past : (Vector.replicate W 0#64)[q / 64]? = none := by simp [inside]
    rw [past]
    simp

variable (inside : p / 64 < W)
include inside

theorem bit_setBit (q : Nat) :
    bit (ring.set (p / 64) (ring.get ⟨p / 64, inside⟩ ||| (1#64 <<< (p % 64))) inside) q =
      (decide (q = p) || bit ring q) := by
  rw [bit_set]
  split
  · rename_i sameWord
    have inWord : q / 64 < W := sameWord ▸ inside
    have sameGet : ring.get ⟨p / 64, inside⟩ = ring.get ⟨q / 64, inWord⟩ := by
      congr 1
      exact Fin.ext sameWord.symm
    rw [bit_eq_get ring inWord, getLsbD_or, sameGet, getLsbD_shiftLeft]
    have one : (1#64).getLsbD (q % 64 - p % 64) = decide (q % 64 - p % 64 = 0) := by
      simp [getLsbD_one]
    rw [one]
    have lt : q % 64 < 64 := mod_lt _ (by omega)
    by_cases h : q = p
    · subst h
      simp [lt]
    · by_cases below : q % 64 < p % 64
      · simp [h, below]
      · have apart : ¬ q % 64 - p % 64 = 0 := by omega
        simp [h, apart]
  · rename_i otherWord
    have : q ≠ p := fun h => otherWord (by rw [h])
    simp [this]

theorem and_oneMask_eq_zero_iff :
    ring.get ⟨p / 64, inside⟩ &&& (1#64 <<< (p % 64)) = 0#64 ↔ bit ring p = false := by
  have lt : p % 64 < 64 := mod_lt _ (by omega)
  rw [bit_eq_get ring inside]
  constructor
  · intro zero
    have atBit := congrArg (fun x => getLsbD x (p % 64)) zero
    simpa [getLsbD_and, getLsbD_shiftLeft, lt, getLsbD_one] using atBit
  · intro unset
    apply eq_of_getLsbD_eq
    intro i small
    rw [getLsbD_and, getLsbD_shiftLeft, getLsbD_one]
    by_cases h : i = p % 64
    · subst h
      simp [unset]
    · by_cases below : i < p % 64
      · simp [below]
      · have apart : ¬ i - p % 64 = 0 := by omega
        simp [apart]

/-- Counting a run that stays inside one word. -/
theorem countOnes_range (fits : p % 64 + len ≤ 64) :
    countOnes (ring.get ⟨p / 64, inside⟩ &&& rangeMask (p % 64) len) =
      .count (fun k => bit ring (p + k) = true) len := by
  rw [countOnes_and_rangeMask _ fits]
  apply count_congr
  intro k short
  have sameWord : (p + k) / 64 = p / 64 := by omega
  have sameBit : (p + k) % 64 = p % 64 + k := by omega
  have inWord : (p + k) / 64 < W := sameWord ▸ inside
  have sameGet : ring.get ⟨(p + k) / 64, inWord⟩ = ring.get ⟨p / 64, inside⟩ := by
    congr 1
    exact Fin.ext sameWord
  rw [bit_eq_get ring inWord, sameGet, sameBit]

/-- Clearing a run that stays inside one word. -/
theorem bit_clearRange (fits : p % 64 + len ≤ 64) (q : Nat) :
    bit (ring.set (p / 64) (ring.get ⟨p / 64, inside⟩ &&& ~~~rangeMask (p % 64) len) inside) q =
      (bit ring q && !decide (p ≤ q ∧ q < p + len)) := by
  have lt : q % 64 < 64 := mod_lt _ (by omega)
  rw [bit_set]
  split
  · rename_i sameWord
    have inWord : q / 64 < W := sameWord ▸ inside
    have sameGet : ring.get ⟨p / 64, inside⟩ = ring.get ⟨q / 64, inWord⟩ := by
      congr 1
      exact Fin.ext sameWord.symm
    have window : (p % 64 ≤ q % 64 ∧ q % 64 < p % 64 + len) ↔ (p ≤ q ∧ q < p + len) := by
      omega
    rw [bit_eq_get ring inWord, getLsbD_and, getLsbD_not, sameGet, getLsbD_rangeMask fits]
    simp [lt, window]
  · rename_i otherWord
    have outside : ¬ (p ≤ q ∧ q < p + len) := by omega
    simp [outside]

end Netanvil.Theory.Bitmap
