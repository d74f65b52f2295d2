/-
# The names tests are given

A test is named by the second it is queued in and a suffix of sixteen bits: the nanoseconds of
that second, xored with a multiple of the seconds and cut to their low half. The file of a test
is named after it.

`ids_unique_iff` says which calls are told apart. Within a second the suffixes repeat after
65536 nanoseconds.
-/
import Mathlib.Data.Nat.Digits.Lemmas
import Netanvil.Distributed.Calendar
import Netanvil.Distributed.ResultStore

namespace Netanvil.Distributed

open List UInt32

/-- A number with zeros before it, `{n:0width}`. -/
def padded (base width n : Nat) : List Char :=
  (Nat.digitsAppend base width n).reverse.map Nat.digitChar

def randSuffix (secs subsecNanos : Nat) : UInt16 :=
  (ofNat subsecNanos ^^^ ofNat secs * 2654435761).toUInt16

/-- The date, the time and the suffix after `t-`. -/
def stamp (secs subsecNanos : Nat) : List Char :=
  let (y, m, d, hh, mm, ss) := secsToUtc secs
  padded 10 4 y ++ (padded 10 2 m ++ (padded 10 2 d ++ '-' :: (padded 10 2 hh ++
    (padded 10 2 mm ++ (padded 10 2 ss ++
      '-' :: padded 16 4 (randSuffix secs subsecNanos).toNat)))))

/-- The clock is in nanoseconds since 1970; a time before that counts as 1970. -/
def TestId.generate (now : ℤ) : TestId :=
  let now := now.toNat
  ⟨"t-" ++ String.ofList (stamp (now / 1000000000) (now % 1000000000)), _, rfl⟩

/-! ## Reading a name back -/

section

variable {base width n n' : Nat} {rest rest' : List Char}

theorem padded_inj (two : 1 < base) (hex : base ≤ 16)
    (same : padded base width n = padded base width n') : n = n' := by
  have read : ∀ d < 16, "0123456789abcdef".toList.idxOf d.digitChar = d := by decide
  have values (n : Nat) : ((padded base width n).map
      fun c => "0123456789abcdef".toList.idxOf c).reverse = Nat.digitsAppend base width n := by
    rw [padded, map_map, ← map_reverse, reverse_reverse]
    refine (map_congr_left fun d mem => ?_).trans (map_id _)
    exact read d ((Nat.lt_of_mem_digitsAppend two width d mem).trans_le hex)
  have digits : Nat.digitsAppend base width n = Nat.digitsAppend base width n' := by
    rw [← values n, ← values n', same]
  have numbers := congrArg (Nat.ofDigits base) digits
  simpa only [Nat.digitsAppend, Nat.ofDigits_append_replicate_zero, Nat.ofDigits_digits] using
    numbers

theorem twoDigits_length (fits : n < 100) : (padded 10 2 n).length = 2 := by
  rw [padded, length_map, length_reverse, Nat.length_digitsAppend (by decide) 2 fits]

theorem suffix_length (x : UInt16) : (padded 16 4 x.toNat).length = 4 := by
  rw [padded, length_map, length_reverse, Nat.length_digitsAppend (by decide) 4 x.toNat_lt]

/-- A field of two decimal digits and what follows it. -/
theorem padded_append_inj (same : padded 10 2 n ++ rest = padded 10 2 n' ++ rest')
    (fits : n < 100) (fits' : n' < 100) : n = n' ∧ rest = rest' := by
  have lengths : (padded 10 2 n).length = (padded 10 2 n').length := by
    rw [twoDigits_length fits, twoDigits_length fits']
  obtain ⟨field, tail⟩ := append_inj same lengths
  exact ⟨padded_inj (by decide) (by decide) field, tail⟩

end

theorem randSuffix_eq_iff (secs : Nat) {nanos nanos' : Nat} :
    randSuffix secs nanos = randSuffix secs nanos' ↔ nanos % 65536 = nanos' % 65536 := by
  rw [randSuffix, randSuffix, toUInt16_xor, toUInt16_xor, UInt16.xor_left_inj, ← UInt16.toNat_inj]
  simp

theorem monthLength_le (year month : Nat) : monthLength year month ≤ 31 := by
  unfold monthLength
  split_ifs <;> decide

theorem stamp_eq_iff {secs nanos secs' nanos' : Nat} : stamp secs nanos = stamp secs' nanos' ↔
    secs = secs' ∧ nanos % 65536 = nanos' % 65536 := by
  constructor
  · intro same
    obtain ⟨valid, back⟩ := secsToUtc_spec secs
    obtain ⟨valid', back'⟩ := secsToUtc_spec secs'
    simp only [stamp] at same
    generalize secsToUtc secs = u at valid back same
    generalize secsToUtc secs' = v at valid' back' same
    obtain ⟨y, m, d, hh, mm, ss⟩ := u
    obtain ⟨y', m', d', hh', mm', ss'⟩ := v
    obtain ⟨months, days, hour, minute, second⟩ := valid
    obtain ⟨months', days', hour', minute', second'⟩ := valid'
    dsimp only at same
    have day := days.2.trans (monthLength_le y m)
    have day' := days'.2.trans (monthLength_le y' m')
    -- what follows the year has one length
    obtain ⟨year, fromMonth⟩ := append_inj' same (by
      simp only [length_append, length_cons, suffix_length,
        twoDigits_length (n := m) (by omega), twoDigits_length (n := m') (by omega),
        twoDigits_length (n := d) (by omega), twoDigits_length (n := d') (by omega),
        twoDigits_length (n := hh) (by omega), twoDigits_length (n := hh') (by omega),
        twoDigits_length (n := mm) (by omega), twoDigits_length (n := mm') (by omega),
        twoDigits_length (n := ss) (by omega), twoDigits_length (n := ss') (by omega)])
    obtain rfl := padded_inj (by decide) (by decide) year
    obtain ⟨rfl, fromDay⟩ := padded_append_inj fromMonth (by omega) (by omega)
    obtain ⟨rfl, time⟩ := padded_append_inj fromDay (by omega) (by omega)
    obtain ⟨rfl, fromMinute⟩ := padded_append_inj (cons.inj time).2 (by omega) (by omega)
    obtain ⟨rfl, fromSecond⟩ := padded_append_inj fromMinute (by omega) (by omega)
    obtain ⟨rfl, suffix⟩ := padded_append_inj fromSecond (by omega) (by omega)
    obtain rfl : secs = secs' := by exact_mod_cast back.symm.trans back'
    have low := padded_inj (by decide) (by decide) (cons.inj suffix).2
    exact ⟨rfl, (randSuffix_eq_iff secs).mp (UInt16.toNat_inj.mp low)⟩
  · rintro ⟨rfl, low⟩
    simp only [stamp, (randSuffix_eq_iff secs).mpr low]

/-! ## The names of a sequence of calls -/

/-- Two calls in one second, a multiple of 65536 nanoseconds apart. -/
def Clashes (now now' : ℤ) : Prop :=
  now.toNat / 1000000000 = now'.toNat / 1000000000 ∧
    now.toNat % 1000000000 % 65536 = now'.toNat % 1000000000 % 65536

theorem generate_eq_iff {now now' : ℤ} :
    TestId.generate now = TestId.generate now' ↔ Clashes now now' := by
  rw [TestId.ext_iff, TestId.generate, TestId.generate, String.append_right_inj,
    String.ofList_inj, stamp_eq_iff, Clashes]

/-- **The names, and the files, are pairwise distinct exactly if no two of the calls clash.** -/
theorem ids_unique_iff (times : List ℤ) :
    ((times.map TestId.generate).Nodup ∧
      (times.map fun now => entryPath (.generate now)).Nodup) ↔
        times.Pairwise fun now now' => ¬ Clashes now now' := by
  simp only [Nodup, pairwise_map, ne_eq, entryPath_inj, generate_eq_iff, and_self]

/-- Two calls of the first second of 1970, 65536 nanoseconds apart. -/
theorem second_takes_name : (0 : ℤ) ≠ 65536 ∧
    entryPath (.generate 0) = entryPath (.generate 65536) :=
  ⟨by decide, by rw [entryPath_inj, generate_eq_iff]; exact ⟨rfl, rfl⟩⟩

end Netanvil.Distributed
