/-
# The sliding-window loss bitmap

Every datagram carries a sequence number, a ring of 64 words of 64 bits remembers which of the
last 4096 were echoed, and a bit that falls off the back of the ring unset is counted as lost.
`advance` walks the ring word by word, counting a whole word at once where it can and a masked
part of a word at the two ends.

The counters are `Nat`: every `u64` the tracker holds stays at or below the number of datagrams
sent, so none of them wraps before `2^64` sends.
-/
import Netanvil.Theory.Bitmap

namespace Netanvil.Udp

open Theory.Bitmap Nat

def words : Nat := 64
def window : Nat := words * 64

theorem window_eq : window = 4096 := rfl

/-- Per-core loss tracker. -/
structure LossTracker where
  /-- Sequence number of bit position `head`. -/
  base : Nat
  /-- Bit position of `base` in the ring. -/
  head : Fin window
  /-- Circular bitmap: a set bit means "response received". -/
  ring : Vector (BitVec 64) words
  totalSent : Nat
  totalReceived : Nat
  totalLost : Nat
  snapSent : Nat
  snapReceived : Nat
  snapLost : Nat

namespace LossTracker

def new : LossTracker where
  base := 0
  head := ⟨0, by decide⟩
  ring := Vector.replicate words 0#64
  totalSent := 0
  totalReceived := 0
  totalLost := 0
  snapSent := 0
  snapReceived := 0
  snapLost := 0

/-- Record an outbound datagram; the second component is its sequence number. -/
def onSend (t : LossTracker) : LossTracker × Nat :=
  ({ t with totalSent := t.totalSent + 1 }, t.totalSent)

/-- `(sent, received, lost)` since the last call. -/
def takeDeltas (t : LossTracker) : LossTracker × (Nat × Nat × Nat) :=
  ({ t with snapSent := t.totalSent, snapReceived := t.totalReceived, snapLost := t.totalLost },
    (t.totalSent - t.snapSent, t.totalReceived - t.snapReceived, t.totalLost - t.snapLost))

/-! ## Sliding the window -/

/-- What the loop of `advance` changes. -/
structure Sweep where
  ring : Vector (BitVec 64) words
  lost : Nat
  pos : Fin window

theorem wordIdx_lt (pos : Fin window) : pos.val / 64 < words := by
  have bound : pos.val < 4096 := pos.isLt
  show pos.val / 64 < 64
  omega

/-- One iteration: evict `bitsInWord` bits from `pos` on, all in one word.
`expected` caps the run at what was really sent, both subtractions saturate. -/
def evictRun (totalSent seq bitsInWord : Nat) (s : Sweep) : Sweep :=
  let startBit := s.pos.val % 64
  let word := s.ring.get ⟨s.pos.val / 64, wordIdx_lt s.pos⟩
  let pos : Fin window := ⟨(s.pos.val + bitsInWord) % window, mod_lt _ (by decide)⟩
  if startBit = 0 ∧ bitsInWord = 64 then
    -- full word
    let set := countOnes word
    let expected := min 64 (totalSent - seq)
    { ring := s.ring.set (s.pos.val / 64) 0#64 (wordIdx_lt s.pos)
      lost := s.lost + (expected - set)
      pos }
  else
    let mask := rangeMask startBit bitsInWord
    let set := countOnes (word &&& mask)
    let expected := min bitsInWord (totalSent - seq)
    { ring := s.ring.set (s.pos.val / 64) (word &&& ~~~mask) (wordIdx_lt s.pos)
      lost := s.lost + (expected - set)
      pos }

/-- The `while remaining > 0` loop. -/
def sweep (totalSent : Nat) (s : Sweep) (seq remaining : Nat) : Sweep :=
  if remaining = 0 then s
  else
    let bitsInWord := min (64 - s.pos.val % 64) remaining
    sweep totalSent (evictRun totalSent seq bitsInWord s) (seq + bitsInWord)
      (remaining - bitsInWord)
termination_by remaining
decreasing_by
  have := mod_lt s.pos.val (by decide : 64 > 0)
  omega

/-- Slide the window forward by `count` positions, at most one window. -/
def advance (t : LossTracker) (count : Nat) : LossTracker :=
  let count := min count window
  let s := sweep t.totalSent ⟨t.ring, t.totalLost, t.head⟩ t.base count
  { t with ring := s.ring, totalLost := s.lost, head := s.pos, base := t.base + count }

/-- Slide far enough for `seq` to be looked up. -/
def slideTo (t : LossTracker) (seq : Nat) : LossTracker :=
  let offset := seq - t.base
  if offset ≥ window then t.advance (offset - window + 1) else t

/-- Ring position looked up for `seq`. -/
def position (t : LossTracker) (seq : Nat) : Fin window :=
  ⟨(t.head.val + (seq - t.base)) % window, mod_lt _ (by decide)⟩

/-- Set the bit of `seq` and count the echo, unless the bit is already set. -/
def mark (t : LossTracker) (seq : Nat) : LossTracker :=
  let abs := t.position seq
  let word := t.ring.get ⟨abs.val / 64, wordIdx_lt abs⟩
  let mask := 1#64 <<< (abs.val % 64)
  if word &&& mask = 0#64 then
    { t with
      ring := t.ring.set (abs.val / 64) (word ||| mask) (wordIdx_lt abs)
      totalReceived := t.totalReceived + 1 }
  else t

/-- Record an echo. One behind the window is an ancient duplicate. -/
def onReceive (t : LossTracker) (seq : Nat) : LossTracker :=
  if seq < t.base then t else (t.slideTo seq).mark seq

/-! ## One iteration -/

theorem evictRun_pos (totalSent seq n : Nat) (s : Sweep) :
    (evictRun totalSent seq n s).pos.val = (s.pos.val + n) % 4096 := by
  simp only [evictRun]
  split <;> rfl

variable {n seq totalSent count m : Nat} {s s' s'' : Sweep} {t : LossTracker}

/-- Both branches of the iteration are the masked one: the mask of a full word
is all ones. -/
theorem evictRun_eq_masked (totalSent seq : Nat) (s : Sweep) : (evictRun totalSent seq n s).ring =
        s.ring.set (s.pos.val / 64)
          (s.ring.get ⟨s.pos.val / 64, wordIdx_lt s.pos⟩ &&& ~~~rangeMask (s.pos.val % 64) n)
          (wordIdx_lt s.pos) ∧
      (evictRun totalSent seq n s).lost =
        s.lost + (min n (totalSent - seq) -
          countOnes (s.ring.get ⟨s.pos.val / 64, wordIdx_lt s.pos⟩ &&&
            rangeMask (s.pos.val % 64) n)) := by
  by_cases full : s.pos.val % 64 = 0 ∧ n = 64
  · have mask : rangeMask (s.pos.val % 64) n = BitVec.allOnes 64 := by
      rw [rangeMask, if_pos full.2]
    simp only [evictRun, if_pos full]
    rw [mask, BitVec.and_allOnes, BitVec.not_allOnes, BitVec.and_zero, full.2]
    exact ⟨rfl, rfl⟩
  · simp only [evictRun, if_neg full, and_self]

theorem evictRun_lost (s : Sweep) (fits : s.pos.val % 64 + n ≤ 64)
    (sent : seq + n ≤ totalSent) : (evictRun totalSent seq n s).lost =
      s.lost + Nat.count (fun k => ¬ bit s.ring (s.pos.val + k) = true) n := by
  rw [(evictRun_eq_masked totalSent seq s).2, countOnes_range s.ring (wordIdx_lt s.pos) fits]
  have total := count_add_count_not (fun k => bit s.ring (s.pos.val + k) = true) n
  omega

/-! ## The whole slide -/

/-- `s'` is `s` after a slide over the `n` sequence numbers from `seq` on: their bits are
cleared, and those that were unset are charged. (The window is written 4096 here, which
`omega` reads.) -/
structure Slid (seq n : Nat) (s s' : Sweep) : Prop where
  pos : s'.pos.val = (seq + n) % 4096
  bits : ∀ x, seq ≤ x → x < seq + 4096 →
    bit s'.ring (x % 4096) = (bit s.ring (x % 4096) && !decide (x < seq + n))
  lost : s'.lost = s.lost + Nat.count (fun k => ¬ bit s.ring ((seq + k) % 4096) = true) n

theorem Slid.none (sync : s.pos.val = seq % 4096) : Slid seq 0 s s where
  pos := sync
  bits x low _ := by simp [not_lt.mpr low]
  lost := by simp

/-- Two slides in a row, of one window at most together, are one. -/
theorem Slid.trans (first : Slid seq n s s')
    (rest : Slid (seq + n) m s' s'') (short : n + m ≤ 4096) : Slid seq (n + m) s s'' where
  pos := by rw [rest.pos, add_assoc]
  bits x low high := by
    by_cases inFirst : x < seq + n
    · -- cleared by the first slide, and read back by the second one window later
      have again := rest.bits (x + 4096) (by omega) (by omega)
      have later : ¬ x + 4096 < seq + n + m := by omega
      rw [add_mod_right] at again
      rw [again, first.bits x low high]
      simp [inFirst, later, show x < seq + (n + m) by omega]
    · rw [rest.bits x (by omega) (by omega), first.bits x low high]
      simp [inFirst, add_assoc]
  lost := by
    rw [rest.lost, first.lost, add_assoc, count_add]
    congr 2
    apply count_congr
    intro k small
    rw [first.bits (seq + n + k) (by omega) (by omega), add_assoc]
    simp

/-- The loop is a slide, over at most one window of sequence numbers that were all sent. -/
theorem sweep_slid (totalSent : Nat) (s : Sweep) (seq remaining : Nat)
    (sync : s.pos.val = seq % 4096) (short : remaining ≤ 4096)
    (sent : seq + remaining ≤ totalSent) :
    Slid seq remaining s (sweep totalSent s seq remaining) := by
  induction remaining using Nat.strong_induction_on generalizing s seq with
  | _ remaining ih =>
  rw [sweep]
  by_cases done : remaining = 0
  · rw [if_pos done, done]
    exact Slid.none sync
  rw [if_neg done]
  -- one run, inside one word, then the rest of the slide by induction
  generalize hn : min (64 - s.pos.val % 64) remaining = n
  have startLt := mod_lt s.pos.val (by decide : 64 > 0)
  -- one iteration is a slide inside one word
  have first : Slid seq n s (evictRun totalSent seq n s) := by
    have bound : s.pos.val < 4096 := s.pos.isLt
    have fits : s.pos.val % 64 + n ≤ 64 := by omega
    -- the run does not wrap: it stays in the word of `pos`
    have noWrap : s.pos.val + n ≤ 4096 := by omega
    refine ⟨?_, fun x low high => ?_, ?_⟩
    · rw [evictRun_pos]
      omega
    · have inRun : (s.pos.val ≤ x % 4096 ∧ x % 4096 < s.pos.val + n) ↔ x < seq + n := by omega
      rw [(evictRun_eq_masked totalSent seq s).1, bit_clearRange s.ring (wordIdx_lt s.pos) fits]
      simp only [inRun]
    · rw [evictRun_lost s fits (by omega)]
      congr 1
      apply count_congr
      intro k small
      rw [show (seq + k) % 4096 = s.pos.val + k by omega]
  have rest := ih (remaining - n) (by omega) (evictRun totalSent seq n s) (seq + n) first.pos
    (by omega) (by omega)
  have whole := first.trans rest (by omega)
  rwa [show n + (remaining - n) = remaining by omega] at whole

@[simp] theorem advance_base (t : LossTracker) (count : Nat) :
    (t.advance count).base = t.base + min count window := rfl

@[simp] theorem advance_totalSent (t : LossTracker) (count : Nat) :
    (t.advance count).totalSent = t.totalSent := rfl

/-- The window's head is the ring position of its base. -/
def Synced (t : LossTracker) : Prop := t.head.val = t.base % window

/-- What a slide inside the window does, by sequence number. -/
theorem advance_spec (synced : t.Synced) (short : count ≤ window)
    (sent : t.base + count ≤ t.totalSent) : (t.advance count).Synced ∧
      (∀ x, t.base ≤ x → x < t.base + window →
        bit (t.advance count).ring (x % window) =
          (bit t.ring (x % window) && !decide (x < t.base + count))) ∧
      (t.advance count).totalLost =
        t.totalLost + Nat.count (fun k => ¬ bit t.ring ((t.base + k) % window) = true) count := by
  have slid := sweep_slid t.totalSent ⟨t.ring, t.totalLost, t.head⟩ t.base count synced short sent
  have capped : min count window = count := min_eq_left short
  unfold Synced
  rw [advance_base]
  simp only [advance, capped]
  exact ⟨slid.pos, slid.bits, slid.lost⟩

/-! ## Marking one echo -/

@[simp] theorem mark_base (t : LossTracker) (seq : Nat) : (t.mark seq).base = t.base := by
  simp only [mark]
  split <;> rfl

@[simp] theorem mark_totalSent (t : LossTracker) (seq : Nat) :
    (t.mark seq).totalSent = t.totalSent := by
  simp only [mark]
  split <;> rfl

theorem position_eq (synced : t.Synced) (low : t.base ≤ seq) :
    (t.position seq).val = seq % window := by
  have head : t.head.val = t.base % window := synced
  simp only [position, head, window_eq]
  omega

/-- Marking an echo sets its bit and counts it exactly when the bit was unset. -/
theorem mark_spec (synced : t.Synced) (low : t.base ≤ seq) :
    (t.mark seq).head = t.head ∧ (t.mark seq).totalLost = t.totalLost ∧
      (∀ q, bit (t.mark seq).ring q = (decide (q = seq % window) || bit t.ring q)) ∧
      (t.mark seq).totalReceived =
        t.totalReceived + if bit t.ring (seq % window) = true then 0 else 1 := by
  rw [← position_eq synced low]
  have test := and_oneMask_eq_zero_iff t.ring (wordIdx_lt (t.position seq))
  simp only [mark]
  split
  · rename_i unset
    have clear : bit t.ring (t.position seq).val = false := test.mp unset
    refine ⟨rfl, rfl, ?_, by simp [clear]⟩
    intro q
    exact bit_setBit t.ring (wordIdx_lt (t.position seq)) q
  · rename_i occupied
    have set : bit t.ring (t.position seq).val = true := by
      cases h : bit t.ring (t.position seq).val with
      | false => exact absurd (test.mpr h) occupied
      | true => rfl
    refine ⟨rfl, rfl, ?_, by simp [set]⟩
    intro q
    by_cases same : q = (t.position seq).val
    · simp [same, set]
    · simp [same]

end LossTracker

end Netanvil.Udp
