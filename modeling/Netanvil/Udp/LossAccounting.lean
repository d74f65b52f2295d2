/-
# What the loss counters mean over a whole run

An echo is counted when it is the first one of its sequence number and that number has not left
the window (`CountedEcho`). The tracker represents the set of counted numbers (`Tracks`) along
every run whose echoes stay within two windows of the base. `advance` slides at most one window,
so an echo further ahead is looked up under the bit of another number:
`accounted_iff_withinTwoWindows` is exact.
-/
import Netanvil.Theory.Trace
import Netanvil.Udp.LossTracker

namespace Netanvil.Udp

open Theory.Bitmap Theory.Trace LossTracker List Nat Set

/-! ## Runs -/

/-- A call on the tracker. -/
inductive Call where
  | send
  | receive (seq : Nat)
  | takeDeltas
  deriving DecidableEq

def LossTracker.step (t : LossTracker) : Call → LossTracker
  | .send => t.onSend.1
  | .receive seq => t.onReceive seq
  | .takeDeltas => t.takeDeltas.1

/-- The tracker after a list of calls. -/
def after (calls : List Call) : LossTracker := calls.foldl step new

/-- Every received sequence number is smaller than the number of sends made so far.
Nothing else is assumed of the echoes. -/
def Echoes : List Call → Prop :=
  Along fun earlier call => ∀ seq, call = .receive seq → seq < earlier.count .send

/-- The first echo of `seq` arrived while `seq` was at or above the base. -/
def CountedEcho (calls : List Call) (seq : Nat) : Prop :=
  ∃ earlier later, calls = earlier ++ .receive seq :: later ∧
    .receive seq ∉ earlier ∧ (after earlier).base ≤ seq

/-- `seq` is the most recent echo that was not behind the window. -/
def LastAccepted (calls : List Call) (seq : Nat) : Prop :=
  ∃ earlier later, calls = earlier ++ .receive seq :: later ∧ (after earlier).base ≤ seq ∧
    ∀ mid next rest, later = mid ++ .receive next :: rest →
      next < (after (earlier ++ .receive seq :: mid)).base

/-- The counters of the tracker after `calls` mean what they say. -/
structure Accounted (calls : List Call) : Prop where
  received : (after calls).totalReceived = ncard {seq | CountedEcho calls seq}
  lost : (after calls).totalLost =
    ncard {seq | seq < (after calls).totalSent ∧ seq < (after calls).base ∧ ¬ CountedEcho calls seq}
  conserved : (after calls).totalReceived + (after calls).totalLost +
      ncard {seq | seq < (after calls).totalSent ∧ (after calls).base ≤ seq ∧
        ¬ CountedEcho calls seq} = (after calls).totalSent
  once : ∀ seq, CountedEcho calls seq →
    (after (calls ++ [.receive seq])).totalReceived = (after calls).totalReceived
  recent : ∀ seq, LastAccepted calls seq →
    (after calls).base ≤ seq ∧ seq < (after calls).base + window

/-- No echo is two windows or more ahead of the base it finds. -/
def WithinTwoWindows : List Call → Prop :=
  Along fun earlier call => ∀ seq, call = .receive seq → seq < (after earlier).base + 2 * window

theorem after_snoc (calls : List Call) (c : Call) :
    after (calls ++ [c]) = (after calls).step c := by
  simp [after, foldl_append]

/-! ## The base -/

/-- A call moves the base forward, by at most one window, and only for an echo past the
window's end. -/
theorem onReceive_base (t : LossTracker) (seq : Nat) :
    (t.onReceive seq).base =
      if t.base + window ≤ seq then t.base + min (seq - t.base - window + 1) window
      else t.base := by
  unfold onReceive
  split
  · rename_i behind
    rw [if_neg (by omega)]
  · rename_i ahead
    rw [mark_base]
    unfold slideTo
    by_cases far : seq - t.base ≥ window
    · rw [if_pos far, advance_base, if_pos (by omega)]
    · rw [if_neg far, if_neg (by omega)]

theorem step_base_le (t : LossTracker) (c : Call) : t.base ≤ (t.step c).base := by
  cases c with
  | send | takeDeltas => exact le_refl _
  | receive seq =>
    simp only [step, onReceive_base]
    split <;> omega

theorem after_base_mono (earlier later : List Call) :
    (after earlier).base ≤ (after (earlier ++ later)).base := by
  induction later using reverseRecOn with
  | nil => simp
  | append_singleton later c ih =>
    rw [← append_assoc, after_snoc]
    exact ih.trans (step_base_le _ c)

/-! ## The history, one call at a time -/

theorem counted_snoc (calls : List Call) (c : Call) (seq : Nat) :
    CountedEcho (calls ++ [c]) seq ↔
      CountedEcho calls seq ∨
        (c = .receive seq ∧ .receive seq ∉ calls ∧ (after calls).base ≤ seq) := by
  unfold CountedEcho
  constructor
  · rintro ⟨earlier, later, split, first, low⟩
    rcases snoc_eq_append_cons.mp split with ⟨rfl, rfl, rfl⟩ | ⟨rest, rfl, rfl⟩
    · exact .inr ⟨rfl, first, low⟩
    · exact .inl ⟨earlier, rest, rfl, first, low⟩
  · rintro (⟨earlier, later, rfl, first, low⟩ | ⟨rfl, first, low⟩)
    · exact ⟨earlier, later ++ [c], by simp, first, low⟩
    · exact ⟨calls, [], rfl, first, low⟩

variable {calls : List Call} {seq base sent : Nat} {c : Call} (n : Nat)

theorem lastAccepted_snoc (last : LastAccepted (calls ++ [c]) seq) :
    (c = .receive seq ∧ (after calls).base ≤ seq) ∨
      (LastAccepted calls seq ∧ ∀ next, c = .receive next → next < (after calls).base) := by
  obtain ⟨earlier, later, split, low, none_⟩ := last
  rcases snoc_eq_append_cons.mp split with ⟨rfl, rfl, rfl⟩ | ⟨rest, rfl, rfl⟩
  · exact .inl ⟨rfl, low⟩
  · refine .inr ⟨⟨earlier, rest, rfl, low, ?_⟩, ?_⟩
    · rintro mid next tail rfl
      exact none_ mid next (tail ++ [c]) (by simp)
    · rintro next rfl
      exact none_ rest next [] rfl

theorem counted_receive (low : (after calls).base ≤ seq) (x : Nat) :
    CountedEcho (calls ++ [.receive seq]) x ↔ CountedEcho calls x ∨ x = seq := by
  rw [counted_snoc]
  constructor
  · rintro (counted | ⟨same, -, -⟩)
    · exact .inl counted
    · exact .inr (by simpa using same.symm)
  · rintro (counted | rfl)
    · exact .inl counted
    · by_cases member : .receive x ∈ calls
      · obtain ⟨earlier, later, rfl, first⟩ := eq_append_cons_of_mem member
        exact .inl ⟨earlier, later, rfl, first, (after_base_mono earlier _).trans low⟩
      · exact .inr ⟨rfl, member, low⟩

/-- Any other call leaves the counted numbers as they are. -/
theorem counted_other (other : ∀ seq, c = .receive seq → seq < (after calls).base)
    (x : Nat) : CountedEcho (calls ++ [c]) x ↔ CountedEcho calls x := by
  rw [counted_snoc]
  constructor
  · rintro (counted | ⟨rfl, -, low⟩)
    · exact counted
    · exact absurd (other x rfl) (by omega)
  · exact .inl

/-! ## The tracker represents the counted set -/

open Classical in
/-- `t` represents the set `R` of counted sequence numbers: the ring holds `R` on the
window, everything in `R` is below the window's end, and the two counters are the sizes
they should be. -/
structure Tracks (R : Nat → Prop) (t : LossTracker) : Prop where
  synced : t.Synced
  base_le : t.base ≤ t.totalSent
  ring : ∀ x, t.base ≤ x → x < t.base + window → (bit t.ring (x % window) = true ↔ R x)
  below : ∀ x, R x → x < t.base + window ∧ x < t.totalSent
  received : t.totalReceived = .count R t.totalSent
  lost : t.totalLost = .count (fun x => ¬ R x) t.base

namespace Tracks

variable {R R' : Nat → Prop} {t : LossTracker}

theorem init : Tracks (fun _ => False) new where
  synced := rfl
  base_le := le_refl _
  ring := by simp [new]
  below := by simp
  received := by simp [new]
  lost := by simp [new]

variable (tracks : Tracks R t)
include tracks

theorem congr (same : ∀ x, R' x ↔ R x) : Tracks R' t := by
  have : R' = R := funext fun x => propext (same x)
  rw [this]
  exact tracks

theorem onSend : Tracks R t.onSend.1 where
  synced := tracks.synced
  base_le := le_succ_of_le tracks.base_le
  ring := tracks.ring
  below := fun x counted => ⟨(tracks.below x counted).1, lt_succ_of_lt (tracks.below x counted).2⟩
  received := by
    -- the new number is not yet echoed
    classical
    have fresh : ¬ R t.totalSent := fun counted => lt_irrefl _ (tracks.below _ counted).2
    have counted := tracks.received
    simp only [LossTracker.onSend, count_succ, if_neg fresh, add_zero]
    convert counted
  lost := tracks.lost

theorem takeDeltas : Tracks R t.takeDeltas.1 where
  synced := tracks.synced
  base_le := tracks.base_le
  ring := tracks.ring
  below := tracks.below
  received := tracks.received
  lost := tracks.lost

/-- Sliding by at most a window, over numbers that were sent, keeps the counted set: the
evicted numbers are charged, and the bits they free stand for numbers past the old end,
none of which is counted yet. -/
theorem advance {count : Nat} (short : count ≤ window)
    (sent : t.base + count ≤ t.totalSent) : Tracks R (t.advance count) := by
  obtain ⟨synced, bits, lost⟩ := advance_spec tracks.synced short sent
  have base : (t.advance count).base = t.base + count := by
    rw [advance_base, min_eq_left short]
  refine ⟨synced, by rw [base]; exact sent, ?_, ?_, tracks.received, ?_⟩
  · intro x low high
    rw [base] at low high
    by_cases old : x < t.base + window
    · rw [bits x (by omega) old, ← tracks.ring x (by omega) old]
      simp [show ¬ x < t.base + count by omega]
    · -- `x` reuses the bit of the evicted `x - window`
      have reused := bits (x - window) (by omega) (by omega)
      have sameBit : (x - window) % window = x % window := by
        simp only [window_eq] at old ⊢
        omega
      rw [sameBit] at reused
      rw [reused]
      have notCounted : ¬ R x := fun counted => old (tracks.below x counted).1
      simp [notCounted, show x - window < t.base + count by omega]
  · intro x counted
    have := tracks.below x counted
    rw [base, advance_totalSent]
    omega
  · classical
    rw [lost, base, tracks.lost, count_add]
    congr 1
    apply count_congr
    intro k small
    rw [tracks.ring (t.base + k) (by omega) (by omega)]

variable {seq : Nat}

/-- After the slide for `seq` the number is in the window, provided it was less than two
windows ahead. -/
theorem slideTo (low : t.base ≤ seq) (sent : seq < t.totalSent) (near : seq < t.base + 2 * window) :
    Tracks R (t.slideTo seq) ∧ (t.slideTo seq).totalSent = t.totalSent ∧
      (t.slideTo seq).base ≤ seq ∧ seq < (t.slideTo seq).base + window := by
  by_cases far : seq - t.base ≥ window
  · have size := window_eq
    have lowNext : seq - window + 1 ≤ seq := by omega
    have highNext : seq < seq - window + 1 + window := by omega
    have short : seq - t.base - window + 1 ≤ window := by omega
    have inSent : t.base + (seq - t.base - window + 1) ≤ t.totalSent := by omega
    have slid : t.slideTo seq = t.advance (seq - t.base - window + 1) := if_pos far
    have base : (t.advance (seq - t.base - window + 1)).base = seq - window + 1 := by
      rw [advance_base, min_eq_left short]
      omega
    rw [slid, base]
    exact ⟨tracks.advance short inSent, advance_totalSent t _, lowNext, highNext⟩
  · have stays : t.slideTo seq = t := if_neg far
    rw [stays]
    exact ⟨tracks, rfl, low, by omega⟩

/-- Marking a number of the window adds it to the counted set. -/
theorem mark (low : t.base ≤ seq) (high : seq < t.base + window)
    (sent : seq < t.totalSent) : Tracks (fun x => R x ∨ x = seq) (t.mark seq) := by
  obtain ⟨head, totalLost, bits, received⟩ := mark_spec tracks.synced low
  have base := mark_base t seq
  have totalSent := mark_totalSent t seq
  refine ⟨?_, by rw [base, totalSent]; exact tracks.base_le, ?_, ?_, ?_, ?_⟩
  · unfold Synced
    rw [base, head]
    exact tracks.synced
  · intro x lowX highX
    rw [base] at lowX highX
    -- inside one window a ring position stands for one number only
    have place : x % window = seq % window ↔ x = seq := by
      simp only [window_eq] at high highX ⊢
      omega
    rw [bits, Bool.or_eq_true, decide_eq_true_eq, place, tracks.ring x lowX highX]
    exact or_comm
  · rintro x (counted | rfl)
    · rw [base, totalSent]
      exact tracks.below x counted
    · rw [base, totalSent]
      exact ⟨high, sent⟩
  · classical
    rw [received, totalSent, tracks.received]
    by_cases counted : R seq
    · rw [if_pos ((tracks.ring seq low high).mpr counted), add_zero]
      apply count_congr
      intro x _
      constructor
      · exact .inl
      · rintro (h | rfl)
        · exact h
        · exact counted
    · rw [if_neg (fun set => counted ((tracks.ring seq low high).mp set))]
      exact (count_insert sent counted).symm
  · classical
    rw [totalLost, base, tracks.lost]
    apply count_congr
    intro x small
    constructor
    · rintro absent (counted | rfl)
      · exact absent counted
      · omega
    · exact fun absent counted => absent (.inl counted)

/-- An echo of a number that was sent, less than two windows ahead of the base. -/
theorem onReceive (low : t.base ≤ seq) (sent : seq < t.totalSent)
    (near : seq < t.base + 2 * window) : Tracks (fun x => R x ∨ x = seq) (t.onReceive seq) := by
  obtain ⟨slid, sameSent, lowNext, highNext⟩ := tracks.slideTo low sent near
  have unfolded : t.onReceive seq = (t.slideTo seq).mark seq := if_neg (not_lt.mpr low)
  rw [unfolded]
  exact slid.mark lowNext highNext (by rw [sameSent]; exact sent)

end Tracks

/-! ## Every run -/

theorem after_totalSent (calls : List Call) : (after calls).totalSent = calls.count .send := by
  induction calls using reverseRecOn with
  | nil => rfl
  | append_singleton calls c ih =>
    rw [after_snoc, count_append, ← ih]
    cases c with
    | send | takeDeltas => rfl
    | receive seq =>
      simp only [step, onReceive, slideTo]
      split
      · rfl
      · rw [mark_totalSent]
        split <;> rfl

/-- Along every run whose echoes stay within two windows, the tracker represents the
counted numbers. -/
theorem after_tracks (echoes : Echoes calls) (near : WithinTwoWindows calls) :
    Tracks (CountedEcho calls) (after calls) := by
  induction calls using reverseRecOn with
  | nil =>
    refine Tracks.init.congr ?_
    rintro x
    simp [CountedEcho]
  | append_singleton calls c ih =>
    obtain ⟨echoes, sent⟩ := along_snoc.mp echoes
    obtain ⟨near, close⟩ := along_snoc.mp near
    have tracks := ih echoes near
    rw [after_snoc]
    cases c with
    | send => exact tracks.onSend.congr (counted_other (by simp))
    | takeDeltas => exact tracks.takeDeltas.congr (counted_other (by simp))
    | receive seq =>
      by_cases behind : seq < (after calls).base
      · have ignored : (after calls).step (.receive seq) = after calls := if_pos behind
        rw [ignored]
        refine tracks.congr (counted_other ?_)
        rintro next ⟨⟩
        exact behind
      · have low := not_lt.mp behind
        refine (tracks.onReceive low ?_ (close seq rfl)).congr (counted_receive low)
        rw [after_totalSent]
        exact sent seq rfl

/-- The most recently accepted number is in the window. -/
theorem lastAccepted_inWindow (near : WithinTwoWindows calls) (last : LastAccepted calls seq) :
    (after calls).base ≤ seq ∧ seq < (after calls).base + window := by
  induction calls using reverseRecOn with
  | nil =>
    obtain ⟨earlier, later, split, -⟩ := last
    simp at split
  | append_singleton calls c ih =>
    obtain ⟨near, close⟩ := along_snoc.mp near
    rw [after_snoc]
    rcases lastAccepted_snoc last with ⟨rfl, low⟩ | ⟨before, behind⟩
    · have twoWindows := close seq rfl
      have positive : 0 < window := by decide
      simp only [step, onReceive_base]
      split <;> omega
    · have still : ((after calls).step c).base = (after calls).base := by
        cases c with
        | send | takeDeltas => rfl
        | receive next =>
          have ignored := behind next rfl
          simp only [step, onReceive_base]
          rw [if_neg (by omega)]
      rw [still]
      exact ih near before

open Classical in
/-- The numbers sent, in or past the window and not yet counted. -/
theorem ncard_openEchoes {R : Nat → Prop} (low : base ≤ sent) :
    ncard {x | x < sent ∧ base ≤ x ∧ ¬ R x} =
      Nat.count (fun k => ¬ R (base + k)) (sent - base) := by
  have cut := Nat.count_add (fun x => x < sent ∧ base ≤ x ∧ ¬ R x) base (sent - base)
  have none_ : .count (fun x => x < sent ∧ base ≤ x ∧ ¬ R x) base = 0 := by
    rw [count_iff_forall_not]
    intro x small
    omega
  rw [Nat.add_sub_cancel' low, none_, Nat.zero_add] at cut
  rw [ncard_eq_count fun x (inSet : x < sent ∧ _) => inSet.1, cut]
  apply count_congr
  intro k small
  exact ⟨fun inSet => inSet.2.2, fun absent => ⟨by omega, by omega, absent⟩⟩

/-- The counters mean what they say when the tracker represents the counted numbers. -/
theorem accounted_of_withinTwoWindows (echoes : Echoes calls) (near : WithinTwoWindows calls) :
    Accounted calls := by
  classical
  have tracks := after_tracks echoes near
  have received : (after calls).totalReceived = ncard {seq | CountedEcho calls seq} := by
    rw [tracks.received, ncard_eq_count fun k counted => (tracks.below k counted).2]
  have lost : (after calls).totalLost =
      ncard {seq | seq < (after calls).totalSent ∧ seq < (after calls).base ∧
        ¬ CountedEcho calls seq} := by
    rw [tracks.lost, ncard_eq_count fun k (h : _ ∧ k < (after calls).base ∧ _) => h.2.1]
    apply count_congr
    intro k small
    exact ⟨fun h => ⟨small.trans_le tracks.base_le, small, h⟩, fun h => h.2.2⟩
  refine ⟨received, lost, ?_, ?_, fun seq => lastAccepted_inWindow near⟩
  · -- split the sent numbers into counted, lost and still open ones
    have all := count_add_count_not (CountedEcho calls) (after calls).totalSent
    have cut := count_add (fun x => ¬ CountedEcho calls x) (after calls).base
      ((after calls).totalSent - (after calls).base)
    rw [Nat.add_sub_cancel' tracks.base_le] at cut
    rw [ncard_openEchoes tracks.base_le, tracks.received, tracks.lost]
    omega
  · intro seq counted
    rw [after_snoc]
    -- a second echo of a counted number is not counted
    by_cases behind : seq < (after calls).base
    · have ignored : (after calls).onReceive seq = after calls := if_pos behind
      exact congrArg _ ignored
    · have low := not_lt.mp behind
      have high := (tracks.below seq counted).1
      have stays : (after calls).slideTo seq = after calls := if_neg (by omega)
      have unfolded : (after calls).onReceive seq = (after calls).mark seq := by
        rw [onReceive, if_neg behind, stays]
      obtain ⟨-, -, -, received⟩ := mark_spec tracks.synced low
      refine (congrArg _ unfolded).trans ?_
      rw [received, if_pos ((tracks.ring seq low high).mpr counted), add_zero]

theorem farEcho_outside (far : (after calls).base + 2 * window ≤ seq) :
    ¬ Accounted (calls ++ [.receive seq]) := by
  intro accounted
  have last : LastAccepted (calls ++ [.receive seq]) seq :=
    ⟨calls, [], rfl, by omega, by simp⟩
  have high := (accounted.recent seq last).2
  have capped : min (seq - (after calls).base - window + 1) window = window :=
    min_eq_right (by omega)
  rw [after_snoc, step, onReceive_base, if_pos (by omega), capped] at high
  omega

/-- **The loss accounting is exact on the runs without an echo two windows ahead, and on
no other**: the counters mean what they say after every call if and only if each echo
finds the base less than two windows behind it. -/
theorem accounted_iff_withinTwoWindows {calls : List Call} (echoes : Echoes calls) :
    (∀ done, done <+: calls → Accounted done) ↔ WithinTwoWindows calls := by
  constructor
  · rintro accounted earlier call later rfl seq rfl
    by_contra far
    refine farEcho_outside (not_lt.mp far) (accounted _ ?_)
    exact ⟨later, by simp⟩
  · intro near done cut
    exact accounted_of_withinTwoWindows (echoes.restrict cut) (near.restrict cut)

/-- Two sends echoed in reverse order: both sides hold. -/
theorem accounted_reordered :
    Echoes [.send, .send, .receive 1, .receive 0] ∧
      WithinTwoWindows [.send, .send, .receive 1, .receive 0] ∧
      ∀ done, done <+: [.send, .send, .receive 1, .receive 0] → Accounted done := by
  have echoes : Echoes
      ([] ++ [.send] ++ [.send] ++ [.receive 1] ++ [.receive 0]) := by
    simp only [Echoes, along_snoc, along_nil]
    simp
  have near : WithinTwoWindows
      ([] ++ [.send] ++ [.send] ++ [.receive 1] ++ [.receive 0]) := by
    simp only [WithinTwoWindows, along_snoc, along_nil, window_eq]
    simp
  exact ⟨echoes, near, (accounted_iff_withinTwoWindows echoes).mpr near⟩

theorem after_sends_base : (after (replicate n .send)).base = 0 := by
  induction n with
  | zero => rfl
  | succ n ih =>
    rw [replicate_succ', after_snoc]
    exact ih

theorem echoes_sends (sent : seq < n) : Echoes (replicate n .send ++ [.receive seq]) := by
  refine along_snoc.mpr ⟨?_, ?_⟩
  · rintro earlier call later split seq rfl
    have member : Call.receive seq ∈ replicate n Call.send := by rw [split]; simp
    exact absurd (eq_of_mem_replicate member) (by simp)
  · rintro seq ⟨⟩
    rwa [count_replicate_self]

/-- The boundary itself: 8193 datagrams are sent and only the last one is echoed. The
window slides to base 4096, one short of the echoed 8192. -/
theorem not_accounted_farEcho :
    Echoes (replicate 8193 .send ++ [.receive 8192]) ∧
      ¬ Accounted (replicate 8193 .send ++ [.receive 8192]) := by
  refine ⟨echoes_sends 8193 (by omega), farEcho_outside ?_⟩
  rw [after_sends_base, window_eq]

end Netanvil.Udp
