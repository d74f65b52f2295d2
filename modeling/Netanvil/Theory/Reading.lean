/-
# Reading values off a stream that arrives in pieces

A `Reader` is given how much has been read so far and what is there of the stream. It
finishes with a value and what it left, it fails, or it waits for more. Once it has finished,
bytes that arrive later do not change what it read (`Stable`); in front of any rest, it takes
exactly `e` (`ReadsOff r e P`). So it does not finish before all of `e` is there
(`ReadsOff.whole`). A failure too may be `Final`, and then what waits with more of the stream
there waits with less (`Final.waits`).
-/
import Mathlib.Tactic

namespace Netanvil.Theory

open List Nat

inductive Read (γ α : Type) where
  | pending
  | failed (message : String)
  /-- The value, how much has been read in total, and what is left. -/
  | done (value : α) (total : Nat) (rest : List γ)

abbrev Reader (γ α : Type) : Type := Nat → List γ → Read γ α

namespace Reader

variable {γ α δ : Type}

def give (value : α) : Reader γ α := fun total stream => .done value total stream

def fail (message : String) : Reader γ α := fun _ _ => .failed message

def andThen (first : Reader γ α) (next : α → Reader γ δ) : Reader γ δ := fun total stream =>
  match first total stream with
  | .pending => .pending
  | .failed message => .failed message
  | .done value total rest => next value total rest

/-- Fail at once if so much has been read. -/
def guarded (refused : Nat → Bool) (message : String) (r : Reader γ α) : Reader γ α :=
  fun total stream => if refused total then .failed message else r total stream

def exactly (n : Nat) : Reader γ (List γ) := fun total stream =>
  if stream.length < n then .pending else .done (stream.take n) (total + n) (stream.drop n)

/-- The same reader so many times. -/
def times (r : Reader γ α) : Nat → Reader γ (List α)
  | 0 => give []
  | n + 1 => r.andThen fun value => (times r n).andThen fun values => give (value :: values)

variable {e stream rest left e' : List γ} {r : Reader γ α} {P : α → Prop}
  {first first' r' : Reader γ α} {next next' : α → Reader γ δ} {total total' read : Nat}

/-- A finished read of `first.andThen next` is a finished read of both. -/
theorem andThen_done {value : δ}
    (finished : first.andThen next total stream = .done value total' rest) :
    ∃ middle read left, first total stream = .done middle read left ∧
      next middle read left = .done value total' rest := by
  unfold andThen at finished
  cases taken : first total stream with
  | pending | failed message => rw [taken] at finished; cases finished
  | done middle read left =>
    rw [taken] at finished
    exact ⟨middle, read, left, rfl, finished⟩

theorem andThen_of_done {middle : α} (taken : first total stream = .done middle read left) :
    first.andThen next total stream = next middle read left := by
  simp only [andThen, taken]

/-! ## Readers that later bytes do not disturb -/

/-- A finished read leaves a suffix of the stream, and finishes in the same way if more
of the stream is there. -/
def Stable (r : Reader γ α) : Prop :=
  ∀ total stream value total' rest, r total stream = .done value total' rest →
    rest <:+ stream ∧ ∀ more, r total (stream ++ more) = .done value total' (rest ++ more)

theorem stable_give (value : α) : Stable (give value : Reader γ α) := by
  intro total stream value' total' rest finished
  cases finished
  exact ⟨suffix_rfl, fun more => rfl⟩

variable (message : String) {value : α}

theorem stable_fail : Stable (fail message : Reader γ α) := by
  intro total stream value total' rest finished
  cases finished

theorem Stable.andThen (stable : Stable first) (stableNext : ∀ value, Stable (next value)) :
    Stable (first.andThen next) := by
  intro total stream value total' rest finished
  obtain ⟨middle, read, left, taken, finished⟩ := andThen_done finished
  obtain ⟨suffix, extended⟩ := stable _ _ _ _ _ taken
  obtain ⟨suffixNext, extendedNext⟩ := stableNext _ _ _ _ _ _ finished
  refine ⟨suffixNext.trans suffix, fun more => ?_⟩
  rw [andThen_of_done (extended more)]
  exact extendedNext more

theorem Stable.guarded (stable : Stable r) (refused : Nat → Bool) (message : String) :
    Stable (r.guarded refused message) := by
  intro total stream value total' rest finished
  unfold Reader.guarded at finished ⊢
  cases refuses : refused total with
  | true => rw [refuses] at finished; cases finished
  | false =>
    rw [refuses] at finished
    exact stable _ _ _ _ _ finished

theorem stable_exactly (n : Nat) : Stable (exactly n : Reader γ (List γ)) := by
  intro total stream value total' rest finished
  unfold exactly at finished ⊢
  by_cases short : stream.length < n
  · rw [if_pos short] at finished; cases finished
  · rw [if_neg short] at finished
    cases finished
    refine ⟨drop_suffix _ _, fun more => ?_⟩
    have enough : n ≤ stream.length := Nat.le_of_not_lt short
    rw [if_neg (by simp only [length_append]; omega),
      take_append_of_le_length enough, drop_append_of_le_length enough]

theorem Stable.times (stable : Stable r) (n : Nat) : Stable (r.times n) := by
  induction n with
  | zero => exact stable_give _
  | succ n ih => exact stable.andThen fun value => ih.andThen fun values => stable_give _

/-! ## Readers that take exactly one encoding -/

/-- In front of any rest the reader takes `e`, and what it makes of it is as `P` says. -/
def ReadsOff (r : Reader γ α) (e : List γ) (P : α → Prop) : Prop :=
  ∀ total rest value total' rest', r total (e ++ rest) = .done value total' rest' →
    P value ∧ total' = total + e.length ∧ rest' = rest

theorem readsOff_give (holds : P value) : ReadsOff (give value : Reader γ α) [] P := by
  intro total rest value' total' rest' finished
  cases finished
  exact ⟨holds, rfl, rfl⟩

theorem readsOff_fail (e : List γ) (P : α → Prop) : ReadsOff (fail message : Reader γ α) e P := by
  intro total rest value total' rest' finished
  cases finished

theorem ReadsOff.andThen {Q : δ → Prop} (reads : ReadsOff first e P)
    (readsNext : ∀ value, P value → ReadsOff (next value) e' Q) :
    ReadsOff (first.andThen next) (e ++ e') Q := by
  intro total rest value total' rest' finished
  rw [append_assoc] at finished
  obtain ⟨middle, read, left, taken, finished⟩ := andThen_done finished
  obtain ⟨holds, rfl, rfl⟩ := reads _ _ _ _ _ taken
  obtain ⟨holdsNext, rfl, rfl⟩ := readsNext _ holds _ _ _ _ _ finished
  exact ⟨holdsNext, by rw [length_append, Nat.add_assoc], rfl⟩

theorem ReadsOff.guarded (reads : ReadsOff r e P) (refused : Nat → Bool) (message : String) :
    ReadsOff (r.guarded refused message) e P := by
  intro total rest value total' rest' finished
  unfold Reader.guarded at finished
  cases refuses : refused total with
  | true => rw [refuses] at finished; cases finished
  | false =>
    rw [refuses] at finished
    exact reads _ _ _ _ _ finished

theorem readsOff_exactly (e : List γ) : ReadsOff (exactly e.length) e (· = e) := by
  intro total rest value total' rest' finished
  unfold exactly at finished
  rw [if_neg (by simp)] at finished
  simp only [take_left, drop_left] at finished
  cases finished
  exact ⟨rfl, rfl, rfl⟩

/-- One encoding after the other. -/
theorem readsOff_times {encodings : List (List γ)} {values : List α}
    (reads : List.Forall₂ (fun e value => ReadsOff r e (· = value)) encodings values) :
    ReadsOff (r.times encodings.length) encodings.flatten (· = values) := by
  induction reads with
  | nil => exact readsOff_give rfl
  | @cons e value encodings values readsFirst _ ih =>
    refine readsFirst.andThen ?_
    rintro _ rfl
    rw [← append_nil encodings.flatten]
    refine ih.andThen ?_
    rintro _ rfl
    exact readsOff_give rfl

/-- A stable reader that has finished within an encoding has read all of it. -/
theorem ReadsOff.whole (reads : ReadsOff r e P) (stable : Stable r)
    (part : stream <+: e) (finished : r total stream = .done value total' rest) :
    stream = e ∧ P value ∧ total' = total + e.length ∧ rest = [] := by
  obtain ⟨more, rfl⟩ := part
  have extended := (stable _ _ _ _ _ finished).2 more
  rw [← append_nil (stream ++ more)] at extended
  obtain ⟨holds, read, nothing⟩ := reads _ _ _ _ _ extended
  obtain ⟨noRest, noMore⟩ := append_eq_nil_iff.mp nothing
  exact ⟨by rw [noMore, append_nil], holds, read, noRest⟩

/-! ## Agreement up to a length -/

/-- Two readers do the same with every stream shorter than `n`. -/
def AgreeBelow (n : Nat) (r r' : Reader γ α) : Prop :=
  ∀ total stream, stream.length < n → r total stream = r' total stream

theorem AgreeBelow.andThen {n : Nat} (stable : Stable first) (agree : AgreeBelow n first first')
    (agreeNext : ∀ value, AgreeBelow n (next value) (next' value)) :
    AgreeBelow n (first.andThen next) (first'.andThen next') := by
  intro total stream short
  unfold Reader.andThen
  rw [← agree total stream short]
  cases taken : first total stream with
  | pending | failed message => rfl
  | done value read rest =>
    have shorter := (stable _ _ _ _ _ taken).1.length_le
    exact agreeNext value read rest (Nat.lt_of_le_of_lt shorter short)

theorem AgreeBelow.times {n : Nat} (stable : Stable r)
    (agree : AgreeBelow n r r') (count : Nat) : AgreeBelow n (r.times count) (r'.times count) := by
  induction count with
  | zero => exact fun total stream short => rfl
  | succ count ih =>
    refine AgreeBelow.andThen stable agree fun value => ?_
    exact AgreeBelow.andThen (stable.times count) ih fun values total stream short => rfl

/-! ## Readers that wait -/

/-- A failure stays one if more of the stream is there. -/
def Final (r : Reader γ α) : Prop :=
  ∀ total stream message, r total stream = .failed message →
    ∀ more, r total (stream ++ more) = .failed message

theorem final_give (value : α) : Final (give value : Reader γ α) := by
  intro total stream message failed
  cases failed

theorem final_fail : Final (fail message : Reader γ α) := fun _ _ _ failed _ => failed

theorem final_exactly (n : Nat) : Final (exactly n : Reader γ (List γ)) := by
  intro total stream message failed
  unfold exactly at failed
  split at failed <;> cases failed

theorem Final.andThen (final : Final first) (stable : Stable first)
    (finalNext : ∀ value, Final (next value)) : Final (first.andThen next) := by
  intro total stream message failed more
  unfold Reader.andThen at failed ⊢
  cases taken : first total stream with
  | pending => rw [taken] at failed; cases failed
  | failed message' =>
    rw [taken] at failed
    rw [final _ _ _ taken]
    exact failed
  | done middle read left =>
    rw [taken] at failed
    rw [(stable _ _ _ _ _ taken).2]
    exact finalNext _ _ _ _ failed more

theorem Final.guarded (final : Final r) (refused : Nat → Bool) (message : String) :
    Final (r.guarded refused message) := by
  intro total stream message' failed more
  unfold Reader.guarded at failed ⊢
  split_ifs at failed ⊢
  · exact failed
  · exact final _ _ _ failed more

theorem Final.times (final : Final r) (stable : Stable r) (n : Nat) : Final (r.times n) := by
  induction n with
  | zero => exact final_give _
  | succ n ih =>
    exact final.andThen stable fun value =>
      ih.andThen (stable.times n) fun values => final_give _

/-- What waits with more of the stream there waits with less. -/
theorem Final.waits (final : Final r) (stable : Stable r)
    (waiting : r total (stream ++ left) = .pending) : r total stream = .pending := by
  cases taken : r total stream with
  | pending => rfl
  | failed message => cases waiting.symm.trans (final _ _ _ taken left)
  | done value total' rest => cases waiting.symm.trans ((stable _ _ _ _ _ taken).2 left)

theorem andThen_pending : first.andThen next total stream = .pending ↔
    first total stream = .pending ∨
      ∃ value read rest, first total stream = .done value read rest ∧
        next value read rest = .pending := by
  unfold andThen
  cases first total stream <;> simp

theorem andThen_assoc {ε : Type} {last : δ → Reader γ ε} :
    (first.andThen next).andThen last = first.andThen fun value => (next value).andThen last := by
  funext total stream
  simp only [andThen]
  cases first total stream <;> rfl

theorem times_succ_pending {n : Nat} : r.times (n + 1) total stream = .pending ↔
    r.andThen (fun _ => r.times n) total stream = .pending := by
  simp [times, andThen_pending, give]

theorem times_pending {n m : Nat} : r.times (n + m) total stream = .pending ↔
    r.times n total stream = .pending ∨
      ∃ values read rest, r.times n total stream = .done values read rest ∧
        r.times m read rest = .pending := by
  induction n generalizing total stream with
  | zero => simp [times, give]
  | succ n ih =>
    rw [succ_add]
    cases taken : r total stream with
    | pending | failed message => simp [times, andThen, taken]
    | done value read rest =>
      rw [times_succ_pending, andThen_of_done taken, ih]
      cases again : r.times n read rest <;> simp [times, andThen, give, taken, again]

/-! ## Readers that count -/

/-- A read adds what it takes to the total. -/
def Counts (r : Reader γ α) : Prop :=
  ∀ total stream value total' rest, r total stream = .done value total' rest →
    total' + rest.length = total + stream.length

theorem counts_give (value : α) : Counts (give value : Reader γ α) := by
  rintro _ _ _ _ _ ⟨⟩
  rfl

theorem counts_fail : Counts (fail message : Reader γ α) := by
  rintro _ _ _ _ _ ⟨⟩

theorem Counts.andThen (counts : Counts first) (countsNext : ∀ value, Counts (next value)) :
    Counts (first.andThen next) := by
  intro total stream value total' rest finished
  obtain ⟨middle, read, left, taken, finished⟩ := andThen_done finished
  exact (countsNext _ _ _ _ _ _ finished).trans (counts _ _ _ _ _ taken)

theorem Counts.times (counts : Counts r) (n : Nat) : Counts (r.times n) := by
  induction n with
  | zero => exact counts_give _
  | succ n ih => exact counts.andThen fun value => ih.andThen fun values => counts_give _

end Reader

end Netanvil.Theory
