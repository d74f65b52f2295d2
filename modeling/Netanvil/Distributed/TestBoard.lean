/-
# What becomes of tests, in the abstract

The leader keeps a test's state in four places: the line of waiting tests, the running test, the
list shown to users and the index on disk. A board is these four, with a record of the tests
that were put in line and taken up. `Orderly` holds whatever happens. The four places agree
(`Coherent`) if at restarts nothing that is stored is still waiting or running (`Clean`).
-/
import Netanvil.Distributed.ResultStore

namespace Netanvil.Distributed

open List Prod Option

/-- Waiting and running tests are marked with whether they are stored. -/
structure Board where
  pending : List (TestId × Bool)
  running : Option (TestId × Bool)
  status : TestId → Option TestStatus
  stored : TestId → Option TestStatus
  enqueued : List TestId
  dequeued : List TestId

namespace Board

def pendingIds (b : Board) : List TestId := b.pending.map fst

/-- A new test, at the end of the line. -/
def enqueue (b : Board) (id : TestId) (kept : Bool) : Board :=
  { b with
    pending := b.pending ++ [(id, kept)]
    status := fun x => if x = id then (b.status id).or (some .queued) else b.status x
    stored := fun x => if kept ∧ x = id then some .queued else b.stored x
    enqueued := b.enqueued ++ [id] }

/-- A test's listed status becomes `st`, and its stored one if it is stored. -/
def settle (b : Board) (id : TestId) (kept : Bool) (st : TestStatus) : Board :=
  { b with
    status := fun x => if x = id then (b.status id).map fun _ => st else b.status x
    stored := fun x => if kept ∧ x = id then some st else b.stored x }

/-- A waiting test leaves the line for good. -/
def withdraw (b : Board) (id : TestId) (kept : Bool) : Board :=
  { b.settle id kept .cancelled with pending := b.pending.eraseP fun e => e.1 = id }

/-- The first test in line is taken up, if none is running. -/
def dequeue (b : Board) : Board :=
  match b.running, b.pending with
  | none, (id, kept) :: rest =>
    { b.settle id false .running with
      pending := rest
      running := some (id, kept)
      dequeued := b.dequeued ++ [id] }
  | _, _ => b

/-- The running test ends with status `st`. -/
def finish (b : Board) (st : TestStatus) : Board :=
  match b.running with
  | some (id, kept) => { b.settle id kept st with running := none }
  | none => b

/-- A new process. -/
def restart (b : Board) : Board := { b with pending := [], running := none, status := b.stored }

/-- Nothing that is stored is waiting or running. -/
structure Clean (b : Board) : Prop where
  pending : ∀ id, (id, true) ∉ b.pending
  running : ∀ id, b.running ≠ some (id, true)

/-- Something happens on the board, other than a restart. An enqueued test is new. -/
inductive Step : Board → Board → Prop where
  | enqueue (b : Board) (id : TestId) (kept : Bool) (fresh : id ∉ b.enqueued) :
      Step b (b.enqueue id kept)
  | withdraw (b : Board) (id : TestId) (kept : Bool) (waits : (id, kept) ∈ b.pending) :
      Step b (b.withdraw id kept)
  | dequeue (b : Board) : Step b b.dequeue
  | finish (b : Board) (st : TestStatus) (terminal : st.isTerminal = true) : Step b (b.finish st)
  | stay (b : Board) : Step b b

/-! ## Whatever happens -/

/-- The line has each test once and in order, the running test has left it, and both are
stored as queued if they are stored at all. -/
structure Orderly (b : Board) : Prop where
  distinct : b.pendingIds.Nodup
  order : (b.dequeued ++ b.pendingIds).Sublist b.enqueued
  apart : ∀ id kept, b.running = some (id, kept) → id ∉ b.pendingIds
  runningKnown : ∀ id kept, b.running = some (id, kept) → id ∈ b.enqueued
  listedKnown : ∀ id, b.status id ≠ none → id ∈ b.enqueued
  storedKnown : ∀ id, b.stored id ≠ none → id ∈ b.enqueued
  waiting : ∀ id, (id, true) ∈ b.pending → b.stored id = some .queued
  started : ∀ id, b.running = some (id, true) → b.stored id = some .queued

section

variable {b : Board} {id : TestId} {kept : Bool}

theorem mem_pendingIds (waits : (id, kept) ∈ b.pending) : id ∈ b.pendingIds :=
  mem_map_of_mem waits

theorem Orderly.pendingKnown (orderly : b.Orderly) (waits : id ∈ b.pendingIds) : id ∈ b.enqueued :=
  orderly.order.subset (mem_append_right _ waits)

/-- A test that is not known yet is nowhere on the board. -/
theorem Orderly.status_of_fresh (orderly : b.Orderly) (fresh : id ∉ b.enqueued) :
    b.status id = none :=
  by_contra fun listed => fresh (orderly.listedKnown id listed)

end

section

variable {b : Board} {id : TestId} {kept : Bool}

theorem withdraw_pendingIds : (b.withdraw id kept).pendingIds = b.pendingIds.erase id := by
  have erased : ∀ l : List (TestId × Bool),
      (l.eraseP fun e => e.1 = id).map fst = (l.map fst).erase id := by
    intro l
    induction l with
    | nil => rfl
    | cons e rest ih =>
      by_cases here : e.1 = id
      · simp [here]
      · have other : (e.1 == id) = false := by simpa using here
        simp [here, other, ih]
  exact erased b.pending

/-- The others stay in line. -/
theorem mem_withdraw_pending (distinct : b.pendingIds.Nodup) {e : TestId × Bool} :
    e ∈ (b.withdraw id kept).pending ↔ e ∈ b.pending ∧ e.1 ≠ id := by
  constructor
  · intro member
    have before : e ∈ b.pending := mem_of_mem_eraseP member
    refine ⟨before, fun own => ?_⟩
    have left : e.1 ∈ (b.withdraw id kept).pendingIds := mem_map_of_mem member
    rw [withdraw_pendingIds, own] at left
    exact (distinct.mem_erase_iff.mp left).1 rfl
  · rintro ⟨member, other⟩
    exact (mem_eraseP_of_neg (p := fun e => decide (e.1 = id)) (by simpa using other)).mpr member

end

variable {b : Board} {id x : TestId}

theorem orderly_enqueue (orderly : b.Orderly) {kept : Bool} (fresh : id ∉ b.enqueued) :
    (b.enqueue id kept).Orderly := by
  have ids : (b.enqueue id kept).pendingIds = b.pendingIds ++ [id] := by
    simp [enqueue, pendingIds]
  have away : id ∉ b.pendingIds := fun waits => fresh (orderly.pendingKnown waits)
  refine ⟨?_, ?_, ?_, ?_, ?_, ?_, ?_, ?_⟩
  · rw [ids, ← concat_eq_append]
    exact orderly.distinct.concat away
  · show (b.dequeued ++ (b.enqueue id kept).pendingIds).Sublist (b.enqueued ++ [id])
    rw [ids, ← append_assoc]
    exact orderly.order.append_right [id]
  · intro r mark runs inLine
    rw [ids, mem_append, mem_singleton] at inLine
    rcases inLine with waits | rfl
    · exact orderly.apart r mark runs waits
    · exact fresh (orderly.runningKnown r mark runs)
  · intro r mark runs
    exact mem_append_left _ (orderly.runningKnown r mark runs)
  · intro x listed
    show x ∈ b.enqueued ++ [id]
    by_cases own : x = id
    · simp [own]
    · have before : b.status x ≠ none := by simpa [enqueue, own] using listed
      exact mem_append_left _ (orderly.listedKnown x before)
  · intro x listed
    show x ∈ b.enqueued ++ [id]
    by_cases own : x = id
    · simp [own]
    · have before : b.stored x ≠ none := by simpa [enqueue, own] using listed
      exact mem_append_left _ (orderly.storedKnown x before)
  · intro x waits
    simp only [enqueue, mem_append, mem_singleton, Prod.mk.injEq] at waits ⊢
    rcases waits with before | ⟨rfl, rfl⟩
    · have other : x ≠ id := fun own => away (own ▸ mem_pendingIds before)
      rw [if_neg (by simp [other])]
      exact orderly.waiting x before
    · simp
  · intro x runs
    have other : x ≠ id := fun own => fresh (own ▸ orderly.runningKnown x true runs)
    simpa [enqueue, other] using orderly.started x runs

/-- Settling a known test makes no other one known. -/
theorem settle_known (orderly : b.Orderly) (known : id ∈ b.enqueued) (kept : Bool)
    (st : TestStatus) : (∀ x, (b.settle id kept st).status x ≠ none → x ∈ b.enqueued) ∧
      ∀ x, (b.settle id kept st).stored x ≠ none → x ∈ b.enqueued := by
  constructor
  all_goals
    intro x listed
    by_cases own : x = id
    · exact own ▸ known
  · exact orderly.listedKnown x (by simpa [settle, own] using listed)
  · exact orderly.storedKnown x (by simpa [settle, own] using listed)

theorem settle_stored_of_ne (other : x ≠ id) (kept : Bool) (st : TestStatus) :
    (b.settle id kept st).stored x = b.stored x := by
  simp [settle, other]

theorem settle_status_of_ne (other : x ≠ id) (kept : Bool) (st : TestStatus) :
    (b.settle id kept st).status x = b.status x := by
  simp [settle, other]

theorem withdraw_status_of_ne (other : x ≠ id) (kept : Bool) :
    (b.withdraw id kept).status x = b.status x := settle_status_of_ne other kept .cancelled

section

variable (orderly : b.Orderly)
include orderly

theorem orderly_dequeue : b.dequeue.Orderly := by
  unfold dequeue
  split
  · rename_i id kept rest idle line
    have ids : b.pendingIds = id :: rest.map fst := by simp [pendingIds, line]
    obtain ⟨left, distinct⟩ := nodup_cons.mp (ids ▸ orderly.distinct)
    have known : id ∈ b.enqueued := orderly.pendingKnown (by simp [ids])
    obtain ⟨listed, stored⟩ := settle_known orderly known false .running
    refine ⟨distinct, ?_, ?_, ?_, listed, stored, ?_, ?_⟩
    · show ((b.dequeued ++ [id]) ++ rest.map fst).Sublist b.enqueued
      have order := orderly.order
      rw [ids] at order
      simpa using order
    · rintro r mark ⟨⟩
      exact left
    · rintro r mark ⟨⟩
      exact known
    · intro x waits
      simpa [settle] using orderly.waiting x (by simp [line, waits])
    · intro x runs
      cases runs
      simpa [settle] using orderly.waiting id (by simp [line])
  · exact orderly

theorem orderly_finish (st : TestStatus) : (b.finish st).Orderly := by
  unfold finish
  split
  · rename_i id kept runs
    obtain ⟨listed, stored⟩ := settle_known orderly (orderly.runningKnown id kept runs) kept st
    refine ⟨orderly.distinct, orderly.order, nofun, nofun, listed, stored, ?_, nofun⟩
    intro x waits
    have other : x ≠ id := by
      rintro rfl
      exact orderly.apart x kept runs (mem_pendingIds waits)
    exact (settle_stored_of_ne other kept st).trans (orderly.waiting x waits)
  · exact orderly

theorem orderly_restart : b.restart.Orderly := by
  refine ⟨nodup_nil, ?_, nofun, nofun, orderly.storedKnown, orderly.storedKnown, nofun, nofun⟩
  show (b.dequeued ++ []).Sublist b.enqueued
  exact ((nil_sublist _).append_left _).trans orderly.order

/-- **Every change keeps the board orderly.** -/
theorem orderly_step {b' : Board} (step : Step b b') : b'.Orderly := by
  cases step with
  | enqueue id kept fresh => exact orderly_enqueue orderly fresh
  | withdraw id kept waits =>
    obtain ⟨listed, stored⟩ :=
      settle_known orderly (orderly.pendingKnown (mem_pendingIds waits)) kept .cancelled
    refine ⟨?_, ?_, ?_, orderly.runningKnown, listed, stored, ?_, ?_⟩
    · rw [withdraw_pendingIds]
      exact orderly.distinct.erase id
    · rw [withdraw_pendingIds]
      exact ((erase_sublist).append_left b.dequeued).trans orderly.order
    · intro r mark runs inLine
      rw [withdraw_pendingIds] at inLine
      exact orderly.apart r mark runs (mem_of_mem_erase inLine)
    · intro x inLine
      obtain ⟨before, other⟩ := (mem_withdraw_pending orderly.distinct).mp inLine
      exact (settle_stored_of_ne other kept .cancelled).trans (orderly.waiting x before)
    · intro x runs
      have other : x ≠ id := by
        rintro rfl
        exact orderly.apart x true runs (mem_pendingIds waits)
      exact (settle_stored_of_ne other kept .cancelled).trans (orderly.started x runs)
  | dequeue => exact orderly_dequeue orderly
  | finish st terminal => exact orderly_finish orderly st
  | stay => exact orderly

end

/-! ## Clean restarts -/

/-- The four places agree: listed as queued is being in line, listed as running is being
the running test, and what is stored is stored as queued until the test has ended, then
as it is listed. -/
structure Coherent (b : Board) : Prop where
  queued : ∀ id, b.status id = some .queued ↔ id ∈ b.pendingIds
  running : ∀ id, b.status id = some .running ↔ ∃ kept, b.running = some (id, kept)
  persisted : ∀ id st, b.stored id = some st →
    (st = .queued ∧ ((id, true) ∈ b.pending ∨ b.running = some (id, true))) ∨
      (st.isTerminal = true ∧ b.status id = some st)

section

variable {b : Board} {id : TestId} {kept : Bool} {st st' : TestStatus}

/-- What settling a listed test does to the list. -/
theorem settle_status (listed : b.status id ≠ none) (kept : Bool) (st : TestStatus) :
    (b.settle id kept st).status id = some st := by
  obtain ⟨old, found⟩ := ne_none_iff_exists'.mp listed
  simp [settle, found]

theorem settle_stored (mark : kept = false → b.stored id = none)
    (found : (b.settle id kept st).stored id = some st') : st' = st := by
  cases kept with
  | true => simpa [settle, eq_comm] using found
  | false => simp [settle, mark rfl] at found

variable (coherent : b.Coherent)
include coherent

/-- A test that has ended neither waits nor runs. -/
theorem Coherent.away_of_terminal (terminal : st.isTerminal = true)
    (listed : b.status id = some st) : id ∉ b.pendingIds ∧ ∀ mark, b.running ≠ some (id, mark) := by
  constructor
  · intro waits
    rw [(coherent.queued id).mpr waits] at listed
    cases listed
    cases terminal
  · intro mark runs
    rw [(coherent.running id).mpr ⟨mark, runs⟩] at listed
    cases listed
    cases terminal

theorem coherent_enqueue (orderly : b.Orderly) (fresh : id ∉ b.enqueued) :
    (b.enqueue id kept).Coherent := by
  have unlisted := orderly.status_of_fresh fresh
  have own : (b.enqueue id kept).status id = some .queued := by simp [enqueue, unlisted]
  have others : ∀ {x}, x ≠ id → (b.enqueue id kept).status x = b.status x := by
    intro x other
    simp [enqueue, other]
  have ids : ∀ x, x ∈ (b.enqueue id kept).pendingIds ↔ x ∈ b.pendingIds ∨ x = id := by
    intro x
    simp [enqueue, pendingIds]
  refine ⟨?_, ?_, ?_⟩
  · intro x
    rw [ids]
    by_cases same : x = id
    · simp [same, own]
    · simp [same, others same, coherent.queued x]
  · intro x
    show _ ↔ ∃ mark, b.running = some (x, mark)
    by_cases same : x = id
    · subst same
      rw [own]
      refine iff_of_false (by decide) ?_
      rintro ⟨mark, runs⟩
      exact fresh (orderly.runningKnown x mark runs)
    · rw [others same, coherent.running x]
  · intro x st found
    by_cases same : x = id
    · subst same
      have absent : b.stored x = none := by
        by_contra listed
        exact fresh (orderly.storedKnown x listed)
      have mark : kept = true ∧ st = .queued := by
        cases kept <;> simp_all [enqueue]
      exact .inl ⟨mark.2, .inl (by simp [enqueue, mark.1])⟩
    · have before : b.stored x = some st := by simpa [enqueue, same] using found
      rw [others same]
      refine (coherent.persisted x st before).imp_left ?_
      rintro ⟨queued, inLine | runs⟩
      · exact ⟨queued, .inl (mem_append_left _ inLine)⟩
      · exact ⟨queued, .inr runs⟩

theorem coherent_withdraw (orderly : b.Orderly)
    (waits : (id, kept) ∈ b.pending) : (b.withdraw id kept).Coherent := by
  have queued := (coherent.queued id).mpr (mem_pendingIds waits)
  have own : (b.withdraw id kept).status id = some .cancelled :=
    settle_status (by simp [queued]) kept .cancelled
  refine ⟨?_, ?_, ?_⟩
  · intro x
    rw [withdraw_pendingIds, orderly.distinct.mem_erase_iff]
    by_cases same : x = id
    · simp [same, own]
    · rw [withdraw_status_of_ne same, coherent.queued x]
      simp [same]
  · intro x
    show _ ↔ ∃ mark, b.running = some (x, mark)
    by_cases same : x = id
    · subst same
      rw [own]
      refine iff_of_false (by decide) ?_
      rintro ⟨mark, runs⟩
      exact orderly.apart x mark runs (mem_pendingIds waits)
    · rw [withdraw_status_of_ne same, coherent.running x]
  · intro x st found
    by_cases same : x = id
    · subst same
      have ended : st = .cancelled := by
        refine settle_stored (fun unstored => ?_) found
        rw [unstored] at waits
        by_contra listed
        obtain ⟨st, found⟩ := ne_none_iff_exists'.mp listed
        rcases coherent.persisted _ st found with ⟨-, inLine | runs⟩ | ⟨terminal, status⟩
        · cases inj_on_of_nodup_map orderly.distinct waits inLine rfl
        · exact orderly.apart _ true runs (mem_pendingIds waits)
        · exact (coherent.away_of_terminal terminal status).1 (mem_pendingIds waits)
      exact .inr ⟨ended ▸ rfl, ended ▸ own⟩
    · have before : b.stored x = some st :=
        (settle_stored_of_ne same kept .cancelled).symm.trans found
      rw [withdraw_status_of_ne same]
      refine (coherent.persisted x st before).imp_left ?_
      rintro ⟨queued, inLine | runs⟩
      · exact ⟨queued, .inl ((mem_withdraw_pending orderly.distinct).mpr ⟨inLine, same⟩)⟩
      · exact ⟨queued, .inr runs⟩

theorem coherent_dequeue (orderly : b.Orderly) : b.dequeue.Coherent := by
  unfold dequeue
  split
  · rename_i id kept rest idle line
    have ids : b.pendingIds = id :: rest.map fst := by simp [pendingIds, line]
    obtain ⟨left, -⟩ := nodup_cons.mp (ids ▸ orderly.distinct)
    have queued := (coherent.queued id).mpr (by simp [ids])
    have own : (b.settle id false .running).status id = some .running :=
      settle_status (by simp [queued]) false .running
    refine ⟨?_, ?_, ?_⟩
    · intro x
      show (b.settle id false .running).status x = _ ↔ x ∈ rest.map fst
      by_cases same : x = id
      · rw [same, own]
        exact iff_of_false (by decide) left
      · rw [settle_status_of_ne same, coherent.queued x, ids]
        simp only [mem_cons, same, false_or]
    · intro x
      show (b.settle id false .running).status x = _ ↔ ∃ mark, some (id, kept) = some (x, mark)
      by_cases same : x = id
      · rw [same, own]
        exact iff_of_true rfl ⟨kept, rfl⟩
      · rw [settle_status_of_ne same, coherent.running x, idle]
        refine iff_of_false (by simp) ?_
        rintro ⟨mark, runs⟩
        exact same (Prod.mk.inj (some.inj runs)).1.symm
    · intro x st found
      have before : b.stored x = some st := by simpa [settle] using found
      rcases coherent.persisted x st before with ⟨waiting, inLine | runs⟩ | ⟨terminal, listed⟩
      · rw [line] at inLine
        rcases mem_cons.mp inLine with first | later
        · exact .inl ⟨waiting, .inr (by simp [first])⟩
        · exact .inl ⟨waiting, .inl later⟩
      · rw [idle] at runs
        cases runs
      · have other : x ≠ id := by
          rintro rfl
          exact (coherent.away_of_terminal terminal listed).1 (by simp [ids])
        exact .inr ⟨terminal, (settle_status_of_ne other false .running).trans listed⟩
  · exact coherent

theorem coherent_finish (orderly : b.Orderly)
    (terminal : st.isTerminal = true) : (b.finish st).Coherent := by
  unfold finish
  split
  · rename_i id kept runs
    have running := (coherent.running id).mpr ⟨kept, runs⟩
    have own : (b.settle id kept st).status id = some st :=
      settle_status (by simp [running]) kept st
    refine ⟨?_, ?_, ?_⟩
    · intro x
      show (b.settle id kept st).status x = _ ↔ x ∈ b.pendingIds
      by_cases same : x = id
      · rw [same, own]
        refine iff_of_false ?_ (orderly.apart id kept runs)
        rintro ⟨⟩
        cases terminal
      · rw [settle_status_of_ne same, coherent.queued x]
    · intro x
      refine iff_of_false ?_ (by simp)
      show (b.settle id kept st).status x ≠ _
      by_cases same : x = id
      · rw [same, own]
        rintro ⟨⟩
        cases terminal
      · rw [settle_status_of_ne same, Ne, coherent.running x, runs]
        rintro ⟨mark, other⟩
        exact same (Prod.mk.inj (some.inj other)).1.symm
    · intro x st' found
      by_cases same : x = id
      · subst same
        have ended : st' = st := by
          refine settle_stored (fun unstored => ?_) found
          rw [unstored] at runs
          by_contra listed
          obtain ⟨st, found⟩ := ne_none_iff_exists'.mp listed
          rcases coherent.persisted _ st found with ⟨-, inLine | runsStored⟩ | ⟨terminal, status⟩
          · exact orderly.apart _ false runs (mem_pendingIds inLine)
          · rw [runs] at runsStored
            cases runsStored
          · exact (coherent.away_of_terminal terminal status).2 false runs
        exact .inr ⟨ended ▸ terminal, ended ▸ own⟩
      · have before : b.stored x = some st' := (settle_stored_of_ne same kept st).symm.trans found
        rcases coherent.persisted x st' before with ⟨queued, inLine | other⟩ | ⟨ended, listed⟩
        · exact .inl ⟨queued, .inl inLine⟩
        · rw [runs] at other
          exact absurd (Prod.mk.inj (some.inj other)).1.symm same
        · exact .inr ⟨ended, (settle_status_of_ne same kept st).trans listed⟩
  · exact coherent

theorem coherent_restart (clean : b.Clean) : b.restart.Coherent := by
  -- with nothing waiting, only finished tests are stored
  have ended : ∀ {x st}, b.stored x = some st → st.isTerminal = true := by
    intro x st found
    rcases coherent.persisted x st found with ⟨-, inLine | runs⟩ | ⟨terminal, -⟩
    · exact absurd inLine (clean.pending x)
    · exact absurd runs (clean.running x)
    · exact terminal
  refine ⟨fun x => ?_, fun x => ?_, fun x st found => .inr ⟨ended found, found⟩⟩
  all_goals
    refine iff_of_false (fun found => ?_) (by simp [restart, pendingIds])
    exact absurd (ended found) (by decide)

/-- **Every change but a restart keeps the four places in agreement.** -/
theorem coherent_step {b' : Board} (orderly : b.Orderly)
    (step : Step b b') : b'.Coherent := by
  cases step with
  | enqueue id kept fresh => exact coherent_enqueue coherent orderly fresh
  | withdraw id kept waits => exact coherent_withdraw coherent orderly waits
  | dequeue => exact coherent_dequeue coherent orderly
  | finish st terminal => exact coherent_finish coherent orderly terminal
  | stay => exact coherent

end

/-! ## Finished tests -/

/-- A finished test: it has left the line. If it is stored, then with its status, and it
is listed with it too; else it may not be listed. -/
structure Settled (id : TestId) (st : TestStatus) (kept : Bool) (b : Board) : Prop where
  known : id ∈ b.enqueued
  notPending : id ∉ b.pendingIds
  notRunning : ∀ mark, b.running ≠ some (id, mark)
  stored : b.stored id = if kept then some st else none
  listed : b.status id = some st ∨ (b.status id = none ∧ kept = false)

variable {b b' : Board} {id other : TestId} {st : TestStatus} {kept : Bool}
  (settled : b.Settled id st kept)
include settled

/-- Settling another test does not concern this one. -/
theorem Settled.settle (different : id ≠ other)
    (kept' : Bool) (st' : TestStatus) : (b.settle other kept' st').Settled id st kept :=
  ⟨settled.known, settled.notPending, settled.notRunning,
    by rw [settle_stored_of_ne different]; exact settled.stored,
    by rw [settle_status_of_ne different]; exact settled.listed⟩

theorem settled_step (step : Step b b') : b'.Settled id st kept := by
  cases step with
  | enqueue new mark fresh =>
    have different : id ≠ new := fun same => fresh (same ▸ settled.known)
    refine ⟨mem_append_left _ settled.known, ?_, settled.notRunning, ?_, ?_⟩
    · have ids : (b.enqueue new mark).pendingIds = b.pendingIds ++ [new] := by
        simp [enqueue, pendingIds]
      simp [ids, settled.notPending, different]
    · simpa [enqueue, different] using settled.stored
    · simpa [enqueue, different] using settled.listed
  | withdraw other mark waits =>
    have different : id ≠ other := fun same => settled.notPending (same ▸ mem_pendingIds waits)
    have after := settled.settle different mark .cancelled
    refine ⟨settled.known, ?_, settled.notRunning, after.stored, after.listed⟩
    rw [withdraw_pendingIds]
    exact fun inLine => settled.notPending (mem_of_mem_erase inLine)
  | dequeue =>
    unfold dequeue
    split
    · rename_i other mark rest idle line
      have ids : b.pendingIds = other :: rest.map fst := by simp [pendingIds, line]
      have away := settled.notPending
      rw [ids, mem_cons, not_or] at away
      have after := settled.settle away.1 false .running
      refine ⟨settled.known, away.2, ?_, after.stored, after.listed⟩
      intro mark' runs
      exact away.1 (Prod.mk.inj (some.inj runs)).1.symm
    · exact settled
  | finish st' terminal =>
    unfold finish
    split
    · rename_i other mark runs
      have different : id ≠ other := fun same => settled.notRunning mark (same ▸ runs)
      have after := settled.settle different mark st'
      exact ⟨settled.known, settled.notPending, nofun, after.stored, after.listed⟩
    · exact settled
  | stay => exact settled

theorem settled_restart : b.restart.Settled id st kept := by
  refine ⟨settled.known, by simp [restart, pendingIds], nofun, settled.stored, ?_⟩
  show b.stored id = some st ∨ (b.stored id = none ∧ kept = false)
  rw [settled.stored]
  cases kept
  · exact .inr ⟨rfl, rfl⟩
  · exact .inl rfl

end Board

end Netanvil.Distributed
