/-
# The queue and what it shows of its tests

The queue refines the board of `Distributed.TestBoard`: each of its operations is a change of
the board (`board_step`). What users see is true all along exactly if at every restart no stored
test is waiting or running (`sound_iff`): a restart forgets the line and the running test, while
the index still lists their tests as queued.
-/
import Netanvil.Distributed.TestQueue
import Netanvil.Distributed.TestBoard

namespace Netanvil.Distributed

open Netanvil.Types Theory Theory.Disk Keyed Option TestQueue Trace ResultStore

variable {Spec B : Type}

/-! ## The board of a queue -/

namespace TestQueue

variable (q : TestQueue Spec B) (enqueued dequeued : List TestId)

def board : Board where
  pending := q.pending.map fun e => (e.id, e.spec.isSome)
  running := q.running.map fun r => (r.id, r.spec.isSome)
  status := q.status
  stored := q.stored
  enqueued := enqueued
  dequeued := dequeued

variable {q enqueued dequeued}

theorem board_pendingIds : (q.board enqueued dequeued).pendingIds = q.pendingIds := by
  simp [board, Board.pendingIds, pendingIds]

variable {id : TestId}

theorem stored_ne_none : q.stored id ≠ none ↔ id ∈ q.storedIds := by
  rw [storedIds, ← lookup_isSome, stored]
  cases lookup TestInfo.id id (q.store.index q.disk) <;> simp

variable {store : ResultStore Spec B} {q' : TestQueue Spec B} {d : Directory Path B}

/-- The index after a save that loses nothing. -/
theorem map_status_save (consistent : store.Consistent d)
    (entry : StoredTestEntry Spec) (keeps : (store.index d).map TestInfo.id ⊆
      (store.index ((store.save entry).disk d)).map TestInfo.id)
    (known : entry.info.status.isTerminal = false ∨ entry.info.id ∈ (store.index d).map TestInfo.id)
    (x : TestId) :
    (lookup TestInfo.id x (store.index ((store.save entry).disk d))).map TestInfo.status =
      if x = entry.info.id then some entry.info.status
      else (lookup TestInfo.id x (store.index d)).map TestInfo.status := by
  rw [save_index_of_keeps consistent entry keeps known, updated, lookup_upsert]
  split <;> rfl

section

variable (consistent : q.store.Consistent q.disk)

include consistent

variable {id : TestId} {now : Nat}

theorem board_enqueueInner {config : TestConfig} {spec : Option Spec} {summary : String}
    (keeps : q.storedIds ⊆ (q.enqueueInner id now config spec summary).storedIds) :
    (q.enqueueInner id now config spec summary).board (enqueued ++ [id]) dequeued =
      (q.board enqueued dequeued).enqueue id spec.isSome := by
  have listed : (q.enqueueInner id now config spec summary).status =
      fun x => if x = id then (q.status id).or (some .queued) else q.status x := by
    funext x
    simp only [status, enqueueInner, persist_frame, lookup_append]
    by_cases own : x = id
    · subst own
      cases lookup TestInfo.id x q.allTests <;> simp [lookup_cons]
    · simp [lookup_cons, Ne.symm own, own]
  have kept : (q.enqueueInner id now config spec summary).stored =
      fun x => if spec.isSome ∧ x = id then some .queued else q.stored x := by
    funext x
    cases spec with
    | none => simp [enqueueInner, persist, stored]
    | some s =>
      have saved := map_status_save consistent ⟨⟨id, .queued, now, none, none, summary⟩, s, none⟩
        keeps (.inl rfl) x
      simp only [isSome_some, true_and]
      exact saved
  simp only [board, Board.enqueue, listed, kept]
  simp [enqueueInner]

theorem board_cancel {result : CancelResult}
    (returned : q.cancel id now = some (result, q')) (keeps : q.storedIds ⊆ q'.storedIds)
    (waiting : ∀ e ∈ q.pending, e.spec.isSome → e.id ∈ q.storedIds) :
    q'.board enqueued dequeued = q.board enqueued dequeued ∨
      ∃ kept, (id, kept) ∈ (q.board enqueued dequeued).pending ∧
        q'.board enqueued dequeued = (q.board enqueued dequeued).withdraw id kept := by
  unfold cancel at returned
  split at returned
  · rename_i entry found
    cases returned
    have member := List.mem_of_find?_eq_some found
    have same : entry.id = id := by simpa using List.find?_some found
    refine .inr ⟨entry.spec.isSome, List.mem_map.mpr ⟨entry, member, by rw [same]⟩, ?_⟩
    have line : (q.pending.eraseP fun e => e.id = id).map (fun e => (e.id, e.spec.isSome)) =
        (q.pending.map fun e => (e.id, e.spec.isSome)).eraseP fun e => e.1 = id := by
      rw [List.eraseP_map]
      rfl
    simp only [board, Board.withdraw, Board.settle, persist_frame, line,
      Board.mk.injEq, true_and, and_true]
    constructor
    · funext x
      exact status_modify _ (fun i => { i with status := .cancelled, completedAt := some now })
        (persist_frame ..).2.2 .cancelled (fun _ => rfl) (fun _ => rfl) x
    · funext x
      cases spec : entry.spec with
      | none => simp [persist, stored]
      | some s =>
        rw [spec] at keeps
        have listed : id ∈ q.storedIds := same ▸ waiting entry member (by simp [spec])
        have saved := map_status_save consistent
          ⟨⟨id, .cancelled, entry.createdAt, none, some now, entry.summary⟩, s, none⟩ keeps
          (.inr listed) x
        simp only [isSome_some, true_and]
        exact saved
  · split at returned
    · rename_i r runs
      split at returned
      · obtain ⟨c, -, pair⟩ := map_eq_some_iff.mp returned
        cases pair
        left
        simp only [board, runs]
        rfl
      · cases returned
        exact .inl rfl
    · cases returned
      exact .inl rfl

omit consistent in
theorem board_tryDequeue (now : Nat) :
    (q.tryDequeue now).2.board enqueued
        (dequeued ++ ((q.tryDequeue now).1.map QueueEntry.id).toList) =
      (q.board enqueued dequeued).dequeue := by
  unfold tryDequeue
  split
  · rename_i r runs
    simp [board, Board.dequeue, runs]
  · rename_i idle
    split
    · rename_i line
      simp [board, Board.dequeue, idle, line]
    · rename_i entry rest line
      simp only [board, Board.dequeue, Board.settle, idle, line, map_none, map_some,
        List.map_cons, toList_some, Board.mk.injEq, true_and, and_true]
      refine ⟨rfl, funext fun x => ?_, funext fun x => ?_⟩
      · exact status_modify _ (fun i => { i with status := .running, startedAt := some now }) rfl
          .running (fun _ => rfl) (fun _ => rfl) x
      · simp
        rfl

theorem board_markCompleted {result : DistributedTestResult} {st : TestStatus}
    (keeps : q.storedIds ⊆ (q.markCompleted id result st now).storedIds)
    (started : ∀ r ∈ q.running, r.spec.isSome → r.id ∈ q.storedIds) :
    (q.markCompleted id result st now).board enqueued dequeued = q.board enqueued dequeued ∨
      (q.markCompleted id result st now).board enqueued dequeued =
        (q.board enqueued dequeued).finish st := by
  unfold markCompleted at keeps ⊢
  split
  · rename_i r runs
    split
    · rename_i own
      right
      simp only [runs, own, if_true] at keeps
      simp only [board, Board.finish, Board.settle, runs, map_some, persist_frame,
        map_none, Board.mk.injEq, true_and, and_true]
      constructor
      · funext x
        rw [own]
        exact status_modify _ (fun i => { i with status := st, completedAt := some now })
          (persist_frame ..).2.2 st (fun _ => rfl) (fun _ => rfl) x
      · funext x
        cases spec : r.spec with
        | none => simp [persist, stored]
        | some s =>
          rw [spec] at keeps
          have listed : id ∈ q.storedIds := own ▸ started r (by simp [runs]) (by simp [spec])
          have saved := map_status_save consistent
            ⟨⟨id, st, r.createdAt, some r.startedAt, some now, r.configSummary⟩, s,
              some (.fromDistributed result)⟩ keeps (.inr listed) x
          simp only [isSome_some, true_and, own]
          exact saved
    · exact .inl rfl
  · exact .inl rfl

end

/-! ## The list and the store -/

/-- The list names each test once, and index and files of the store agree. -/
structure Tidy (q : TestQueue Spec B) : Prop where
  listed : (q.allTests.map TestInfo.id).Nodup
  consistent : q.store.Consistent q.disk

theorem tidy_new (consistent : store.Consistent d) : (new store d).Tidy :=
  ⟨consistent.distinct, consistent⟩

/-- Changing a listed test and saving it. -/
theorem tidy_modify (tidy : q.Tidy) {f : TestInfo → TestInfo} (keepsId : ∀ i, (f i).id = i.id)
    (all : q'.allTests = modify TestInfo.id id f q.allTests)
    (consistent : q'.store.Consistent q'.disk) : q'.Tidy := by
  refine ⟨?_, consistent⟩
  rw [all, map_key_modify fun i own => (keepsId i).trans own]
  exact tidy.listed

theorem tidy_tryDequeue (tidy : q.Tidy) (now : Nat) : (q.tryDequeue now).2.Tidy := by
  unfold tryDequeue
  split
  · exact tidy
  · split
    · exact tidy
    · refine tidy_modify tidy ?_ rfl tidy.consistent
      intro i
      rfl

end TestQueue

/-! ## Runs -/

/-- What happens to a queue: its operations, the coordinator's look into the cancel
channel, and a new process over the same directory. -/
inductive QueueEvent (Spec : Type) where
  | enqueue (id : TestId) (now : Nat) (config : TestConfig) (spec : Option Spec) (summary : String)
  | cancel (id : TestId) (now : Nat)
  | tryDequeue (now : Nat)
  | markCompleted (id : TestId) (result : DistributedTestResult) (status : TestStatus)
      (terminal : status.isTerminal = true) (now : Nat)
  | takeCancel
  | restart

/-- A queue and the tests it was given and has given out, in order. -/
structure QueueLog (Spec B : Type) where
  queue : TestQueue Spec B
  enqueued : List TestId
  dequeued : List TestId

namespace QueueLog

def start (store : ResultStore Spec B) : QueueLog Spec B := ⟨.new store fun _ => none, [], []⟩

def board (m : QueueLog Spec B) : Board := m.queue.board m.enqueued m.dequeued

/-- A change, provided nothing that is stored is lost by it. -/
def unpruned (m m' : QueueLog Spec B) : Option (QueueLog Spec B) :=
  if m.queue.storedIds ⊆ m'.queue.storedIds then some m' else none

/-- One event. Refused are an id for the second time, a save that prunes, and a cancel
that waits for room in its channel. -/
def step (m : QueueLog Spec B) : QueueEvent Spec → Option (QueueLog Spec B)
  | .enqueue id now config spec summary =>
    if id ∈ m.enqueued then none
    else m.unpruned { m with
      queue := m.queue.enqueueInner id now config spec summary
      enqueued := m.enqueued ++ [id] }
  | .cancel id now =>
    (m.queue.cancel id now).bind fun (_, q) => m.unpruned { m with queue := q }
  | .tryDequeue now =>
    let (entry, q) := m.queue.tryDequeue now
    some { m with queue := q, dequeued := m.dequeued ++ (entry.map QueueEntry.id).toList }
  | .markCompleted id result status _ now =>
    m.unpruned { m with queue := m.queue.markCompleted id result status now }
  | .takeCancel => some { m with queue := m.queue.takeCancel.2 }
  | .restart => some { m with queue := .new m.queue.store m.queue.disk }

variable {m m' n : QueueLog Spec B} {e : QueueEvent Spec}

theorem of_unpruned (taken : m.unpruned n = some m') :
    n = m' ∧ m.queue.storedIds ⊆ m'.queue.storedIds := by
  unfold unpruned at taken
  split at taken
  · rename_i keeps
    cases taken
    exact ⟨rfl, keeps⟩
  · cases taken

theorem tidy_step (tidy : m.queue.Tidy) (orderly : m.board.Orderly) (taken : m.step e = some m') :
    m'.queue.Tidy := by
  cases e with
  | enqueue id now config spec summary =>
    simp only [step] at taken
    split at taken
    · cases taken
    · rename_i fresh
      obtain ⟨rfl, -⟩ := of_unpruned taken
      refine ⟨?_, consistent_persist _ _ _ _ tidy.consistent⟩
      have ids : (m.queue.enqueueInner id now config spec summary).allTests.map TestInfo.id =
          m.queue.allTests.map TestInfo.id ++ [id] := by simp [enqueueInner]
      have absent : id ∉ m.queue.allTests.map TestInfo.id :=
        fun member => status_ne_none.mpr member (orderly.status_of_fresh fresh)
      rw [ids, ← List.concat_eq_append]
      exact tidy.listed.concat absent
  | cancel id now =>
    obtain ⟨⟨result, q⟩, returned, kept⟩ := bind_eq_some_iff.mp taken
    obtain ⟨rfl, -⟩ := of_unpruned kept
    unfold cancel at returned
    split at returned
    · cases returned
      refine tidy_modify tidy ?_ (persist_frame ..).2.2 (consistent_persist _ _ _ _ tidy.consistent)
      intro i
      rfl
    · split at returned
      · split at returned
        · obtain ⟨c, -, pair⟩ := map_eq_some_iff.mp returned
          cases pair
          exact ⟨tidy.listed, tidy.consistent⟩
        · cases returned
          exact tidy
      · cases returned
        exact tidy
  | tryDequeue now =>
    cases taken
    exact tidy_tryDequeue tidy now
  | markCompleted id result status terminal now =>
    obtain ⟨rfl, -⟩ := of_unpruned taken
    unfold markCompleted
    split
    · split
      · refine tidy_modify tidy ?_ (persist_frame ..).2.2
          (consistent_persist _ _ _ _ tidy.consistent)
        intro i
        rfl
      · exact tidy
    · exact tidy
  | takeCancel =>
    cases taken
    show m.queue.takeCancel.2.Tidy
    unfold takeCancel
    split
    · split
      · exact ⟨tidy.listed, tidy.consistent⟩
      · exact tidy
    · exact tidy
  | restart =>
    cases taken
    exact tidy_new tidy.consistent

theorem boardStep_congr {b b' b'' : Board} (same : b' = b'') (step : Board.Step b b'') :
    Board.Step b b' := by
  rwa [same]

/-- **The queue refines the board**: each event is a change of it. -/
theorem board_step (tidy : m.queue.Tidy) (orderly : m.board.Orderly) (taken : m.step e = some m') :
    Board.Step m.board m'.board ∨ (e = .restart ∧ m'.board = m.board.restart) := by
  cases e with
  | enqueue id now config spec summary =>
    simp only [step] at taken
    split at taken
    · cases taken
    · rename_i fresh
      obtain ⟨rfl, keeps⟩ := of_unpruned taken
      exact .inl (boardStep_congr (board_enqueueInner tidy.consistent keeps)
        (.enqueue m.board id spec.isSome fresh))
  | cancel id now =>
    obtain ⟨⟨result, q⟩, returned, kept⟩ := bind_eq_some_iff.mp taken
    obtain ⟨rfl, keeps⟩ := of_unpruned kept
    have waiting : ∀ e ∈ m.queue.pending, e.spec.isSome → e.id ∈ m.queue.storedIds := by
      intro e member marked
      have inLine : (e.id, true) ∈ m.board.pending :=
        List.mem_map.mpr ⟨e, member, by rw [marked]⟩
      have queued : m.queue.stored e.id = some .queued := orderly.waiting e.id inLine
      exact stored_ne_none.mp (by simp [queued])
    rcases board_cancel tidy.consistent returned keeps waiting with
      same | ⟨mark, waits, same⟩
    · exact .inl (boardStep_congr same (.stay m.board))
    · exact .inl (boardStep_congr same (.withdraw m.board id mark waits))
  | tryDequeue now =>
    cases taken
    exact .inl (boardStep_congr (board_tryDequeue now) (.dequeue m.board))
  | markCompleted id result status terminal now =>
    obtain ⟨rfl, keeps⟩ := of_unpruned taken
    have started : ∀ r ∈ m.queue.running, r.spec.isSome → r.id ∈ m.queue.storedIds := by
      intro r runs marked
      have running : m.board.running = some (r.id, true) := by
        simp [board, TestQueue.board, mem_def.mp runs, marked]
      have queued : m.queue.stored r.id = some .queued := orderly.started r.id running
      exact stored_ne_none.mp (by simp [queued])
    rcases board_markCompleted tidy.consistent keeps started with same | same
    · exact .inl (boardStep_congr same (.stay m.board))
    · exact .inl (boardStep_congr same (.finish m.board status terminal))
  | takeCancel =>
    cases taken
    refine .inl (boardStep_congr ?_ (.stay m.board))
    unfold TestQueue.takeCancel board TestQueue.board
    split
    · rename_i r runs
      split
      · simp only [runs]
        rfl
      · rfl
    · rfl
  | restart =>
    cases taken
    exact .inr ⟨rfl, rfl⟩

theorem orderly_step (tidy : m.queue.Tidy) (orderly : m.board.Orderly)
    (taken : m.step e = some m') : m'.board.Orderly := by
  rcases board_step tidy orderly taken with change | ⟨-, same⟩
  · exact Board.orderly_step orderly change
  · rw [same]
    exact Board.orderly_restart orderly

section

variable (store : ResultStore Spec B)
include store

theorem tidy_start : (start store).queue.Tidy :=
  tidy_new (consistent_after [])

/-- Nothing is listed and nothing stored at the start. -/
theorem board_start : (start store).board = ⟨[], none, fun _ => none, fun _ => none, [], []⟩ := by
  have empty : store.index (fun _ => none) = [] := rfl
  simp only [start, board, TestQueue.board, TestQueue.new, Board.mk.injEq, List.map_nil,
    map_none, true_and, and_true]
  constructor <;> funext id <;> simp [TestQueue.status, TestQueue.stored, empty]

theorem orderly_start : (start store).board.Orderly := by
  rw [board_start]
  exact ⟨List.nodup_nil, List.nil_sublist _, nofun, nofun, nofun, nofun, nofun, nofun⟩

theorem coherent_start : (start store).board.Coherent := by
  rw [board_start]
  exact ⟨by simp [Board.pendingIds], by simp, nofun⟩

end

variable {store : ResultStore Spec B}

/-- What holds in every run. -/
theorem orderly_of_run {events : List (QueueEvent Spec)}
    (run : exec step (start store) events = some m) : m.queue.Tidy ∧ m.board.Orderly :=
  exec_invariant (I := fun _ m => m.queue.Tidy ∧ m.board.Orderly)
    ⟨tidy_start store, orderly_start store⟩
    (fun inv taken => ⟨tidy_step inv.1 inv.2 taken, orderly_step inv.1 inv.2 taken⟩) run

/-! ## What users see -/

/-- What is shown of the tests is true: listed as queued is waiting, once; listed as
running is being the running test, of which there is one at most; and tests are taken up
in the order in which they came. -/
structure Sound (m : QueueLog Spec B) : Prop where
  listed : (m.queue.allTests.map TestInfo.id).Nodup
  waitsOnce : m.queue.pendingIds.Nodup
  queued : ∀ id, m.queue.status id = some .queued ↔ id ∈ m.queue.pendingIds
  running : ∀ id, m.queue.status id = some .running ↔ m.queue.runningId = some id
  single : (m.queue.allTests.filter fun i => i.status = .running).length ≤ 1
  order : m.dequeued.Sublist m.enqueued

/-- A finished test is listed later as it was, or not at all if it is not stored. -/
def KeepsFinished (m m' : QueueLog Spec B) : Prop :=
  ∀ id st, st.isTerminal = true → m.queue.status id = some st →
    m'.queue.status id = some st ∨ (m'.queue.status id = none ∧ m.queue.stored id = none)

/-- Events that are fine: at a restart no test that is stored may wait or run. -/
def CleanRestart (m : QueueLog Spec B) (e : QueueEvent Spec) : Prop :=
  e = .restart → (∀ entry ∈ m.queue.pending, entry.spec = none) ∧
    ∀ r ∈ m.queue.running, r.spec = none

theorem clean_board_iff :
    m.board.Clean ↔ (∀ entry ∈ m.queue.pending, entry.spec = none) ∧
      ∀ r ∈ m.queue.running, r.spec = none := by
  constructor
  · rintro ⟨pending, running⟩
    refine ⟨fun entry member => ?_, fun r runs => ?_⟩
    · by_contra marked
      apply pending entry.id
      exact List.mem_map.mpr ⟨entry, member, by rw [isSome_iff_ne_none.mpr marked]⟩
    · by_contra marked
      apply running r.id
      simp [board, TestQueue.board, mem_def.mp runs, isSome_iff_ne_none.mpr marked]
  · rintro ⟨pending, running⟩
    refine ⟨fun id inLine => ?_, fun id runs => ?_⟩
    · obtain ⟨entry, member, pair⟩ := List.mem_map.mp inLine
      have marked := (Prod.mk.inj pair).2
      rw [pending entry member] at marked
      cases marked
    · obtain ⟨r, found, pair⟩ := map_eq_some_iff.mp runs
      have marked := (Prod.mk.inj pair).2
      rw [running r found] at marked
      cases marked

theorem sound_of_coherent (tidy : m.queue.Tidy) (orderly : m.board.Orderly)
    (coherent : m.board.Coherent) : m.Sound := by
  have running : ∀ id, m.queue.status id = some .running ↔ m.queue.runningId = some id := by
    intro id
    have listed := coherent.running id
    simp only [board, TestQueue.board] at listed
    rw [listed, TestQueue.runningId]
    cases m.queue.running <;> simp
  refine ⟨tidy.listed, ?_, ?_, running, ?_, ?_⟩
  · have distinct := orderly.distinct
    rwa [board, board_pendingIds] at distinct
  · intro id
    have listed := coherent.queued id
    rwa [board, board_pendingIds] at listed
  · -- tests listed as running have the id of the running one
    have same : ∀ i ∈ m.queue.allTests.filter (fun i => i.status = .running),
        m.queue.runningId = some i.id := by
      intro i member
      obtain ⟨inList, runs⟩ := List.mem_filter.mp member
      apply (running i.id).mp
      rw [status, lookup_of_mem tidy.listed inList]
      simpa using runs
    have distinct : ((m.queue.allTests.filter fun i => i.status = .running).map
        TestInfo.id).Nodup := tidy.listed.sublist (List.filter_sublist.map _)
    generalize m.queue.allTests.filter (fun i => i.status = .running) = runs at same distinct ⊢
    rcases runs with _ | ⟨i, _ | ⟨j, rest⟩⟩
    · exact Nat.zero_le 1
    · exact Nat.le_refl 1
    · exfalso
      have both : i.id = j.id := by
        have first := same i (by simp)
        have second := same j (by simp)
        exact Option.some.inj (first.symm.trans second)
      simp [both] at distinct
  · exact (List.sublist_append_left _ _).trans orderly.order

/-- **What users see of the tests is true in every state of a run, and a finished test's
status stays, exactly if at every restart no stored test is waiting or running.** -/
theorem sound_iff (store : ResultStore Spec B) (events : List (QueueEvent Spec)) :
    (∀ done m, done <+: events → exec step (start store) done = some m →
        m.Sound ∧ ∀ earlier m₀, earlier <+: done →
          exec step (start store) earlier = some m₀ → m₀.KeepsFinished m) ↔
      Allowed step CleanRestart (start store) events := by
  constructor
  · rintro sound earlier e later rfl m reached rfl
    obtain ⟨-, orderly⟩ := orderly_of_run reached
    have restarted : exec step (start store) (earlier ++ [.restart]) =
        some { m with queue := .new m.queue.store m.queue.disk } := by
      rw [exec_snoc, reached]
      rfl
    -- a restart forgets what waits and runs, but not that it is stored as queued
    have forgotten : ∀ id, m.queue.stored id ≠ some .queued := by
      intro id queued
      have waits := ((sound _ _ ⟨later, by simp⟩ restarted).1.queued id).mp queued
      simp [pendingIds, new] at waits
    exact clean_board_iff.mp ⟨fun id inLine => forgotten id (orderly.waiting id inLine),
      fun id runs => forgotten id (orderly.started id runs)⟩
  · intro allowed
    have coherent : ∀ {done m}, done <+: events → exec step (start store) done = some m →
        m.queue.Tidy ∧ m.board.Orderly ∧ m.board.Coherent := by
      intro done m cut run
      refine Allowed.invariant
        (I := fun m => m.queue.Tidy ∧ m.board.Orderly ∧ m.board.Coherent)
        ⟨tidy_start store, orderly_start store, coherent_start store⟩ ?_
        (Along.restrict allowed cut) run
      rintro s a s' ⟨tidy, orderly, coherent⟩ clean taken
      refine ⟨tidy_step tidy orderly taken, orderly_step tidy orderly taken, ?_⟩
      rcases board_step tidy orderly taken with change | ⟨restart, same⟩
      · exact Board.coherent_step coherent orderly change
      · rw [same]
        exact Board.coherent_restart coherent (clean_board_iff.mpr (clean restart))
    intro done m cut run
    obtain ⟨tidy, orderly, agrees⟩ := coherent cut run
    refine ⟨sound_of_coherent tidy orderly agrees, ?_⟩
    rintro earlier m₀ ⟨more, rfl⟩ reached id st terminal listed
    obtain ⟨tidy₀, orderly₀, agrees₀⟩ := coherent ((List.prefix_append _ _).trans cut) reached
    obtain ⟨-, -, settled⟩ := exec_invariant_from
      (I := fun m => m.queue.Tidy ∧ m.board.Orderly ∧
        m.board.Settled id st (m₀.queue.stored id).isSome)
      reached ⟨tidy₀, orderly₀, by
        have listed : m₀.board.status id = some st := listed
        obtain ⟨away, idle⟩ := agrees₀.away_of_terminal terminal listed
        refine ⟨orderly₀.listedKnown id (by simp [listed]), away, idle, ?_, .inl listed⟩
        show m₀.board.stored id = if (m₀.board.stored id).isSome then some st else none
        cases found : m₀.board.stored id with
        | none => rfl
        | some st' =>
          rcases agrees₀.persisted id st' found with ⟨-, inLine | runs⟩ | ⟨-, same⟩
          · exact absurd (Board.mem_pendingIds inLine) away
          · exact absurd runs (idle true)
          · rw [← same, listed]
            rfl⟩ (by
        rintro s a s' ⟨tidy, orderly, settled⟩ taken
        refine ⟨tidy_step tidy orderly taken, orderly_step tidy orderly taken, ?_⟩
        rcases board_step tidy orderly taken with change | ⟨-, same⟩
        · exact Board.settled_step settled change
        · rw [same]
          exact Board.settled_restart settled) run
    refine settled.listed.imp_right ?_
    rintro ⟨unlisted, unstored⟩
    exact ⟨unlisted, isSome_eq_false_iff.mp unstored |> isNone_iff_eq_none.mp⟩

/-- A queued test, and a restart: it is listed as queued and waits nowhere. -/
theorem restart_orphans_queued :
    ∃ m, exec step (start (smallStore 1))
        [.enqueue testA 0 twoNodes.config (some ()) "", .restart] = some m ∧ ¬ m.Sound := by
  refine ⟨_, rfl, fun sound => ?_⟩
  have waits := (sound.queued testA).mp (by decide +kernel)
  cases waits

end QueueLog

end Netanvil.Distributed
