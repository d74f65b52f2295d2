/-
# Where each test of the leader is

A test is unknown, waits, runs or is over, and only ever moves on in this order (`Place`). Its
place shows in the line of waiting tests, in the record of the running test, in the list and in
its stored entry; pruning may take the entry away at any time (`Placed`). In the leader's runs
every test has a place in every state (`inPlace_of_run`).
-/
import Netanvil.Distributed.Leader

namespace Netanvil.Distributed

open Netanvil.Types Theory Theory.Disk Keyed Option ResultStore

variable {S Spec B α : Type}

/-! ## Places -/

/-- What is seen of one test. -/
structure View where
  /-- Its places in the line, each with whether there is a specification. -/
  line : List Bool
  /-- Whether there is a specification, if it is the running test. -/
  stage : Option Bool
  listed : Option TestStatus
  entry : Option TestStatus

/-- The same, up to an entry that may be gone. -/
structure View.Fades (v v' : View) : Prop where
  line : v'.line = v.line
  stage : v'.stage = v.stage
  listed : v'.listed = v.listed
  entry : v'.entry = none ∨ v'.entry = v.entry

inductive Place where
  | unknown
  | waiting (kept : Bool)
  | running (kept : Bool)
  | ended (status : TestStatus)

namespace Place

/-- What is seen of a test. A test without specification has no entry; the entry of a
running test is the one from its enqueuing. -/
def view : Place → View
  | .unknown => ⟨[], none, none, none⟩
  | .waiting kept => ⟨[kept], none, some .queued, if kept then some .queued else none⟩
  | .running kept => ⟨[], some kept, some .running, if kept then some .queued else none⟩
  | .ended status => ⟨[], none, some status, some status⟩

def withdrawn : Place → Place
  | .waiting _ => .ended .cancelled
  | p => p

def started : Place → Place
  | .waiting kept => .running kept
  | p => p

def finished (status : TestStatus) : Place → Place
  | .running _ => .ended status
  | p => p

end Place

namespace TestQueue

/-- The status a test has in its entry. -/
def shown (q : TestQueue Spec B) (id : TestId) : Option TestStatus :=
  (q.getEntry id).map fun e => e.info.status

def view (q : TestQueue Spec B) (id : TestId) : View where
  line := (q.pending.filter fun e => e.id = id).map fun e => e.spec.isSome
  stage := (q.running.filter fun r => r.id = id).map fun r => r.spec.isSome
  listed := q.status id
  entry := q.shown id

def Placed (q : TestQueue Spec B) (id : TestId) (p : Place) : Prop := p.view.Fades (q.view id)

variable {q q' q'' : TestQueue Spec B} {id x : TestId} {p : Place} {kept : Bool}

section

variable (placed : q.Placed id p)
include placed

theorem Placed.unknown_of_unlisted (unlisted : q.status id = none) : p = .unknown := by
  have listed : q.status id = p.view.listed := placed.listed
  rw [unlisted] at listed
  cases p <;> first | rfl | cases listed

theorem Placed.waiting_of_line {rest : List Bool}
    (inLine : (q.view id).line = kept :: rest) : p = .waiting kept ∧ rest = [] := by
  rw [placed.line] at inLine
  cases p with
  | waiting own =>
    obtain ⟨rfl, empty⟩ := List.cons.inj inLine
    exact ⟨rfl, empty.symm⟩
  | _ => cases inLine

theorem Placed.running_of_stage (onStage : (q.view id).stage = some kept) : p = .running kept := by
  rw [placed.stage] at onStage
  cases p with
  | running own =>
    cases onStage
    rfl
  | _ => cases onStage

/-- The running test is the one in that place. -/
theorem Placed.running_iff : q.runningId = some id ↔ ∃ kept, p = .running kept := by
  constructor
  · intro runs
    obtain ⟨r, running, own⟩ := map_eq_some_iff.mp runs
    exact ⟨r.spec.isSome, placed.running_of_stage (by simp [view, running, own])⟩
  · rintro ⟨kept, rfl⟩
    have onStage : (q.view id).stage = some kept := placed.stage
    obtain ⟨r, inside, -⟩ := map_eq_some_iff.mp onStage
    obtain ⟨running, own⟩ := filter_eq_some_iff.mp inside
    rw [runningId, running, map_some]
    simpa using own

theorem Placed.congr (same : q'.view id = q.view id) : q'.Placed id p := by
  unfold Placed
  rw [same]
  exact placed

end

/-! ## Operations that only use channels -/

/-- Nothing but the channels and the progress of the running test may differ. -/
structure ChannelsOnly (q q' : TestQueue Spec B) : Prop where
  pending : q'.pending = q.pending
  running : q'.running.map (fun r => (r.id, r.spec)) = q.running.map fun r => (r.id, r.spec)
  allTests : q'.allTests = q.allTests
  store : q'.store = q.store
  disk : q'.disk = q.disk

theorem ChannelsOnly.refl (q : TestQueue Spec B) : ChannelsOnly q q := ⟨rfl, rfl, rfl, rfl, rfl⟩

theorem ChannelsOnly.runningId (only : ChannelsOnly q q') : q'.runningId = q.runningId := by
  have ids := congrArg (Option.map Prod.fst) only.running
  simpa [TestQueue.runningId, Function.comp_def] using ids

theorem ChannelsOnly.view (only : ChannelsOnly q q') (id : TestId) : q'.view id = q.view id := by
  have stage : ∀ q : TestQueue Spec B, (q.running.filter fun r => r.id = id).map
      (fun r => r.spec.isSome) = ((q.running.map fun r => (r.id, r.spec)).filter
        fun r => r.1 = id).map fun r => r.2.isSome := by
    intro q
    cases q.running with
    | none => rfl
    | some r =>
      simp only [Option.filter, map_some]
      split <;> rfl
  have entry : q'.shown id = q.shown id := by
    unfold shown getEntry
    rw [only.store, only.disk]
  have listed : q'.status id = q.status id := by
    unfold status
    rw [only.allTests]
  unfold TestQueue.view
  rw [stage, stage, only.pending, only.running, entry, listed]

theorem channelsOnly_running {r r' : RunningTest Spec} (runs : q.running = some r)
    (sameId : r'.id = r.id) (sameSpec : r'.spec = r.spec) :
    ChannelsOnly q { q with running := some r' } :=
  ⟨rfl, by simp [runs, sameId, sameSpec], rfl, rfl, rfl⟩

theorem channelsOnly_sendTo {send : RunningTest Spec → Option (RunningTest Spec)}
    (keeps : ∀ r r', send r = some r' → r'.id = r.id ∧ r'.spec = r.spec) (id : TestId) :
    ChannelsOnly q (q.sendTo id send).2 := by
  unfold sendTo
  split
  · rename_i r runs
    split
    · split
      · rename_i r' sent
        exact channelsOnly_running runs (keeps r r' sent).1 (keeps r r' sent).2
      · exact .refl q
    · exact .refl q
  · exact .refl q

/-- A send on one of the running test's channels. -/
theorem channelsOnly_send {channel : RunningTest Spec → Channel α} {a : α}
    {set : RunningTest Spec → Channel α → RunningTest Spec}
    (id : TestId) (keeps : ∀ r c, (set r c).id = r.id ∧ (set r c).spec = r.spec := by
      exact fun _ _ => ⟨rfl, rfl⟩) :
    ChannelsOnly q (q.sendTo id fun r => ((channel r).trySend a).map (set r)).2 := by
  apply channelsOnly_sendTo
  intro r r' sent
  obtain ⟨c, -, rfl⟩ := map_eq_some_iff.mp sent
  exact keeps r c

theorem channelsOnly_take : ChannelsOnly q q.takeCommands.2 ∧ ChannelsOnly q q.takeSignals.2 := by
  unfold takeCommands takeSignals
  cases runs : q.running with
  | some r => exact ⟨channelsOnly_running runs rfl rfl, channelsOnly_running runs rfl rfl⟩
  | none => exact ⟨.refl q, .refl q⟩

theorem channelsOnly_takeCancel : ChannelsOnly q q.takeCancel.2 := by
  unfold takeCancel
  split
  · rename_i r runs
    split
    · exact channelsOnly_running runs rfl rfl
    · exact .refl q
  · exact .refl q

theorem ChannelsOnly.trans (first : ChannelsOnly q q')
    (second : ChannelsOnly q' q'') : ChannelsOnly q q'' :=
  ⟨second.pending.trans first.pending, second.running.trans first.running,
    second.allTests.trans first.allTests, second.store.trans first.store,
    second.disk.trans first.disk⟩

/-! ## Operations that move a test -/

/-- What a save leaves of a test's entry. -/
theorem shown_persist (info : TestInfo) (spec : Option Spec) (result : Option StoredTestResult)
    (x : TestId) :
    (q.persist info spec result).shown x = none ∨
      (q.persist info spec result).shown x =
        if x = info.id ∧ spec.isSome then some info.status else q.shown x := by
  cases spec with
  | none => exact .inr (by simp [persist])
  | some spec =>
    by_cases pruned : x ∈ q.store.pruned (q.store.updated q.disk ⟨info, spec, result⟩)
    · left
      show (q.store.entry ((q.store.save ⟨info, spec, result⟩).disk q.disk) x).map _ = none
      rw [entry_eq, save_file, if_pos pruned]
      rfl
    · right
      show (q.store.entry ((q.store.save ⟨info, spec, result⟩).disk q.disk) x).map _ = _
      rw [save_entry _ pruned]
      by_cases own : x = info.id
      · obtain ⟨back, read, same⟩ := q.store.entryJson.view_decode ⟨info, spec, result⟩
        simp [own, read, same]
      · simp [own, shown, getEntry]

/-- A test's place after a save, from what is seen of it apart from its entry. -/
theorem placed_persist {info : TestInfo} {spec : Option Spec} {result : Option StoredTestResult}
    (line : (q.view x).line = p.view.line) (stage : (q.view x).stage = p.view.stage)
    (listed : (q.view x).listed = p.view.listed)
    (entry : (if x = info.id ∧ spec.isSome then some info.status else q.shown x) = none ∨
      (if x = info.id ∧ spec.isSome then some info.status else q.shown x) = p.view.entry) :
    (q.persist info spec result).Placed x p := by
  refine ⟨?_, ?_, ?_, ?_⟩
  · simpa [view] using line
  · simpa [view] using stage
  · simpa [view, status] using listed
  · rcases shown_persist info spec result x with gone | saved
    · exact .inl gone
    · rw [← saved] at entry
      exact entry

theorem placed_enqueueInner (fresh : q.status id = none) (now : Nat) (config : TestConfig)
    (spec : Option Spec) (summary : String) (placed : q.Placed x p) :
    (q.enqueueInner id now config spec summary).Placed x
      (if x = id then .waiting spec.isSome else p) := by
  by_cases own : x = id
  · subst own
    obtain rfl := placed.unknown_of_unlisted fresh
    have line : (q.pending.filter fun e => e.id = x).map (fun e => e.spec.isSome) = [] :=
      placed.line
    have noEntry : q.shown x = none := placed.entry.elim id id
    have unlisted : lookup TestInfo.id x q.allTests = none := by
      simpa [status] using fresh
    rw [if_pos rfl]
    refine placed_persist ?_ placed.stage ?_ (.inr ?_)
    · simp [view, Place.view, line]
    · simp [view, Place.view, status, lookup_append, unlisted, lookup_cons]
    · show (if x = x ∧ spec.isSome then some .queued else q.shown x) = _
      simp [Place.view, noEntry]
  · rw [if_neg own]
    refine placed_persist ?_ placed.stage ?_ ?_
    · rw [← placed.line]
      simp [view, Ne.symm own]
    · rw [← placed.listed]
      have notNew : lookup TestInfo.id x
          [(⟨id, .queued, now, none, none, summary⟩ : TestInfo)] = none := by
        rw [lookup_cons, if_neg (Ne.symm own)]
        rfl
      simp only [view, status, lookup_append, notNew, or_none]
    · rw [if_neg fun both => own both.1]
      exact placed.entry

/-- The test that `find?` finds in the line. -/
theorem line_of_find {entry : QueueEntry Spec}
    (found : q.pending.find? (fun e => e.id = id) = some entry) :
    (q.view id).line = entry.spec.isSome ::
      ((q.pending.eraseP fun e => e.id = id).filter fun e => e.id = id).map
        fun e => e.spec.isSome := by
  rw [view, filter_of_find found, List.map_cons]

/-- What a save leaves of the entry of a test that waited or ran. -/
theorem shown_saved {shown : Option TestStatus} (status : TestStatus)
    (before : shown = none ∨ shown = if kept then some .queued else none) :
    (if id = id ∧ kept then some status else shown) = none ∨
      (if id = id ∧ kept then some status else shown) = some status := by
  cases kept with
  | true => exact .inr (by simp)
  | false => exact .inl (by simpa using before)

theorem placed_cancel {now : Nat} {result : CancelResult}
    (returned : q.cancel id now = some (result, q')) (placed : q.Placed x p) :
    q'.Placed x (if x = id then p.withdrawn else p) := by
  unfold cancel at returned
  split at returned
  · rename_i entry found
    cases returned
    have listed := status_modify (q := q) ({ q with
        pending := q.pending.eraseP fun e => e.id = id
        allTests := modify TestInfo.id id
          (fun i => { i with status := .cancelled, completedAt := some now }) q.allTests })
      _ rfl .cancelled (fun _ => rfl) (fun _ => rfl) x
    by_cases own : x = id
    · subst own
      obtain ⟨rfl, left⟩ := placed.waiting_of_line (line_of_find found)
      have before : q.status x = some .queued := placed.listed
      rw [if_pos rfl]
      refine placed_persist left placed.stage ?_ ?_
      · refine listed.trans ?_
        rw [if_pos rfl, before]
        rfl
      · exact shown_saved .cancelled placed.entry
    · rw [if_neg own]
      refine placed_persist ?_ placed.stage ?_ ?_
      · rw [← placed.line]
        simp only [view, filter_eraseP_of_ne own]
      · rw [← placed.listed]
        refine listed.trans ?_
        rw [if_neg own]
        rfl
      · rw [if_neg fun both => own both.1]
        exact placed.entry
  · rename_i absent
    have notWaiting : (q.view id).line = [] := by
      rw [view, List.filter_eq_nil_iff.mpr (List.find?_eq_none.mp absent)]
      rfl
    have stays : (if x = id then p.withdrawn else p) = p := by
      split
      · rename_i own
        subst own
        rw [placed.line] at notWaiting
        cases p <;> first | rfl | cases notWaiting
      · rfl
    rw [stays]
    split at returned
    · rename_i r runs
      split at returned
      · obtain ⟨c, -, pair⟩ := map_eq_some_iff.mp returned
        cases pair
        refine placed.congr (ChannelsOnly.view ?_ x)
        exact channelsOnly_running runs rfl rfl
      · cases returned
        exact placed
    · cases returned
      exact placed

theorem placed_tryDequeue (now : Nat) (placed : q.Placed x p) :
    (q.tryDequeue now).2.Placed x
      (if (q.tryDequeue now).1.map QueueEntry.id = some x then p.started else p) := by
  unfold tryDequeue
  split
  · exact placed
  · rename_i idle
    split
    · exact placed
    · rename_i entry rest line
      have listed := status_modify (q := q) ({ q with
          pending := rest
          running := some (start entry now)
          allTests := modify TestInfo.id entry.id
            (fun i => { i with status := .running, startedAt := some now }) q.allTests })
        _ rfl .running (fun _ => rfl) (fun _ => rfl) x
      by_cases own : entry.id = x
      · subst own
        have head : (q.view entry.id).line = entry.spec.isSome ::
            (rest.filter fun e => e.id = entry.id).map fun e => e.spec.isSome := by
          simp [view, line]
        obtain ⟨rfl, empty⟩ := placed.waiting_of_line head
        have before : q.status entry.id = some .queued := placed.listed
        simp only [map_some, if_true]
        refine ⟨empty, ?_, ?_, placed.entry⟩
        · simp [view, Place.started, Place.view, start]
        · refine listed.trans ?_
          rw [if_pos rfl, before]
          rfl
      · simp only [map_some, Option.some.injEq, if_neg own]
        refine ⟨?_, ?_, ?_, placed.entry⟩
        · rw [← placed.line]
          simp [view, line, own]
        · rw [← placed.stage]
          simp [view, start, own, idle]
        · rw [← placed.listed]
          refine listed.trans ?_
          rw [if_neg (Ne.symm own)]
          rfl

theorem placed_markCompleted (id : TestId) (result : DistributedTestResult) (st : TestStatus)
    (now : Nat) (placed : q.Placed x p) :
    (q.markCompleted id result st now).Placed x (if x = id then p.finished st else p) := by
  have off_stage : (q.view id).stage = none → (if x = id then p.finished st else p) = p := by
    intro off
    split
    · rename_i own
      subst own
      rw [placed.stage] at off
      cases p <;> first | rfl | cases off
    · rfl
  unfold markCompleted
  split
  · rename_i r runs
    by_cases ends : r.id = id
    · subst ends
      rw [if_pos rfl]
      have listed := status_modify (q := q) ({ q with
          running := none
          allTests := modify TestInfo.id r.id
            (fun i => { i with status := st, completedAt := some now }) q.allTests })
        _ rfl st (fun _ => rfl) (fun _ => rfl) x
      by_cases own : x = r.id
      · subst own
        have onStage : (q.view r.id).stage = some r.spec.isSome := by simp [view, runs]
        obtain rfl := placed.running_of_stage onStage
        have before : q.status r.id = some .running := placed.listed
        rw [if_pos rfl]
        refine placed_persist placed.line rfl ?_ ?_
        · refine listed.trans ?_
          rw [if_pos rfl, before]
          rfl
        · exact shown_saved st placed.entry
      · rw [if_neg own]
        refine placed_persist placed.line ?_ ?_ ?_
        · rw [← placed.stage]
          simp [view, runs, Ne.symm own]
        · rw [← placed.listed]
          refine listed.trans ?_
          rw [if_neg own]
          rfl
        · rw [if_neg fun both => own both.1]
          exact placed.entry
    · rw [if_neg ends, off_stage (by simp [view, runs, ends])]
      exact placed
  · rename_i idle
    rw [off_stage (by simp [view, idle])]
    exact placed

end TestQueue

/-! ## The leader -/

namespace Leader

open TestQueue

variable {setup : LeaderSetup S Spec} {s s' : Leader S Spec B} (n : Nat) (drawn : TestId)

/-- Every test has a place, and the scheduler is in the run of the running test. -/
structure InPlace (s : Leader S Spec B) : Prop where
  placed : ∀ id, ∃ p, s.queue.Placed id p
  stage : s.scheduler.testId = s.queue.runningId

/-- How a step may move a test. -/
inductive Moves (s : Leader S Spec B) (id : TestId) : Place → Place → Prop
  | stay (p : Place) : Moves s id p p
  | enqueued (kept : Bool) : Moves s id .unknown (.waiting kept)
  | withdrawn (kept : Bool) : Moves s id (.waiting kept) (.ended .cancelled)
  | started (kept : Bool) : Moves s id (.waiting kept) (.running kept)
  | failed (kept : Bool) {config : TestConfig} (discovers : s.scheduler = .discovering id config) :
      Moves s id (.running kept) (.ended .failed)
  | completed (kept : Bool) (runs : s.scheduler.testId = some id) :
      Moves s id (.running kept) (.ended .completed)

/-- What a handler does to the queue. -/
theorem handle_queue (request : Request Spec) :
    ChannelsOnly s.queue (s.handle setup n drawn request).queue ∨
      (∃ config spec, (s.handle setup n drawn request).queue =
        s.queue.enqueueInner drawn s.clock config (some spec) (setup.summary spec)) ∨
      ∃ id result, s.queue.cancel id s.clock =
        some (result, (s.handle setup n drawn request).queue) := by
  cases request with
  | createTest spec =>
    simp only [handle]
    split
    · exact .inl (.refl _)
    · exact .inr (.inl ⟨_, _, rfl⟩)
  | cancelTest id =>
    simp only [handle]
    split
    · rename_i result q returned
      exact .inr (.inr ⟨id, result, returned⟩)
    · exact .inl (.refl _)
  | getController id | putController id action params =>
    simp only [handle]
    split
    · exact .inl (channelsOnly_send id)
    · exact .inl (.refl _)
  | putRate id rps | putHold id rps | deleteHold id | putSignal id name value =>
    exact .inl (channelsOnly_send id)
  | _ => exact .inl (.refl _)

/-- A call that goes on only uses channels. -/
theorem wake_queue (woken : s.wake = some s') :
    ChannelsOnly s.queue s'.queue ∧ s'.scheduler = s.scheduler := by
  rcases wake_cases woken with ⟨n, id, -, rfl⟩ | ⟨n, deadline, result, -, -, rfl⟩ |
    ⟨n, deadline, view, -, rfl⟩
  · exact ⟨channelsOnly_send id, rfl⟩
  all_goals exact ⟨.refl _, rfl⟩

variable {store : ResultStore Spec B} {q' : TestQueue Spec B}

theorem Reads.channelsOnly {q : TestQueue Spec B} (reads : Reads q q') : ChannelsOnly q q' := by
  cases reads with
  | nothing => exact .refl _
  | signals => exact channelsOnly_take.2
  | cancel => exact channelsOnly_takeCancel
  | progress update =>
    refine channelsOnly_takeCancel.trans ?_
    exact ⟨rfl, by simp [setProgress, Function.comp_def], rfl, rfl, rfl⟩

variable {q : TestQueue Spec B} {id : TestId} {p p' : Place} {event : LeaderEvent Spec}

@[simp] theorem runningId_enqueueInner (id : TestId) (now : Nat) (config : TestConfig)
    (spec : Option Spec) (summary : String) :
    (q.enqueueInner id now config spec summary).runningId = q.runningId := by
  simp [runningId, enqueueInner]

theorem runningId_markCompleted (runs : q.runningId = some id) (result : DistributedTestResult)
    (st : TestStatus) (now : Nat) : (q.markCompleted id result st now).runningId = none := by
  obtain ⟨r, running, own⟩ := map_eq_some_iff.mp runs
  simp [markCompleted, running, own, runningId]

theorem stage_nextTest (idle : s.queue.runningId = none) :
    s.nextTest.scheduler.testId = s.nextTest.queue.runningId := by
  have free : s.queue.running = none := map_eq_none_iff.mp idle
  unfold nextTest tryDequeue
  rw [free]
  cases line : s.queue.pending with
  | nil => simp [Stage.testId, TestQueue.runningId, free]
  | cons entry rest => simp [Stage.testId, TestQueue.runningId, TestQueue.start]

theorem placed_nextTest (placed : s.queue.Placed id p) :
    s.nextTest.queue.Placed id p ∨ s.nextTest.queue.Placed id p.started := by
  have moved := placed_tryDequeue s.clock placed
  rw [nextTest_queue]
  split at moved
  · exact .inr moved
  · exact .inl moved

theorem placed_complete (placed : s.queue.Placed id p) (target : TestId)
    (result : DistributedTestResult) (st : TestStatus) :
    ∃ p', (p' = (if id = target then p.finished st else p) ∨
        p' = (if id = target then p.finished st else p).started) ∧
      (s.complete target result st).queue.Placed id p' := by
  rcases placed_nextTest (placed_markCompleted target result st s.clock placed) (s := { s with
      queue := s.queue.markCompleted target result st s.clock }) with same | moved
  · exact ⟨_, .inl rfl, same⟩
  · exact ⟨_, .inr rfl, moved⟩

theorem moves_started (next : p' = p ∨ p' = p.started) : s.Moves id p p' := by
  rcases next with rfl | rfl
  · exact .stay p'
  · cases p with
    | waiting kept => exact .started kept
    | _ => exact .stay _

theorem stay_of_channelsOnly (only : ChannelsOnly s.queue s'.queue) (placed : s.queue.Placed id p) :
    ∃ p', s'.queue.Placed id p' ∧ s.Moves id p p' :=
  ⟨p, placed.congr (only.view id), .stay p⟩

/-- Every step moves every test on, or leaves it where it is. -/
theorem step_moves (taken : step setup s event = some s') (placed : s.queue.Placed id p) :
    ∃ p', s'.queue.Placed id p' ∧ s.Moves id p p' := by
  cases event with
  | arrive request | elapse time =>
    cases taken
    exact stay_of_channelsOnly (.refl _) placed
  | wake => exact stay_of_channelsOnly (wake_queue taken).1 placed
  | serve n drawn =>
    obtain ⟨-, unused, request, -, rfl⟩ := step_serve.mp taken
    rcases handle_queue (s := s.accept n) n drawn request with
      only | ⟨config, spec, queue⟩ | ⟨target, result, returned⟩
    · exact ⟨p, placed.congr (only.view id), .stay p⟩
    · have fresh : s.queue.status drawn = none := congrArg (Option.map TestInfo.status) unused
      have moved := placed_enqueueInner fresh s.clock config (some spec) (setup.summary spec) placed
      rw [queue]
      refine ⟨_, moved, ?_⟩
      split
      · rename_i own
        subst own
        rw [placed.unknown_of_unlisted fresh]
        exact .enqueued true
      · exact .stay p
    · have moved := placed_cancel returned placed
      refine ⟨_, moved, ?_⟩
      split
      · cases p with
        | waiting kept => exact .withdrawn kept
        | _ => exact .stay _
      · exact .stay p
  | schedule world =>
    cases scheduled (step_schedule.mp taken).2 with
    | next polls =>
      rcases placed_nextTest placed with same | moved
      · exact ⟨p, same, .stay p⟩
      · exact ⟨p.started, moved, moves_started (.inr rfl)⟩
    | ticks sleeps nodes => exact stay_of_channelsOnly channelsOnly_take.1 placed
    | goesOn reads same nearer => exact stay_of_channelsOnly reads.channelsOnly placed
    | @completes target result status runs outcome =>
      obtain ⟨p', next, moved⟩ := placed_complete placed target result status
      refine ⟨p', moved, ?_⟩
      by_cases own : id = target
      · subst own
        rw [if_pos rfl] at next
        cases p with
        | running kept =>
          obtain rfl : p' = .ended status := by rcases next with same | same <;> exact same
          rcases outcome with rfl | ⟨rfl, config, discovers⟩
          · exact .completed kept runs
          · exact .failed kept discovers
        | _ => exact moves_started next
      · rw [if_neg own] at next
        exact moves_started next

/-- Only the scheduler's own turns change where it is. -/
theorem step_scheduler (taken : step setup s event = some s')
    (other : ∀ world, event ≠ .schedule world) : s'.scheduler = s.scheduler := by
  cases event with
  | arrive request | elapse time =>
    cases taken
    rfl
  | wake => exact (wake_queue taken).2
  | serve n drawn =>
    obtain ⟨-, -, request, -, rfl⟩ := step_serve.mp taken
    rw [(handle_frame ..).1]
    rfl
  | schedule world => exact absurd rfl (other world)

theorem handle_runningId (request : Request Spec) :
    (s.handle setup n drawn request).queue.runningId = s.queue.runningId := by
  rcases handle_queue (s := s) n drawn request with
    only | ⟨config, spec, queue⟩ | ⟨target, result, returned⟩
  · exact only.runningId
  · rw [queue, runningId_enqueueInner]
  · rcases running_cancel returned with same | ⟨r, c, runs, runs'⟩
    · rw [runningId, same, runningId]
    · simp [runningId, runs, runs']

theorem inPlace_step (inPlace : s.InPlace) (taken : step setup s event = some s') : s'.InPlace := by
  refine ⟨fun id => ?_, ?_⟩
  · obtain ⟨p, placed⟩ := inPlace.placed id
    obtain ⟨p', moved, -⟩ := step_moves taken placed
    exact ⟨p', moved⟩
  have stage := inPlace.stage
  cases event with
  | arrive request | elapse time =>
    cases taken
    exact stage
  | wake =>
    obtain ⟨only, same⟩ := wake_queue taken
    rw [same, only.runningId, stage]
  | serve n drawn =>
    obtain ⟨-, unused, request, -, rfl⟩ := step_serve.mp taken
    rw [(handle_frame ..).1, handle_runningId]
    exact stage
  | schedule world =>
    cases scheduled (step_schedule.mp taken).2 with
    | next polls =>
      apply stage_nextTest
      rw [← stage, polls]
      rfl
    | completes runs outcome =>
      apply stage_nextTest
      exact runningId_markCompleted (stage.symm.trans runs) _ _ s.clock
    | ticks sleeps nodes =>
      rw [sleeps] at stage
      exact stage.trans channelsOnly_take.1.runningId.symm
    | goesOn reads same nearer => exact same.trans (stage.trans reads.channelsOnly.runningId.symm)

/-- A test whose run is completed has ended. -/
theorem ended_of_complete (inPlace : s.InPlace) (runs : s.scheduler.testId = some id)
    (result : DistributedTestResult) (st : TestStatus) :
    (s.complete id result st).queue.Placed id (.ended st) := by
  obtain ⟨p, placed⟩ := inPlace.placed id
  obtain ⟨kept, rfl⟩ := placed.running_iff.mp (inPlace.stage.symm.trans runs)
  obtain ⟨p', next, moved⟩ := placed_complete placed id result st
  rw [if_pos rfl] at next
  obtain rfl : p' = .ended st := by rcases next with same | same <;> exact same
  exact moved

theorem inPlace_start (ops : List (StoreOp Spec)) :
    (start store (store.after ops) : Leader S Spec B).InPlace := by
  refine ⟨fun id => ?_, rfl⟩
  -- what is stored is over, whatever its status, and nothing else is known
  have consistent : store.Consistent (store.after ops) := consistent_after ops
  cases found : lookup TestInfo.id id (store.index (store.after ops)) with
  | some info =>
    have own : info.id = id := key_of_lookup found
    obtain ⟨e, read, same⟩ := consistent.agrees info (mem_of_lookup found)
    refine ⟨.ended info.status, rfl, rfl, ?_, .inr ?_⟩
    · exact congrArg (Option.map TestInfo.status) found
    · show (store.entry (store.after ops) id).map _ = some info.status
      rw [← own, read, map_some, same]
  | none =>
    refine ⟨.unknown, rfl, rfl, ?_, .inl ?_⟩
    · exact congrArg (Option.map TestInfo.status) found
    · have noFile : store.after ops (entryPath id) = none := by
        have absent := (consistent.files id).not.mpr (lookup_eq_none.mp found)
        simpa using absent
      show (store.entry (store.after ops) id).map _ = none
      rw [entry_eq, noFile]
      rfl

/-- Every test has a place in every state of a run. -/
theorem inPlace_of_run {ops : List (StoreOp Spec)} {events : List (LeaderEvent Spec)}
    (run : Trace.exec (step setup) (start store (store.after ops)) events = some s) : s.InPlace :=
  Trace.exec_invariant (I := fun _ s => s.InPlace) (inPlace_start ops) inPlace_step run

end Leader

end Netanvil.Distributed
