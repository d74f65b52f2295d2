/-
# The leader's queue of tests

Tests wait in `pending`, at most one is `running`, and `allTests` lists them all for the API.
An entry is saved when a test is queued, when it is cancelled while it waits and when it has
run. The queue works on the store's directory, which outlives it; `new` is what a restarted
leader begins with. A running test's record holds the channels to its coordinator.
-/
import Netanvil.Theory.Channel
import Netanvil.Distributed.Retention

namespace Netanvil.Distributed

open Netanvil.Types Theory Theory.Disk Channel Keyed

structure QueueEntry (Spec : Type) where
  id : TestId
  config : TestConfig
  spec : Option Spec
  summary : String
  createdAt : Nat

/-- A controller update and the number of the channel its answer is awaited on. -/
structure ControllerUpdateCommand where
  action : String
  params : Json
  responseTx : Nat

structure RunningTest (Spec : Type) where
  id : TestId
  configSummary : String
  spec : Option Spec
  createdAt : Nat
  startedAt : Nat
  progress : Option DistributedProgressUpdate
  cancelTx : Channel Unit
  rateOverrideTx : Channel ℚ
  signalTx : Channel (String × ℚ)
  holdTx : Channel HoldCommand
  controllerUpdateTx : Channel ControllerUpdateCommand
  controllerInfoTx : Channel Nat

structure TestQueue (Spec B : Type) where
  pending : List (QueueEntry Spec)
  running : Option (RunningTest Spec)
  allTests : List TestInfo
  store : ResultStore Spec B
  /-- The results directory. -/
  disk : Directory Path B

inductive CancelResult where
  | cancelled
  | stopping
  | alreadyDone
  | notFound
  deriving DecidableEq

namespace TestQueue

variable {Spec B : Type}

/-- The queue over a results directory: it lists what is stored, and nothing waits. -/
def new (store : ResultStore Spec B) (disk : Directory Path B) : TestQueue Spec B :=
  ⟨[], none, store.index disk, store, disk⟩

/-- Save a test's state, if there is a specification to save it with. -/
def persist (q : TestQueue Spec B) (info : TestInfo) (spec : Option Spec)
    (result : Option StoredTestResult) : TestQueue Spec B :=
  match spec with
  | some spec => { q with disk := (q.store.save ⟨info, spec, result⟩).disk q.disk }
  | none => q

def enqueueInner (q : TestQueue Spec B) (id : TestId) (now : Nat) (config : TestConfig)
    (spec : Option Spec) (summary : String) : TestQueue Spec B :=
  let info : TestInfo := ⟨id, .queued, now, none, none, summary⟩
  let q : TestQueue Spec B := { q with
    pending := q.pending ++ [⟨id, config, spec, summary, now⟩]
    allTests := q.allTests ++ [info] }
  q.persist info spec none

/-! ## Reading -/

def getInfo (q : TestQueue Spec B) (id : TestId) : Option TestInfo :=
  lookup TestInfo.id id q.allTests

def getEntry (q : TestQueue Spec B) (id : TestId) : Option (StoredTestEntry Spec) :=
  q.store.entry q.disk id

def getProgress (q : TestQueue Spec B) (id : TestId) : Option DistributedProgressUpdate :=
  match q.running with
  | some r => if r.id = id then r.progress else none
  | none => none

/-! ## Commands to the running test -/

/-- Change the record of the running test, if it is `id` and the change goes through. -/
def sendTo (q : TestQueue Spec B) (id : TestId)
    (send : RunningTest Spec → Option (RunningTest Spec)) : Bool × TestQueue Spec B :=
  match q.running with
  | some r =>
    if r.id = id then
      match send r with
      | some r => (true, { q with running := some r })
      | none => (false, q)
    else (false, q)
  | none => (false, q)

def sendRateOverride (q : TestQueue Spec B) (id : TestId) (rps : ℚ) : Bool × TestQueue Spec B :=
  q.sendTo id fun r => (r.rateOverrideTx.trySend rps).map fun c => { r with rateOverrideTx := c }

def sendHold (q : TestQueue Spec B) (id : TestId) (rps : ℚ) : Bool × TestQueue Spec B :=
  q.sendTo id fun r => (r.holdTx.trySend (.hold rps)).map fun c => { r with holdTx := c }

def sendRelease (q : TestQueue Spec B) (id : TestId) : Bool × TestQueue Spec B :=
  q.sendTo id fun r => (r.holdTx.trySend .release).map fun c => { r with holdTx := c }

def sendSignal (q : TestQueue Spec B) (id : TestId) (name : String) (value : ℚ) :
    Bool × TestQueue Spec B :=
  q.sendTo id fun r => (r.signalTx.trySend (name, value)).map fun c => { r with signalTx := c }

/-- The send in `cancel`, once there is room. -/
def sendCancel (q : TestQueue Spec B) (id : TestId) : Bool × TestQueue Spec B :=
  q.sendTo id fun r => (r.cancelTx.trySend ()).map fun c => { r with cancelTx := c }

/-- The first half of `send_controller_update`: the command is on its way. The answer
is awaited on the command's channel, without the lock. -/
def sendControllerUpdate (q : TestQueue Spec B) (id : TestId) (command : ControllerUpdateCommand) :
    Bool × TestQueue Spec B :=
  q.sendTo id fun r =>
    (r.controllerUpdateTx.trySend command).map fun c => { r with controllerUpdateTx := c }

/-- The first half of `get_controller_info`. -/
def getControllerInfo (q : TestQueue Spec B) (id : TestId) (responseTx : Nat) :
    Bool × TestQueue Spec B :=
  q.sendTo id fun r =>
    (r.controllerInfoTx.trySend responseTx).map fun c => { r with controllerInfoTx := c }

/-! ## Changes of state -/

/-- What `cancel` says about a test that is neither queued nor running. -/
def finishedOrUnknown (q : TestQueue Spec B) (id : TestId) : CancelResult :=
  match lookup TestInfo.id id q.allTests with
  | some info => if info.status.isTerminal then .alreadyDone else .notFound
  | none => .notFound

/-- Cancel a queued or running test. `none` stands for a call that has not returned: it
waits, with the lock held, for room in the running test's cancel channel. -/
def cancel (q : TestQueue Spec B) (id : TestId) (now : Nat) :
    Option (CancelResult × TestQueue Spec B) :=
  match q.pending.find? fun e => e.id = id with
  | some entry =>
    let q : TestQueue Spec B := { q with
      pending := q.pending.eraseP fun e => e.id = id
      allTests := modify TestInfo.id id
        (fun i => { i with status := .cancelled, completedAt := some now }) q.allTests }
    let info : TestInfo := ⟨id, .cancelled, entry.createdAt, none, some now, entry.summary⟩
    some (.cancelled, q.persist info entry.spec none)
  | none =>
    match q.running with
    | some r =>
      if r.id = id then
        (r.cancelTx.trySend ()).map fun c =>
          (.stopping, { q with running := some { r with cancelTx := c } })
      else some (q.finishedOrUnknown id, q)
    | none => some (q.finishedOrUnknown id, q)

/-- The record a test starts to run with. -/
def start (entry : QueueEntry Spec) (now : Nat) : RunningTest Spec where
  id := entry.id
  configSummary := entry.summary
  spec := entry.spec
  createdAt := entry.createdAt
  startedAt := now
  progress := none
  cancelTx := .bounded 1
  rateOverrideTx := .bounded 4
  signalTx := .bounded 16
  holdTx := .bounded 4
  controllerUpdateTx := .bounded 4
  controllerInfoTx := .bounded 4

/-- Start the next queued test, unless one is running. The change is not saved. -/
def tryDequeue (q : TestQueue Spec B) (now : Nat) :
    Option (QueueEntry Spec) × TestQueue Spec B :=
  match q.running with
  | some _ => (none, q)
  | none =>
    match q.pending with
    | [] => (none, q)
    | entry :: rest =>
      (some entry,
        { q with
          pending := rest
          running := some (start entry now)
          allTests := modify TestInfo.id entry.id
            (fun i => { i with status := .running, startedAt := some now }) q.allTests })

/-- The running test has ended, if it is `id`. -/
def markCompleted (q : TestQueue Spec B) (id : TestId) (result : DistributedTestResult)
    (status : TestStatus) (now : Nat) : TestQueue Spec B :=
  match q.running with
  | some r =>
    if r.id = id then
      let q : TestQueue Spec B := { q with
        running := none
        allTests := modify TestInfo.id id
          (fun i => { i with status := status, completedAt := some now }) q.allTests }
      let info : TestInfo :=
        ⟨id, status, r.createdAt, some r.startedAt, some now, r.configSummary⟩
      q.persist info r.spec (some (.fromDistributed result))
    else q
  | none => q

/-! ## The coordinator's ends of the channels -/

/-- The commands a tick starts with. -/
structure Commands where
  hold : List HoldCommand
  updates : List ControllerUpdateCommand
  infos : List Nat
  rateOverrides : List ℚ

/-- Receive all commands. -/
def takeCommands (q : TestQueue Spec B) : Commands × TestQueue Spec B :=
  match q.running with
  | some r =>
    (⟨r.holdTx.queue, r.controllerUpdateTx.queue, r.controllerInfoTx.queue,
        r.rateOverrideTx.queue⟩,
      { q with running := some { r with
          holdTx := r.holdTx.drained
          controllerUpdateTx := r.controllerUpdateTx.drained
          controllerInfoTx := r.controllerInfoTx.drained
          rateOverrideTx := r.rateOverrideTx.drained } })
  | none => (⟨[], [], [], []⟩, q)

/-- Receive all pushed signals. -/
def takeSignals (q : TestQueue Spec B) : List (String × ℚ) × TestQueue Spec B :=
  match q.running with
  | some r =>
    (r.signalTx.queue, { q with running := some { r with signalTx := r.signalTx.drained } })
  | none => ([], q)

/-- Look into the cancel channel. -/
def takeCancel (q : TestQueue Spec B) : Bool × TestQueue Spec B :=
  match q.running with
  | some r =>
    match r.cancelTx.tryRecv with
    | some (_, c) => (true, { q with running := some { r with cancelTx := c } })
    | none => (false, q)
  | none => (false, q)

/-- The progress callback. -/
def setProgress (q : TestQueue Spec B) (update : DistributedProgressUpdate) : TestQueue Spec B :=
  { q with running := q.running.map fun r => { r with progress := some update } }

/-! ## Where a test's state is kept -/

def pendingIds (q : TestQueue Spec B) : List TestId := q.pending.map QueueEntry.id

def runningId (q : TestQueue Spec B) : Option TestId := q.running.map RunningTest.id

/-- The status a test is listed with. -/
def status (q : TestQueue Spec B) (id : TestId) : Option TestStatus :=
  (lookup TestInfo.id id q.allTests).map TestInfo.status

/-- The status a test has in the index on disk. -/
def stored (q : TestQueue Spec B) (id : TestId) : Option TestStatus :=
  (lookup TestInfo.id id (q.store.index q.disk)).map TestInfo.status

def storedIds (q : TestQueue Spec B) : List TestId := (q.store.index q.disk).map TestInfo.id

/-! ## What each operation changes -/

variable {q q' : TestQueue Spec B} {id : TestId}

theorem status_ne_none : q.status id ≠ none ↔ id ∈ q.allTests.map TestInfo.id := by
  rw [← lookup_isSome, status]
  cases lookup TestInfo.id id q.allTests <;> simp

/-- Changing the status of one listed test. -/
theorem status_modify (q' : TestQueue Spec B) (f : TestInfo → TestInfo)
    (all : q'.allTests = modify TestInfo.id id f q.allTests) (st : TestStatus)
    (keepsId : ∀ i, (f i).id = i.id) (sets : ∀ i, (f i).status = st) (x : TestId) :
    q'.status x = if x = id then (q.status id).map fun _ => st else q.status x := by
  unfold status
  rw [all, lookup_modify fun i own => (keepsId i).trans own]
  split
  · cases lookup TestInfo.id id q.allTests with
    | none => rfl
    | some i => simp [sets]
  · rfl

section

variable {q : TestQueue Spec B} {id : TestId} {send : RunningTest Spec → Option (RunningTest Spec)}

theorem sendTo_eq_true :
    (q.sendTo id send).1 = true ↔ ∃ r ∈ q.running, r.id = id ∧ send r ≠ none := by
  unfold sendTo
  cases q.running with
  | none => simp
  | some r =>
    by_cases own : r.id = id
    · cases sent : send r <;> simp [own, sent]
    · simp [own]

theorem sendTo_of_some {r r' : RunningTest Spec} (runs : q.running = some r) (own : r.id = id)
    (sent : send r = some r') : q.sendTo id send = (true, { q with running := some r' }) := by
  simp [sendTo, runs, own, sent]

theorem sendControllerUpdate_eq_true {command : ControllerUpdateCommand} :
    (q.sendControllerUpdate id command).1 = true ↔
      ∃ r ∈ q.running, r.id = id ∧ r.controllerUpdateTx.HasRoom := by
  simp [sendControllerUpdate, sendTo_eq_true, trySend_eq_none]

theorem getControllerInfo_eq_true {responseTx : Nat} :
    (q.getControllerInfo id responseTx).1 = true ↔
      ∃ r ∈ q.running, r.id = id ∧ r.controllerInfoTx.HasRoom := by
  simp [getControllerInfo, sendTo_eq_true, trySend_eq_none]

theorem sendCancel_eq_true :
    (q.sendCancel id).1 = true ↔ ∃ r ∈ q.running, r.id = id ∧ r.cancelTx.HasRoom := by
  simp [sendCancel, sendTo_eq_true, trySend_eq_none]

end

section

variable (q : TestQueue Spec B) (info : TestInfo) (spec : Option Spec)
  (result : Option StoredTestResult)

@[simp] theorem persist_frame : (q.persist info spec result).pending = q.pending ∧
    (q.persist info spec result).running = q.running ∧
    (q.persist info spec result).allTests = q.allTests := by
  cases spec <;> exact ⟨rfl, rfl, rfl⟩

theorem consistent_persist (consistent : q.store.Consistent q.disk) :
    (q.persist info spec result).store.Consistent (q.persist info spec result).disk := by
  cases spec with
  | some spec => exact ResultStore.consistent_save consistent _
  | none => exact consistent

end

theorem running_cancel {now : Nat} {result : CancelResult}
    (returned : q.cancel id now = some (result, q')) : q'.running = q.running ∨
      ∃ r c, q.running = some r ∧ q'.running = some { r with cancelTx := c } := by
  unfold cancel at returned
  split at returned
  · cases returned
    exact .inl (by simp)
  · split at returned
    · rename_i r runs
      split at returned
      · obtain ⟨c, -, pair⟩ := Option.map_eq_some_iff.mp returned
        cases pair
        exact .inr ⟨r, c, runs, rfl⟩
      · cases returned
        exact .inl rfl
    · cases returned
      exact .inl rfl

end TestQueue

end Netanvil.Distributed
