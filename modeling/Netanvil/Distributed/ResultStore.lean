/-
# Test entries on disk

The leader keeps one JSON file per test and an index of all of them in a results directory.
Every operation is a program on that directory (`Theory.Disk`); here its steps all succeed.
`serde_json` can read what it wrote, but of an entry only the `info` is sure to be as it was,
since printed floats may be read as others.
-/
import Netanvil.Theory.Disk
import Netanvil.Theory.Keyed
import Netanvil.Distributed.Coordinator

namespace Netanvil.Distributed

open Netanvil.Types Theory Theory.Disk Theory.Tally Prog List Function Keyed

/-! ## Tests and their results -/

/-- A test's id. Every generated one starts with `t-`. -/
@[ext] structure TestId where
  name : String
  generated : ∃ rest, name = "t-" ++ rest

instance : DecidableEq TestId := fun a b =>
  decidable_of_iff (a.name = b.name) TestId.ext_iff.symm

inductive TestStatus where
  | queued
  | starting
  | running
  | completed
  | failed
  | cancelled
  deriving DecidableEq

def TestStatus.isTerminal : TestStatus → Bool
  | .completed | .failed | .cancelled => true
  | .queued | .starting | .running => false

/-- What a listing shows of a test. Times are the seconds their texts are made of. -/
structure TestInfo where
  id : TestId
  status : TestStatus
  createdAt : Nat
  startedAt : Option Nat
  completedAt : Option Nat
  configSummary : String
  deriving DecidableEq

structure StoredNodeResult where
  nodeId : String
  totalRequests : Nat
  totalErrors : Nat
  currentRps : ℚ
  targetRps : ℚ
  errorRate : ℚ
  latencyP50Ms : ℚ
  latencyP90Ms : ℚ
  latencyP99Ms : ℚ
  deriving DecidableEq

structure StoredTestResult where
  totalRequests : Nat
  totalErrors : Nat
  durationSecs : ℚ
  requestRate : ℚ
  errorRate : ℚ
  latencyP50Ms : ℚ
  latencyP90Ms : ℚ
  latencyP99Ms : ℚ
  /-- In the order of a hash map, that is in none. -/
  nodes : Multiset StoredNodeResult
  deriving DecidableEq

def StoredNodeResult.ofMetrics (id : NodeId) (m : RemoteMetrics) : StoredNodeResult where
  nodeId := id.name
  totalRequests := m.totalRequests
  totalErrors := m.totalErrors
  currentRps := m.currentRps
  targetRps := m.targetRps
  errorRate := m.errorRate
  latencyP50Ms := m.latencyP50Ms
  latencyP90Ms := m.latencyP90Ms
  latencyP99Ms := m.latencyP99Ms

def StoredTestResult.fromDistributed (r : DistributedTestResult) : StoredTestResult :=
  let secs : ℚ := max (r.duration / 1000000000) (1 / 1000)
  { totalRequests := r.totalRequests
    totalErrors := r.totalErrors
    durationSecs := secs
    requestRate := r.totalRequests / secs
    errorRate := if r.totalRequests > 0 then r.totalErrors / r.totalRequests else 0
    latencyP50Ms := peak 0 RemoteMetrics.latencyP50Ms r.nodes
    latencyP90Ms := peak 0 RemoteMetrics.latencyP90Ms r.nodes
    latencyP99Ms := peak 0 RemoteMetrics.latencyP99Ms r.nodes
    nodes := r.nodes.entries.map fun e => .ofMetrics e.1 e.2 }

/-- What an entry file holds. -/
structure StoredTestEntry (Spec : Type) where
  info : TestInfo
  spec : Spec
  result : Option StoredTestResult
  deriving DecidableEq

/-! ## Files of the store -/

inductive Extension where
  | json
  | tmp
  deriving DecidableEq

/-- A file of the results directory. -/
structure Path where
  stem : String
  extension : Extension
  deriving DecidableEq

def Path.withExtension (path : Path) (extension : Extension) : Path :=
  { path with extension := extension }

def entryPath (id : TestId) : Path := ⟨id.name, .json⟩

def indexPath : Path := ⟨"index", .json⟩

theorem TestId.name_ne_index (id : TestId) : id.name ≠ "index" := by
  obtain ⟨name, rest, rfl⟩ := id
  intro same
  have letters : ("t-" ++ rest).toList = "index".toList := congrArg String.toList same
  rw [String.toList_append] at letters
  simp at letters

@[simp] theorem entryPath_inj {id id' : TestId} : entryPath id = entryPath id' ↔ id = id' := by
  simp [entryPath, TestId.ext_iff]

@[simp] theorem entryPath_ne_indexPath (id : TestId) : entryPath id ≠ indexPath := by
  simp [entryPath, indexPath, id.name_ne_index]

@[simp] theorem indexPath_ne_entryPath (id : TestId) : indexPath ≠ entryPath id :=
  (entryPath_ne_indexPath id).symm

@[simp] theorem entryPath_ne_tmp (id : TestId) (path : Path) :
    entryPath id ≠ path.withExtension .tmp := by
  simp [entryPath, Path.withExtension]

@[simp] theorem indexPath_ne_tmp (path : Path) : indexPath ≠ path.withExtension .tmp := by
  simp [indexPath, Path.withExtension]

/-! ## Operations -/

structure ResultStore (Spec B : Type) where
  maxResults : Nat
  indexJson : Codec (fun index : List TestInfo => index) B
  entryJson : Codec (fun entry : StoredTestEntry Spec => entry.info) B

/-- Write to a temporary file, then rename it into place. -/
def atomicWrite {B : Type} (path : Path) (data : List B) : Prog Path B Unit := do
  let tmp := path.withExtension .tmp
  perform (.write tmp data)
  perform (.rename tmp path)

/-- Unlink a file if it exists. -/
def removeFile {B : Type} (path : Path) : Prog Path B Unit := do
  if (← readFile path).isSome then perform (.unlink path) else pure ()

def removeEntries {B : Type} : List TestId → Prog Path B Unit
  | [] => pure ()
  | id :: rest => do
      removeFile (entryPath id)
      removeEntries rest

namespace ResultStore

variable {Spec B : Type} (store : ResultStore Spec B)

/-- The index; empty if there is none or it does not parse. -/
def loadIndex : Prog Path B (List TestInfo) := do
  match ← readFile indexPath with
  | some data => pure ((store.indexJson.decode data).getD [])
  | none => pure []

def loadEntry (id : TestId) : Prog Path B (Option (StoredTestEntry Spec)) := do
  match ← readFile (entryPath id) with
  | some data => pure (store.entryJson.decode data)
  | none => pure none

/-- Remove the oldest finished tests, by their place in the index, if there are more
than `maxResults`: their files, then the index in memory. -/
def prune (index : List TestInfo) : Prog Path B (List TestInfo) :=
  let terminal := index.filter fun i => i.status.isTerminal
  if terminal.length ≤ store.maxResults then pure index
  else do
    let removeIds := (terminal.take (terminal.length - store.maxResults)).map TestInfo.id
    removeEntries removeIds
    pure (index.filter fun i => i.id ∉ removeIds)

/-- Write the entry's file, then the index with the entry in it. -/
def save (entry : StoredTestEntry Spec) : Prog Path B Unit := do
  atomicWrite (entryPath entry.info.id) (store.entryJson.encode entry)
  let index ← store.loadIndex
  let index := upsert TestInfo.id entry.info index
  let index ← store.prune index
  atomicWrite indexPath (store.indexJson.encode index)

def remove (id : TestId) : Prog Path B Unit := do
  removeFile (entryPath id)
  let index ← store.loadIndex
  let index := index.filter fun i => i.id ≠ id
  atomicWrite indexPath (store.indexJson.encode index)

end ResultStore

/-! ## What each piece does -/

section

variable {B : Type} (path : Path) (data : List B)

section

variable (d : Directory Path B)
include d

theorem steps_atomicWrite :
    (atomicWrite path data).steps d =
      [.write (path.withExtension .tmp) data, .rename (path.withExtension .tmp) path] := rfl

theorem disk_atomicWrite {file : Path} (notTmp : file ≠ path.withExtension .tmp) :
    (atomicWrite path data).disk d file = if file = path then some data else d file := by
  simp only [disk, steps_atomicWrite, applyAll_cons, applyAll_nil, Step.apply,
    update_apply, if_neg notTmp]
  rfl

theorem steps_removeFile :
    (removeFile path).steps d = if (d path).isSome then [.unlink path] else [] := by
  unfold removeFile
  by_cases present : (d path).isSome
  · simp [present]
  · simp [present]

theorem disk_removeFile : (removeFile path).disk d = update d path none := by
  rw [disk, steps_removeFile]
  split
  · rfl
  · rename_i absent
    have gone : d path = none := by simpa using absent
    rw [← gone, update_eq_self]
    rfl

end

theorem disk_removeEntries (ids : List TestId) (d : Directory Path B) (file : Path) :
    (removeEntries ids).disk d file = if file ∈ ids.map entryPath then none else d file := by
  induction ids generalizing d with
  | nil => simp [removeEntries]
  | cons id rest ih =>
    rw [removeEntries, disk_bind, ih, disk_removeFile, map_cons]
    by_cases here : file = entryPath id
    · simp [here]
    · simp [here]

/-- Removing entries takes no step but unlinks of their files. -/
theorem mem_steps_removeEntries {ids : List TestId} {d : Directory Path B} {step : Step Path B}
    (member : step ∈ (removeEntries ids).steps d) : ∃ id ∈ ids, step = .unlink (entryPath id) := by
  induction ids generalizing d with
  | nil => cases member
  | cons id rest ih =>
    rw [removeEntries, steps_bind, steps_removeFile, mem_append] at member
    rcases member with own | later
    · split at own
      · exact ⟨id, mem_cons_self, mem_singleton.mp own⟩
      · cases own
    · obtain ⟨other, inRest, same⟩ := ih later
      exact ⟨other, mem_cons_of_mem _ inRest, same⟩

end

namespace ResultStore

variable {Spec B : Type} (store : ResultStore Spec B) (d : Directory Path B)

/-- The index a directory holds. -/
def index : List TestInfo := store.loadIndex.result d

/-- The entry of a test that a directory holds. -/
def entry (id : TestId) : Option (StoredTestEntry Spec) := (store.loadEntry id).result d

theorem index_eq : store.index d = ((d indexPath).bind store.indexJson.decode).getD [] := by
  unfold index loadIndex
  rw [result_bind, (run_readFile ..).1]
  cases d indexPath <;> rfl

theorem entry_eq (id : TestId) :
    store.entry d id = (d (entryPath id)).bind store.entryJson.decode := by
  unfold entry loadEntry
  rw [result_bind, (run_readFile ..).1]
  cases d (entryPath id) <;> rfl

theorem steps_loadIndex : store.loadIndex.steps d = [] := by
  unfold loadIndex
  rw [steps_bind, (run_readFile ..).1]
  cases d indexPath <;> rfl

theorem disk_loadIndex : store.loadIndex.disk d = d := by
  rw [disk, steps_loadIndex, applyAll_nil]

theorem index_congr {d d' : Directory Path B} (same : d indexPath = d' indexPath) :
    store.index d = store.index d' := by
  rw [index_eq, index_eq, same]

/-- The index with a saved entry's line in it, before pruning. -/
def updated (entry : StoredTestEntry Spec) : List TestInfo :=
  upsert TestInfo.id entry.info (store.index d)

/-- The tests pruned from an index. -/
def pruned (index : List TestInfo) : List TestId :=
  surplus TestInfo.id (fun i => i.status.isTerminal) store.maxResults index

/-- What pruning leaves of an index. -/
def kept (index : List TestInfo) : List TestInfo :=
  Keyed.prune TestInfo.id (fun i => i.status.isTerminal) store.maxResults index

variable (index : List TestInfo)

theorem result_prune : (store.prune index).result d = store.kept index := by
  unfold kept
  by_cases few : (index.filter fun i => i.status.isTerminal).length ≤ store.maxResults
  · simp only [prune, if_pos few, run_pure, prune_of_le few]
  · simp only [prune, if_neg few]
    rfl

theorem steps_prune :
    (store.prune index).steps d = (removeEntries (store.pruned index)).steps d := by
  unfold pruned
  by_cases few : (index.filter fun i => i.status.isTerminal).length ≤ store.maxResults
  · simp only [prune, if_pos few, surplus_of_le few]
    rfl
  · simp only [prune, if_neg few, steps_bind, run_pure, append_nil]
    rfl

theorem disk_prune : (store.prune index).disk d = (removeEntries (store.pruned index)).disk d := by
  rw [disk, steps_prune, disk]

/-! ## Saving -/

section

variable (entry : StoredTestEntry Spec)

/-- The directory with the entry's file in place. -/
def withEntry : Directory Path B :=
  (atomicWrite (entryPath entry.info.id) (store.entryJson.encode entry)).disk d

theorem index_withEntry : store.index (store.withEntry d entry) = store.index d := by
  apply index_congr
  rw [withEntry, disk_atomicWrite _ _ _ (indexPath_ne_tmp _), if_neg (indexPath_ne_entryPath _)]

theorem steps_save :
    (store.save entry).steps d =
      [.write ((entryPath entry.info.id).withExtension .tmp) (store.entryJson.encode entry),
        .rename ((entryPath entry.info.id).withExtension .tmp) (entryPath entry.info.id)] ++
      ((removeEntries (store.pruned (store.updated d entry))).steps (store.withEntry d entry) ++
      [.write (indexPath.withExtension .tmp)
          (store.indexJson.encode (store.kept (store.updated d entry))),
        .rename (indexPath.withExtension .tmp) indexPath]) := by
  have loaded : store.loadIndex.result (store.withEntry d entry) = store.index d :=
    store.index_withEntry d entry
  unfold save
  simp only [steps_bind, steps_atomicWrite]
  rw [← withEntry, loaded, steps_loadIndex, disk_loadIndex, nil_append, steps_prune, result_prune]
  rfl

theorem save_disk :
    (store.save entry).disk d =
      (atomicWrite indexPath (store.indexJson.encode (store.kept (store.updated d entry)))).disk
        ((removeEntries (store.pruned (store.updated d entry))).disk
          (store.withEntry d entry)) := by
  have loaded : store.loadIndex.result (store.withEntry d entry) = store.index d :=
    store.index_withEntry d entry
  unfold save
  rw [disk_bind, ← withEntry, disk_bind, loaded, disk_loadIndex, disk_bind,
    disk_prune, result_prune]
  rfl

theorem decode_index (index : List TestInfo) :
    store.indexJson.decode (store.indexJson.encode index) = some index := by
  obtain ⟨back, read, rfl⟩ := store.indexJson.view_decode index
  exact read

/-- After a save the index is the updated one, pruned. -/
theorem save_index :
    store.index ((store.save entry).disk d) = store.kept (store.updated d entry) := by
  rw [index_eq, save_disk, disk_atomicWrite _ _ _ (indexPath_ne_tmp _), if_pos rfl]
  simp [decode_index]

/-- After a save the pruned files are gone, the saved one is new, the others are as
before. -/
theorem save_file (id : TestId) :
    (store.save entry).disk d (entryPath id) =
      if id ∈ store.pruned (store.updated d entry) then none
      else if id = entry.info.id then some (store.entryJson.encode entry)
      else d (entryPath id) := by
  have member : entryPath id ∈ (store.pruned (store.updated d entry)).map entryPath ↔
      id ∈ store.pruned (store.updated d entry) := by
    simp [mem_map]
  rw [save_disk, disk_atomicWrite _ _ _ (entryPath_ne_tmp id _), if_neg (entryPath_ne_indexPath id),
    disk_removeEntries, withEntry, disk_atomicWrite _ _ _ (entryPath_ne_tmp id _)]
  simp only [member, entryPath_inj]

end

/-! ## Removing -/

variable (id : TestId)

theorem index_removed : store.index ((removeFile (entryPath id)).disk d) = store.index d := by
  apply index_congr
  rw [disk_removeFile, update_of_ne (indexPath_ne_entryPath id)]

theorem steps_remove :
    (store.remove id).steps d =
      (removeFile (entryPath id)).steps d ++
      [.write (indexPath.withExtension .tmp)
          (store.indexJson.encode ((store.index d).filter fun i => i.id ≠ id)),
        .rename (indexPath.withExtension .tmp) indexPath] := by
  have loaded : store.loadIndex.result ((removeFile (entryPath id)).disk d) = store.index d :=
    store.index_removed d id
  unfold remove
  simp only [steps_bind, steps_atomicWrite]
  rw [loaded, steps_loadIndex, nil_append]

theorem remove_disk :
    (store.remove id).disk d =
      (atomicWrite indexPath
        (store.indexJson.encode ((store.index d).filter fun i => i.id ≠ id))).disk
          (update d (entryPath id) none) := by
  have loaded : store.loadIndex.result ((removeFile (entryPath id)).disk d) = store.index d :=
    store.index_removed d id
  unfold remove
  rw [disk_bind, disk_bind, loaded, disk_loadIndex, disk_removeFile]

theorem remove_index :
    store.index ((store.remove id).disk d) = (store.index d).filter fun i => i.id ≠ id := by
  rw [index_eq, remove_disk, disk_atomicWrite _ _ _ (indexPath_ne_tmp _), if_pos rfl]
  simp [decode_index]

theorem remove_file (other : TestId) :
    (store.remove id).disk d (entryPath other) =
      if other = id then none else d (entryPath other) := by
  rw [remove_disk, disk_atomicWrite _ _ _ (entryPath_ne_tmp other _),
    if_neg (entryPath_ne_indexPath other), update_apply]
  simp only [entryPath_inj]

end ResultStore

/-! ## A small store -/

/-- A cell that holds a whole index or a whole entry. -/
abbrev Cell := List TestInfo ⊕ StoredTestEntry Unit

/-- A store whose files are one cell each. -/
def smallStore (maxResults : Nat) : ResultStore Unit Cell where
  maxResults := maxResults
  indexJson :=
    { encode := fun index => [.inl index]
      decode := fun data => match data with
        | [.inl index] => some index
        | _ => none
      view_decode := fun _ => ⟨_, rfl, rfl⟩ }
  entryJson :=
    { encode := fun entry => [.inr entry]
      decode := fun data => match data with
        | [.inr entry] => some entry
        | _ => none
      view_decode := fun _ => ⟨_, rfl, rfl⟩ }

def testA : TestId := ⟨"t-a", "a", by decide⟩

def testB : TestId := ⟨"t-b", "b", by decide⟩

/-- An entry that says nothing but a test's status. -/
def statusOnly (id : TestId) (status : TestStatus) : StoredTestEntry Unit :=
  ⟨⟨id, status, 0, none, none, ""⟩, (), none⟩

end Netanvil.Distributed
