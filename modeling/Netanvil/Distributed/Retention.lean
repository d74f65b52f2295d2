/-
# What the result store keeps

Over every sequence of saves and removals the index and the entry files stay in step
(`Consistent`). A saved entry can be read back right after the save with one exception: pruning
goes by where the test was first saved, so a test that finishes after `maxResults` younger ones
is removed by its own save (`retained_iff`).
-/
import Netanvil.Theory.Trace
import Netanvil.Distributed.ResultStore

namespace Netanvil.Distributed

open Theory Theory.Disk List Keyed

variable {Spec B : Type}

/-- An operation that changes the store. -/
inductive StoreOp (Spec : Type) where
  | save (entry : StoredTestEntry Spec)
  | remove (id : TestId)

def StoreOp.program (store : ResultStore Spec B) : StoreOp Spec → Prog Path B Unit
  | .save entry => store.save entry
  | .remove id => store.remove id

/-- The test an operation is about. -/
def StoreOp.subject : StoreOp Spec → TestId
  | .save entry => entry.info.id
  | .remove id => id

namespace ResultStore

variable (store : ResultStore Spec B) (d : Directory Path B)

def perform (op : StoreOp Spec) : Directory Path B := (op.program store).disk d

/-- The directory after the operations, from an empty one. -/
def after (ops : List (StoreOp Spec)) : Directory Path B := ops.foldl store.perform fun _ => none

def finished (index : List TestInfo) : List TestInfo := index.filter fun i => i.status.isTerminal

/-- Index and entry files agree. -/
structure Consistent : Prop where
  distinct : ((store.index d).map TestInfo.id).Nodup
  files : ∀ id, (d (entryPath id)).isSome ↔ id ∈ (store.index d).map TestInfo.id
  agrees : ∀ info ∈ store.index d, ∃ e, store.entry d info.id = some e ∧ e.info = info
  bounded : (finished (store.index d)).length ≤ store.maxResults

/-- What an operation should leave: index and files in step, at most `maxResults`
finished tests, no unfinished test pruned, and a saved entry there to be read. -/
structure Retained (op : StoreOp Spec) : Prop where
  distinct : ((store.index (store.perform d op)).map TestInfo.id).Nodup
  files : ∀ id, (store.perform d op (entryPath id)).isSome ↔
    id ∈ (store.index (store.perform d op)).map TestInfo.id
  bounded : (finished (store.index (store.perform d op))).length ≤ store.maxResults
  unfinished : ∀ info ∈ store.index d, info.status.isTerminal = false → info.id ≠ op.subject →
    info ∈ store.index (store.perform d op) ∧
      store.entry (store.perform d op) info.id = store.entry d info.id
  saved : ∀ entry, op = .save entry → store.entry (store.perform d op) entry.info.id = some entry

/-- A finished test is saved while fewer than `maxResults` finished ones stand behind
its place in the index, and the text of an entry is read as that entry. -/
def InTime : StoreOp Spec → Prop
  | .save entry => (entry.info.status.isTerminal = true →
      (finished (behind TestInfo.id entry.info.id (store.index d))).length < store.maxResults) ∧
      store.entryJson.decode (store.entryJson.encode entry) = some entry
  | .remove _ => True

/-! ## One operation -/

section

variable {store d} (consistent : store.Consistent d) (entry : StoredTestEntry Spec)

theorem mem_updated_self : entry.info ∈ store.updated d entry := by
  have found : lookup TestInfo.id entry.info.id (store.updated d entry) = some entry.info := by
    rw [updated, lookup_upsert, if_pos rfl]
  exact mem_of_lookup found

variable {info : TestInfo}

theorem mem_kept : info ∈ store.kept (store.updated d entry) ↔
      info ∈ store.updated d entry ∧ info.id ∉ store.pruned (store.updated d entry) := by
  unfold kept Keyed.prune pruned
  rw [mem_filter, decide_eq_true_iff]

/-- An entry that is not pruned reads as its text does, or as before. -/
theorem save_entry {id : TestId} (stays : id ∉ store.pruned (store.updated d entry)) :
    store.entry ((store.save entry).disk d) id =
      if id = entry.info.id then store.entryJson.decode (store.entryJson.encode entry)
      else store.entry d id := by
  rw [entry_eq, save_file, if_neg stays]
  split
  · rw [Option.bind_some]
  · rw [entry_eq]

include consistent

theorem updated_distinct : ((store.updated d entry).map TestInfo.id).Nodup :=
  nodup_upsert consistent.distinct

theorem mem_updated : info ∈ store.updated d entry ↔
      info = entry.info ∨ (info ∈ store.index d ∧ info.id ≠ entry.info.id) := by
  constructor
  · intro member
    have found := lookup_of_mem (updated_distinct consistent entry) member
    rw [updated, lookup_upsert] at found
    split at found
    · exact .inl (Option.some.inj found).symm
    · rename_i different
      exact .inr ⟨mem_of_lookup found, different⟩
  · rintro (rfl | ⟨member, different⟩)
    · exact mem_updated_self entry
    · have found : lookup TestInfo.id info.id (store.updated d entry) = some info := by
        rw [updated, lookup_upsert, if_neg different]
        exact lookup_of_mem consistent.distinct member
      exact mem_of_lookup found

theorem unfinished_not_pruned (member : info ∈ store.updated d entry)
    (unfinished : info.status.isTerminal = false) :
    info.id ∉ store.pruned (store.updated d entry) := by
  unfold pruned
  rw [mem_surplus (updated_distinct consistent entry) member]
  simp [unfinished]

theorem save_files (id : TestId) :
    ((store.save entry).disk d (entryPath id)).isSome ↔
      id ∈ (store.index ((store.save entry).disk d)).map TestInfo.id := by
  have before : id ∈ (store.updated d entry).map TestInfo.id ↔
      id = entry.info.id ∨ (d (entryPath id)).isSome := by
    rw [updated, mem_map_key_upsert, consistent.files]
  have after : id ∈ (store.index ((store.save entry).disk d)).map TestInfo.id ↔
      id ∈ (store.updated d entry).map TestInfo.id ∧ id ∉ store.pruned (store.updated d entry) := by
    rw [save_index]
    constructor
    · intro member
      obtain ⟨info, inKept, rfl⟩ := mem_map.mp member
      obtain ⟨inUpdated, stays⟩ := (mem_kept entry).mp inKept
      exact ⟨mem_map_of_mem inUpdated, stays⟩
    · rintro ⟨member, stays⟩
      obtain ⟨info, inUpdated, rfl⟩ := mem_map.mp member
      exact mem_map_of_mem ((mem_kept entry).mpr ⟨inUpdated, stays⟩)
  rw [after, before, save_file]
  by_cases gone : id ∈ store.pruned (store.updated d entry)
  · simp [gone]
  · by_cases own : id = entry.info.id
    · simp [own ▸ gone, own]
    · simp [gone, own]

theorem save_bounded :
    (finished (store.index ((store.save entry).disk d))).length ≤ store.maxResults := by
  rw [save_index]
  exact length_filter_prune (updated_distinct consistent entry)

theorem consistent_save : store.Consistent ((store.save entry).disk d) where
  distinct := by
    rw [save_index]
    exact (updated_distinct consistent entry).sublist (prune_sublist.map _)
  files := save_files consistent entry
  bounded := save_bounded consistent entry
  agrees := by
    intro info member
    rw [save_index] at member
    obtain ⟨inUpdated, stays⟩ := (mem_kept entry).mp member
    rw [save_entry entry stays]
    rcases (mem_updated consistent entry).mp inUpdated with rfl | ⟨earlier, different⟩
    · rw [if_pos rfl]
      exact store.entryJson.view_decode entry
    · rw [if_neg different]
      exact consistent.agrees info earlier

theorem retained_save_iff : store.Retained d (.save entry) ↔ store.InTime d (.save entry) := by
  have stays_iff : store.InTime d (.save entry) ↔
      entry.info.id ∉ store.pruned (store.updated d entry) ∧
        store.entryJson.decode (store.entryJson.encode entry) = some entry := by
    refine and_congr_left' ?_
    rw [iff_not_comm, pruned, mem_surplus (updated_distinct consistent entry)
      (mem_updated_self entry), updated, behind_upsert]
    simp only [finished, Classical.not_imp, not_lt]
  rw [stays_iff]
  constructor
  · intro retained
    have read : store.entry ((store.save entry).disk d) entry.info.id = some entry :=
      retained.saved entry rfl
    have stays : entry.info.id ∉ store.pruned (store.updated d entry) := by
      intro gone
      rw [entry_eq, save_file, if_pos gone] at read
      cases read
    exact ⟨stays, by rw [← read, save_entry entry stays, if_pos rfl]⟩
  · rintro ⟨stays, back⟩
    refine ⟨(consistent_save consistent entry).distinct, save_files consistent entry,
      save_bounded consistent entry, ?_, ?_⟩
    · intro info member unfinished different
      have inUpdated : info ∈ store.updated d entry :=
        (mem_updated consistent entry).mpr (.inr ⟨member, different⟩)
      have kept := unfinished_not_pruned consistent entry inUpdated unfinished
      constructor
      · show info ∈ store.index ((store.save entry).disk d)
        rw [save_index]
        exact (mem_kept entry).mpr ⟨inUpdated, kept⟩
      · show store.entry ((store.save entry).disk d) info.id = _
        rw [save_entry entry kept]
        exact if_neg different
    · rintro saved ⟨⟩
      show store.entry ((store.save entry).disk d) entry.info.id = some entry
      rw [save_entry entry stays, if_pos rfl, back]

/-- The index after a save that loses nothing. An entry saved for the first time must
not be a finished one for that. -/
theorem save_index_of_keeps
    (keeps : (store.index d).map TestInfo.id ⊆
      (store.index ((store.save entry).disk d)).map TestInfo.id)
    (known : entry.info.status.isTerminal = false ∨
      entry.info.id ∈ (store.index d).map TestInfo.id) :
    store.index ((store.save entry).disk d) = store.updated d entry := by
  have nonePruned : ∀ i ∈ store.updated d entry, i.id ∉ store.pruned (store.updated d entry) := by
    intro i member gone
    have lost : i.id ∉ (store.index ((store.save entry).disk d)).map TestInfo.id := by
      intro present
      obtain ⟨j, listed, same⟩ := mem_map.mp present
      rw [save_index] at listed
      exact ((mem_kept entry).mp listed).2 (same ▸ gone)
    rcases (mem_updated consistent entry).mp member with rfl | ⟨earlier, -⟩
    · rcases known with unfinished | listed
      · exact unfinished_not_pruned consistent entry member unfinished gone
      · exact lost (keeps listed)
    · exact lost (keeps (mem_map_of_mem earlier))
  rw [save_index]
  apply filter_eq_self.mpr
  intro i member
  exact decide_eq_true (nonePruned i member)

end

section

variable {store d} (consistent : store.Consistent d) (id : TestId)

theorem remove_entry_of_ne {other : TestId} (different : other ≠ id) :
    store.entry ((store.remove id).disk d) other = store.entry d other := by
  rw [entry_eq, remove_file, if_neg different, entry_eq]

include consistent

theorem consistent_remove : store.Consistent ((store.remove id).disk d) where
  distinct := by
    rw [remove_index]
    exact consistent.distinct.sublist (filter_sublist.map TestInfo.id)
  files := by
    intro other
    rw [remove_index, remove_file]
    by_cases own : other = id
    · simp [own]
    · have listed := consistent.files other
      simp only [own, if_false, listed, mem_map, mem_filter, decide_eq_true_eq]
      constructor
      · rintro ⟨info, member, rfl⟩
        exact ⟨info, ⟨member, own⟩, rfl⟩
      · rintro ⟨info, ⟨member, -⟩, rfl⟩
        exact ⟨info, member, rfl⟩
  agrees := by
    intro info member
    rw [remove_index, mem_filter, decide_eq_true_iff] at member
    rw [remove_entry_of_ne id member.2]
    exact consistent.agrees info member.1
  bounded := by
    rw [remove_index]
    refine le_trans ?_ consistent.bounded
    exact (filter_sublist.filter _).length_le

theorem retained_remove : store.Retained d (.remove id) := by
  have after := consistent_remove consistent id
  refine ⟨after.distinct, after.files, after.bounded, ?_, fun _ other => by cases other⟩
  intro info member _ different
  refine ⟨?_, remove_entry_of_ne id different⟩
  show info ∈ store.index ((store.remove id).disk d)
  rw [remove_index, mem_filter, decide_eq_true_iff]
  exact ⟨member, different⟩

end

/-! ## Every sequence of operations -/

variable {store d} (ops : List (StoreOp Spec))

theorem consistent_perform (consistent : store.Consistent d) (op : StoreOp Spec) :
    store.Consistent (store.perform d op) := by
  cases op with
  | save entry => exact consistent_save consistent entry
  | remove id => exact consistent_remove consistent id

theorem after_snoc (op : StoreOp Spec) :
    store.after (ops ++ [op]) = store.perform (store.after ops) op := by
  simp [after]

theorem consistent_after : store.Consistent (store.after ops) := by
  induction ops using List.reverseRecOn with
  | nil =>
    have empty : store.index (store.after []) = [] := rfl
    have noFile : ∀ id, store.after [] (entryPath id) = none := fun _ => rfl
    exact ⟨by simp [empty], by simp [empty, noFile], by simp [empty], by simp [empty, finished]⟩
  | append_singleton ops op ih =>
    rw [after_snoc]
    exact consistent_perform ih op

/-- **Every operation leaves the store as it should, in every sequence of saves and
removals in which each finished test is saved in time and each text is read as what was
saved.** -/
theorem retained_iff (store : ResultStore Spec B) (ops : List (StoreOp Spec)) :
    Trace.Along (fun done op => store.Retained (store.after done) op) ops ↔
      Trace.Along (fun done op => store.InTime (store.after done) op) ops := by
  have each : ∀ done op, store.Retained (store.after done) op ↔
      store.InTime (store.after done) op := by
    intro done op
    have consistent : store.Consistent (store.after done) := consistent_after done
    cases op with
    | save entry => exact retained_save_iff consistent entry
    | remove id => exact iff_of_true (retained_remove consistent id) trivial
  simp only [each]

/-- A test queued before another one and finished after it is gone after its own save. -/
theorem finished_late_is_pruned :
    ¬ (smallStore 1).Retained
        ((smallStore 1).after
          [.save (statusOnly testA .queued), .save (statusOnly testB .completed)])
        (.save (statusOnly testA .completed)) := by
  intro retained
  have read := retained.saved _ rfl
  revert read
  decide +kernel

end ResultStore

end Netanvil.Distributed
