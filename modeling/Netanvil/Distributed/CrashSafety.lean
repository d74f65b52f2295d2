/-
# The results directory after a crash

Both operations of the store end with the index being renamed into place, so a crash leaves the
index of before or of after. Entry files are unlinked before that rename, though: a crash in
between leaves an index that lists tests whose entries are gone. `reopened_iff` says that this
is the only way to lose one.
-/
import Netanvil.Distributed.Retention

namespace Netanvil.Distributed

open Theory Theory.Disk List

variable {Spec B : Type}

/-- The step that puts a new index in place. -/
def indexRename : Step Path B := .rename (indexPath.withExtension .tmp) indexPath

namespace ResultStore

variable (store : ResultStore Spec B) (d : Directory Path B)

/-- What reopening the directory `left` by a crash should find: the index of before or
after the operation, and an entry for every test in it. -/
structure Reopens (op : StoreOp Spec) (left : Directory Path B) : Prop where
  index : store.index left = store.index d ∨ store.index left = store.index (store.perform d op)
  entries : ∀ info ∈ store.index left, (store.entry left info.id).isSome = true

/-- A listed test's file has been unlinked and the new index is not in place. -/
def Exposed (done : List (Step Path B)) : Prop :=
  (∃ info ∈ store.index d, .unlink (entryPath info.id) ∈ done) ∧ indexRename ∉ done

/-! ## The steps of an operation -/

/-- The steps of an operation in order: the entry's file, the unlinks, the index. -/
structure Plan (steps : List (Step Path B)) where
  opening : List (Step Path B)
  unlinks : List (Step Path B)
  index : List B
  order : steps =
    opening ++ (unlinks ++ [.write (indexPath.withExtension .tmp) index, indexRename])
  opens : opening = [] ∨ ∃ entry : StoredTestEntry Spec,
    opening = [.write ((entryPath entry.info.id).withExtension .tmp) (store.entryJson.encode entry),
      .rename ((entryPath entry.info.id).withExtension .tmp) (entryPath entry.info.id)]
  removes : ∀ step ∈ unlinks, ∃ id, step = .unlink (entryPath id)

variable {store d} {path : Path}

def plan (op : StoreOp Spec) : store.Plan ((op.program store).steps d) :=
  match op with
  | .save entry =>
    { opening := _
      unlinks := _
      index := _
      order := store.steps_save d entry
      opens := Or.inr ⟨entry, rfl⟩
      removes := by
        intro step member
        obtain ⟨id, -, same⟩ := mem_steps_removeEntries member
        exact ⟨id, same⟩ }
  | .remove id =>
    { opening := []
      unlinks := _
      index := _
      order := store.steps_remove d id
      opens := Or.inl rfl
      removes := by
        intro step member
        rw [steps_removeFile] at member
        split at member
        · exact ⟨id, mem_singleton.mp member⟩
        · cases member }

namespace Plan

variable {steps done : List (Step Path B)} (plan : store.Plan steps)

include plan

variable {step : Step Path B} {id : TestId} {part more : List (Step Path B)}

theorem mem_cases (member : step ∈ steps) :
    step ∈ plan.opening ∨ (∃ id, step = .unlink (entryPath id)) ∨
      step = .write (indexPath.withExtension .tmp) plan.index ∨ step = indexRename := by
  rw [plan.order] at member
  simp only [mem_append, mem_cons, not_mem_nil, or_false] at member
  rcases member with opening | unlink | write | rename
  · exact .inl opening
  · exact .inr (.inl (plan.removes step unlink))
  · exact .inr (.inr (.inl write))
  · exact .inr (.inr (.inr rename))

theorem opening_cases (member : step ∈ plan.opening) :
    ∃ entry : StoredTestEntry Spec,
      step = .write ((entryPath entry.info.id).withExtension .tmp) (store.entryJson.encode entry) ∨
      step = .rename ((entryPath entry.info.id).withExtension .tmp) (entryPath entry.info.id) := by
  rcases plan.opens with none | ⟨entry, two⟩
  · rw [none] at member
    cases member
  · rw [two] at member
    simp only [mem_cons, not_mem_nil, or_false] at member
    exact ⟨entry, member⟩

/-- Files with the extension `json` are never written, only renamed into place. -/
theorem unwritten (json : ∀ other : Path, path ≠ other.withExtension .tmp)
    (data : List B) : Step.write path data ∉ steps := by
  intro member
  rcases plan.mem_cases member with opening | ⟨id, unlink⟩ | write | rename
  · obtain ⟨entry, write | rename⟩ := plan.opening_cases opening
    · exact json _ (Step.write.inj write).1
    · cases rename
  · cases unlink
  · exact json _ (Step.write.inj write).1
  · cases rename

/-- Only the last step touches the index. -/
theorem touches_index (member : step ∈ steps) (touches : step.Touches indexPath) :
    step = indexRename := by
  rcases plan.mem_cases member with opening | ⟨id, rfl⟩ | rfl | rename
  · obtain ⟨entry, rfl | rfl⟩ := plan.opening_cases opening
    · exact absurd touches (indexPath_ne_tmp _)
    · exact absurd touches (not_or.mpr ⟨indexPath_ne_tmp _, indexPath_ne_entryPath _⟩)
  · exact absurd touches (indexPath_ne_entryPath id)
  · exact absurd touches (indexPath_ne_tmp _)
  · exact rename

/-- A part of the steps that has the last one is all of them. -/
theorem complete (cut : done <+: steps) (renamed : indexRename ∈ done) : done = steps := by
  have early : indexRename ∉ plan.opening ++ (plan.unlinks ++
      [.write (indexPath.withExtension .tmp) plan.index]) := by
    intro member
    rcases mem_append.mp member with opening | later
    · obtain ⟨entry, write | rename⟩ := plan.opening_cases opening
      · cases write
      · exact indexPath_ne_entryPath entry.info.id (Step.rename.inj rename).2
    · rcases mem_append.mp later with unlink | write
      · obtain ⟨id, same⟩ := plan.removes _ unlink
        cases same
      · cases mem_singleton.mp write
  have order : steps = (plan.opening ++ (plan.unlinks ++
      [.write (indexPath.withExtension .tmp) plan.index])) ++ [indexRename] := by
    have := plan.order
    simpa using this
  rw [order] at cut ⊢
  rcases prefix_append_cases cut with inside | ⟨more, rfl, last⟩
  · exact absurd (inside.subset renamed) early
  · congr 1
    rcases prefix_cons_iff.mp last with rfl | ⟨tail, rfl, empty⟩
    · exact absurd renamed (by simpa using early)
    · rw [prefix_nil.mp empty]

/-- After the opening only unlinks touch an entry's file. -/
theorem touches_entry
    (part : more <+:
      plan.unlinks ++ [.write (indexPath.withExtension .tmp) plan.index, indexRename])
    (member : step ∈ more) (touches : step.Touches (entryPath id)) :
    step = .unlink (entryPath id) := by
  have inside := part.subset member
  simp only [mem_append, mem_cons, not_mem_nil, or_false] at inside
  rcases inside with unlink | rfl | rfl
  · obtain ⟨other, rfl⟩ := plan.removes step unlink
    have same : entryPath id = entryPath other := touches
    rw [same]
  · exact absurd touches (entryPath_ne_tmp _ _)
  · exact absurd touches (not_or.mpr ⟨entryPath_ne_tmp _ _, entryPath_ne_indexPath _⟩)

theorem opening_links (early : part <+: plan.opening) (id : TestId) :
    .unlink (entryPath id) ∉ part := by
  intro member
  obtain ⟨entry, write | rename⟩ := plan.opening_cases (early.subset member)
  · cases write
  · cases rename

/-- The opening leaves an entry's file as it was, or makes it. -/
theorem opening_file (early : part <+: plan.opening) (id : TestId) (d : Directory Path B) :
    applyAll d part (entryPath id) = d (entryPath id) ∨
      ∃ entry, applyAll d part (entryPath id) = some (store.entryJson.encode entry) := by
  rcases plan.opens with none | ⟨entry, two⟩
  · rw [none, prefix_nil] at early
    exact .inl (by rw [early]; rfl)
  · rw [two] at early
    rcases prefix_cons_iff.mp early with rfl | ⟨tail, rfl, rest⟩
    · exact .inl rfl
    rcases prefix_cons_iff.mp rest with rfl | ⟨last, rfl, empty⟩
    · exact .inl (Function.update_of_ne (entryPath_ne_tmp _ _) _ _)
    · rw [prefix_nil.mp empty]
      have written := disk_atomicWrite (entryPath entry.info.id) (store.entryJson.encode entry) d
        (entryPath_ne_tmp id _)
      rw [Prog.disk, steps_atomicWrite] at written
      rw [written]
      split
      · exact .inr ⟨entry, rfl⟩
      · exact .inl rfl

/-- An unlinked entry is gone. -/
theorem entry_file_of_unlinked (cut : done <+: steps) (unlinked : .unlink (entryPath id) ∈ done)
    (d : Directory Path B) :
    applyAll d done (entryPath id) = none := by
  have ordered := cut
  rw [plan.order] at ordered
  rcases prefix_append_cases ordered with early | ⟨more, rfl, part⟩
  · exact absurd unlinked (plan.opening_links early id)
  · rw [applyAll_append]
    apply applyAll_of_unlinked
    · exact (mem_append.mp unlinked).resolve_left (plan.opening_links (prefix_refl _) id)
    · intro step member creates
      have touches : step.Touches (entryPath id) := by
        cases step with
        | write => exact creates
        | rename => exact .inr creates
        | unlink => exact creates.elim
      rw [plan.touches_entry part member touches] at creates
      exact creates

/-- An entry that is not unlinked is as it was, or it is the one just saved. -/
theorem entry_file_of_linked (cut : done <+: steps) (linked : .unlink (entryPath id) ∉ done)
    (d : Directory Path B) :
    applyAll d done (entryPath id) = d (entryPath id) ∨
      ∃ entry, applyAll d done (entryPath id) = some (store.entryJson.encode entry) := by
  have ordered := cut
  rw [plan.order] at ordered
  rcases prefix_append_cases ordered with early | ⟨more, rfl, part⟩
  · exact plan.opening_file early id d
  · rw [applyAll_append, applyAll_of_untouched]
    · exact plan.opening_file (prefix_refl _) id d
    · intro step member touches
      exact linked (mem_append_right _ (plan.touches_entry part member touches ▸ member))

end Plan

/-! ## After a crash -/

variable {op : StoreOp Spec} {done : List (Step Path B)} {left : Directory Path B}

section

variable (cut : Interrupted d ((op.program store).steps d) done left)
include cut

/-- Files that are read are as the completed steps left them. -/
theorem left_json (json : ∀ other : Path, path ≠ other.withExtension .tmp) :
    left path = applyAll d done path :=
  cut.unwritten fun data => (plan op).unwritten json data

theorem left_index :
    store.index left = store.index (applyAll d done) :=
  store.index_congr (left_json cut indexPath_ne_tmp)

theorem left_entry (id : TestId) : store.entry left id = store.entry (applyAll d done) id := by
  rw [entry_eq, entry_eq, left_json cut (entryPath_ne_tmp id)]

end

/-- A listed test's entry can be read exactly if its file has not been unlinked. -/
theorem entry_iff_linked (consistent : store.Consistent d)
    (cut : Interrupted d ((op.program store).steps d) done left) {info : TestInfo}
    (listed : info ∈ store.index d) :
    (store.entry left info.id).isSome = true ↔ .unlink (entryPath info.id) ∉ done := by
  rw [left_entry cut, entry_eq]
  constructor
  · intro read unlinked
    rw [(plan op).entry_file_of_unlinked cut.done_prefix unlinked d] at read
    cases read
  · intro linked
    rcases (plan op).entry_file_of_linked cut.done_prefix linked d with same | ⟨entry, saved⟩
    · obtain ⟨entry, read, -⟩ := consistent.agrees info listed
      rw [same, ← entry_eq, read]
      rfl
    · obtain ⟨back, read, -⟩ := store.entryJson.view_decode entry
      rw [saved, Option.bind_some, read]
      rfl

/-- **A crash leaves the index of before or after and an entry for each test in it,
unless it comes between the unlink of a listed entry and the rename of the index.** -/
theorem reopened_iff (store : ResultStore Spec B) (ops : List (StoreOp Spec)) (op : StoreOp Spec)
    (done : List (Step Path B)) (left : Directory Path B)
    (cut : Interrupted (store.after ops) ((op.program store).steps (store.after ops)) done left) :
    store.Reopens (store.after ops) op left ↔ ¬ store.Exposed (store.after ops) done := by
  have consistent : store.Consistent (store.after ops) := consistent_after ops
  generalize store.after ops = d at cut consistent ⊢
  by_cases renamed : indexRename ∈ done
  · -- the operation is complete
    have all : done = (op.program store).steps d := (plan op).complete cut.done_prefix renamed
    have finished : applyAll d done = store.perform d op := by rw [all]; rfl
    have after := consistent_perform consistent op
    refine iff_of_true ⟨.inr ?_, ?_⟩ fun exposed => exposed.2 renamed
    · rw [left_index cut, finished]
    · intro info listed
      rw [left_index cut, finished] at listed
      obtain ⟨entry, read, -⟩ := after.agrees info listed
      rw [left_entry cut, finished, read]
      rfl
  · have index : store.index left = store.index d := by
      rw [left_index cut]
      -- until the last step the index is as it was
      refine store.index_congr (applyAll_of_untouched (fun step member touches => ?_) d)
      exact renamed ((plan op).touches_index (cut.done_prefix.subset member) touches ▸ member)
    constructor
    · rintro ⟨-, entries⟩ ⟨⟨info, listed, unlinked⟩, -⟩
      rw [index] at entries
      exact (entry_iff_linked consistent cut listed).mp (entries info listed) unlinked
    · intro hidden
      refine ⟨.inl index, ?_⟩
      intro info listed
      rw [index] at listed
      rw [entry_iff_linked consistent cut listed]
      intro unlinked
      exact hidden ⟨⟨info, listed, unlinked⟩, renamed⟩

/-- A save cut after its entry is in place, before the index lists it. -/
theorem save_cut_short :
    ∃ left, Interrupted ((smallStore 1).after [.save (statusOnly testA .queued)])
        (((StoreOp.save (statusOnly testB .queued)).program (smallStore 1)).steps
          ((smallStore 1).after [.save (statusOnly testA .queued)]))
        [.write ((entryPath testB).withExtension .tmp) [.inr (statusOnly testB .queued)],
          .rename ((entryPath testB).withExtension .tmp) (entryPath testB)] left ∧
      (smallStore 1).Reopens ((smallStore 1).after [.save (statusOnly testA .queued)])
        (.save (statusOnly testB .queued)) left := by
  have split := (smallStore 1).steps_save
    ((smallStore 1).after [.save (statusOnly testA .queued)]) (statusOnly testB .queued)
  refine ⟨_, .between _ _ split, ?_⟩
  apply (reopened_iff (smallStore 1) [.save (statusOnly testA .queued)]
    (.save (statusOnly testB .queued)) _ _ (.between _ _ split)).mpr
  rintro ⟨⟨info, -, unlinked⟩, -⟩
  simp at unlinked

/-- A removal cut after the unlink: the index still lists the test. -/
theorem removal_cut_short :
    ∃ left, Interrupted ((smallStore 1).after [.save (statusOnly testA .completed)])
        (((StoreOp.remove testA).program (smallStore 1)).steps
          ((smallStore 1).after [.save (statusOnly testA .completed)]))
        [.unlink (entryPath testA)] left ∧
      ¬ (smallStore 1).Reopens ((smallStore 1).after [.save (statusOnly testA .completed)])
        (.remove testA) left := by
  refine ⟨_, .between _ _ ((smallStore 1).steps_remove _ testA), ?_⟩
  rintro ⟨-, entries⟩
  have read := entries (statusOnly testA .completed).info (by decide +kernel)
  revert read
  decide +kernel

end ResultStore

end Netanvil.Distributed
