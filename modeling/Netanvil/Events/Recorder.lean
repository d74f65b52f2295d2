/-
# The event log of a core

One recorder for each worker writes a row for each request it samples, in batches of columns.
These are the columns that every log has; the optional ones, the header columns and the
constant ones are left out.

A row's core id is not given to the recorder: it is read off the request id
(`recordedCoreId`), in every row of every log (`columns_of_run`).
-/
import Netanvil.Types.Request
import Mathlib.Algebra.Order.Ring.Rat

namespace Netanvil.Events

open Netanvil.Types List

/-- A moment by both clocks: since the epoch, in microseconds, and monotonic. -/
structure TimeAnchor where
  epochUs : Nat
  instant : Nat

def TimeAnchor.toEpochUs (anchor : TimeAnchor) (t : Nat) : Nat :=
  if anchor.instant ≤ t then anchor.epochUs + (t - anchor.instant) / 1000
  else anchor.epochUs - (anchor.instant - t) / 1000

/-- What is fixed for a recorder; its random numbers come from states in `R`. -/
structure RecorderConfig (R : Type) where
  anchor : TimeAnchor
  protocol : String
  sampleRate : ℚ
  batchSize : Nat
  /-- A number in `[0, 1)`. -/
  draw : R → ℚ × R

/-- The columns of a batch. -/
structure CommonBuilders where
  requestId : List Nat
  coreId : List Nat
  timestampUs : List Nat
  status : List Nat
  protocol : List String

/-- The core a request id stands for, as a 16-bit number. -/
def recordedCoreId (requestId : Nat) : Nat := requestId / 1000000000 % 65536

namespace CommonBuilders

def empty : CommonBuilders := ⟨[], [], [], [], []⟩

def append {R : Type} (config : RecorderConfig R) (c : CommonBuilders) (result : ExecutionResult) :
    CommonBuilders where
  requestId := c.requestId ++ [result.requestId]
  coreId := c.coreId ++ [recordedCoreId result.requestId]
  timestampUs := c.timestampUs ++ [config.anchor.toEpochUs result.actualTime]
  status := c.status ++ [result.status.getD 0]
  protocol := c.protocol ++ [config.protocol]

end CommonBuilders

structure ArrowEventRecorder (R : Type) where
  common : CommonBuilders
  rowsBuffered : Nat
  sampleRng : R
  /-- The batches in the file. -/
  written : List CommonBuilders

namespace ArrowEventRecorder

variable {R : Type} (config : RecorderConfig R)

def new (rng : R) : ArrowEventRecorder R := ⟨.empty, 0, rng, []⟩

/-- The request is in the sample; everything is if the rate is 1. -/
def samples (r : ArrowEventRecorder R) : Bool × ArrowEventRecorder R :=
  if config.sampleRate < 1 then
    let (drawn, rng) := config.draw r.sampleRng
    (drawn < config.sampleRate, { r with sampleRng := rng })
  else (true, r)

def flushBatch (r : ArrowEventRecorder R) : ArrowEventRecorder R :=
  if r.rowsBuffered = 0 then r
  else { r with common := .empty, rowsBuffered := 0, written := r.written ++ [r.common] }

def record (r : ArrowEventRecorder R) (result : ExecutionResult) : ArrowEventRecorder R :=
  match r.samples config with
  | (false, r) => r
  | (true, r) =>
    let r :=
      { r with common := r.common.append config result, rowsBuffered := r.rowsBuffered + 1 }
    if config.batchSize ≤ r.rowsBuffered then r.flushBatch else r

def eventRecorder : EventRecorder (ArrowEventRecorder R) := ⟨record config, flushBatch⟩

/-! ## The columns -/

/-- What is in the file and what will be. -/
def batches (r : ArrowEventRecorder R) : List CommonBuilders := r.written ++ [r.common]

/-- Each row is of one of these requests, under the core its id stands for. -/
def Labelled (ids : List Nat) (r : ArrowEventRecorder R) : Prop :=
  ∀ batch ∈ r.batches, batch.coreId = batch.requestId.map recordedCoreId ∧
    ∀ id ∈ batch.requestId, id ∈ ids

variable {ids : List Nat} {r : ArrowEventRecorder R}

theorem labelled_flushBatch (labelled : r.Labelled ids) : r.flushBatch.Labelled ids := by
  unfold flushBatch
  split
  · exact labelled
  · intro batch mem
    rcases mem_append.mp mem with old | new
    · exact labelled batch old
    · obtain rfl := mem_singleton.mp new
      exact ⟨rfl, by simp [CommonBuilders.empty]⟩

variable {config}

theorem labelled_record (labelled : r.Labelled ids) {result : ExecutionResult}
    (known : result.requestId ∈ ids) :
    (r.record config result).Labelled ids := by
  have sampled : (r.samples config).2.Labelled ids := by
    unfold Labelled
    unfold samples
    split <;> exact labelled
  unfold record
  split
  · rename_i r' skipped
    rwa [skipped] at sampled
  · rename_i r' taken
    rw [taken] at sampled
    have appended : Labelled ids { r' with
        common := r'.common.append config result
        rowsBuffered := r'.rowsBuffered + 1 } := by
      intro batch mem
      rcases mem_append.mp mem with old | new
      · exact sampled batch (mem_append_left _ old)
      · obtain rfl := mem_singleton.mp new
        obtain ⟨cores, requests⟩ := sampled r'.common (by simp [batches])
        refine ⟨by simp [CommonBuilders.append, cores], fun id mem => ?_⟩
        rcases mem_append.mp mem with earlier | now
        · exact requests id earlier
        · rwa [mem_singleton.mp now]
    dsimp only
    split
    · exact labelled_flushBatch appended
    · exact appended

inductive Call where
  | record (result : ExecutionResult)
  | flush

variable (config) in
def call (r : ArrowEventRecorder R) : Call → ArrowEventRecorder R
  | .record result => (eventRecorder config).record r result
  | .flush => (eventRecorder config).flush r

/-- **In every log, every row is of a request that was recorded, under the core its id
stands for.** -/
theorem columns_of_run (rng : R) {calls : List Call}
    (known : ∀ result, .record result ∈ calls → result.requestId ∈ ids) :
    (calls.foldl (call config) (new rng)).Labelled ids := by
  have start : (new rng).Labelled ids := by
    intro batch mem
    obtain rfl := mem_singleton.mp mem
    exact ⟨rfl, by simp [new, CommonBuilders.empty]⟩
  revert start
  generalize new rng = r
  induction calls generalizing r with
  | nil => exact id
  | cons next rest ih =>
    intro labelled
    refine ih (fun result mem => known result (mem_cons_of_mem _ mem)) _ ?_
    cases next with
    | record result => exact labelled_record labelled (known result mem_cons_self)
    | flush => exact labelled_flushBatch labelled

end ArrowEventRecorder

end Netanvil.Events
