/-
# Programs on files, and where a crash can cut them

A directory maps paths to contents. A program reads files and takes steps that change the
directory: a write, a rename, an unlink (`Prog`). A crash leaves what a prefix of the steps
made, and of the write it may have interrupted an arbitrary part (`Interrupted`). A rename is
one step: it is done or not.
-/
import Mathlib.Tactic

namespace Netanvil.Theory.Disk

open Function List

/-! ## Files -/

/-- A directory: the files that exist, with their contents. -/
abbrev Directory (P B : Type) := P → Option (List B)

inductive Step (P B : Type) where
  | write (path : P) (data : List B)
  | rename (source target : P)
  | unlink (path : P)
  deriving DecidableEq

variable {P B α β : Type} [DecidableEq P] {path : P}

def Step.apply (d : Directory P B) : Step P B → Directory P B
  | .write path data => update d path (some data)
  | .rename source target => update (update d source none) target (d source)
  | .unlink path => update d path none

/-- The step changes the file at `path`, or may. -/
def Step.Touches (path : P) : Step P B → Prop
  | .write written _ => path = written
  | .rename source target => path = source ∨ path = target
  | .unlink removed => path = removed

def applyAll (d : Directory P B) (steps : List (Step P B)) : Directory P B :=
  steps.foldl Step.apply d

@[simp] theorem applyAll_nil (d : Directory P B) : applyAll d [] = d := rfl

@[simp] theorem applyAll_cons (d : Directory P B) (step : Step P B) (rest : List (Step P B)) :
    applyAll d (step :: rest) = applyAll (step.apply d) rest := rfl

theorem applyAll_append (d : Directory P B) (first second : List (Step P B)) :
    applyAll d (first ++ second) = applyAll (applyAll d first) second :=
  foldl_append

/-- A file no step touches keeps its contents. -/
theorem applyAll_of_untouched {steps : List (Step P B)}
    (untouched : ∀ step ∈ steps, ¬ step.Touches path) (d : Directory P B) :
    applyAll d steps path = d path := by
  induction steps generalizing d with
  | nil => rfl
  | cons step rest ih =>
    rw [applyAll_cons, ih fun s member => untouched s (mem_cons_of_mem _ member)]
    have own := untouched step mem_cons_self
    cases step with
    | write written data => exact update_of_ne own _ _
    | rename source target =>
      obtain ⟨notSource, notTarget⟩ := not_or.mp own
      simp only [Step.apply]
      rw [update_of_ne notTarget, update_of_ne notSource]
    | unlink removed => exact update_of_ne own _ _

/-- The step leaves a file at `path` that may not have been there. -/
def Step.Creates (path : P) : Step P B → Prop
  | .write written _ => path = written
  | .rename _ target => path = target
  | .unlink _ => False

/-- A file that is unlinked and not created again is gone. -/
theorem applyAll_of_unlinked {steps : List (Step P B)}
    (unlinked : Step.unlink path ∈ steps) (never : ∀ step ∈ steps, ¬ step.Creates path)
    (d : Directory P B) : applyAll d steps path = none := by
  -- a file that is not there stays away
  have stays : ∀ (rest : List (Step P B)) (d : Directory P B), d path = none →
      (∀ step ∈ rest, ¬ step.Creates path) → applyAll d rest path = none := by
    intro rest
    induction rest with
    | nil => intro d absent _; exact absent
    | cons step rest ih =>
      intro d absent never
      refine ih _ ?_ fun s member => never s (mem_cons_of_mem _ member)
      have own := never step mem_cons_self
      cases step with
      | write written data => exact (update_of_ne own _ _).trans absent
      | rename source target =>
        simp only [Step.apply]
        rw [update_of_ne own]
        by_cases moved : path = source
        · rw [moved, update_self]
        · rw [update_of_ne moved, absent]
      | unlink removed =>
        simp only [Step.apply, update_apply, absent, ite_self]
  obtain ⟨before, after, rfl⟩ := append_of_mem unlinked
  rw [applyAll_append, applyAll_cons]
  apply stays
  · simp [Step.apply]
  · intro step member
    exact never step (by simp [member])

/-! ## Programs -/

/-- A program: what it returns and the steps it takes, from the directory it starts on. -/
def Prog (P B α : Type) := Directory P B → α × List (Step P B)

namespace Prog

def result (p : Prog P B α) (d : Directory P B) : α := (p d).1

def steps (p : Prog P B α) (d : Directory P B) : List (Step P B) := (p d).2

/-- The directory after the program. -/
def disk (p : Prog P B α) (d : Directory P B) : Directory P B := applyAll d (p.steps d)

instance : Monad (Prog P B) where
  pure a := fun _ => (a, [])
  bind p f := fun d =>
    ((f (p.result d)).result (p.disk d), p.steps d ++ (f (p.result d)).steps (p.disk d))

def readFile (path : P) : Prog P B (Option (List B)) := fun d => (d path, [])

def perform (step : Step P B) : Prog P B Unit := fun _ => ((), [step])

@[simp] theorem run_readFile (d : Directory P B) (path : P) : (readFile path).result d = d path ∧
    (readFile path).steps d = [] ∧ (readFile path).disk d = d :=
  ⟨rfl, rfl, rfl⟩

@[simp] theorem run_perform (d : Directory P B) (step : Step P B) :
    (perform step).steps d = [step] ∧ (perform step).disk d = step.apply d :=
  ⟨rfl, rfl⟩

variable (p : Prog P B α) (f : α → Prog P B β) (d : Directory P B)

@[simp] theorem run_pure (a : α) : (pure a : Prog P B α).result d = a ∧
    (pure a : Prog P B α).steps d = [] ∧ (pure a : Prog P B α).disk d = d := ⟨rfl, rfl, rfl⟩

@[simp] theorem result_bind : (p >>= f).result d = (f (p.result d)).result (p.disk d) := rfl

@[simp] theorem steps_bind :
    (p >>= f).steps d = p.steps d ++ (f (p.result d)).steps (p.disk d) := rfl

@[simp] theorem disk_bind : (p >>= f).disk d = (f (p.result d)).disk (p.disk d) := by
  simp only [disk, steps_bind, applyAll_append]

end Prog

/-! ## Crashes -/

theorem prefix_append_cases {done first second : List α} (cut : done <+: first ++ second) :
    done <+: first ∨ ∃ more, done = first ++ more ∧ more <+: second := by
  obtain ⟨rest, split⟩ := cut
  rcases append_eq_append_iff.mp split with ⟨gap, inFirst, -⟩ | ⟨more, reaches, inSecond⟩
  · exact .inl ⟨gap, inFirst.symm⟩
  · exact .inr ⟨more, reaches, rest, inSecond.symm⟩

/-- The directories a crash can leave: the steps in `done` were taken, and of a write
that comes next any part may be there. -/
inductive Interrupted (d : Directory P B) (steps : List (Step P B)) :
    List (Step P B) → Directory P B → Prop where
  | between (done rest : List (Step P B)) (split : steps = done ++ rest) :
      Interrupted d steps done (applyAll d done)
  | inWrite (done rest : List (Step P B)) (path : P) (data torn : List B)
      (split : steps = done ++ .write path data :: rest) (part : torn <+: data) :
      Interrupted d steps done (update (applyAll d done) path (some torn))

theorem Interrupted.done_prefix {d left : Directory P B} {steps done : List (Step P B)}
    (cut : Interrupted d steps done left) : done <+: steps := by
  cases cut with
  | between rest split => exact ⟨rest, split.symm⟩
  | inWrite rest path data torn split part => exact ⟨_, split.symm⟩

/-- A file that is only ever renamed into place is as the steps before the crash left
it: only files that are written can be torn. -/
theorem Interrupted.unwritten {d left : Directory P B} {steps done : List (Step P B)}
    (cut : Interrupted d steps done left) (unwritten : ∀ data, Step.write path data ∉ steps) :
    left path = applyAll d done path := by
  cases cut with
  | between => rfl
  | inWrite rest written data torn split part =>
    apply update_of_ne
    rintro rfl
    exact unwritten data (by simp [split])

/-! ## Encodings -/

/-- An encoding that can be read, and read back as far as `view` goes. -/
structure Codec {α β : Type} (view : α → β) (B : Type) where
  encode : α → List B
  decode : List B → Option α
  view_decode : ∀ a, ∃ back, decode (encode a) = some back ∧ view back = view a

end Netanvil.Theory.Disk
