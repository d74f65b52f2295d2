/-
# Histories, and machines that run over them

A history is the list of events so far, and a condition on it says something about each event
in the light of the events before it (`Along`). A machine is a step function that may refuse
an event (`exec`); a condition on a run says something about each event in the state it is
taken in (`Allowed`). An invariant is one that the start has and every allowed step keeps
(`Allowed.invariant`, `exec_invariant`).
-/
import Mathlib.Tactic

namespace Netanvil.Theory.Trace

open List Option

variable {σ α : Type*}

/-! ## Histories -/

variable {trace more done : List α} {P : List α → α → Prop}

theorem snoc_eq_append_cons {earlier later : List α} {a b : α} :
    trace ++ [a] = earlier ++ b :: later ↔
      (later = [] ∧ trace = earlier ∧ a = b) ∨
        ∃ rest, later = rest ++ [a] ∧ trace = earlier ++ b :: rest := by
  constructor
  · intro split
    rcases eq_nil_or_concat later with rfl | ⟨rest, last, rfl⟩
    · obtain ⟨same, tail⟩ := append_inj' split rfl
      exact .inl ⟨rfl, same, by simpa using tail⟩
    · have regrouped : trace ++ [a] = (earlier ++ b :: rest) ++ [last] := by simpa using split
      obtain ⟨same, tail⟩ := append_inj' regrouped rfl
      have sameLast : a = last := by simpa using tail
      exact .inr ⟨rest, by simp [sameLast], same⟩
  · rintro (⟨rfl, rfl, rfl⟩ | ⟨rest, rfl, rfl⟩)
    · rfl
    · simp

/-- Every event of the history meets `P` after the events before it. -/
def Along (P : List α → α → Prop) (trace : List α) : Prop :=
  ∀ earlier a later, trace = earlier ++ a :: later → P earlier a

theorem along_nil (P : List α → α → Prop) : Along P [] := by
  rintro earlier a later split
  simp at split

theorem along_snoc {a : α} : Along P (trace ++ [a]) ↔ Along P trace ∧ P trace a := by
  constructor
  · intro along
    refine ⟨?_, along trace a [] rfl⟩
    rintro earlier b later rfl
    exact along earlier b (later ++ [a]) (by simp)
  · rintro ⟨along, last⟩ earlier b later split
    rcases snoc_eq_append_cons.mp split with ⟨-, rfl, rfl⟩ | ⟨rest, -, same⟩
    · exact last
    · exact along earlier b rest same

theorem Along.restrict (along : Along P trace)
    (cut : done <+: trace) : Along P done := by
  obtain ⟨later, rfl⟩ := cut
  rintro earlier a rest rfl
  exact along earlier a (rest ++ later) (by simp)

/-! ## Machines -/

section

variable (step : σ → α → Option σ)

/-- The state after the events, if each was enabled when its turn came. -/
def exec (s : σ) (events : List α) : Option σ := events.foldlM step s

/-- Every event of the history meets `ok` in the state it is taken in. -/
def Allowed (ok : σ → α → Prop) (init : σ) : List α → Prop :=
  Along fun earlier a => ∀ s, exec step init earlier = some s → ok s a

variable {step} {ok : σ → α → Prop} {init : σ}

theorem exec_snoc (events : List α) (a : α) :
    exec step init (events ++ [a]) = (exec step init events).bind fun s => step s a := by
  simp only [exec, foldlM_append, foldlM_cons, foldlM_nil, bind_pure]
  rfl

theorem exec_cons (a : α) (events : List α) :
    exec step init (a :: events) = (step init a).bind fun s => exec step s events := by
  simp only [exec, foldlM_cons]
  rfl

theorem exec_append (events more : List α) :
    exec step init (events ++ more) = (exec step init events).bind fun s => exec step s more := by
  simp only [exec, foldlM_append]
  rfl

variable {earlier events later : List α} {a : α} {s t : σ} {I : σ → Prop}

theorem exec_snoc_iff : exec step init (events ++ [a]) = some t ↔
      ∃ s, exec step init events = some s ∧ step s a = some t := by
  rw [exec_snoc, bind_eq_some_iff]

theorem exec_cons_iff : exec step init (a :: events) = some t ↔
      ∃ s, step init a = some s ∧ exec step s events = some t := by
  rw [exec_cons, bind_eq_some_iff]

theorem exec_append_iff : exec step init (events ++ more) = some t ↔
      ∃ s, exec step init events = some s ∧ exec step s more = some t := by
  rw [exec_append, bind_eq_some_iff]

/-- A run and then another. -/
theorem exec_trans (first : exec step init events = some s)
    (second : exec step s more = some t) : exec step init (events ++ more) = some t := by
  rw [exec_append, first]
  exact second

/-- A step and then a run. -/
theorem exec_first (taken : step init a = some s) (run : exec step s events = some t) :
    exec step init (a :: events) = some t := by
  rw [exec_cons, taken]
  exact run

/-- What is left of a run after its first part. -/
theorem exec_rest (first : exec step init events = some s)
    (run : exec step init (events ++ more) = some t) : exec step s more = some t := by
  rwa [exec_append, first, bind_some] at run

theorem exec_of_append (run : exec step init (earlier ++ later) = some s) :
    ∃ t, exec step init earlier = some t := by
  obtain ⟨t, runEarlier, -⟩ := exec_append_iff.mp run
  exact ⟨t, runEarlier⟩

/-- A run that goes through does so up to each of its events. -/
theorem exec_through (runs : (exec step init (earlier ++ a :: later)).isSome) :
    ∃ s, earlier ++ [a] <+: earlier ++ a :: later ∧ exec step init (earlier ++ [a]) = some s := by
  have regrouped : earlier ++ a :: later = (earlier ++ [a]) ++ later := by simp
  obtain ⟨final, runs⟩ := isSome_iff_exists.mp runs
  rw [regrouped] at runs
  obtain ⟨s, run⟩ := exec_of_append runs
  exact ⟨s, ⟨later, regrouped.symm⟩, run⟩

/-- An invariant that also speaks of the history: it holds at the start, and each step
taken carries it over to the longer history. -/
theorem exec_invariant {I : List α → σ → Prop} (initial : I [] init)
    (keeps : ∀ {events s a s'}, I events s → step s a = some s' → I (events ++ [a]) s')
    (run : exec step init events = some s) : I events s := by
  induction events using reverseRecOn generalizing s with
  | nil =>
    obtain rfl : init = s := by simpa [exec] using run
    exact initial
  | append_singleton events a ih =>
    obtain ⟨before, earlier, taken⟩ := exec_snoc_iff.mp run
    exact keeps (ih earlier) taken

/-- The same, where a step may also use how its state was reached. -/
theorem exec_invariant_along {I : List α → σ → Prop} (initial : I [] init)
    (keeps : ∀ {events s a s'}, exec step init events = some s → I events s →
      step s a = some s' → I (events ++ [a]) s')
    (run : exec step init events = some s) : I events s := by
  have both : exec step init events = some s ∧ I events s := by
    apply exec_invariant (I := fun events s => exec step init events = some s ∧ I events s)
      ⟨rfl, initial⟩ ?_ run
    intro events s a s' before taken
    refine ⟨?_, keeps before.1 before.2 taken⟩
    rw [exec_snoc, before.1]
    exact taken
  exact both.2

/-- What the state after a part of the history has, and every step keeps, holds at the
end of the history. -/
theorem exec_invariant_from (reached : exec step init earlier = some t)
    (initial : I t) (keeps : ∀ {s a s'}, I s → step s a = some s' → I s')
    (run : exec step init (earlier ++ more) = some s) : I s := by
  induction more using reverseRecOn generalizing s with
  | nil =>
    obtain rfl : t = s := by simpa [reached] using run
    exact initial
  | append_singleton more a ih =>
    rw [← append_assoc] at run
    obtain ⟨before, upTo, taken⟩ := exec_snoc_iff.mp run
    exact keeps (ih upTo) taken

/-! ### What a run shows -/

section

variable {β : Type*} (step) (see : σ → α → List β)

/-- What is seen of a run, where `see` is what an event shows in the state it is taken in. -/
def observed : σ → List α → List β
  | _, [] => []
  | s, a :: events => see s a ++ (step s a).elim [] fun s' => observed s' events

variable {step}

theorem observed_snoc {events : List α} {s : σ} (run : exec step init events = some s) (a : α) :
    observed step see init (events ++ [a]) = observed step see init events ++ see s a := by
  induction events generalizing init with
  | nil =>
    obtain rfl : init = s := by simpa [exec] using run
    cases taken : step init a <;> simp [observed, taken]
  | cons b events ih =>
    obtain ⟨next, taken, rest⟩ := exec_cons_iff.mp run
    simp only [cons_append, observed, taken, elim_some]
    rw [ih rest, append_assoc]

theorem length_observed_le (one : ∀ s a, (see s a).length ≤ 1) (events : List α) :
    (observed step see init events).length ≤ events.length := by
  induction events generalizing init with
  | nil => exact le_rfl
  | cons a events ih =>
    rw [observed, length_append, length_cons]
    have first := one init a
    have rest : ((step init a).elim [] fun s' => observed step see s' events).length ≤
        events.length := by
      cases step init a with
      | none => exact Nat.zero_le _
      | some s' => exact ih
    omega

end

/-- Events that are allowed in any state. -/
theorem Allowed.of_forall (all : ∀ a ∈ events, ∀ s, ok s a) : Allowed step ok init events := by
  rintro earlier a later rfl s -
  exact all a (by simp) s

theorem Allowed.nil : Allowed step ok init [] := along_nil _

theorem Allowed.cons (first : ok init a)
    (rest : ∀ s, step init a = some s → Allowed step ok s events) :
    Allowed step ok init (a :: events) := by
  rintro earlier b later split s run
  cases earlier with
  | nil =>
    obtain ⟨rfl, rfl⟩ := cons.inj split
    obtain rfl : init = s := by simpa [exec] using run
    exact first
  | cons c earlier =>
    obtain ⟨rfl, rfl⟩ := cons.inj split
    obtain ⟨next, taken, run⟩ := exec_cons_iff.mp run
    exact rest next taken earlier b later rfl s run

theorem Allowed.snoc (allowed : Allowed step ok init events)
    (last : ∀ s, exec step init events = some s → ok s a) : Allowed step ok init (events ++ [a]) :=
  along_snoc.mpr ⟨allowed, last⟩

/-- Then events that are allowed in any state. -/
theorem Allowed.append (allowed : Allowed step ok init events)
    (all : ∀ a ∈ more, ∀ s, ok s a) : Allowed step ok init (events ++ more) := by
  induction more using reverseRecOn with
  | nil => rwa [append_nil]
  | append_singleton more a ih =>
    rw [← append_assoc]
    exact (ih fun b mem => all b (mem_append_left _ mem)).snoc fun s _ => all a (by simp) s

variable (initial : I init)
include initial

/-- A run whose events are all allowed goes through, if an allowed event never fails where the
invariant holds. -/
theorem Allowed.goes_through (keeps : ∀ {s a}, I s → ok s a → ∃ s', step s a = some s' ∧ I s')
    (allowed : Allowed step ok init events) : ∃ s, exec step init events = some s ∧ I s := by
  induction events using reverseRecOn with
  | nil => exact ⟨init, rfl, initial⟩
  | append_singleton events a ih =>
    obtain ⟨before, last⟩ := along_snoc.mp allowed
    obtain ⟨s, run, here⟩ := ih before
    obtain ⟨s', taken, there⟩ := keeps here (last s run)
    exact ⟨s', by rw [exec_snoc, run]; exact taken, there⟩

/-- What the start has and every allowed step keeps holds after every allowed run. -/
theorem Allowed.invariant (keeps : ∀ {s a s'}, I s → ok s a → step s a = some s' → I s')
    (allowed : Allowed step ok init events) (run : exec step init events = some s) : I s := by
  induction events using reverseRecOn generalizing s with
  | nil =>
    obtain rfl : init = s := by simpa [exec] using run
    exact initial
  | append_singleton events a ih =>
    obtain ⟨before, last⟩ := along_snoc.mp allowed
    obtain ⟨t, earlier, taken⟩ := exec_snoc_iff.mp run
    exact keeps (ih before earlier) (last t earlier) taken

/-- Events of one kind are allowed, if they keep an invariant that allows them. -/
theorem allowed_of_kind {kind : α → Prop}
    (keeps : ∀ {s a s'}, I s → kind a → step s a = some s' → I s')
    (allows : ∀ {s a}, I s → kind a → ok s a) (all : ∀ a ∈ events, kind a) :
    Allowed step ok init events := by
  rintro earlier a later rfl s run
  have before : Allowed step (fun _ a => kind a) init earlier :=
    .of_forall fun a mem _ => all a (mem_append_left _ mem)
  exact allows (before.invariant initial keeps run) (all a (by simp))

/-- Where a step keeps the invariant exactly if it is allowed, the invariant holds all along a
run exactly if every event of it is. -/
theorem allowed_iff_invariant (keeps_iff : ∀ {s a s'}, I s → step s a = some s' → (I s' ↔ ok s a))
    (runs : (exec step init events).isSome) : Allowed step ok init events ↔
      ∀ done s, done <+: events → exec step init done = some s → I s := by
  constructor
  · intro allowed done s cut run
    have allowedDone : Allowed step ok init done := Along.restrict allowed cut
    exact allowedDone.invariant initial (fun held okay taken => (keeps_iff held taken).mpr okay) run
  · rintro held earlier a later rfl s run
    obtain ⟨s', cut, next⟩ := exec_through runs
    have before := held earlier s ⟨a :: later, rfl⟩ run
    have after := held (earlier ++ [a]) s' cut next
    rw [exec_snoc, run, bind_some] at next
    exact (keeps_iff before next).mp after

end

/-- And so can what it returns with its new state. -/
instance decidableReturns {β : Type*} {o : Option (σ × β)} {p : σ → β → Prop}
    [∀ s b, Decidable (p s b)] : Decidable (∃ s b, o = some (s, b) ∧ p s b) :=
  decidable_of_iff (∃ x, o = some x ∧ p x.1 x.2) Prod.exists

/-- What a closed computation returns is found by evaluating it. -/
theorem evaluates {β : Type*} {x : Option β} (runs : x.isSome := by decide +kernel) :
    x = some (x.get runs) :=
  eq_some_of_isSome runs

end Netanvil.Theory.Trace
