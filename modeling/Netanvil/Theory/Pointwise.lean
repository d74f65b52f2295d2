/-
# Lists that go along with each other

Two lists in step, entry by entry (`List.Forall₂`): how an update of one or both, a lookup
and a traversal keep them so.
-/
import Mathlib.Tactic

namespace Netanvil.Theory

open List Option

variable {α β ε γ : Type} {R : α → β → Prop} {l : List α} {l' : List β} {a : α} {b : β}

section

variable (all : Forall₂ R l l')
include all

theorem forall₂_set (i : Nat) (holds : R a b) : Forall₂ R (l.set i a) (l'.set i b) := by
  induction all generalizing i with
  | nil => exact .nil
  | cons head tail ih =>
    cases i with
    | zero => exact .cons holds tail
    | succ i => exact .cons head (ih i)

theorem forall₂_set_right (i : Nat)
    (holds : ∀ a, l[i]? = some a → R a b) : Forall₂ R l (l'.set i b) := by
  induction all generalizing i with
  | nil => exact .nil
  | cons head tail ih =>
    cases i with
    | zero => exact .cons (holds _ rfl) tail
    | succ i => exact .cons head (ih i holds)

/-- An entry of the first list has its counterpart in the second. -/
theorem forall₂_counterpart {i : Nat}
    (left : l[i]? = some a) : ∃ b, l'[i]? = some b ∧ R a b := by
  induction all generalizing i with
  | nil => simp at left
  | cons head tail ih =>
    cases i with
    | zero =>
      cases left
      exact ⟨_, rfl, head⟩
    | succ i => exact ih left

end

theorem forall₂_getElem? (all : Forall₂ R l l') {i : Nat} {a : α} {b : β}
    (left : l[i]? = some a) (right : l'[i]? = some b) : R a b := by
  obtain ⟨_, there, holds⟩ := forall₂_counterpart all left
  rw [there] at right
  exact some.inj right ▸ holds

/-! ## Traversals -/

theorem forall₂_of_mapM {f : α → Option β} (traversed : l.mapM f = some l') :
    Forall₂ (fun a b => f a = some b) l l' := by
  induction l generalizing l' with
  | nil =>
    obtain rfl : [] = l' := by simpa using traversed
    exact .nil
  | cons a l ih =>
    simp only [mapM_cons, bind_eq_bind, bind_eq_some_iff, Option.pure_def, some.injEq] at traversed
    obtain ⟨b, here, bs, rest, rfl⟩ := traversed
    exact .cons here (ih rest)

variable {f : α → Except ε β}

theorem forall₂_of_mapM_ok (traversed : l.mapM f = .ok l') :
    Forall₂ (fun a b => f a = .ok b) l l' := by
  induction l generalizing l' with
  | nil =>
    cases traversed
    exact .nil
  | cons a l ih =>
    rw [mapM_cons] at traversed
    cases here : f a with
    | error e => rw [here] at traversed; cases traversed
    | ok b =>
      rw [here] at traversed
      cases rest : l.mapM f with
      | error e => rw [rest] at traversed; cases traversed
      | ok bs =>
        rw [rest] at traversed
        cases traversed
        exact .cons here (ih rest)

/-- The first step that fails decides. -/
theorem mapM_eq_error {e : ε} :
    l.mapM f = .error e ↔ ∃ a, l.find? (fun a => !(f a).isOk) = some a ∧ f a = .error e := by
  induction l with
  | nil => simp [pure, Except.pure]
  | cons a l ih =>
    rw [mapM_cons]
    cases first : f a with
    | error e' => simp [first, Except.isOk, Except.toBool, bind, Except.bind]
    | ok b =>
      rw [find?_cons_of_neg (by simp [first, Except.isOk, Except.toBool]), ← ih]
      cases l.mapM f <;> simp [bind, Except.bind, pure, Except.pure]

theorem mapM_fails : (∃ e, l.mapM f = .error e) ↔ ∃ a ∈ l, ∃ e, f a = .error e := by
  induction l with
  | nil => simp [pure, Except.pure]
  | cons a l ih =>
    rw [mapM_cons, exists_mem_cons_iff, ← ih]
    cases f a <;> cases l.mapM f <;> simp [bind, Except.bind, pure, Except.pure]

theorem mapM_eq_self_iff {f : α → Option α} : l.mapM f = some l ↔ ∀ a ∈ l, f a = some a := by
  induction l with
  | nil => simp
  | cons a l ih => simp [mapM_cons, bind_eq_some_iff, ih]

end Netanvil.Theory
