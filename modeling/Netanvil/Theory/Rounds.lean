/-
# Loops whose iterations await operations

A `Routine` is what a cooperative task does from one point of a loop to the next. Between two
awaits it runs without giving up its thread, so what matters for the other tasks is whether
every iteration awaits something (`Routine.Performs`). What matters to the party at the other
end is the order the operations come in: a program follows a `Protocol` (`Routine.Follows`) if
it awaits only what the protocol allows.
-/
import Mathlib.Logic.Relation

namespace Netanvil.Theory

/-- From one point of a loop to the next: `ω` are the operations, `α` their outcomes and
`σ` the loop's states. -/
inductive Routine (ω α σ : Type) where
  | again (loop : σ)
  | stop
  | await (op : ω) (resume : α → Routine ω α σ)

variable {ω α σ ι : Type} {P : ω → Prop} {start : σ}

namespace Routine

/-- Whatever its operations give, the program awaits one that `P` holds of. -/
def Performs (P : ω → Prop) : Routine ω α σ → Prop
  | again _ => False
  | stop => False
  | await op resume => P op ∨ ∀ outcome, (resume outcome).Performs P

/-- The loop may be at `next` when the program has run. -/
def LeadsTo : Routine ω α σ → σ → Prop
  | again loop, next => loop = next
  | stop, _ => False
  | await _ resume, next => ∃ outcome, (resume outcome).LeadsTo next

end Routine

/-- One iteration, with some choice made by the program itself. -/
def Iterates (round : ι → σ → Routine ω α σ) (loop next : σ) : Prop :=
  ∃ choice, (round choice loop).LeadsTo next

/-- Every iteration from `start` on awaits an operation that `P` holds of. -/
def EveryRound (P : ω → Prop) (round : ι → σ → Routine ω α σ) (start : σ) : Prop :=
  ∀ loop, Relation.ReflTransGen (Iterates round) start loop →
    ∀ choice, (round choice loop).Performs P

theorem EveryRound.first {round : ι → σ → Routine ω α σ}
    (every : EveryRound P round start) (choice : ι) : (round choice start).Performs P :=
  every start .refl choice

/-- The invariant rule: what holds of the first loop state and goes from one to the next
has to give the operation. -/
theorem EveryRound.of_invariant {round : ι → σ → Routine ω α σ} (I : σ → Prop) (initial : I start)
    (keeps : ∀ choice loop next, I loop → (round choice loop).LeadsTo next → I next)
    (performs : ∀ choice loop, I loop → (round choice loop).Performs P) :
    EveryRound P round start := by
  intro loop reached choice
  apply performs
  induction reached with
  | refl => exact initial
  | tail _ iterates ih =>
    obtain ⟨chosen, leads⟩ := iterates
    exact keeps chosen _ _ ih leads

/-! ## Programs that follow a protocol -/

/-- `allows` is what may be awaited, and `after` relates an outcome to the states the
protocol may then be in. -/
structure Protocol (ω α γ : Type) where
  allows : γ → ω → Prop
  after : γ → ω → α → γ → Prop

/-- The program keeps to the protocol until it goes round again, and then `ready` relates
the loop's state to the protocol's. -/
def Routine.Follows {γ : Type} (protocol : Protocol ω α γ) (ready : σ → γ → Prop) :
    Routine ω α σ → γ → Prop
  | again loop, state => ready loop state
  | stop, _ => True
  | await op resume, state => protocol.allows state op ∧
      ∀ outcome next, protocol.after state op outcome next →
        (resume outcome).Follows protocol ready next

end Netanvil.Theory
