/-
# Maps with values that add up

A map is changed one entry at a time, and what it holds under a key is read in a
commutative monoid. `gather` reads a list of entries, `held` a finite map; a change that
adds to one entry adds at one key (`gather_alter`, `held_insert`), so merging a list of
entries into a finite map adds what the list holds (`held_foldl`).
-/
import Mathlib.Algebra.Group.Pi.Lemmas
import Mathlib.Data.Finmap

namespace Netanvil.Theory.Entries

variable {κ β M β' α : Type*} [DecidableEq κ]

/-- Change the entry under a key, or make one. -/
def alter (k : κ) (f : Option β → β) : List (κ × β) → List (κ × β)
  | [] => [(k, f none)]
  | e :: rest => if e.1 = k then (k, f (some e.2)) :: rest else e :: alter k f rest

variable [AddCommMonoid M]

/-- What a list of entries holds under each key. -/
def gather (g : β → M) (l : List (κ × β)) : κ → M :=
  (l.map fun e => (Pi.single e.1 (g e.2) : κ → M)).sum

/-- What a finite map holds under each key. -/
def held (g : β → M) (m : Finmap fun _ : κ => β) : κ → M := fun k => (m.lookup k).elim 0 g

variable {g : β → M} {k : κ}

@[simp] theorem gather_nil : gather g ([] : List (κ × β)) = 0 := rfl

theorem gather_cons (e : κ × β) (l : List (κ × β)) :
    gather g (e :: l) = Pi.single e.1 (g e.2) + gather g l := by
  simp [gather]

@[simp] theorem held_empty : held g (∅ : Finmap fun _ : κ => β) = 0 := by
  funext k
  simp [held]

/-- Adding to one entry adds at its key. -/
theorem gather_alter {f : Option β → β} {d : M}
    (adds : ∀ o : Option β, g (f o) = o.elim 0 g + d) (l : List (κ × β)) :
    gather g (alter k f l) = gather g l + Pi.single k d := by
  induction l with
  | nil =>
    rw [alter, gather_cons, adds, Option.elim_none, zero_add, gather_nil, add_zero, zero_add]
  | cons e rest ih =>
    unfold alter
    split
    · rename_i here
      rw [gather_cons, gather_cons, adds, Option.elim_some, ← here, Pi.single_add, add_right_comm]
    · rw [gather_cons, gather_cons, ih, add_assoc]

/-- A run of such changes adds each of them. -/
theorem gather_foldl_alter {k : α → κ} {f : α → Option β → β} {d : α → M}
    (adds : ∀ a (o : Option β), g (f a o) = o.elim 0 g + d a) (xs : List α) (l : List (κ × β)) :
    gather g (xs.foldl (fun m a => alter (k a) (f a) m) l) =
      gather g l + (xs.map fun a => (Pi.single (k a) (d a) : κ → M)).sum := by
  induction xs generalizing l with
  | nil => simp
  | cons a rest ih =>
    rw [List.foldl_cons, ih, gather_alter (adds a), List.map_cons, List.sum_cons, add_assoc]

theorem held_insert {m : Finmap fun _ : κ => β} {b : β} {d : M}
    (adds : g b = held g m k + d) : held g (m.insert k b) = held g m + Pi.single k d := by
  funext k'
  by_cases same : k' = k
  · subst same
    simp [held, Finmap.lookup_insert, adds]
  · simp [held, Finmap.lookup_insert_of_ne _ same, same]

/-- Merging a list of entries adds what it holds. -/
theorem held_foldl {g' : β' → M}
    {merge : (Finmap fun _ : κ => β) → κ × β' → Finmap fun _ : κ => β}
    (adds : ∀ m e, held g (merge m e) = held g m + Pi.single e.1 (g' e.2)) (l : List (κ × β'))
    (m : Finmap fun _ : κ => β) : held g (l.foldl merge m) = held g m + gather g' l := by
  induction l generalizing m with
  | nil => rw [List.foldl_nil, gather_nil, add_zero]
  | cons e rest ih => rw [List.foldl_cons, ih, adds, gather_cons, add_assoc]

end Netanvil.Theory.Entries
