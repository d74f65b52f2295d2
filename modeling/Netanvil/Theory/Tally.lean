/-
# Summing up a finite map

The sum and the maximum of a function over the values of a finite map. The order of
the entries does not matter, which is what a map without one needs. An entry counts
once: `tally_insert` and `tally_erase` say what replacing or removing one does, and
`tally_eq_sum` reads the sum off a list of the keys.
-/
import Mathlib.Data.Finmap
import Mathlib.Tactic

namespace Netanvil.Theory.Tally

open List Finmap Option

variable {K V M : Type*}

/-- The sum of `f` over the values. -/
def tally [AddCommMonoid M] (f : V → M) (m : Finmap fun _ : K => V) : M :=
  (m.entries.map fun e => f e.2).sum

/-- The maximum of `f` over the values, at least `floor`. -/
def peak [LinearOrder M] (floor : M) (f : V → M) (m : Finmap fun _ : K => V) : M :=
  (m.entries.map fun e => f e.2).fold max floor

section

variable [AddCommMonoid M] (f : V → M) [DecidableEq K] {m : Finmap fun _ : K => V} {k : K}

theorem tally_insert_of_notMem (fresh : k ∉ m) (v : V) :
    tally f (m.insert k v) = f v + tally f m := by
  unfold tally
  rw [entries_insert_of_notMem fresh, Multiset.map_cons, Multiset.sum_cons]

theorem tally_insert (m : Finmap fun _ : K => V) (k : K) (v : V) :
    tally f (m.insert k v) = f v + tally f (m.erase k) := by
  have same : m.insert k v = (m.erase k).insert k v := by
    apply ext_lookup
    intro x
    by_cases here : x = k
    · subst here
      rw [lookup_insert, lookup_insert]
    · rw [lookup_insert_of_ne _ here, lookup_insert_of_ne _ here, lookup_erase_ne here]
  rw [same, tally_insert_of_notMem f notMem_erase_self]

theorem tally_erase {v : V} (found : m.lookup k = some v) :
    tally f m = f v + tally f (m.erase k) := by
  have same : m = m.insert k v := by
    apply ext_lookup
    intro x
    by_cases here : x = k
    · subst here
      rw [lookup_insert, found]
    · rw [lookup_insert_of_ne _ here]
  conv_lhs => rw [same]
  exact tally_insert f m k v

theorem erase_of_lookup_none (absent : m.lookup k = none) : m.erase k = m := by
  apply ext_lookup
  intro x
  by_cases here : x = k
  · subst here
    rw [lookup_erase, absent]
  · rw [lookup_erase_ne here]

theorem tally_le_insert [PartialOrder M] [IsOrderedAddMonoid M] [CanonicallyOrderedAdd M] {v : V}
    (rises : ∀ w, m.lookup k = some w → f w ≤ f v) : tally f m ≤ tally f (m.insert k v) := by
  rw [tally_insert]
  cases found : m.lookup k with
  | some w =>
    rw [tally_erase f found]
    gcongr
    exact rises w found
  | none =>
    rw [erase_of_lookup_none found]
    exact le_add_self

/-- The sum over a map whose entries are listed, each item with what its key has. -/
theorem tally_eq_sum {α : Type*} {key : α → K} {items : List α} (distinct : (items.map key).Nodup)
    (value : α → Option V) (listed : ∀ a ∈ items, m.lookup (key a) = value a)
    (others : ∀ k, k ∉ items.map key → m.lookup k = none) :
    tally f m = (items.map fun a => (value a).elim 0 f).sum := by
  induction items generalizing m with
  | nil =>
    have empty : m = ∅ := by
      apply ext_lookup
      intro k
      rw [others k (by simp), lookup_empty]
    rw [empty]
    rfl
  | cons a rest ih =>
    obtain ⟨fresh, distinctRest⟩ := nodup_cons.mp distinct
    have first : tally f m = (value a).elim 0 f + tally f (m.erase (key a)) := by
      have here := listed a (by simp)
      cases found : value a with
      | some v => exact tally_erase f (here.trans found)
      | none => rw [erase_of_lookup_none (here.trans found), elim_none, zero_add]
    rw [first, map_cons, sum_cons]
    congr 1
    refine ih distinctRest ?_ ?_
    · intro x member
      have different : key x ≠ key a := by
        intro same
        exact fresh (mem_map.mpr ⟨x, member, same⟩)
      rw [lookup_erase_ne different]
      exact listed x (by simp [member])
    · intro k absent
      by_cases here : k = key a
      · subst here
        exact lookup_erase (key a) m
      · rw [lookup_erase_ne here]
        exact others k (by simpa [here] using absent)

end

/-! ## Maps that agree -/

section

variable [DecidableEq K] {f : V → M} {m m' : Finmap fun _ : K => V}

/-- The values of a map, read off its keys. -/
theorem values_eq_filterMap (f : V → M) (m : Finmap fun _ : K => V) :
    m.entries.map (fun e => f e.2) = m.keys.val.filterMap fun k => (m.lookup k).map f := by
  have keys : m.keys.val = m.entries.map Sigma.fst := rfl
  rw [keys, Multiset.filterMap_map, Multiset.filterMap_eq_bind, ← Multiset.bind_singleton]
  refine Multiset.bind_congr fun e member => ?_
  have found : m.lookup e.1 = some e.2 := lookup_eq_some_iff.mpr member
  simp [found]

section

variable (same : ∀ k, (m.lookup k).map f = (m'.lookup k).map f)
include same

theorem values_congr : m.entries.map (fun e => f e.2) = m'.entries.map (fun e => f e.2) := by
  have keys : m.keys = m'.keys := by
    ext k
    have := congrArg isSome (same k)
    simpa [Finmap.mem_keys, ← Finmap.lookup_isSome, isSome_map] using this
  rw [values_eq_filterMap, values_eq_filterMap, keys]
  simp only [same]

theorem tally_congr [AddCommMonoid M] : tally f m = tally f m' := by
  unfold tally
  rw [values_congr same]

end

theorem peak_congr [LinearOrder M] (floor : M)
    (same : ∀ k, (m.lookup k).map f = (m'.lookup k).map f) : peak floor f m = peak floor f m' := by
  unfold peak
  rw [values_congr same]

end

/-! ## Filling a map from a list

A loop that touches, for each item of a list, only the entry under the item's key. -/

variable {α : Type*} [DecidableEq K] {key : α → K}
  {step : (Finmap fun _ : K => V) → α → Finmap fun _ : K => V} {items : List α}
  (frame : ∀ m a k, k ≠ key a → (step m a).lookup k = m.lookup k)
include frame

theorem lookup_foldl_of_notMem {k : K} (absent : k ∉ items.map key) (m : Finmap fun _ : K => V) :
    (items.foldl step m).lookup k = m.lookup k := by
  induction items generalizing m with
  | nil => rfl
  | cons a rest ih =>
    simp only [map_cons, mem_cons, not_or] at absent
    rw [foldl_cons, ih absent.2, frame m a k absent.1]

theorem lookup_foldl_of_mem (distinct : (items.map key).Nodup) {a : α} (member : a ∈ items)
    {g : Option V → Option V} (own : ∀ m, (step m a).lookup (key a) = g (m.lookup (key a)))
    (m : Finmap fun _ : K => V) : (items.foldl step m).lookup (key a) = g (m.lookup (key a)) := by
  induction items generalizing m with
  | nil => cases member
  | cons b rest ih =>
    obtain ⟨fresh, distinctRest⟩ := nodup_cons.mp distinct
    rw [foldl_cons]
    rcases mem_cons.mp member with rfl | later
    · rw [lookup_foldl_of_notMem frame fresh, own]
    · have different : key a ≠ key b := by
        intro same
        exact fresh (same ▸ mem_map_of_mem later)
      rw [ih distinctRest later, frame m b (key a) different]

end Netanvil.Theory.Tally
