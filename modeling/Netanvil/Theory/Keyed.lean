/-
# Lists of records with a key

A list whose records carry a key, searched for the first record with one (`lookup`), changed at
it (`modify`), extended by a record that replaces the one with its key if there is one
(`upsert`), and cut down to the newest records of one kind (`prune`). The order of the list is
the order in which the keys first came, which is what `prune` goes by.
-/
import Mathlib.Tactic

namespace Netanvil.Theory.Keyed

open List Ne

variable {α K : Type*} [DecidableEq K] (key : α → K)

/-! ## Looking up -/

/-- The first record with the key. -/
def lookup (k : K) (l : List α) : Option α := l.find? fun a => key a = k

/-- The part of the list behind the first record with the key. -/
def behind (k : K) : List α → List α
  | [] => []
  | a :: rest => if key a = k then rest else behind k rest

variable {key} {k : K} {l before after : List α} {a : α}

@[simp] theorem lookup_nil : lookup key k [] = none := rfl

theorem lookup_cons (b : α) (l : List α) :
    lookup key k (b :: l) = if key b = k then some b else lookup key k l := by
  unfold lookup
  rw [find?_cons]
  split <;> simp_all

theorem key_of_lookup (found : lookup key k l = some a) : key a = k := by
  simpa using find?_some found

theorem mem_of_lookup (found : lookup key k l = some a) : a ∈ l :=
  mem_of_find?_eq_some found

theorem lookup_eq_none : lookup key k l = none ↔ k ∉ l.map key := by
  simp [lookup]

theorem lookup_isSome : (lookup key k l).isSome ↔ k ∈ l.map key := by
  simp [lookup]

theorem lookup_of_mem (distinct : (l.map key).Nodup) (member : a ∈ l) :
    lookup key (key a) l = some a := by
  have present : (lookup key (key a) l).isSome := lookup_isSome.mpr (mem_map_of_mem member)
  obtain ⟨b, found⟩ := Option.isSome_iff_exists.mp present
  have same : key b = key a := key_of_lookup found
  rw [found, inj_on_of_nodup_map distinct (mem_of_lookup found) member same]

theorem lookup_append (l l' : List α) :
    lookup key k (l ++ l') = (lookup key k l).or (lookup key k l') := by
  simp [lookup, find?_append]

/-! ## Changing one record -/

section

/-- Change the first record with the key. -/
def modify (key : α → K) (k : K) (f : α → α) : List α → List α
  | [] => []
  | a :: rest => if key a = k then f a :: rest else a :: modify key k f rest

/-- Put a record in the place of the one with its key, or at the end. -/
def upsert (key : α → K) (a : α) (l : List α) : List α :=
  if key a ∈ l.map key then modify key (key a) (fun _ => a) l else l ++ [a]

variable {f : α → α}

theorem map_key_modify (keeps : ∀ a, key a = k → key (f a) = k) :
    (modify key k f l).map key = l.map key := by
  induction l with
  | nil => rfl
  | cons a rest ih =>
    rw [modify]
    split
    · rename_i here
      rw [map_cons, map_cons, keeps a here, here]
    · rw [map_cons, map_cons, ih]

theorem lookup_modify (keeps : ∀ a, key a = k → key (f a) = k) (k' : K) :
    lookup key k' (modify key k f l) =
      if k' = k then (lookup key k l).map f else lookup key k' l := by
  induction l with
  | nil => simp [modify]
  | cons a rest ih =>
    rw [modify]
    by_cases here : key a = k
    · rw [if_pos here, lookup_cons, keeps a here, lookup_cons, lookup_cons, here, if_pos rfl]
      by_cases own : k' = k
      · rw [if_pos own.symm, if_pos own, Option.map_some]
      · rw [if_neg (symm own), if_neg own, if_neg (symm own)]
    · rw [if_neg here, lookup_cons, ih, lookup_cons, lookup_cons, if_neg here]
      by_cases own : k' = k
      · rw [if_neg (own ▸ here), if_pos own, if_pos own]
      · rw [if_neg own, if_neg own]

theorem lookup_upsert (k : K) :
    lookup key k (upsert key a l) = if k = key a then some a else lookup key k l := by
  unfold upsert
  split
  · rename_i present
    rw [lookup_modify fun _ _ => rfl]
    obtain ⟨old, found⟩ := Option.isSome_iff_exists.mp (lookup_isSome.mpr present)
    rw [found, Option.map_some]
  · rename_i absent
    rw [lookup_append, lookup_cons, lookup_nil]
    by_cases own : k = key a
    · rw [if_pos own, if_pos own.symm, own, lookup_eq_none.mpr absent, Option.none_or]
    · rw [if_neg own, if_neg (symm own), Option.or_none]

theorem map_key_upsert :
    (upsert key a l).map key = if key a ∈ l.map key then l.map key else l.map key ++ [key a] := by
  unfold upsert
  split
  · exact map_key_modify fun _ _ => rfl
  · rw [map_append, map_singleton]

theorem mem_map_key_upsert : k ∈ (upsert key a l).map key ↔ k = key a ∨ k ∈ l.map key := by
  rw [map_key_upsert]
  split
  · rename_i present
    constructor
    · exact .inr
    · rintro (rfl | member)
      · exact present
      · exact member
  · rw [mem_append, mem_singleton, or_comm]

theorem nodup_upsert (distinct : (l.map key).Nodup) : ((upsert key a l).map key).Nodup := by
  rw [map_key_upsert]
  split
  · exact distinct
  · rename_i absent
    rw [← concat_eq_append]
    exact distinct.concat absent

/-- What stands behind a record is not changed by replacing it; a new record is the
last. -/
theorem behind_upsert : behind key (key a) (upsert key a l) = behind key (key a) l := by
  unfold upsert
  split
  · rename_i present
    clear present
    induction l with
    | nil => rfl
    | cons b rest ih =>
      by_cases here : key b = key a
      · simp [modify, behind, here]
      · simp [modify, behind, here, ih]
  · rename_i absent
    induction l with
    | nil => simp [behind]
    | cons b rest ih =>
      simp only [map_cons, mem_cons, not_or] at absent
      rw [cons_append, behind, behind, if_neg (symm absent.1), if_neg (symm absent.1), ih absent.2]

end

/-! ## Keeping the newest -/

section

variable (key) (kind : α → Bool) (keep : Nat)

/-- The keys of the oldest records of the kind, all but the last `keep`. -/
def surplus (l : List α) : List K :=
  ((l.filter kind).take ((l.filter kind).length - keep)).map key

/-- Drop the surplus. -/
def prune (l : List α) : List α := l.filter fun a => key a ∉ surplus key kind keep l

variable {key kind keep}

theorem prune_sublist : (prune key kind keep l).Sublist l := filter_sublist

omit [DecidableEq K] in
theorem surplus_of_le (few : (l.filter kind).length ≤ keep) : surplus key kind keep l = [] := by
  simp [surplus, Nat.sub_eq_zero_of_le few]

theorem prune_of_le (few : (l.filter kind).length ≤ keep) : prune key kind keep l = l := by
  simp [prune, surplus_of_le few]

/-- Removing the keys of the first records leaves the others. -/
theorem filter_take (distinct : (l.map key).Nodup) (n : Nat) :
    l.filter (fun a => key a ∉ (l.take n).map key) = l.drop n := by
  have split : (l.take n ++ l.drop n).map key = l.map key := by rw [take_append_drop]
  rw [← split, map_append] at distinct
  obtain ⟨-, -, apart⟩ := nodup_append.mp distinct
  conv_lhs => rw [← take_append_drop n l, filter_append]
  have gone :
      (l.take n).filter (fun a => key a ∉ ((l.take n ++ l.drop n).take n).map key) = [] := by
    rw [take_append_drop, filter_eq_nil_iff]
    intro a member
    have present : key a ∈ (l.take n).map key := mem_map_of_mem member
    simpa using present
  have stay : (l.drop n).filter (fun a => key a ∉ ((l.take n ++ l.drop n).take n).map key) =
      l.drop n := by
    rw [take_append_drop, filter_eq_self]
    intro a member
    have fresh : key a ∉ (l.take n).map key := fun present =>
      apart _ present _ (mem_map_of_mem member) rfl
    simpa using fresh
  rw [gone, stay, nil_append]

/-- At most `keep` records of the kind are left. -/
theorem length_filter_prune (distinct : (l.map key).Nodup) :
    ((prune key kind keep l).filter kind).length ≤ keep := by
  have distinctKind : ((l.filter kind).map key).Nodup :=
    distinct.sublist (filter_sublist.map key)
  have left : (prune key kind keep l).filter kind =
      (l.filter kind).drop ((l.filter kind).length - keep) := by
    rw [← filter_take distinctKind, prune, filter_filter, filter_filter]
    apply filter_congr
    intro a _
    rw [Bool.and_comm]
    rfl
  rw [left, length_drop]
  omega

theorem behind_of_split (split : l = before ++ a :: after)
    (first : key a ∉ before.map key) : behind key (key a) l = after := by
  subst split
  induction before with
  | nil => simp [behind]
  | cons b rest ih =>
    simp only [map_cons, mem_cons, not_or] at first
    rw [cons_append, behind, if_neg (symm first.1), ih first.2]

theorem mem_surplus (distinct : (l.map key).Nodup) (member : a ∈ l) :
    key a ∈ surplus key kind keep l ↔
      kind a = true ∧ keep ≤ ((behind key (key a) l).filter kind).length := by
  obtain ⟨before, after, split⟩ := append_of_mem member
  have distinctSplit : (before.map key ++ key a :: after.map key).Nodup := by
    simpa [split] using distinct
  have first : key a ∉ before.map key := fun inside =>
    (nodup_append.mp distinctSplit).2.2 _ inside _ mem_cons_self rfl
  rw [behind_of_split split first]
  cases ofKind : kind a with
  | false =>
    -- only records of the kind are surplus, and no other record has this key
    simp only [Bool.false_eq_true, false_and, iff_false]
    intro inside
    obtain ⟨b, taken, same⟩ := mem_map.mp inside
    have inKind := mem_filter.mp (mem_of_mem_take taken)
    have : b = a := inj_on_of_nodup_map distinct inKind.1 member same
    rw [this, ofKind] at inKind
    cases inKind.2
  | true =>
    have parts : l.filter kind = before.filter kind ++ a :: after.filter kind := by
      rw [split, filter_append, filter_cons_of_pos ofKind]
    have length : (l.filter kind).length =
        (before.filter kind).length + ((after.filter kind).length + 1) := by
      rw [parts, length_append, length_cons]
    have fresh : key a ∉ ((before.filter kind).take ((l.filter kind).length - keep)).map key := by
      intro inside
      obtain ⟨b, taken, same⟩ := mem_map.mp inside
      exact first (mem_map.mpr ⟨b, (mem_filter.mp (mem_of_mem_take taken)).1, same⟩)
    simp only [true_and, surplus]
    generalize room : (l.filter kind).length - keep = n at fresh ⊢
    rw [parts, take_append, map_append, mem_append, or_iff_right fresh]
    -- `a` is the first of the records left to take
    cases rank : n - (before.filter kind).length with
    | zero =>
      simp only [take_zero, map_nil, not_mem_nil, false_iff]
      omega
    | succ n =>
      simp only [take_succ_cons, map_cons, mem_cons, true_or, true_iff]
      omega

end

/-! ## Taking the first record with a key -/

section

variable {α κ β : Type} [DecidableEq κ] {key : α → κ} {k k' : κ} {l : List α} {a : α}

theorem filter_of_find (found : l.find? (fun b => key b = k) = some a) :
    l.filter (fun b => key b = k) =
      a :: (l.eraseP fun b => key b = k).filter fun b => key b = k := by
  induction l with
  | nil => cases found
  | cons b l ih =>
    by_cases here : key b = k
    · obtain rfl : b = a := by simpa [here] using found
      simp [here]
    · have later : l.find? (fun b => key b = k) = some a := by simpa [here] using found
      simp [here, ih later]

theorem filter_eraseP_of_ne (different : k' ≠ k) :
    (l.eraseP fun b => key b = k).filter (fun b => key b = k') = l.filter fun b => key b = k' := by
  induction l with
  | nil => rfl
  | cons b l ih =>
    by_cases here : key b = k
    · simp [here, Ne.symm different]
    · simp [here, filter_cons, ih]

/-- The keys are the one found and those that are left without it. -/
theorem perm_of_lookup {l : List (κ × β)} {b : β} (found : l.lookup k = some b) :
    (l.map Prod.fst).Perm (k :: (l.eraseP fun e => e.1 = k).map Prod.fst) := by
  induction l with
  | nil => cases found
  | cons e l ih =>
    obtain ⟨own, c⟩ := e
    by_cases here : own = k
    · simp [here]
    · have passed : (k == own) = false := by simpa using symm here
      have later : l.lookup k = some b := by simpa [List.lookup_cons, passed] using found
      simp only [here, List.map_cons, decide_false, Bool.false_eq_true, not_false_eq_true,
        eraseP_cons_of_neg]
      exact ((ih later).cons own).trans (Perm.swap _ _ _)

theorem lookup_eraseP_of_ne {l : List (κ × β)} (different : k' ≠ k) :
    (l.eraseP fun e => e.1 = k).lookup k' = l.lookup k' := by
  induction l with
  | nil => rfl
  | cons e l ih =>
    obtain ⟨own, b⟩ := e
    by_cases here : own = k
    · subst here
      have passed : (k' == own) = false := by simpa using different
      simp [List.lookup_cons, passed]
    · simp [here, List.lookup_cons, ih]

end

/-! ## Answers paired with the keys of what they answer -/

/-- Each record finds its own answer under its key. -/
theorem lookup_zip {α β κ : Type} [DecidableEq κ] {key : α → κ} {R : α → β → Prop} {l : List α}
    {answers : List β} (matched : Forall₂ R l answers) (distinct : (l.map key).Nodup) {a : α}
    (member : a ∈ l) : ∃ b, ((l.map key).zip answers).lookup (key a) = some b ∧ R a b := by
  induction matched with
  | nil => cases member
  | @cons c b l answers here rest ih =>
    rw [map_cons, nodup_cons] at distinct
    rcases mem_cons.mp member with rfl | later
    · exact ⟨b, by simp, here⟩
    · have passed : (key a == key c) = false := by
        rw [beq_eq_false_iff_ne]
        intro same
        exact distinct.1 (same ▸ mem_map_of_mem later)
      obtain ⟨b', found, related⟩ := ih distinct.2 later
      exact ⟨b', by simp [List.lookup_cons, passed, found], related⟩

end Netanvil.Theory.Keyed
