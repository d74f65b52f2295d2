/-
# Strings cut at byte offsets

A string is a list of characters, each as wide as its UTF-8 encoding. It can be cut where a
character begins and not inside one, so a slice may not be there (`slice`). What is cut off in
front of a string does not change the slices of the rest (`slice_append`).
-/
import Mathlib.Tactic

namespace Netanvil.Theory.Slices

open List Option

/-- In bytes. -/
def size (s : List Char) : Nat := (s.map Char.utf8Size).sum

/-- What is before an offset and what is after it; `none` inside a character or past the end. -/
def cut : Nat → List Char → Option (List Char × List Char)
  | 0, s => some ([], s)
  | _ + 1, [] => none
  | n + 1, c :: s =>
    if c.utf8Size ≤ n + 1 then (cut (n + 1 - c.utf8Size) s).map (Prod.map (c :: ·) id) else none

/-- The bytes from offset `i` to `i + n`. -/
def slice (i n : Nat) (s : List Char) : Option (List Char) :=
  (cut i s).bind fun parts => (cut n parts.2).map Prod.fst

variable {s p r : List Char}

@[simp] theorem size_append : size (p ++ s) = size p + size s := by simp [size]

theorem cut_append : cut (size p) (p ++ s) = some (p, s) := by
  induction p with
  | nil => simp [size, cut]
  | cons c p ih =>
    have wide : size (c :: p) = c.utf8Size + size p := by simp [size]
    obtain ⟨k, positive⟩ := Nat.exists_eq_add_one.mpr c.utf8Size_pos
    rw [show size (c :: p) = k + size p + 1 by omega, cons_append, cut, if_pos (by omega),
      show k + size p + 1 - c.utf8Size = size p by omega, ih]
    rfl

theorem slice_append : slice (size p) (size r) (p ++ (r ++ s)) = some r := by
  rw [slice, cut_append, bind_some, cut_append]
  rfl

end Netanvil.Theory.Slices
