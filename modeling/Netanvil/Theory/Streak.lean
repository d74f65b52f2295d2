/-
# For how long, and how long ago

Readings of a history. `streak` is how many of its last events in a row meet a condition, `lastAgo`
is how many events ago one last did, and `since` are the events after that one. All of them go one
event at a time (`streak_snoc`, `lastAgo_snoc`, `since_snoc`).
-/
import Mathlib.Data.List.DropRight

namespace Netanvil.Theory.Streak

variable {α : Type*} (p : α → Bool)

/-- How many of the last events in a row meet `p`. -/
def streak (history : List α) : Nat := (history.reverse.takeWhile p).length

variable (history : List α)

theorem streak_snoc (a : α) :
    streak p (history ++ [a]) = if p a then streak p history + 1 else 0 := by
  cases met : p a <;> simp [streak, met]

/-- How many events ago `p` was last met; the last event is 0 ago. -/
def lastAgo (history : List α) : Option Nat := history.reverse.findIdx? p

theorem lastAgo_snoc (a : α) :
    lastAgo p (history ++ [a]) = if p a then some 0 else (lastAgo p history).map (· + 1) := by
  cases met : p a <;> simp [lastAgo, List.findIdx?_cons, met]

theorem lt_length_of_lastAgo {history : List α} {k : Nat} (ago : lastAgo p history = some k) :
    k < history.length := by
  obtain ⟨inside, -⟩ := List.findIdx?_eq_some_iff_getElem.mp ago
  rwa [List.length_reverse] at inside

/-- The events after the last that meets `p`. -/
def since (history : List α) : List α := history.rtakeWhile fun a => !p a

theorem since_snoc (a : α) :
    since p (history ++ [a]) = if p a then [] else since p history ++ [a] := by
  cases met : p a
  · exact List.rtakeWhile_concat_pos _ _ _ (by simp [met])
  · exact List.rtakeWhile_concat_neg _ _ _ (by simp [met])

end Netanvil.Theory.Streak
