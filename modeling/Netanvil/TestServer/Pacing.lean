/-
# The pacing of a handler's datagrams

With pacing on, a UDP handler takes the bytes of each datagram (but for the errors it injects)
from a token bucket, sleeps for as long as the bucket says, and sends. The bucket goes below zero
rather than refuse, so only the sleep keeps the rate (`pacing_bound`).
-/
import Netanvil.Core.Scheduler

namespace Netanvil.TestServer

open List

/-- Bytes, and bytes a second. -/
structure TokenBucket where
  tokens : ℚ
  capacity : ℚ
  rate : ℚ
  lastRefill : Nat

/-- What a handler brings: how long it takes to ask the bucket, for how many bytes, and how much
longer than it was told it sleeps. -/
structure Pace where
  wait : Nat
  bytes : Nat
  late : Nat

structure Datagram where
  asked : Nat
  bytes : Nat
  sent : Nat

namespace TokenBucket

def new (rateBps now : Nat) : TokenBucket := ⟨rateBps, rateBps * 2, rateBps, now⟩

def tryConsume (b : TokenBucket) (now bytes : Nat) : TokenBucket × Option Nat :=
  let elapsed : ℚ := (now - b.lastRefill : Nat) / 1000000000
  let tokens := min (b.tokens + b.rate * elapsed) b.capacity - bytes
  ({ b with tokens := tokens, lastRefill := now },
    if 0 ≤ tokens then none else some (Core.fromSecsF64 (-tokens / b.rate)))

/-- The datagrams a handler sends from a time on. -/
def sends (b : TokenBucket) (now : Nat) : List Pace → List Datagram
  | [] => []
  | p :: rest =>
    let asked := now + p.wait
    let consumed := b.tryConsume asked p.bytes
    let sent := asked + consumed.2.getD 0 + p.late
    ⟨asked, p.bytes, sent⟩ :: sends consumed.1 sent rest

variable {b : TokenBucket} {now : Nat} {paces : List Pace} {first : Datagram}
  {before rest : List Datagram}

theorem tokens_le (past : b.lastRefill ≤ now) :
    (b.tryConsume now 0).1.tokens ≤
      b.tokens + b.rate * ((now - b.lastRefill) / 1000000000) := by
  rw [← Nat.cast_sub past]
  exact (sub_le_self _ (by positivity)).trans (min_le_left _ _)

/-- A sleep makes up for the tokens that are missing, but for half a nanosecond. -/
theorem tokens_slept (on : 0 < b.rate) (now bytes : Nat) :
    0 ≤ (b.tryConsume now bytes).1.tokens +
      b.rate * (((b.tryConsume now bytes).2.getD 0 + 1 / 2) / 1000000000) := by
  unfold tryConsume
  dsimp only
  split
  · simp only [Option.getD_none]
    positivity
  · rename_i short
    set tokens := min _ _ - (bytes : ℚ)
    have near := (abs_le.mp (Core.fromSecsF64_near
      (div_nonneg (neg_nonneg.mpr (not_le.mp short).le) on.le))).1
    have owed : b.rate * (-tokens / b.rate) = -tokens := mul_div_cancel₀ _ on.ne'
    simp only [Option.getD_some]
    nlinarith

theorem le_asked (run : b.sends now paces = first :: rest) : now ≤ first.asked := by
  cases paces with
  | nil => cases run
  | cons p paces =>
    obtain ⟨rfl, -⟩ := cons.inj run
    exact Nat.le_add_right _ _

/-- From one datagram on: the tokens that one finds, and what the rate allows until the last. -/
theorem sends_bytes (on : 0 < b.rate) (run : b.sends now paces = first :: rest) :
    (((first :: rest).map Datagram.bytes).sum : ℚ) ≤ (b.tryConsume first.asked 0).1.tokens +
      b.rate * ((((first :: rest).getLast (cons_ne_nil _ _)).sent + 1 / 2 - first.asked) /
        1000000000) := by
  induction paces generalizing b now first rest with
  | nil => cases run
  | cons p paces ih =>
    obtain ⟨rfl, later⟩ := cons.inj run
    have slept := tokens_slept on (now + p.wait) p.bytes
    set consumed := b.tryConsume (now + p.wait) p.bytes
    have tokens : consumed.1.tokens = (b.tryConsume (now + p.wait) 0).1.tokens - p.bytes := by
      simp [consumed, tryConsume]
    have rate : consumed.1.rate = b.rate := rfl
    cases rest with
    | nil =>
      have late : (0 : ℚ) ≤ b.rate * (p.late / 1000000000) := by positivity
      simp only [map_cons, map_nil, sum_cons, sum_nil, getLast_singleton]
      push_cast
      linarith
    | cons d ds =>
      -- the next datagram finds what this one left and the refill since
      have asks : consumed.1.lastRefill ≤ d.asked :=
        ((Nat.le_add_right _ _).trans (Nat.le_add_right _ _)).trans (le_asked later)
      have found := tokens_le asks
      have rest := ih (b := consumed.1) on later
      have at_ : consumed.1.lastRefill = now + p.wait := rfl
      rw [map_cons, sum_cons, getLast_cons (cons_ne_nil _ _)]
      rw [rate, at_] at found
      rw [rate] at rest
      push_cast at rest found ⊢
      linarith

theorem sends_append (run : b.sends now paces = before ++ rest) :
    ∃ (b' : TokenBucket) (now' : Nat) (paces' : List Pace),
      b'.rate = b.rate ∧ b'.capacity = b.capacity ∧ b'.sends now' paces' = rest := by
  induction before generalizing b now paces with
  | nil => exact ⟨b, now, paces, rfl, rfl, run⟩
  | cons d before ih =>
    cases paces with
    | nil => cases run
    | cons p paces => exact ih (b := (b.tryConsume (now + p.wait) p.bytes).1) (cons.inj run).2

/-- **What a paced handler sends.** Over any stretch of its datagrams, at most two seconds' worth
and what the rate allows from when the first asked to when the last was sent, to half a
nanosecond. -/
theorem pacing_bound {rateBps start : Nat} (on : 0 < rateBps)
    (run : (new rateBps start).sends start paces = before ++ first :: rest) :
    (((first :: rest).map Datagram.bytes).sum : ℚ) ≤ rateBps *
      (2 + (((first :: rest).getLast (cons_ne_nil _ _)).sent + 1 / 2 - first.asked) /
        1000000000) := by
  have on : (0 : ℚ) < rateBps := Nat.cast_pos.mpr on
  obtain ⟨b, now, paces, rate, capacity, run⟩ := sends_append run
  have bound := sends_bytes (rate ▸ on) run
  have full : (b.tryConsume first.asked 0).1.tokens ≤ b.capacity :=
    (sub_le_self _ (by positivity)).trans (min_le_right _ _)
  rw [capacity] at full
  rw [rate] at bound
  dsimp only [new] at full bound
  linarith

/-- Three seconds' worth at once, after half a second's, waits two and a half seconds, and the
datagram after it waits for its own bytes. -/
theorem burst_waits :
    (new 1000 0).sends 0 [⟨0, 500, 0⟩, ⟨0, 3000, 0⟩, ⟨0, 1000, 0⟩] =
        [⟨0, 500, 0⟩] ++ [⟨0, 3000, 2500000000⟩, ⟨2500000000, 1000, 3500000000⟩] ∧
      (4000 : ℚ) ≤ 1000 * (2 + (3500000000 + 1 / 2) / 1000000000) := by
  have run : (new 1000 0).sends 0 [⟨0, 500, 0⟩, ⟨0, 3000, 0⟩, ⟨0, 1000, 0⟩] =
      [⟨0, 500, 0⟩] ++ [⟨0, 3000, 2500000000⟩, ⟨2500000000, 1000, 3500000000⟩] := by
    simp [sends, tryConsume, new, Core.fromSecsF64]
    norm_num
  refine ⟨run, ?_⟩
  convert pacing_bound (by decide) run using 1 <;> norm_num

end TokenBucket

end Netanvil.TestServer
