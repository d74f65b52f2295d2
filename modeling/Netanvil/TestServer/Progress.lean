/-
# When a connection's loop always gives up its thread

The worker is one cooperative thread: while a handler awaits nothing, no other connection and no
accept is served. A header is free to announce sizes of zero, and a `rr`, `bidir` or `source`
loop then turns without awaiting anything (`never_starves_iff`).
-/
import Netanvil.TestServer.Tcp

namespace Netanvil.TestServer

open Theory Op Routine EveryRound

variable {β : Type} {start : Loop β} {next : Handler β}

/-- A read or write of at least one byte, or a positive sleep. -/
def Op.CanSuspend : Op β → Prop
  | .read => True
  | .readExact length => 0 < length
  | .writeAll bytes => 0 < bytes.length
  | .sleep us => 0 < us

/-- Every iteration of the loop the handler enters awaits an operation that can
suspend, whatever the client sends and whatever fails. -/
def NeverStarves (marking : Marking β) (handler : Handler β) : Prop :=
  ∀ start, handler.LeadsTo start → EveryRound CanSuspend (iteration marking) start

/-! ## One iteration -/

theorem performs_andThen (op : Op β) (next : List β → Handler β) :
    (Handler.andThen op next).Performs CanSuspend ↔ op.CanSuspend := by
  -- a failed operation ends the handler, so what comes next need not be reached
  constructor
  · rintro (suspends | performs)
    · exact suspends
    · exact (performs none).elim
  · exact .inl

theorem performs_sleepFor (latencyUs : Option UInt32) (next : Handler β) :
    (sleepFor latencyUs next).Performs CanSuspend ↔
      0 < (latencyUs.getD 0).toNat ∨ next.Performs CanSuspend := by
  cases latencyUs with
  | none => simp [sleepFor]
  | some us => simp [sleepFor, Performs, CanSuspend]

namespace RrLoop

/-- The next request is not already there: some of its bytes have to be read. -/
def Reads (loop : RrLoop β) : Prop :=
  0 < loop.requestSize.toNat ∧ (loop.first = true → loop.leftover.length < loop.requestSize.toNat)

/-- What the response does if its request needs no read. -/
def Answers (responseSize : UInt32) (latencyUs errorRate : Option UInt32) (draw : Fin 10000) :
    Prop :=
  if injected errorRate draw then 2 ≤ responseSize.toNat
  else 0 < (latencyUs.getD 0).toNat ∨ 0 < responseSize.toNat

theorem performs_failWith (marking : Marking β) (loop : RrLoop β) (asked : List β) :
    (loop.failWith marking asked).Performs CanSuspend ↔ 2 ≤ loop.responseSize.toNat := by
  unfold failWith
  by_cases half : 0 < loop.responseSize.toNat / 2
  · rw [if_pos half]
    simp only [Performs, CanSuspend, List.length_map, List.length_replicate, half, true_or,
      true_iff]
    omega
  · rw [if_neg half]
    simp only [Performs, false_iff]
    omega

theorem performs_reply (marking : Marking β) (loop : RrLoop β) (draw : Fin 10000)
    (start : Loop β) (asked : List β) :
    (loop.reply marking draw (.again start) asked).Performs CanSuspend ↔
      Answers loop.responseSize loop.latencyUs loop.errorRate draw := by
  unfold reply Answers
  by_cases drawn : injected loop.errorRate draw = true
  · rw [if_pos drawn, if_pos drawn, performs_failWith]
  · rw [if_neg drawn, if_neg drawn, performs_sleepFor]
    unfold respond
    by_cases size : 0 < loop.responseSize.toNat
    · rw [if_pos size, performs_andThen]
      simp [CanSuspend, length_sized, size]
    · rw [if_neg size]
      simp [Performs, size]

theorem performs_exchange (marking : Marking β) (loop : RrLoop β) (draw : Fin 10000)
    (start : Loop β) :
    (loop.exchange marking draw (.again start)).Performs CanSuspend ↔
      loop.Reads ∨ Answers loop.responseSize loop.latencyUs loop.errorRate draw := by
  have reply := performs_reply marking loop draw start
  unfold exchange readRequest Reads
  by_cases need : 0 < loop.requestSize.toNat
  · rw [if_pos need]
    by_cases early : (loop.first && !loop.leftover.isEmpty) = true
    · rw [if_pos early]
      have isFirst : loop.first = true := by simp_all
      by_cases short : loop.leftover.length < loop.requestSize.toNat
      · rw [if_pos short, performs_andThen]
        simp [CanSuspend, need, short]
      · rw [if_neg short, reply]
        simp [isFirst, short]
    · rw [if_neg early, performs_andThen]
      -- nothing came with the header, or it has been used up
      have absent : loop.first = true → loop.leftover.length < loop.requestSize.toNat := by
        intro isFirst
        have empty : loop.leftover = [] := by simpa [isFirst] using early
        simpa [empty] using need
      exact iff_of_true need (.inl ⟨need, absent⟩)
  · rw [if_neg need, reply]
    simp [need]

end RrLoop

/-! ## Every iteration -/

theorem leadsTo_andThen {op : Op β} {next : List β → Handler β}
    (leads : (Handler.andThen op next).LeadsTo start) : ∃ bytes, (next bytes).LeadsTo start := by
  obtain ⟨outcome, leads⟩ := leads
  cases outcome with
  | none => exact leads.elim
  | some bytes => exact ⟨bytes, leads⟩

theorem leadsTo_sleepFor {latencyUs : Option UInt32}
    (leads : (sleepFor latencyUs next).LeadsTo start) : next.LeadsTo start := by
  cases latencyUs with
  | none => exact leads
  | some us =>
    obtain ⟨_, leads⟩ := leads
    exact leads

/-- An exchange can only go on as its caller says. -/
theorem leadsTo_exchange {marking : Marking β} {loop : RrLoop β} {draw : Fin 10000}
    (leads : (loop.exchange marking draw next).LeadsTo start) : next.LeadsTo start := by
  have ofReply : ∀ asked, (loop.reply marking draw next asked).LeadsTo start →
      next.LeadsTo start := by
    intro asked leads
    unfold RrLoop.reply RrLoop.failWith at leads
    split at leads
    · split at leads
      · obtain ⟨_, leads⟩ := leads
        exact leads.elim
      · exact leads.elim
    · have responds := leadsTo_sleepFor leads
      unfold RrLoop.respond at responds
      split at responds
      · obtain ⟨_, leads⟩ := leadsTo_andThen responds
        exact leads
      · exact responds
  unfold RrLoop.exchange RrLoop.readRequest at leads
  split at leads
  · split at leads
    · split at leads
      · obtain ⟨_, leads⟩ := leadsTo_andThen leads
        exact ofReply _ leads
      · exact ofReply _ leads
    · obtain ⟨_, leads⟩ := leadsTo_andThen leads
      exact ofReply _ leads
  · exact ofReply _ leads

variable (marking : Marking β)

/-- The first request is the only one that may need no read, so the loop never starves
if its first iteration does not. -/
theorem everyRound_rr (loop : RrLoop β) (isFirst : loop.first = true) :
    EveryRound CanSuspend (iteration marking) (.rr loop) ↔
      loop.Reads ∨ ∀ draw, RrLoop.Answers loop.responseSize loop.latencyUs loop.errorRate draw := by
  constructor
  · intro every
    rw [← forall_or_left]
    intro draw
    exact (loop.performs_exchange marking draw _).mp (every.first draw)
  · intro progresses
    apply of_invariant fun later =>
      ∃ first, (first = true → loop.first = true) ∧ later = .rr { loop with first := first }
    · exact ⟨loop.first, id, rfl⟩
    · rintro draw _ next ⟨first, -, rfl⟩ leads
      exact ⟨false, by simp, (leadsTo_exchange leads).symm⟩
    · rintro draw _ ⟨first, asFirst, rfl⟩
      refine (RrLoop.performs_exchange marking _ draw _).mpr ?_
      exact progresses.imp (fun reads => ⟨reads.1, fun _ => reads.2 isFirst⟩) (fun all => all draw)

theorem everyRound_source (chunkSize : UInt32) (latencyUs : Option UInt32) (pooled : List UInt8) :
    EveryRound CanSuspend (iteration marking) (.source chunkSize latencyUs pooled) ↔
      0 < (latencyUs.getD 0).toNat ∨ 0 < chunkSize.toNat := by
  have performs : ∀ draw, (iteration marking draw (.source chunkSize latencyUs pooled)).Performs
      CanSuspend ↔ 0 < (latencyUs.getD 0).toNat ∨ 0 < chunkSize.toNat := by
    intro draw
    unfold iteration
    rw [performs_sleepFor, performs_andThen]
    simp [CanSuspend, length_sized]
  constructor
  · intro every
    exact (performs ⟨0, by norm_num⟩).mp (every.first _)
  · intro progresses
    apply of_invariant fun later => later = .source chunkSize latencyUs pooled
    · rfl
    · rintro draw _ next rfl leads
      obtain ⟨_, same⟩ := leadsTo_andThen (leadsTo_sleepFor leads)
      exact same.symm
    · rintro draw _ rfl
      exact (performs draw).mpr progresses

theorem everyRound_sink : EveryRound CanSuspend (iteration marking) (.sink : Loop β) := by
  apply of_invariant fun later => later = .sink
  · rfl
  · rintro draw _ next rfl leads
    obtain ⟨bytes, leads⟩ := leadsTo_andThen leads
    cases bytes with
    | nil => exact leads.elim
    | cons byte bytes => exact leads.symm
  · rintro draw _ rfl
    exact (performs_andThen _ _).mpr trivial

/-! ## All headers -/

/-- An answer awaits something for every draw: an injected error has to send a byte if
errors can be drawn, and a proper response has to sleep or send if they need not be. -/
def AlwaysAnswers (responseSize : UInt32) (latencyUs errorRate : Option UInt32) : Prop :=
  ((errorRate.getD 0).toNat = 0 ∨ 2 ≤ responseSize.toNat) ∧
    (10000 ≤ (errorRate.getD 0).toNat ∨ 0 < (latencyUs.getD 0).toNat ∨ 0 < responseSize.toNat)

/-- The condition on a header and on the bytes that came with it. -/
def Progresses (header : ParsedHeader) (leftover : List β) : Prop :=
  match header.mode with
  | .rr => (0 < header.requestSize.toNat ∧ leftover.length < header.requestSize.toNat) ∨
      AlwaysAnswers header.responseSize header.latencyUs header.errorRate
  | .bidir => (0 < header.requestSize.toNat ∧ leftover.length < header.requestSize.toNat) ∨
      0 < header.responseSize.toNat
  | .source => 0 < (header.latencyUs.getD 0).toNat ∨ 0 < header.responseSize.toNat
  | .sink => True
  | .crr => True

theorem injected_iff (errorRate : Option UInt32) (draw : Fin 10000) :
    injected errorRate draw = true ↔ draw.val < (errorRate.getD 0).toNat := by
  cases errorRate with
  | none | some rate => simp [injected]

theorem alwaysAnswers_iff (responseSize : UInt32) (latencyUs errorRate : Option UInt32) :
    (∀ draw, RrLoop.Answers responseSize latencyUs errorRate draw) ↔
      AlwaysAnswers responseSize latencyUs errorRate := by
  unfold RrLoop.Answers AlwaysAnswers
  simp only [injected_iff]
  constructor
  · intro answers
    -- the lowest draw decides whether an error can be drawn, the highest whether it must
    have lowest := answers ⟨0, by norm_num⟩
    have highest := answers ⟨9999, by norm_num⟩
    dsimp only at lowest highest
    split at lowest <;> split at highest <;> omega
  · rintro ⟨failing, proper⟩ draw
    have bound := draw.isLt
    split <;> omega

/-- Every iteration of the handler's loop can suspend exactly under `Progresses`. -/
theorem never_starves_iff (marking : Marking β) (header : ParsedHeader) (leftover : List β)
    (pooled : List UInt8) (draw : Fin 10000) :
    NeverStarves marking (dispatchProtocol marking header leftover pooled draw) ↔
      Progresses header leftover := by
  have entered : ∀ loop : Loop β, NeverStarves marking (.again loop) ↔
      EveryRound CanSuspend (iteration marking) loop := by
    intro loop
    constructor
    · intro never
      exact never loop rfl
    · rintro every _ rfl
      exact every
  unfold dispatchProtocol Progresses
  cases header.mode with
  | rr | bidir =>
    refine (entered _).trans ((everyRound_rr marking _ rfl).trans ?_)
    rw [alwaysAnswers_iff]
    simp [RrLoop.Reads, AlwaysAnswers]
  | source => exact (entered _).trans (everyRound_source marking _ _ _)
  | sink => exact iff_of_true ((entered _).mpr (everyRound_sink marking)) trivial
  | crr =>
    -- no loop at all
    refine iff_of_true ?_ trivial
    intro start leads
    exact (leadsTo_exchange leads).elim

/-- Ten bytes that ask for requests and responses of no bytes: the loop they start
awaits nothing. -/
theorem empty_exchange_starves :
    ∃ header, parseHeader [0xF0, 10, 0x01, 0, 0, 0, 0, 0, 0, 0] = some header ∧
      ∀ pooled draw, ¬ NeverStarves plain (dispatchProtocol plain header [] pooled draw) := by
  refine ⟨⟨.rr, 0, 0, none, none⟩, by decide, ?_⟩
  intro pooled draw never
  -- the very first iteration goes round without awaiting anything
  exact (never _ rfl).first draw

end Netanvil.TestServer
