/-
# What the server sends, and for which bytes

The bytes of a connection carry the request they belong to: a request's own bytes as the
client writes them, and a response's as `tagged` makes them. A `Contract` says what a server
owes for each request. It gives a protocol for the handler's awaits, whose states are the
`AnswerPhase`s. `handle_tcp_protocol` keeps one if the first bytes are a `rr` header and another
if they are no header; with responses of no bytes nothing is ever sent (`follows_mute`).
-/
import Netanvil.TestServer.Tcp

namespace Netanvil.TestServer

open Theory Tcp RrLoop List

/-- A byte, and the request it is part of or sent in answer to. -/
structure Byte where
  value : UInt8
  request : Option Nat
  deriving DecidableEq

def tagged : Marking Byte where
  value := Byte.value
  answer asked byte := ⟨byte, asked.getLast?.bind Byte.request⟩
  value_answer _ _ := rfl

/-! ## Contracts -/

structure Contract where
  /-- The bytes of the connection's first request. -/
  opens : List Byte → Prop
  /-- The bytes of a later one. -/
  continues : List Byte → Prop
  /-- With `taken` read of the request, `sent` may be what has been sent for it. -/
  answers : (unit taken sent : List Byte) → Prop
  complete : (unit sent : List Byte) → Prop
  answers_more : ∀ {unit taken more sent}, answers unit taken sent → taken ++ more <+: unit →
    answers unit (taken ++ more) sent
  answers_part : ∀ {unit taken sent part}, answers unit taken sent → part <+: sent →
    answers unit taken part
  answers_from : ∀ {unit taken sent}, taken <+: unit → answers unit taken sent →
    ∀ b ∈ sent, ∃ a ∈ unit, b.request = a.request
  complete_all : ∀ {unit taken sent}, taken <+: unit → answers unit taken sent →
    complete unit sent → taken = unit
  complete_nil : ∀ {unit}, complete unit [] → unit = []

/-- Where the server is: before the first request, between two, or within one. -/
inductive AnswerPhase where
  | fresh
  | between
  | within (unit taken sent : List Byte)

namespace Contract

variable (C : Contract)

/-- A read gets the first bytes of a request, or more of the one it is in. -/
inductive Takes : AnswerPhase → List Byte → AnswerPhase → Prop
  | opens {unit bytes : List Byte} (first : C.opens unit) (part : bytes <+: unit) :
      Takes .fresh bytes (.within unit bytes [])
  | continues {unit bytes : List Byte} (later : C.continues unit) (part : bytes <+: unit) :
      Takes .between bytes (.within unit bytes [])
  | more {unit taken sent bytes : List Byte} (part : taken ++ bytes <+: unit) :
      Takes (.within unit taken sent) bytes (.within unit (taken ++ bytes) sent)

/-- A complete answer ends the request. -/
inductive Sends : AnswerPhase → List Byte → AnswerPhase → Prop
  | part {unit taken sent bytes : List Byte} (more : ¬ C.complete unit (sent ++ bytes)) :
      Sends (.within unit taken sent) bytes (.within unit taken (sent ++ bytes))
  | whole {unit taken sent bytes : List Byte} (complete : C.complete unit (sent ++ bytes)) :
      Sends (.within unit taken sent) bytes .between

def maySend : AnswerPhase → List Byte → Prop
  | .within unit taken sent, bytes => C.answers unit taken (sent ++ bytes)
  | _, _ => False

def protocol : Protocol (Op Byte) (Option (List Byte)) AnswerPhase where
  allows phase op :=
    match op with
    | .writeAll bytes => C.maySend phase bytes
    | .readExact n => 0 < n
    | _ => True
  after phase op outcome next :=
    match op, outcome with
    | .sleep _, _ => next = phase
    -- after an error nothing is foreseen
    | _, none => True
    | .read, some bytes => bytes = [] ∨ C.Takes phase bytes next
    | .readExact n, some bytes => bytes.length = n ∧ C.Takes phase bytes next
    | .writeAll bytes, some _ => C.Sends phase bytes next

/-! ### How far a request has got -/

/-- The server is in a phase in which `taken` has been read of the request and `sent` been
sent for it. -/
inductive At : AnswerPhase → (unit taken sent : List Byte) → Prop
  | fresh {unit : List Byte} (first : C.opens unit) : At .fresh unit [] []
  | between {unit : List Byte} (later : C.continues unit) : At .between unit [] []
  | within {unit taken sent : List Byte} (part : taken <+: unit)
      (answers : sent = [] ∨ C.answers unit taken sent) (more : ¬ C.complete unit sent) :
      At (.within unit taken sent) unit taken sent
  | answered {unit sent : List Byte} (answers : C.answers unit unit sent)
      (complete : C.complete unit sent) : At .between unit unit sent

variable {C} {phase : AnswerPhase} {unit taken sent bytes out : List Byte}
  (place : C.At phase unit taken sent)
include place

theorem At.takes (some : bytes ≠ []) (part : taken ++ bytes <+: unit) :
    ∃ next, C.Takes phase bytes next ∧ C.At next unit (taken ++ bytes) sent := by
  have incomplete : ¬ C.complete unit [] := by
    intro complete
    obtain rfl := C.complete_nil complete
    exact some (append_eq_nil_iff.mp (prefix_nil.mp part)).2
  cases place with
  | fresh first => exact ⟨_, .opens first part, .within part (.inl rfl) incomplete⟩
  | between later => exact ⟨_, .continues later part, .within part (.inl rfl) incomplete⟩
  | within before answers more =>
    exact ⟨_, .more part, .within part (answers.imp id (C.answers_more · part)) more⟩
  | answered answers complete =>
    -- there is no more of the request
    have lengths := part.length_le
    rw [length_append] at lengths
    exact absurd (eq_nil_of_length_eq_zero (by omega)) some

/-- After a write, or a part of one. -/
theorem At.sends (may : C.maySend phase bytes) (part : out <+: bytes) :
    ∃ next, next ≠ .fresh ∧ C.At next unit taken (sent ++ out) ∧
      (out = bytes → C.Sends phase bytes next) := by
  cases place with
  | fresh first | between later | answered answers complete => exact may.elim
  | within before answers more =>
    have now := C.answers_part may ((prefix_append_right_inj sent).mpr part)
    by_cases complete : C.complete unit (sent ++ out)
    · obtain rfl := C.complete_all before now complete
      refine ⟨.between, by simp, .answered now complete, ?_⟩
      rintro rfl
      exact .whole complete
    · refine ⟨_, by simp, .within before (.inr now) complete, ?_⟩
      rintro rfl
      exact .part complete

theorem At.sent_from : ∀ b ∈ sent, ∃ a ∈ unit, b.request = a.request := by
  cases place with
  | fresh first | between later => simp
  | within part answers more =>
    rcases answers with rfl | answers
    · simp
    · exact C.answers_from part answers
  | answered answers complete => exact C.answers_from (prefix_refl _) answers

/-- With the answer complete the server is between two requests, or there was nothing to
read. -/
theorem At.of_complete (complete : C.complete unit sent) :
    taken = unit ∧ (phase = .between ∨ phase = .fresh ∧ unit = []) := by
  cases place with
  | fresh first =>
    obtain rfl := C.complete_nil complete
    exact ⟨rfl, .inr ⟨rfl, rfl⟩⟩
  | between later =>
    obtain rfl := C.complete_nil complete
    exact ⟨rfl, .inl rfl⟩
  | within part answers more => exact absurd complete more
  | answered answers _ => exact ⟨rfl, .inl rfl⟩

end Contract

/-! ## Following a protocol -/

section

variable {γ : Type} {p : Protocol (Op Byte) (Option (List Byte)) γ} {ready : Loop Byte → γ → Prop}
  {state : γ}

theorem follows_andThen {op : Op Byte} {next : List Byte → Handler Byte}
    (allowed : p.allows state op)
    (goesOn : ∀ bytes after, p.after state op (some bytes) after →
      (next bytes).Follows p ready after) :
    (Handler.andThen op next).Follows p ready state := by
  refine ⟨allowed, ?_⟩
  intro outcome after foreseen
  cases outcome with
  | none => trivial
  | some bytes => exact goesOn bytes after foreseen

theorem follows_sleepFor {next : Handler Byte} (latencyUs : Option UInt32)
    (allowed : ∀ us, p.allows state (.sleep us))
    (still : ∀ us outcome after, p.after state (.sleep us) outcome after → after = state)
    (follows : next.Follows p ready state) : (sleepFor latencyUs next).Follows p ready state := by
  cases latencyUs with
  | none => exact follows
  | some us =>
    refine ⟨allowed _, ?_⟩
    intro outcome after foreseen
    obtain rfl := still _ _ _ foreseen
    exact follows

variable {pooled : List UInt8} {draw : Fin 10000} (Got : γ → List Byte → Prop) {rest : List Byte}
  {first : Byte}

/-- Detection reads on until it knows: `Got` relates the protocol's state to the bytes it
has, which it then echoes or takes for a header. -/
theorem follows_detect (mayRead : ∀ {state n}, 0 < n → p.allows state (.readExact n))
    (reads : ∀ {state got n bytes after}, Got state got →
      p.after state (.readExact n) (some bytes) after →
      bytes.length = n ∧ Got after (got ++ bytes))
    (echo : ∀ {state first rest}, Got state (first :: rest) →
      (isProtocolSentinel first.value = true →
        ∃ second more, rest = second :: more ∧ second.value.toNat < headerMin) →
      (echoBack (first :: rest)).Follows p ready state)
    (header : ∀ {state first second rest}, Got state (first :: second :: rest) →
      isProtocolSentinel first.value = true → headerMin ≤ second.value.toNat →
      second.value.toNat ≤ (first :: second :: rest).length →
      (parsed tagged pooled draw second.value.toNat (first :: second :: rest)).Follows p ready
        state)
    (got : Got state (first :: rest)) :
    (detect tagged pooled draw (first :: rest)).Follows p ready state := by
  have two : ∀ {state second rest}, Got state (first :: second :: rest) →
      isProtocolSentinel first.value = true →
      (sentinelSeen tagged pooled draw (first :: second :: rest)).Follows p ready state := by
    intro state second rest got sentinel
    simp only [sentinelSeen]
    split
    · rename_i short
      exact echo got fun _ => ⟨second, rest, rfl, short⟩
    · rename_i long
      unfold readHeaderBytes
      split
      · rename_i missing
        refine follows_andThen (mayRead (Nat.sub_pos_of_lt missing)) ?_
        intro bytes after foreseen
        obtain ⟨length, got⟩ := reads got foreseen
        refine header got sentinel (Nat.le_of_not_lt long) ?_
        simp only [append_eq, length_cons, length_append, tagged] at missing length ⊢
        omega
      · rename_i there
        exact header got sentinel (Nat.le_of_not_lt long) (Nat.le_of_not_lt there)
  simp only [detect]
  split
  · rename_i sentinel
    cases rest with
    | nil =>
      refine follows_andThen (mayRead Nat.one_pos) ?_
      intro bytes after foreseen
      obtain ⟨length, got⟩ := reads got foreseen
      obtain ⟨second, rfl⟩ := length_eq_one_iff.mp length
      exact two got sentinel
    | cons second rest => exact two got sentinel
  · rename_i plainText
    exact echo got fun sentinel => absurd sentinel plainText

/-- Detection of a stream led by the header of a `rr` request. -/
theorem follows_detect_rr (spec : TcpRequestSpec) (headed : spec.mode ≠ .echo)
    (rr : spec.mode = .rr) (mayRead : ∀ {state n}, 0 < n → p.allows state (.readExact n))
    (reads : ∀ {state got n bytes after}, Got state got →
      p.after state (.readExact n) (some bytes) after →
      bytes.length = n ∧ Got after (got ++ bytes))
    (led : ∀ {state got}, Got state got →
      ∃ later, encodeHeader spec headed <+: got.map Byte.value ++ later)
    (enters : ∀ {state got}, Got state got → (encodeHeader spec headed).length ≤ got.length →
      ready (.rr ⟨spec.requestSize, spec.responseSize, spec.latencyUs, spec.errorRate,
        got.drop (encodeHeader spec headed).length, true, pooled⟩) state)
    (got : Got state (first :: rest)) :
    (detect tagged pooled draw (first :: rest)).Follows p ready state := by
  obtain ⟨len, tail, shape, length, long⟩ := encodeHeader_shape spec headed
  have sentinel : isProtocolSentinel 0xF0 = true := by decide
  refine follows_detect Got mayRead reads ?_ ?_ got
  · -- the first byte is the sentinel, and the second is long enough
    intro state first rest got cause
    obtain ⟨later, front⟩ := led got
    rw [shape, map_cons, cons_append, cons_prefix_cons] at front
    obtain ⟨second, more, rfl, short⟩ := cause (front.1 ▸ sentinel)
    rw [map_cons, cons_append, cons_prefix_cons] at front
    rw [← front.2.1] at short
    omega
  · intro state first second rest got _ _ there
    obtain ⟨later, front⟩ := led got
    have announces : second.value.toNat = (encodeHeader spec headed).length := by
      rw [shape, map_cons, map_cons, cons_append, cons_append,
        cons_prefix_cons, cons_prefix_cons] at front
      rw [← front.2.1, length]
    rw [announces] at there ⊢
    have taken : ((first :: second :: rest).take (encodeHeader spec headed).length).map
        tagged.value = encodeHeader spec headed := by
      have cut := prefix_iff_eq_take.mp front
      rw [take_append_of_le_length (by simpa using there)] at cut
      rw [map_take]
      exact cut.symm
    have mode : (announced spec headed).mode = .rr := by
      unfold announced Mode.ofTest
      split <;> simp_all
    unfold parsed
    rw [taken, parseHeader_encodeHeader]
    simp only [dispatchProtocol, mode]
    exact enters got there

end

/-! ## Requests and responses -/

section

/-- Requests of `q` bytes, the first behind a header, and responses of `r` bytes, sent when
all of the request has been read. -/
def rrContract (header : List UInt8) (q r : Nat) (positive : 0 < r) : Contract where
  opens unit := ∃ front payload : List Byte, unit = front ++ payload ∧
    front.map Byte.value = header ∧ payload.length = q
  continues unit := unit.length = q
  answers unit taken sent := taken = unit ∧ sent.length ≤ r ∧
    ∀ b ∈ sent, ∃ a ∈ unit, b.request = a.request
  complete _ sent := sent.length = r
  answers_more := by
    rintro unit taken more sent ⟨rfl, short, from_⟩ part
    have nothing : more = [] := by
      have lengths := part.length_le
      rw [length_append] at lengths
      exact eq_nil_of_length_eq_zero (by omega)
    rw [nothing, append_nil]
    exact ⟨rfl, short, from_⟩
  answers_part := by
    rintro unit taken sent part ⟨all, short, from_⟩ begins
    exact ⟨all, Nat.le_trans begins.length_le short, fun b mem => from_ b (begins.subset mem)⟩
  answers_from _ answered := answered.2.2
  complete_all _ answered _ := answered.1
  complete_nil complete := absurd complete (Nat.ne_of_lt positive)

/-- The loop goes round between two requests, or for the first time with some of the first
request already there. -/
def rrReady (q r : Nat) : Loop Byte → AnswerPhase → Prop
  | .rr loop, phase => loop.requestSize.toNat = q ∧ loop.responseSize.toNat = r ∧
      match phase with
      | .fresh => False
      | .between => loop.first = false
      | .within unit taken sent => loop.first = true ∧ sent = [] ∧ taken <+: unit ∧
          ∃ front, taken = front ++ loop.leftover ∧ unit.length = front.length + q
  | _, _ => False

variable {header : List UInt8} {q r missing : Nat} {positive : 0 < r} {loop : RrLoop Byte}

theorem follows_reply {draw : Fin 10000} {next : Handler Byte} {unit asked : List Byte}
    (size : loop.responseSize.toNat = r) (some : asked ≠ []) (inside : asked ⊆ unit)
    (goesOn : next.Follows (rrContract header q r positive).protocol (rrReady q r) .between) :
    (loop.reply tagged draw next asked).Follows (rrContract header q r positive).protocol
      (rrReady q r) (.within unit unit []) := by
  have answers : ∀ bytes : List UInt8, bytes.length ≤ r →
      (rrContract header q r positive).maySend (.within unit unit [])
        (bytes.map (tagged.answer asked)) := by
    intro bytes short
    refine ⟨rfl, by simpa using short, ?_⟩
    intro b mem
    obtain ⟨byte, -, rfl⟩ := mem_map.mp mem
    refine ⟨asked.getLast some, inside (getLast_mem some), ?_⟩
    simp only [tagged, List.getLast?_eq_some_getLast some, Option.bind_some]
  unfold reply
  split
  · unfold failWith
    split
    · refine ⟨answers _ ?_, fun _ _ _ => trivial⟩
      rw [length_replicate, size]
      omega
    · trivial
  · refine follows_sleepFor _ (fun _ => trivial) (fun _ _ _ still => still) ?_
    unfold respond
    rw [if_pos (size ▸ positive)]
    refine follows_andThen (answers _ (by rw [length_sized, size])) ?_
    intro bytes after sends
    -- the response is complete
    cases sends with
    | part more =>
      refine absurd ?_ more
      simp only [rrContract, nil_append, length_map, length_sized, size]
    | whole complete => exact goesOn

/-- With `had` there of the first request, the read of what is missing completes it. -/
theorem follows_rest {front had unit : List Byte} {next : List Byte → Handler Byte}
    (whole : unit.length = front.length + had.length + missing) (positive' : 0 < missing)
    (goesOn : ∀ {asked}, asked ≠ [] → asked ⊆ unit →
      (next asked).Follows (rrContract header q r positive).protocol (rrReady q r)
        (.within unit unit [])) :
    (Handler.andThen (.readExact missing) fun bytes => next (had ++ bytes)).Follows
      (rrContract header q r positive).protocol (rrReady q r) (.within unit (front ++ had) []) := by
  refine follows_andThen positive' ?_
  rintro bytes after ⟨length, takes⟩
  cases takes with
  | more part =>
    have all : front ++ had ++ bytes = unit := by
      refine part.eq_of_length ?_
      rw [length_append, length_append, length, whole]
    have some : bytes ≠ [] := ne_nil_of_length_pos (length ▸ positive')
    rw [all]
    refine goesOn (append_ne_nil_of_right_ne_nil had some) ?_
    rw [← all, append_assoc]
    exact subset_append_right _ _

/-- What follows the request is reached with all of it read. -/
theorem follows_readRequest {phase : AnswerPhase}
    {next : List Byte → Handler Byte} (nonempty : 0 < q) (ready : rrReady q r (.rr loop) phase)
    (goesOn : ∀ {unit asked}, asked ≠ [] → asked ⊆ unit →
      (next asked).Follows (rrContract header q r positive).protocol (rrReady q r)
        (.within unit unit [])) :
    (loop.readRequest next).Follows (rrContract header q r positive).protocol (rrReady q r)
      phase := by
  obtain ⟨requests, -, place⟩ := ready
  unfold readRequest
  rw [requests, if_pos nonempty]
  cases phase with
  | fresh => exact place.elim
  | between =>
    have notFirst : loop.first = false := place
    rw [if_neg (by simp [notFirst])]
    refine follows_andThen nonempty ?_
    rintro bytes after ⟨length, takes⟩
    cases takes with
    | continues later part =>
      obtain rfl := part.eq_of_length (length.trans later.symm)
      exact goesOn (ne_nil_of_length_pos (length ▸ nonempty)) (.refl _)
  | within unit taken sent =>
    obtain ⟨first, rfl, begun, front, rfl, whole⟩ := place
    have fits := begun.length_le
    rw [length_append] at fits
    by_cases early : (loop.first && !loop.leftover.isEmpty) = true
    · have some : loop.leftover ≠ [] := by simpa [first] using early
      rw [if_pos early]
      split
      · rename_i short
        exact follows_rest (by omega) (Nat.sub_pos_of_lt short) goesOn
      · rename_i there
        -- the whole request came with the header
        have all : front ++ loop.leftover = unit := by
          refine begun.eq_of_length ?_
          rw [length_append]
          omega
        rw [all, take_of_length_le (by omega)]
        refine goesOn some ?_
        rw [← all]
        exact subset_append_right _ _
    · have none : loop.leftover = [] := by simpa [first] using early
      rw [if_neg early, none]
      exact follows_rest (by rw [whole, length_nil]; rfl) nonempty goesOn

/-- One iteration, from wherever the loop can go round. -/
theorem follows_exchange {phase : AnswerPhase} {loop : Loop Byte} (nonempty : 0 < q)
    (ready : rrReady q r loop phase) (draw : Fin 10000) :
    (iteration tagged draw loop).Follows (rrContract header q r positive).protocol (rrReady q r)
      phase := by
  cases loop with
  | rr loop =>
    refine follows_readRequest nonempty ready fun some inside => ?_
    exact follows_reply ready.2.1 some inside ⟨ready.1, ready.2.1, rfl⟩
  | sink | source chunkSize latencyUs pooled | echo => exact ready.elim

/-- A connection that starts with the header of a `rr` request. -/
theorem follows_rr {spec : TcpRequestSpec} (rr : spec.mode = .rr) (headed : spec.mode ≠ .echo)
    (positive : 0 < spec.responseSize.toNat) (pooled : List UInt8) (draw : Fin 10000) :
    (handleTcpProtocol tagged pooled draw).Follows
      (rrContract (encodeHeader spec headed) spec.requestSize.toNat spec.responseSize.toNat
        positive).protocol
      (rrReady spec.requestSize.toNat spec.responseSize.toNat) .fresh := by
  refine follows_andThen trivial ?_
  intro bytes after foreseen
  cases bytes with
  | nil => trivial
  | cons first rest =>
    rcases foreseen with nothing | takes
    · cases nothing
    · cases takes with
      | @opens unit _ opens part =>
        refine follows_detect_rr (fun phase got => phase = .within unit got [] ∧ got <+: unit)
          spec headed rr id ?_ ?_ ?_ ⟨rfl, part⟩
        · rintro _ got n bytes after ⟨rfl, begun⟩ ⟨length, takes⟩
          cases takes with
          | more part => exact ⟨length, rfl, part⟩
        · rintro _ got ⟨rfl, later, rfl⟩
          obtain ⟨front, payload, split, header, -⟩ := opens
          refine ⟨later.map Byte.value, payload.map Byte.value, ?_⟩
          rw [← header, ← map_append, ← map_append, split]
        · rintro _ got ⟨rfl, begun⟩ there
          obtain ⟨front, payload, rfl, header, length⟩ := opens
          have frontLength : (encodeHeader spec headed).length = front.length := by
            rw [← header, length_map]
          rw [frontLength] at there ⊢
          refine ⟨rfl, rfl, rfl, rfl, begun, front, ?_, ?_⟩
          · have cut : front <+: got :=
              prefix_of_prefix_length_le (prefix_append _ _) begun there
            rw [← prefix_iff_eq_append.mp cut]
            simp
          · rw [length_append, length]

end

/-! ## Echo -/

/-- The server takes the bytes for no header. -/
def Unannounced (frame : List UInt8) : Prop :=
  parseHeader (frame.take (frame.getD 1 0).toNat) = none

/-- What is read is sent back. -/
def echoContract : Contract where
  opens unit := Unannounced (unit.map Byte.value)
  continues _ := True
  answers _ taken sent := sent <+: taken
  complete unit sent := sent = unit
  answers_more answered _ := answered.trans (prefix_append _ _)
  answers_part answered begins := begins.trans answered
  answers_from part answered b mem := ⟨b, part.subset (answered.subset mem), rfl⟩
  complete_all := by
    rintro unit taken sent part answered rfl
    exact part.eq_of_length (Nat.le_antisymm part.length_le answered.length_le)
  complete_nil complete := complete.symm

/-- All that was read has been sent back. -/
def echoReady : Loop Byte → AnswerPhase → Prop
  | .echo, .fresh => False
  | .echo, .between => True
  | .echo, .within _ taken sent => sent = taken
  | _, _ => False

theorem follows_echoBack (unit sent held : List Byte) :
    (echoBack held).Follows echoContract.protocol echoReady
      (.within unit (sent ++ held) sent) := by
  refine follows_andThen (prefix_refl _) ?_
  intro bytes after sends
  cases sends with
  | part more => exact rfl
  | whole complete => trivial

/-! ## No response at all -/

/-- Some of the header is read, or the last of it and what follows. -/
def HeaderTaken (left : List UInt8) (bytes : List Byte) (next : List UInt8) : Prop :=
  left = bytes.map Byte.value ++ next ∨ (left <+: bytes.map Byte.value ∧ next = [])

/-- Nothing may be sent; the state is what is left to read of the header. -/
def muteProtocol : Protocol (Op Byte) (Option (List Byte)) (List UInt8) where
  allows _ op :=
    match op with
    | .writeAll _ => False
    | _ => True
  after left op outcome next :=
    match op, outcome with
    | .sleep _, _ => next = left
    | _, none => True
    | .read, some bytes => bytes = [] ∨ HeaderTaken left bytes next
    | .readExact n, some bytes => bytes.length = n ∧ HeaderTaken left bytes next
    | .writeAll _, some _ => False

def muteReady : Loop Byte → List UInt8 → Prop
  | .rr loop, _ => loop.responseSize.toNat = 0
  | _, _ => False

variable {left : List UInt8}

theorem follows_mute_iteration {loop : Loop Byte} (ready : muteReady loop left) (draw : Fin 10000) :
    (iteration tagged draw loop).Follows muteProtocol muteReady left := by
  cases loop with
  | rr loop =>
    have silent : loop.responseSize.toNat = 0 := ready
    have reply : ∀ asked left,
        (loop.reply tagged draw (.again (.rr { loop with first := false })) asked).Follows
          muteProtocol muteReady left := by
      intro asked left
      simp only [reply, failWith, respond, silent, Nat.zero_div, Nat.lt_irrefl, if_false]
      split
      · trivial
      · exact follows_sleepFor _ (fun _ => trivial) (fun _ _ _ still => still) silent
    simp only [iteration, exchange, readRequest]
    split
    · split
      · split
        · exact follows_andThen trivial fun _ _ _ => reply _ _
        · exact reply _ _
      · exact follows_andThen trivial fun _ _ _ => reply _ _
    · exact reply _ _
  | sink | source chunkSize latencyUs pooled | echo => exact ready.elim

theorem headerTaken_led {header next : List UInt8} {got bytes : List Byte}
    (led : header <+: got.map Byte.value ++ left) (taken : HeaderTaken left bytes next) :
    header <+: (got ++ bytes).map Byte.value ++ next := by
  rw [map_append]
  rcases taken with rfl | ⟨part, rfl⟩
  · rwa [append_assoc]
  · rw [append_nil]
    exact led.trans ((prefix_append_right_inj _).mpr part)

/-- A connection that starts with the header of a `rr` request for empty responses. -/
theorem follows_mute {spec : TcpRequestSpec} (rr : spec.mode = .rr) (headed : spec.mode ≠ .echo)
    (silent : spec.responseSize.toNat = 0) (pooled : List UInt8) (draw : Fin 10000) :
    (handleTcpProtocol tagged pooled draw).Follows muteProtocol muteReady
      (encodeHeader spec headed) := by
  refine follows_andThen trivial ?_
  intro bytes after foreseen
  cases bytes with
  | nil => trivial
  | cons first rest =>
    rcases foreseen with nothing | taken
    · cases nothing
    · refine follows_detect_rr
        (fun left got => encodeHeader spec headed <+: got.map Byte.value ++ left) spec headed rr
        (fun _ => trivial) ?_ ?_ ?_ ?_
      · rintro left got n bytes after led ⟨length, taken⟩
        exact ⟨length, headerTaken_led led taken⟩
      · intro left got led
        exact ⟨left, led⟩
      · intro left got led there
        exact silent
      · have start : encodeHeader spec headed <+:
            ([] : List Byte).map Byte.value ++ encodeHeader spec headed := prefix_refl _
        exact headerTaken_led start taken

end Netanvil.TestServer
