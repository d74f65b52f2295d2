/-
# Requests that are written, answered and read, one after the other

A `Dialogue` is a contract of the server with what the client does for it: a request writes
its bytes and then reads, once. `Stands` is where a connection can be on which every request
keeps to the dialogue. Every event keeps it, as long as a read that finishes finds the answer
complete, or the server gone.
-/
import Netanvil.Tcp.Link

namespace Netanvil.Tcp

open Theory TestServer List Link Prod Reader

/-! ## Reading where nothing is -/

theorem exactly_nil {n total total' : Nat} {data left : List Byte}
    (finished : exactly n total [] = .done data total' left) : data = [] ∧ left = [] := by
  unfold exactly at finished
  split at finished
  · cases finished
  · cases finished
    exact ⟨take_nil, drop_nil⟩

theorem reader_nil {op : IoOp} {closed : Bool} {count total : Nat} {data left : List Byte}
    (finished : op.reader closed count 0 [] = .done data total left) : data = [] ∧ left = [] := by
  cases op with
  | write context bytes =>
    cases finished
    exact ⟨rfl, rfl⟩
  | readExact length reported => exact exactly_nil finished
  | readFramed framing maxBytes =>
    cases framing with
    | raw =>
      simp only [IoOp.reader, readFramed, readRaw] at finished
      split at finished
      · cases finished
        exact ⟨rfl, rfl⟩
      · split at finished
        · cases finished
          exact ⟨take_nil, drop_nil⟩
        · cases finished
    | delimiter delim =>
      simp only [IoOp.reader, readFramed, readUntilDelimiter] at finished
      split at finished
      · cases finished
      · unfold untilDelimiter at finished
        split at finished <;> cases finished
    | lengthPrefixed width =>
      obtain ⟨header, read, rest, taken, finished⟩ := andThen_done finished
      obtain ⟨-, rfl⟩ := exactly_nil taken
      cases announced : payloadLen width (header.map Byte.value) with
      | none =>
        simp only [readPayload, announced] at finished
        cases finished
      | some length =>
        simp only [readPayload, announced] at finished
        split at finished
        · cases finished
        · exact exactly_nil finished
    | fixedSize size => exact exactly_nil finished

/-! ## Dialogues -/

structure Dialogue where
  contract : Contract
  ready : Loop Byte → AnswerPhase → Prop
  rounds : ∀ {loop phase}, ready loop phase → ∀ draw,
    (iteration tagged draw loop).Follows contract.protocol ready phase
  /-- What a request reads when it has been written. -/
  final : TcpRequestSpec → IoOp
  final_reads : ∀ spec, (final spec).written = []
  /-- What is known of a request and its bytes. -/
  suits : TcpRequestSpec → List Byte → Prop

def writes (ws : List (String × List UInt8)) : List IoOp := ws.map fun w => .write w.1 w.2

variable (ws : List (String × List UInt8))

theorem written_writes (plan : List IoOp) :
    written (writes ws ++ plan) = ws.flatMap snd ++ written plan := by
  simp only [written, writes, flatMap_append, flatMap_map, IoOp.written]

theorem writes_cons (final : IoOp) : ∃ op rest, op :: rest = writes ws ++ [final] := by
  cases ws with
  | nil | cons w ws => exact ⟨_, _, rfl⟩

theorem ofRequest_append (k : Nat) (bytes more : List UInt8) :
    ofRequest k (bytes ++ more) = ofRequest k bytes ++ ofRequest k more := map_append

namespace Dialogue

variable (D : Dialogue)

def Follows (server : Handler Byte) (phase : AnswerPhase) : Prop :=
  Routine.Follows D.contract.protocol D.ready server phase

/-- Where a connection is. `resting`: no request is on it and nothing on the way.
`asking`: of the request's bytes, `taken` has been read by the server and `ws` is still to
be written. `left`: it was dropped before its request had its answer. `closed`: the
server has returned, and nothing of what it sent is left. -/
inductive Stands (link : Link) : Prop
  | closed (stopped : link.server = .stop) (noAnswer : link.toClient = [])
  | resting (phase : AnswerPhase) (follows : D.Follows link.server phase)
      (free : link.client = .idle ∨ link.client = .gone)
      (place : phase = .fresh ∨ phase = .between) (opened : link.opened = true ↔ phase ≠ .fresh)
      (noRequest : link.toServer = []) (noAnswer : link.toClient = [])
  | asking (phase : AnswerPhase) (unit taken : List Byte) (spec : TcpRequestSpec) (op : IoOp)
      (rest : List IoOp) (ws : List (String × List UInt8)) (follows : D.Follows link.server phase)
      (busy : link.client = .busy spec op rest) (plan : op :: rest = writes ws ++ [D.final spec])
      (place : D.contract.At phase unit taken link.toClient)
      (opened : link.opened = true ↔ phase ≠ .fresh ∨ unit ≠ [])
      (whole : taken ++ link.toServer ++ ofRequest link.responses.length (ws.flatMap snd) = unit)
      (own : ∀ b ∈ unit, b.request = some link.responses.length) (suits : D.suits spec unit)
  | left (phase : AnswerPhase) (unit taken : List Byte) (follows : D.Follows link.server phase)
      (gone : link.client = .gone) (place : D.contract.At phase unit taken link.toClient)
      (part : taken ++ link.toServer <+: unit)
      (own : ∀ b ∈ unit, b.request = some link.responses.length)

variable {D} {link link' next : Link} {draw : Fin 10000}

theorem Stands.synced (stands : D.Stands link) (attributed : link.Attributed) : link.Synced := by
  refine ⟨?_, attributed⟩
  intro b mem k completed
  have current : ∀ {phase unit taken}, D.contract.At phase unit taken link.toClient →
      (∀ a ∈ unit, a.request = some link.responses.length) → b.request ≠ some k := by
    intro phase unit taken place own
    obtain ⟨a, inside, same⟩ := place.sent_from b mem
    rw [same, own a inside]
    intro earlier
    exact absurd (Option.some.inj earlier) (Nat.ne_of_gt completed)
  cases stands with
  | closed stopped noAnswer | resting _ _ _ _ _ _ noAnswer => simp [noAnswer] at mem
  | asking _ _ _ _ _ _ _ _ _ _ place _ _ own _ | left _ _ _ _ _ place _ own =>
    exact current place own

/-! ## The server's steps -/

section

variable {phase : AnswerPhase} {unit taken sent bytes later : List Byte}

/-- A read of bytes that belong to the request. -/
theorem reads_on {op : Op Byte} {resume : Option (List Byte) → Handler Byte}
    (follows : D.Follows (.await op resume) phase)
    (place : D.contract.At phase unit taken sent) (part : taken ++ (bytes ++ later) <+: unit)
    (proper : bytes ≠ [])
    (foreseen : ∀ {next}, D.contract.Takes phase bytes next →
      D.contract.protocol.after phase op (some bytes) next) :
    ∃ next, D.Follows (resume (some bytes)) next ∧
      D.contract.At next unit (taken ++ bytes) sent ∧
      (phase ≠ .fresh ∨ unit ≠ [] ↔ next ≠ .fresh ∨ unit ≠ []) := by
  have begun : taken ++ bytes <+: unit := by
    rw [← append_assoc] at part
    exact (prefix_append _ _).trans part
  have some : unit ≠ [] := by
    rintro rfl
    exact proper (append_eq_nil_iff.mp (prefix_nil.mp begun)).2
  obtain ⟨next, takes, there⟩ := place.takes proper begun
  exact ⟨next, follows.2 _ _ (foreseen takes), there, iff_of_true (.inr some) (.inr some)⟩

/-- Within a request: the server takes bytes from the stream or adds some, and all else
stays as it is. -/
theorem serve_within (follows : D.Follows link.server phase)
    (place : D.contract.At phase unit taken link.toClient)
    (part : taken ++ link.toServer <+: unit) (served : link.Served draw link') :
    ∃ server toServer toClient next taken',
      link' = { link with server := server, toServer := toServer, toClient := toClient } ∧
      D.Follows server next ∧ D.contract.At next unit taken' toClient ∧
      taken' ++ toServer = taken ++ link.toServer ∧
      (phase ≠ .fresh ∨ unit ≠ [] ↔ next ≠ .fresh ∨ unit ≠ []) := by
  cases served with
  | again now | ended now | sleep now =>
    rw [now] at follows
    refine ⟨_, _, _, phase, taken, rfl, ?_, place, rfl, Iff.rfl⟩
    first
    | exact D.rounds follows draw
    | exact follows.2 (some []) phase (.inl rfl)
    | exact follows.2 _ phase rfl
  | read now cut proper =>
    rw [now] at follows
    rw [cut] at part ⊢
    obtain ⟨next, goesOn, there, fresh⟩ := reads_on follows place part proper .inr
    exact ⟨_, _, _, next, _, rfl, goesOn, there, append_assoc _ _ _, fresh⟩
  | readExact now cut full =>
    rw [now] at follows
    rw [cut] at part ⊢
    have proper := ne_nil_of_length_pos (full ▸ follows.1)
    obtain ⟨next, goesOn, there, fresh⟩ := reads_on follows place part proper fun takes =>
      ⟨full, takes⟩
    exact ⟨_, _, _, next, _, rfl, goesOn, there, append_assoc _ _ _, fresh⟩
  | @writeAll bytes resume now =>
    rw [now] at follows
    obtain ⟨next, after, there, sends⟩ := place.sends follows.1 (prefix_refl bytes)
    have before : phase ≠ .fresh := by
      rintro rfl
      exact follows.1
    exact ⟨_, _, _, next, taken, rfl, follows.2 _ _ (sends rfl), there, rfl,
      iff_of_true (.inl before) (.inl after)⟩

theorem fail_within (follows : D.Follows link.server phase)
    (place : D.contract.At phase unit taken link.toClient) (failed : link.Failed link') :
    ∃ server toClient next, link' = { link with server := server, toClient := toClient } ∧
      D.Follows server next ∧ D.contract.At next unit taken toClient ∧
      (phase ≠ .fresh ↔ next ≠ .fresh) := by
  cases failed with
  | read now | readExact now =>
    rw [now] at follows
    exact ⟨_, _, phase, rfl, follows.2 none phase trivial, place, Iff.rfl⟩
  | writeAll now part =>
    rw [now] at follows
    obtain ⟨next, after, there, -⟩ := place.sends follows.1 part
    have before : phase ≠ .fresh := by
      rintro rfl
      exact follows.1
    exact ⟨_, _, next, rfl, follows.2 none next trivial, there, iff_of_true before after⟩

end

/-! ## Every step -/

variable (D) in
/-- The connection stands well, and every response so far is its request's own. -/
def InStep (link : Link) : Prop := D.Stands link ∧ link.Attributed

theorem InStep.serve (inStep : D.InStep link)
    (served : link.Served draw link') : D.InStep link' := by
  obtain ⟨stands, attributed⟩ := inStep
  cases stands with
  | closed stopped noAnswer => cases served <;> simp_all
  | resting phase follows free place opened noRequest noAnswer =>
    -- there is nothing to read, and nothing may be sent
    have nothing : ∀ {bytes later : List Byte}, link.toServer = bytes ++ later → bytes = [] := by
      intro bytes later cut
      rw [noRequest] at cut
      exact (append_eq_nil_iff.mp cut.symm).1
    cases served with
    | again now | ended now | sleep now =>
      rw [now] at follows
      refine ⟨.resting phase ?_ free place opened noRequest noAnswer, attributed⟩
      first
      | exact D.rounds follows _
      | exact follows.2 (some []) phase (.inl rfl)
      | exact follows.2 _ phase rfl
    | read now cut proper => exact absurd (nothing cut) proper
    | readExact now cut full =>
      rw [now] at follows
      have positive := follows.1
      rw [nothing cut] at full
      exact absurd full (Nat.ne_of_lt positive)
    | writeAll now =>
      rw [now] at follows
      rcases place with rfl | rfl <;> exact follows.1.elim
  | asking phase unit taken spec op rest ws follows busy plan place opened whole own suits =>
    obtain ⟨server, toServer, toClient, next, taken', rfl, goesOn, there, same, fresh⟩ :=
      serve_within follows place ⟨_, whole⟩ served
    rw [← same] at whole
    exact ⟨.asking next unit taken' spec op rest ws goesOn busy plan there (opened.trans fresh)
      whole own suits, attributed⟩
  | left phase unit taken follows gone place part own =>
    obtain ⟨server, toServer, toClient, next, taken', rfl, goesOn, there, same, -⟩ :=
      serve_within follows place part served
    rw [← same] at part
    exact ⟨.left next unit taken' goesOn gone there part own, attributed⟩

theorem InStep.fail (inStep : D.InStep link) (failed : link.Failed link') : D.InStep link' := by
  obtain ⟨stands, attributed⟩ := inStep
  cases stands with
  | closed stopped noAnswer => cases failed <;> simp_all
  | resting phase follows free place opened noRequest noAnswer =>
    cases failed with
    | read now | readExact now =>
      rw [now] at follows
      exact ⟨.resting phase (follows.2 none phase trivial) free place opened noRequest noAnswer,
        attributed⟩
    | writeAll now part =>
      rw [now] at follows
      rcases place with rfl | rfl <;> exact follows.1.elim
  | asking phase unit taken spec op rest ws follows busy plan place opened whole own suits =>
    obtain ⟨server, toClient, next, rfl, goesOn, there, fresh⟩ := fail_within follows place failed
    exact ⟨.asking next unit taken spec op rest ws goesOn busy plan there
      (opened.trans (or_congr_left fresh)) whole own suits, attributed⟩
  | left phase unit taken follows gone place part own =>
    obtain ⟨server, toClient, next, rfl, goesOn, there, -⟩ := fail_within follows place failed
    exact ⟨.left next unit taken goesOn gone there part own, attributed⟩

variable {spec : TcpRequestSpec} {rest : List IoOp} {keep : Bool}

/-- The request is given up. -/
theorem InStep.drop {op : IoOp} (count : Nat) (inStep : D.InStep link)
    (busy : link.client = .busy spec op rest) :
    D.InStep { link.send (op.written.take count) with client := .gone } := by
  obtain ⟨stands, attributed⟩ := inStep
  refine ⟨?_, attributed⟩
  cases stands with
  | closed stopped noAnswer => exact .closed stopped noAnswer
  | resting phase follows free place opened noRequest noAnswer => simp [busy] at free
  | left phase unit taken follows gone place part own => simp [busy] at gone
  | asking phase unit taken spec' op' rest' ws follows busy' plan place opened whole own suits =>
    rw [busy] at busy'
    cases busy'
    refine .left phase unit taken follows rfl place ?_ own
    -- what gets on its way is the start of what was still to be written
    have begins : op.written.take count <+: ws.flatMap snd := by
      cases ws with
      | nil =>
        obtain ⟨rfl, -⟩ := cons.inj plan
        rw [D.final_reads, take_nil]
        exact nil_prefix
      | cons w ws =>
        obtain ⟨rfl, -⟩ := cons.inj plan
        exact (List.take_prefix _ _).trans (prefix_append _ _)
    obtain ⟨more, begins⟩ := begins
    refine ⟨ofRequest link.responses.length more, ?_⟩
    rw [← whole, ← begins, ofRequest_append]
    simp only [send, append_assoc]

theorem attributed_append {data : List Byte} (attributed : link.Attributed)
    (own : ∀ b ∈ data, b.request = some link.responses.length)
    (responses : next.responses = link.responses ++ [data]) : next.Attributed := by
  intro k response there
  rw [responses, getElem?_append] at there
  split at there
  · exact attributed k response there
  · obtain ⟨last, rfl⟩ : k - link.responses.length = 0 ∧ data = response := by
      simpa [getElem?_singleton] using there
    intro b mem
    rw [own b mem]
    congr 1
    omega

/-- A request takes an idle connection. -/
theorem InStep.request {ws : List (String × List UInt8)} (inStep : D.InStep link)
    (idle : link.client = .idle)
    (plan : connectionPlan link.header.isSome spec = writes ws ++ [D.final spec])
    (first : link.opened = false →
      D.contract.opens (ofRequest link.responses.length (ws.flatMap snd)))
    (later : link.opened = true →
      D.contract.continues (ofRequest link.responses.length (ws.flatMap snd)))
    (suits : D.suits spec (ofRequest link.responses.length (ws.flatMap snd))) :
    D.InStep (link.request spec keep) := by
  obtain ⟨stands, attributed⟩ := inStep
  obtain ⟨op, rest, cons⟩ := writes_cons ws (D.final spec)
  have bytes : written (writes ws ++ [D.final spec]) = ws.flatMap snd := by
    rw [written_writes]
    simp [written, D.final_reads]
  unfold Link.request
  rw [plan, bytes, ← cons, Link.goOn]
  refine ⟨?_, attributed⟩
  cases stands with
  | closed stopped noAnswer => exact .closed stopped noAnswer
  | asking phase unit taken spec op rest ws follows busy plan place opened whole own suits =>
    simp [idle] at busy
  | left phase unit taken follows gone place part own => simp [idle] at gone
  | resting phase follows free place opened noRequest noAnswer =>
    refine .asking phase _ [] spec op rest ws follows rfl cons ?_ ?_ ?_ ?_ suits
    rotate_right
    · rintro _ mem
      obtain ⟨byte, -, rfl⟩ := mem_map.mp mem
      rfl
    · rw [noAnswer]
      cases flag : link.opened with
      | false =>
        obtain rfl : phase = .fresh := by
          by_contra other
          simp [flag, other] at opened
        exact .fresh (first flag)
      | true =>
        obtain rfl := place.resolve_left (opened.mp flag)
        exact .between (later flag)
    · simp only [Bool.or_eq_true, opened, Bool.not_eq_true', ofRequest]
      simp
    · simp [noRequest]

/-- The client's operation completes. If it is the read, it has to find the answer complete
or the server gone, and leave nothing. -/
theorem InStep.proceed {op : IoOp} {count : Nat}
    (inStep : D.InStep link) (busy : link.client = .busy spec op rest)
    (ends : ∀ {phase unit taken data total left}, D.suits spec unit →
      D.contract.At phase unit taken link.toClient → op = D.final spec →
      op.reader (isClosed link.server) count 0 link.toClient = .done data total left →
      left = [] ∧ data ⊆ link.toClient ∧
        (link.server = .stop ∨ D.contract.complete unit link.toClient))
    (proceeded : link.proceed spec op rest count keep = some link') : D.InStep link' := by
  obtain ⟨stands, attributed⟩ := inStep
  unfold Link.proceed at proceeded
  split at proceeded
  · rename_i data total left finished
    cases proceeded
    cases stands with
    | closed stopped noAnswer =>
      rw [noAnswer] at finished
      obtain ⟨rfl, rfl⟩ := reader_nil finished
      cases rest with
      | cons op rest => exact ⟨.closed stopped rfl, attributed⟩
      | nil => exact ⟨.closed stopped rfl, attributed_append attributed (by simp) rfl⟩
    | resting phase follows free place opened noRequest noAnswer => simp [busy] at free
    | left phase unit taken follows gone place part own => simp [busy] at gone
    | asking phase unit taken spec' op' rest' ws follows busy' plan place opened whole own suits =>
      rw [busy] at busy'
      cases busy'
      cases ws with
      | cons w ws =>
        -- a write
        obtain ⟨rfl, tail⟩ := cons.inj plan
        have more : rest = writes ws ++ [D.final spec] := tail
        cases finished
        obtain ⟨op, later, cons⟩ := writes_cons ws (D.final spec)
        rw [more, ← cons, goOn]
        refine ⟨.asking phase unit taken spec op later ws follows rfl cons place opened ?_ own
          suits, attributed⟩
        rw [← whole]
        simp only [send, IoOp.written, flatMap_cons, ofRequest_append, append_assoc]
      | nil =>
        obtain ⟨rfl, rfl⟩ := cons.inj plan
        obtain ⟨rfl, inside, complete⟩ := ends suits place rfl finished
        have mine : ∀ b ∈ data, b.request = some link.responses.length := by
          intro b mem
          obtain ⟨a, there, same⟩ := place.sent_from b (inside mem)
          rw [same, own a there]
        refine ⟨?_, attributed_append attributed mine rfl⟩
        rcases complete with stopped | complete
        · exact .closed stopped rfl
        · -- the answer is complete and has been read
          obtain ⟨rfl, at_⟩ := place.of_complete complete
          have noRequest : (link.send (D.final spec).written).toServer = [] := by
            refine append_right_eq_self.mp (?_ : taken ++ _ = taken)
            simp only [send, D.final_reads, ← append_assoc]
            exact whole
          refine .resting phase follows ?_ ?_ ?_ noRequest rfl
          · simp only [goOn]
            split
            · exact .inl rfl
            · exact .inr rfl
          · rcases at_ with rfl | ⟨rfl, -⟩
            · exact .inr rfl
            · exact .inl rfl
          · refine opened.trans ?_
            rcases at_ with rfl | ⟨rfl, rfl⟩ <;> simp
  · cases proceeded

end Dialogue

end Netanvil.Tcp
