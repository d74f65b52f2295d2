/-
# When a connection's requests and responses stay in step

The header of a connection announces the sizes of its first request. So `rr` requests stay in
step if the later ones have the same size and wait for at least the announced response
(`SizesFit`). `echo` requests do if a framing marks the frame's end (`ReadsBack`), the one read
of `raw` gets all of it (`TakesAll`), and the server does not take the first bytes for a header.
-/
import Netanvil.Tcp.Dialogue
import Netanvil.Theory.Trace

namespace Netanvil.Tcp

open Theory Theory.Trace TestServer List Link

theorem map_value_ofRequest (k : Nat) (bytes : List UInt8) :
    (ofRequest k bytes).map Byte.value = bytes := by
  rw [ofRequest, map_map]
  exact map_id bytes

theorem isClosed_iff {server : Handler Byte} : isClosed server = true ↔ server = .stop := by
  cases server <;> simp [isClosed]

/-! ## Echo -/

def echoDialogue : Dialogue where
  contract := echoContract
  ready := echoReady
  rounds {loop phase} ready draw := by
    cases loop with
    | echo =>
      refine follows_andThen trivial ?_
      intro bytes after foreseen
      cases bytes with
      | nil => trivial
      | cons byte bytes =>
        rcases foreseen with nothing | takes
        · cases nothing
        · cases takes with
          | opens _ _ => exact ready.elim
          | @continues unit _ _ _ => exact follows_echoBack unit [] _
          | @more unit taken sent _ part =>
            obtain rfl : sent = taken := ready
            exact follows_echoBack unit sent _
    | rr loop | sink | source chunkSize latencyUs pooled => cases phase <;> exact ready.elim
  final spec := .readFramed spec.framing spec.responseMaxBytes
  final_reads _ := rfl
  suits spec unit := unit.map Byte.value = encodeFrame spec.payload spec.framing ∧
    ReadsBack spec.payload spec.framing

/-- The one read of a `raw` response gets everything that is there, and that is the whole
frame, unless the server has closed the connection. -/
def TakesAll (link : Link) (count : Nat) : Prop :=
  match link.client with
  | .busy spec (.readFramed .raw maxBytes) _ =>
    count = link.toClient.length ∧ count ≤ maxBytes ∧
      (isClosed link.server = true ∨ count = spec.payload.length)
  | _ => True

def EchoFits (link : Link) : LinkEvent → Prop
  | .request spec _ => spec.mode = .echo ∧ spec.expectResponse = true ∧
      ReadsBack spec.payload spec.framing ∧
      (link.opened = false → Unannounced (encodeFrame spec.payload spec.framing))
  | .proceed count _ => TakesAll link count
  | _ => True

theorem echo_prefix {phase : AnswerPhase} {unit taken sent : List Byte}
    (place : echoContract.At phase unit taken sent) : sent <+: unit := by
  cases place with
  | fresh first | between later => exact nil_prefix
  | within part answers more =>
    rcases answers with rfl | answers
    · exact nil_prefix
    · exact answers.trans part
  | answered answers complete => exact answers

theorem readRaw_all {closed : Bool} {count maxBytes total total' : Nat}
    {stream data left : List Byte} (all : count = stream.length) (fits : count ≤ maxBytes)
    (finished : readRaw closed count maxBytes total stream = .done data total' left) :
    left = [] ∧ data ⊆ stream := by
  unfold readRaw at finished
  split at finished
  · rename_i nothing
    cases finished
    refine ⟨?_, by simp⟩
    rcases nothing with none | ⟨-, empty⟩
    · exact eq_nil_of_length_eq_zero (by omega)
    · exact empty
  · split at finished
    · cases finished
      exact ⟨by rw [all, drop_length], take_subset _ _⟩
    · cases finished

theorem echo_step {link link' : Link} {event : LinkEvent} (inStep : echoDialogue.InStep link)
    (fits : EchoFits link event) (taken : link.step event = some link') :
    echoDialogue.InStep link' := by
  cases event with
  | serve count draw => exact inStep.serve (served_of_serve taken)
  | fail count => exact inStep.fail (failed_of_fail taken)
  | drop count =>
    simp only [step] at taken
    split at taken
    · rename_i busy
      cases taken
      exact inStep.drop count busy
    · cases taken
  | request spec keep =>
    simp only [step] at taken
    split at taken
    · rename_i idle
      cases taken
      obtain ⟨echo, expects, back, unannounced⟩ := fits
      have plan : connectionPlan link.header.isSome spec =
          writes [("write", encodeFrame spec.payload spec.framing)] ++
            [echoDialogue.final spec] := by
        simp [connectionPlan, echo, ioPlan, doEcho, expects, writes, echoDialogue]
      refine inStep.request idle plan ?_ (fun _ => trivial) ⟨?_, back⟩
      · intro unopened
        simp only [echoDialogue, echoContract, map_value_ofRequest]
        simpa using unannounced unopened
      · simp [map_value_ofRequest]
    · cases taken
  | proceed count keep =>
    simp only [step] at taken
    split at taken
    · rename_i spec op rest busy
      refine inStep.proceed busy ?_ taken
      rintro phase unit taken data total left ⟨encoded, back⟩ place rfl finished
      have begins := echo_prefix place
      cases framing : spec.framing with
      | raw =>
        simp only [EchoFits, TakesAll, busy, echoDialogue, framing] at fits
        obtain ⟨all, room, whole⟩ := fits
        simp only [echoDialogue, IoOp.reader, readFramed, framing] at finished
        obtain ⟨nothing, inside⟩ := readRaw_all all room finished
        refine ⟨nothing, inside, whole.imp isClosed_iff.mp fun length => ?_⟩
        refine begins.eq_of_length ?_
        rw [← all, length, ← length_map Byte.value, encoded, framing, encodeFrame]
      | _ =>
        have framed : spec.framing ≠ .raw := by simp [framing]
        have reads := readFramed_readsOff Byte.value framed back encoded
        obtain ⟨complete, inside, -, nothing⟩ := (reads _ _ _).whole
          (readFramed_stable Byte.value framed _ _ _) begins finished
        exact ⟨nothing, complete ▸ inside, .inr complete⟩
    · cases taken

/-! ## Requests and responses of one size -/

variable {spec : TcpRequestSpec} {k q r n total count : Nat} (pooled : List UInt8)

theorem headed_of_rr (rr : spec.mode = .rr) : spec.mode ≠ .echo := by
  rw [rr]
  decide

/-- Requests behind the header of request `h`. -/
def rrDialogue (h : TcpRequestSpec) (rr : h.mode = .rr) (requests : 0 < h.requestSize.toNat)
    (responses : 0 < h.responseSize.toNat) : Dialogue where
  contract := rrContract (encodeHeader h (headed_of_rr rr)) h.requestSize.toNat
    h.responseSize.toNat responses
  ready := rrReady h.requestSize.toNat h.responseSize.toNat
  rounds ready draw := follows_exchange requests ready draw
  final spec := .readExact spec.responseSize.toNat spec.responseSize.toNat
  final_reads _ := rfl
  suits spec _ := h.responseSize.toNat ≤ spec.responseSize.toNat

/-- The request is of the size that request `h` announced, and waits for its response. -/
def SizesFit (h spec : TcpRequestSpec) : Prop :=
  h.responseSize.toNat = 0 ∨
    (0 < h.requestSize.toNat ∧ spec.requestSize = h.requestSize ∧
      h.responseSize.toNat ≤ spec.responseSize.toNat)

def RrFits (link : Link) : LinkEvent → Prop
  | .request spec _ => spec.mode = .rr ∧ SizesFit (link.header.getD spec) spec
  | _ => True

theorem length_rrPayload (spec : TcpRequestSpec) :
    (rrPayload spec).length = spec.requestSize.toNat := by
  unfold rrPayload
  dsimp only
  split
  · rename_i long
    rw [length_take]
    omega
  · rw [length_append, length_replicate]
    omega

theorem ioPlan_rr (rr : spec.mode = .rr) (requests : 0 < spec.requestSize.toNat)
    (responses : 0 < spec.responseSize.toNat) :
    ioPlan spec = writes [("write", rrPayload spec)] ++
      [.readExact spec.responseSize.toNat spec.responseSize.toNat] := by
  have some : (rrPayload spec).isEmpty = false := by
    rw [isEmpty_eq_false_iff_exists_mem]
    refine exists_mem_of_length_pos ?_
    rw [length_rrPayload]
    exact requests
  have waits : spec.responseSize > 0 := UInt32.lt_iff_toNat_lt.mpr responses
  simp [ioPlan, rr, doRr, some, waits, writes]

/-- A read of at least `r` bytes finds a complete answer. -/
theorem rr_ends {header : List UInt8} (positive : 0 < r) {phase : AnswerPhase}
    {unit taken sent data left : List Byte} (waits : r ≤ n)
    (place : (rrContract header q r positive).At phase unit taken sent)
    (finished : Reader.exactly n 0 sent = .done data total left) :
    left = [] ∧ data ⊆ sent ∧ (rrContract header q r positive).complete unit sent := by
  have short : sent.length ≤ r := by
    cases place with
    | fresh first | between later => exact Nat.zero_le _
    | within part answers more =>
      rcases answers with rfl | answers
      · exact Nat.zero_le _
      · exact answers.2.1
    | answered answers complete => exact answers.2.1
  unfold Reader.exactly at finished
  split at finished
  · cases finished
  · rename_i enough
    cases finished
    have length : sent.length = r := by omega
    exact ⟨drop_eq_nil_of_le (by omega), take_subset _ _, length⟩

/-! ## Responses of no bytes -/

/-- What the client is going to write: a header that has not been sent, or the rest of its
request. -/
def Link.Ahead (header : List UInt8) (link : Link) (later : List UInt8) : Prop :=
  match link.client with
  | .idle => later = if link.header.isSome then [] else header
  | .busy _ op rest => later = written (op :: rest)
  | .gone => True

/-- The server sends nothing, and `header` leads what it has still to read. -/
structure Muted (header : List UInt8) (link : Link) : Prop where
  noAnswer : link.toClient = []
  empty : ∀ response ∈ link.responses, response = []
  led : ∃ left later, link.server.Follows muteProtocol muteReady left ∧
    left <+: link.toServer.map Byte.value ++ later ∧ link.Ahead header later

namespace Muted

variable {link link' : Link} {header left bytes later : List UInt8} (muted : Muted header link)
include muted

theorem synced : link.Synced := by
  refine ⟨by simp [muted.noAnswer], ?_⟩
  intro k response there b mem
  rw [muted.empty response (mem_of_getElem? there)] at mem
  cases mem

theorem serve {draw : Fin 10000} (served : link.Served draw link') : Muted header link' := by
  obtain ⟨noAnswer, empty, left, later, follows, led, ahead⟩ := muted
  have reads : ∀ {bytes more : List Byte}, link.toServer = bytes ++ more →
      ∃ next, HeaderTaken left bytes next ∧ next <+: more.map Byte.value ++ later := by
    intro bytes more cut
    rw [cut, map_append, append_assoc] at led
    rcases prefix_or_prefix_of_prefix led (prefix_append _ _) with all | ⟨next, rfl⟩
    · exact ⟨[], .inr ⟨all, rfl⟩, nil_prefix⟩
    · exact ⟨next, .inl rfl, (prefix_append_right_inj _).mp led⟩
  cases served with
  | again now | ended now | sleep now =>
    rw [now] at follows
    refine ⟨noAnswer, empty, left, later, ?_, led, ahead⟩
    first
    | exact follows_mute_iteration follows draw
    | exact follows.2 (some []) left (.inl rfl)
    | exact follows.2 _ left rfl
  | read now cut size | readExact now cut size =>
    rw [now] at follows
    obtain ⟨next, taken, leads⟩ := reads cut
    refine ⟨noAnswer, empty, next, later, follows.2 _ _ ?_, leads, ahead⟩
    first | exact .inr taken | exact ⟨size, taken⟩
  | writeAll now =>
    rw [now] at follows
    exact follows.1.elim

theorem fail (failed : link.Failed link') : Muted header link' := by
  obtain ⟨noAnswer, empty, left, later, follows, led, ahead⟩ := muted
  cases failed with
  | read now | readExact now =>
    rw [now] at follows
    exact ⟨noAnswer, empty, left, later, follows.2 none left trivial, led, ahead⟩
  | writeAll now part =>
    rw [now] at follows
    exact follows.1.elim

variable {spec : TcpRequestSpec} {keep : Bool} {rest : List IoOp} {op : IoOp}

omit muted in
/-- A finished request leaves nothing ahead. -/
theorem ahead_finish {data : List Byte} (begun : link.header.isSome = true) :
    (link.goOn spec data keep []).Ahead header [] := by
  unfold goOn Ahead
  by_cases kept : keep = true ∧ spec.mode ≠ .crr
  · simp [if_pos kept, begun]
  · simp [if_neg kept]

omit muted in
/-- Bytes that were ahead are on their way. -/
theorem led_send {stream : List Byte} (led : left <+: stream.map Byte.value ++ (bytes ++ later)) :
    left <+: (stream ++ ofRequest k bytes).map Byte.value ++ later := by
  rwa [map_append, map_value_ofRequest, append_assoc]

omit muted in
theorem drop (count : Nat) (muted : Muted header link) (busy : link.client = .busy spec op rest) :
    Muted header { link.send (op.written.take count) with client := .gone } := by
  obtain ⟨noAnswer, empty, left, later, follows, led, ahead⟩ := muted
  simp only [Ahead, busy] at ahead
  refine ⟨noAnswer, empty, left, op.written.drop count ++ written rest, follows, ?_, trivial⟩
  refine led_send ?_
  rw [← append_assoc (op.written.take count), take_append_drop]
  rwa [ahead] at led

theorem proceed (busy : link.client = .busy spec op rest) (begun : link.header.isSome = true)
    (taken : link.proceed spec op rest count keep = some link') : Muted header link' := by
  obtain ⟨noAnswer, empty, left, later, follows, led, ahead⟩ := muted
  simp only [Ahead, busy] at ahead
  subst ahead
  have sent := led_send (k := link.responses.length) led
  unfold Link.proceed at taken
  split at taken
  · rename_i data total remaining finished
    cases taken
    rw [noAnswer] at finished
    obtain ⟨rfl, rfl⟩ := reader_nil finished
    cases rest with
    | cons next rest => exact ⟨rfl, empty, left, _, follows, sent, rfl⟩
    | nil =>
      refine ⟨rfl, ?_, left, [], follows, sent, ?_⟩
      · intro response mem
        rcases mem_append.mp mem with before | last
        · exact empty response before
        · exact mem_singleton.mp last
      · exact ahead_finish begun
  · cases taken

theorem request (idle : link.client = .idle) (headed : spec.mode ≠ .echo)
    (leads : link.header = none → header <+: written (connectionPlan false spec)) :
    Muted header (link.request spec keep) := by
  obtain ⟨noAnswer, empty, left, later, follows, led, ahead⟩ := muted
  simp only [Ahead, idle] at ahead
  have next : left <+: link.toServer.map Byte.value ++
      written (connectionPlan link.header.isSome spec) := by
    rw [ahead] at led
    cases sent : link.header with
    | some h =>
      simp only [sent, Option.isSome_some, if_true, append_nil] at led
      exact led.trans (prefix_append _ _)
    | none =>
      simp only [sent, Option.isSome_none, Bool.false_eq_true, if_false] at led
      exact led.trans ((prefix_append_right_inj _).mpr (leads sent))
  have begun : (link.header.or (some spec)).isSome = true := by simp
  unfold Link.request
  cases plan : connectionPlan link.header.isSome spec with
  | cons op rest =>
    rw [plan] at next
    exact ⟨noAnswer, empty, left, _, follows, next, rfl⟩
  | nil =>
    rw [plan] at next
    refine ⟨noAnswer, ?_, left, [], follows, next, ?_⟩
    · intro response mem
      rcases mem_append.mp mem with before | last
      · exact empty response before
      · exact mem_singleton.mp last
    · refine ahead_finish ?_
      rw [if_neg headed, begun]

end Muted

/-! ## Every run -/

/-- What holds on a connection of `rr` requests, whichever header it has or will have. -/
structure RrInStep (link : Link) : Prop where
  fresh : link.header = none → link.client = .idle
  opened : link.opened = link.header.isSome
  mode : ∀ h, link.header = some h → h.mode = .rr ∧
    (h.responseSize.toNat = 0 ∨ 0 < h.requestSize.toNat)
  mute : ∀ h (rr : h.mode = .rr), link.header = none ∨ link.header = some h →
    h.responseSize.toNat = 0 → Muted (encodeHeader h (headed_of_rr rr)) link
  answers : ∀ h (rr : h.mode = .rr) (requests : 0 < h.requestSize.toNat)
    (responses : 0 < h.responseSize.toNat), link.header = none ∨ link.header = some h →
    (rrDialogue h rr requests responses).InStep link

namespace RrInStep

variable {link link' : Link}

theorem start (draw : Fin 10000) : RrInStep (.start pooled draw) where
  fresh _ := rfl
  opened := rfl
  mode := by
    rintro h ⟨⟩
  mute h rr _ silent := ⟨rfl, by simp [Link.start], encodeHeader h (headed_of_rr rr),
    encodeHeader h (headed_of_rr rr), follows_mute rr (headed_of_rr rr) silent pooled draw,
    prefix_refl _, rfl⟩
  answers h rr requests responses _ := by
    refine ⟨.resting .fresh (follows_rr rr (headed_of_rr rr) responses pooled draw) (.inl rfl)
      (.inl rfl) ?_ rfl rfl, ?_⟩
    · simp [Link.start]
    · intro k response there
      simp [Link.start] at there

theorem synced (inStep : RrInStep link) : link.Synced := by
  cases sent : link.header with
  | none =>
    -- any header will do
    let quiet : TcpRequestSpec := ⟨⟨.v4 0, 0⟩, [], .raw, false, 0, .rr, 0, 0, none, none⟩
    exact (inStep.mute quiet rfl (.inl sent) rfl).synced
  | some h =>
    obtain ⟨rr, sizes⟩ := inStep.mode h sent
    by_cases silent : h.responseSize.toNat = 0
    · exact (inStep.mute h rr (.inr sent) silent).synced
    · obtain ⟨stands, attributed⟩ := inStep.answers h rr (sizes.resolve_left silent)
        (Nat.pos_of_ne_zero silent) (.inr sent)
      exact stands.synced attributed

/-- A step that does not touch the header. -/
theorem keep (inStep : RrInStep link) (header : link'.header = link.header)
    (opened : link'.opened = link.opened) (fresh : link.header = none → link'.client = .idle)
    (mute : ∀ {header}, Muted header link → Muted header link')
    (answers : ∀ {h rr requests responses}, (rrDialogue h rr requests responses).InStep link →
      (rrDialogue h rr requests responses).InStep link') : RrInStep link' where
  fresh none := fresh (header ▸ none)
  opened := by rw [opened, header, inStep.opened]
  mode h there := inStep.mode h (header ▸ there)
  mute h rr there silent := mute (inStep.mute h rr (header ▸ there) silent)
  answers h rr requests responses there :=
    answers (inStep.answers h rr requests responses (header ▸ there))

variable {spec : TcpRequestSpec}

theorem header_request (link : Link) (keep : Bool) (headed : spec.mode ≠ .echo) :
    (link.request spec keep).header = some (link.header.getD spec) := by
  have header : (link.request spec keep).header = link.header.or (some spec) := by
    unfold request goOn
    split <;> simp [headed]
  rw [header]
  cases link.header <;> rfl

theorem request {keep : Bool} (inStep : RrInStep link) (idle : link.client = .idle)
    (rr : spec.mode = .rr) (fits : SizesFit (link.header.getD spec) spec) :
    RrInStep (link.request spec keep) := by
  have headed := headed_of_rr rr
  have now := header_request link keep headed
  -- the request either brings the header or comes behind it
  have which : ∀ {h}, (link.request spec keep).header = none ∨
      (link.request spec keep).header = some h →
      link.header.getD spec = h ∧ (link.header = none ∧ spec = h ∨ link.header = some h) := by
    intro h there
    rw [now] at there
    obtain rfl := Option.some.inj (there.resolve_left (by simp))
    cases link.header <;> simp
  have front : written (connectionPlan false spec) =
      encodeHeader spec headed ++ written (ioPlan spec) := by
    simp [connectionPlan, headed, written, IoOp.written]
  constructor
  · intro none
    rw [now] at none
    cases none
  · have opened : (link.request spec keep).opened =
        (link.opened || !(written (connectionPlan link.header.isSome spec)).isEmpty) := by
      unfold Link.request Link.goOn
      split <;> rfl
    rw [opened, now, inStep.opened]
    cases link.header with
    | some h => simp
    | none =>
      obtain ⟨len, tail, shape, -⟩ := encodeHeader_shape spec headed
      simp [front, shape]
  · intro h there
    obtain ⟨same, -⟩ := which (.inr there)
    rw [same] at fits
    refine ⟨?_, fits.imp id And.left⟩
    obtain ⟨-, ⟨-, rfl⟩ | before⟩ := which (.inr there)
    · exact rr
    · exact (inStep.mode h before).1
  · intro h rr' there silent
    obtain ⟨-, case⟩ := which there
    have before : link.header = none ∨ link.header = some h := case.imp And.left id
    refine (inStep.mute h rr' before silent).request idle headed ?_
    intro none
    rcases case with ⟨-, rfl⟩ | some
    · rw [front]
      exact prefix_append _ _
    · rw [none] at some
      cases some
  · intro h rr' requests responses there
    obtain ⟨same, case⟩ := which there
    have before : link.header = none ∨ link.header = some h := case.imp And.left id
    have opened := inStep.opened
    have answers := inStep.answers h rr' requests responses before
    obtain ⟨-, sameSize, waits⟩ :=
      Or.resolve_left (same ▸ fits : SizesFit h spec) (Nat.ne_of_gt responses)
    have io := ioPlan_rr rr (sameSize ▸ requests) (Nat.lt_of_lt_of_le responses waits)
    have headed := headed_of_rr rr
    rcases case with ⟨none, rfl⟩ | some
    · have plan : connectionPlan link.header.isSome spec =
          writes [("header write", encodeHeader spec headed), ("write", rrPayload spec)] ++
            [(rrDialogue spec rr requests responses).final spec] := by
        simp [connectionPlan, none, headed, io, writes, rrDialogue]
      refine answers.request idle plan ?_ ?_ waits
      · intro unopened
        refine ⟨ofRequest link.responses.length (encodeHeader spec headed),
          ofRequest link.responses.length (rrPayload spec), ?_, map_value_ofRequest _ _, ?_⟩
        · simp [ofRequest]
        · simp [ofRequest, length_rrPayload]
      · intro wasOpened
        simp [wasOpened, none] at opened
    · have plan : connectionPlan link.header.isSome spec =
          writes [("write", rrPayload spec)] ++
            [(rrDialogue h rr' requests responses).final spec] := by
        simp [connectionPlan, some, io, rrDialogue]
      refine answers.request idle plan ?_ ?_ waits
      · intro unopened
        simp [unopened, some] at opened
      · intro wasOpened
        simp [rrDialogue, rrContract, ofRequest, length_rrPayload, sameSize]

theorem step {event : LinkEvent} (inStep : RrInStep link) (fits : RrFits link event)
    (taken : link.step event = some link') : RrInStep link' := by
  cases event with
  | serve count draw =>
    have served := served_of_serve taken
    have same : link'.client = link.client ∧ link'.header = link.header ∧
        link'.opened = link.opened := by cases served <;> exact ⟨rfl, rfl, rfl⟩
    exact inStep.keep same.2.1 same.2.2 (fun none => same.1.trans (inStep.fresh none))
      (fun muted => muted.serve served) (fun well => well.serve served)
  | fail count =>
    have failed := failed_of_fail taken
    have same : link'.client = link.client ∧ link'.header = link.header ∧
        link'.opened = link.opened := by cases failed <;> exact ⟨rfl, rfl, rfl⟩
    exact inStep.keep same.2.1 same.2.2 (fun none => same.1.trans (inStep.fresh none))
      (fun muted => muted.fail failed) (fun well => well.fail failed)
  | request spec keep =>
    simp only [Link.step] at taken
    split at taken
    · rename_i idle
      cases taken
      exact inStep.request idle fits.1 fits.2
    · cases taken
  | drop count =>
    simp only [Link.step] at taken
    split at taken
    · rename_i spec op rest busy
      cases taken
      have begun : link.header ≠ none := fun none => by simp [inStep.fresh none] at busy
      exact inStep.keep rfl rfl (fun none => absurd none begun)
        (fun muted => muted.drop count busy) (fun well => well.drop count busy)
    · cases taken
  | proceed count keep =>
    simp only [Link.step] at taken
    split at taken
    · rename_i spec op rest busy
      have begun : link.header ≠ none := fun none => by simp [inStep.fresh none] at busy
      have same : link'.header = link.header ∧ link'.opened = link.opened := by
        unfold proceed at taken
        split at taken
        · cases taken
          cases rest <;> exact ⟨rfl, rfl⟩
        · cases taken
      exact inStep.keep same.1 same.2 (fun none => absurd none begun)
        (fun muted => muted.proceed busy (Option.isSome_iff_ne_none.mpr begun) taken)
        (fun well => well.proceed busy (by
          rintro phase unit taken data total left waits place rfl finished
          obtain ⟨nothing, inside, complete⟩ := rr_ends (by assumption) waits place finished
          exact ⟨nothing, inside, .inr complete⟩) taken)
    · cases taken

end RrInStep

theorem echo_start (draw : Fin 10000) : echoDialogue.InStep (.start pooled draw) := by
  refine ⟨.resting .fresh ?_ (.inl rfl) (.inl rfl) ?_ rfl rfl, ?_⟩
  · -- a connection whose first bytes are no header
    refine follows_andThen trivial ?_
    intro bytes after foreseen
    cases bytes with
    | nil => trivial
    | cons first rest =>
      rcases foreseen with nothing | takes
      · cases nothing
      · cases takes with
        | @opens unit _ unannounced part =>
          refine follows_detect (fun phase got => phase = .within unit got [] ∧ got <+: unit)
            id ?_ ?_ ?_ ⟨rfl, part⟩
          · rintro _ got n bytes after ⟨rfl, begun⟩ ⟨length, takes⟩
            cases takes with
            | more part => exact ⟨length, rfl, part⟩
          · rintro _ first rest ⟨rfl, begun⟩ -
            exact follows_echoBack unit [] _
          · rintro _ first second rest ⟨rfl, later, rfl⟩ - - there
            have refused : parseHeader (((first :: second :: rest).take
                second.value.toNat).map tagged.value) = none := by
              rw [← unannounced, ← map_take]
              congr 2
              exact (take_append_of_le_length there).symm
            unfold parsed
            rw [refused]
            exact follows_echoBack _ [] _
  · simp [start]
  · intro k response there
    simp [start] at there

/-- A connection whose requests are all `rr` requests of fitting sizes, or all `echo`
requests that are read back as a whole, is in step whenever one looks at it. -/
theorem Link.synchrony (pooled : List UInt8) (draw : Fin 10000) (events : List LinkEvent)
    (link : Link) (run : exec step (.start pooled draw) events = some link)
    (fits : Allowed step RrFits (.start pooled draw) events ∨
      Allowed step EchoFits (.start pooled draw) events) : link.Synced := by
  rcases fits with rr | echo
  · have inStep : RrInStep link := rr.invariant (.start pooled draw) .step run
    exact inStep.synced
  · have inStep : echoDialogue.InStep link :=
      echo.invariant (echo_start pooled draw) echo_step run
    exact inStep.1.synced inStep.2

/-! ## Closed runs -/

def exchangeOf (q : UInt16) (r : UInt32) : TcpRequestSpec :=
  ⟨⟨.v4 0x7F000001, 7⟩, [], .raw, false, 0, .rr, q, r, none, none⟩

def rawEcho : TcpRequestSpec :=
  ⟨⟨.v4 0x7F000001, 7⟩, [1, 2], .raw, true, 16, .echo, 0, 0, none, none⟩

def anyDraw : Fin 10000 := ⟨0, by decide⟩

/-- A first request of one byte for two, up to its response: the server gets the header and
the request in one read. -/
def firstExchange : List LinkEvent :=
  [.request (exchangeOf 1 2) true, .proceed 0 true, .proceed 0 true, .serve 11 anyDraw,
    .serve 0 anyDraw, .serve 0 anyDraw, .proceed 0 true]

/-- What follows the next request, also of one byte. -/
def nextExchange : List LinkEvent :=
  [.proceed 0 true, .serve 0 anyDraw, .serve 0 anyDraw, .serve 0 anyDraw, .proceed 0 true]

/-- An echo of two bytes, of which the client's read gets one. -/
def splitEcho : List LinkEvent :=
  [.request rawEcho true, .proceed 0 true, .serve 2 anyDraw, .serve 0 anyDraw, .proceed 1 true]

theorem not_synced {link : Link} {b : Byte} {more : List Byte}
    (unread : link.toClient = b :: more) (tag : b.request = some k)
    (completed : k < link.responses.length) : ¬ link.Synced := by
  intro synced
  exact synced.1 b (by simp [unread]) k completed tag

/-- A second request that waits for one byte only leaves the other unread; and so does a read
that the network cuts short. -/
theorem Link.unread_bytes :
    (∃ link, exec step (.start [] anyDraw)
        (firstExchange ++ .request (exchangeOf 1 1) true :: nextExchange) = some link ∧
      ¬ link.Synced) ∧
    ∃ link, exec step (.start [] anyDraw) splitEcho = some link ∧ ¬ link.Synced :=
  ⟨⟨_, evaluates,
      not_synced (show _ = [⟨0xAA, some 1⟩] by decide +kernel) rfl (by decide +kernel)⟩,
    ⟨_, evaluates,
      not_synced (show _ = [⟨2, some 0⟩] by decide +kernel) rfl (by decide +kernel)⟩⟩

/-- With the second request like the first, both are answered in full. -/
theorem Link.synchrony_reused : ∃ link, exec step (.start [] anyDraw)
    (firstExchange ++ .request (exchangeOf 1 2) true :: nextExchange) = some link ∧
      link.responses = [[⟨0xAA, some 0⟩, ⟨0xAA, some 0⟩], [⟨0xAA, some 1⟩, ⟨0xAA, some 1⟩]] ∧
      link.Synced := by
  refine ⟨_, evaluates, by decide +kernel, synchrony [] anyDraw _ _ (evaluates _) (.inl ?_)⟩
  have sizes : SizesFit (exchangeOf 1 2) (exchangeOf 1 2) := .inr ⟨by decide, rfl, by decide⟩
  have first : Allowed step RrFits (.start [] anyDraw) firstExchange := by
    refine .cons ⟨rfl, sizes⟩ fun s _ => .of_forall ?_
    simp [RrFits]
  have second : Allowed step RrFits (.start [] anyDraw)
      (firstExchange ++ [.request (exchangeOf 1 2) true]) := by
    refine first.snoc fun s reached => ⟨rfl, ?_⟩
    cases reached
    exact sizes
  have rest : Allowed _ _ _ (_ ++ nextExchange) :=
    second.append (by simp [nextExchange, RrFits])
  rwa [append_assoc] at rest

end Netanvil.Tcp
