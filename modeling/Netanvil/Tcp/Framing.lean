/-
# Reading a framed response

`read_framed` over what has arrived of the stream, for any type `β` of bytes with a `value`.
A stream that ends inside a frame is an error; here its read stays pending, and the connection
can be dropped. A framing is no code: its reader may stop before the end of what `encode_frame`
wrote, or wait beyond it. `ReadsBack` says for which payloads it does not.
-/
import Netanvil.TestServer.Protocol
import Netanvil.Theory.Reading

namespace Netanvil.Tcp

open Theory TestServer Reader List

variable {β : Type} (value : β → UInt8)

/-! ## The readers -/

/-- One read into a buffer of `maxBytes`: `count` is how much of the stream the socket
hands over, and `closed` whether it has come to its end. -/
def readRaw (closed : Bool) (count maxBytes : Nat) : Reader β (List β) := fun total stream =>
  if maxBytes = 0 ∨ (closed = true ∧ stream = []) then .done [] total stream
  else if 0 < count ∧ count ≤ maxBytes ∧ count ≤ stream.length then
    .done (stream.take count) (total + count) (stream.drop count)
  else .pending

/-- The loop of `read_until_delimiter`, a byte at a time. -/
def untilDelimiter (delimiter : List UInt8) (maxBytes : Nat) (accumulated : List β) (total : Nat) :
    List β → Read β (List β)
  | [] =>
    if maxBytes ≤ accumulated.length then
      .failed "response exceeded max_bytes before delimiter found"
    else .pending
  | byte :: rest =>
    if maxBytes ≤ accumulated.length then
      .failed "response exceeded max_bytes before delimiter found"
    else if delimiter <:+ (accumulated ++ [byte]).map value then
      -- the delimiter is stripped
      .done ((accumulated ++ [byte]).take (accumulated.length + 1 - delimiter.length))
        (total + 1) rest
    else untilDelimiter delimiter maxBytes (accumulated ++ [byte]) (total + 1) rest

def readUntilDelimiter (delimiter : List UInt8) (maxBytes : Nat) : Reader β (List β) :=
  if delimiter = [] then .fail "empty delimiter" else untilDelimiter value delimiter maxBytes []

/-- The length a prefix of `width` bytes stands for, if the width is supported. -/
def payloadLen (width : UInt8) : List UInt8 → Option Nat
  | [a] => if width = 1 then some a.toNat else none
  | [a, b] => if width = 2 then some (ofBeBytes16 a b).toNat else none
  | [a, b, c, d] => if width = 4 then some (ofBeBytes32 a b c d).toNat else none
  | _ => none

/-- Read what the prefix announces. -/
def readPayload (width : UInt8) (maxBytes : Nat) (header : List β) : Reader β (List β) :=
  match payloadLen width (header.map value) with
  | none => .fail ("unsupported length-prefix width: " ++ toString width)
  | some len =>
    if maxBytes < len then
      .fail ("length-prefixed payload size " ++ toString len ++ " exceeds max_bytes " ++
        toString maxBytes)
    else .exactly len

def readLengthPrefixed (width : UInt8) (maxBytes : Nat) : Reader β (List β) :=
  (exactly width.toNat).andThen (readPayload value width maxBytes)

def readFixed (size : Nat) : Reader β (List β) := .exactly size

def readFramed (closed : Bool) (count : Nat) (framing : TcpFraming) (maxBytes : Nat) :
    Reader β (List β) :=
  match framing with
  | .raw => readRaw closed count maxBytes
  | .delimiter delim => readUntilDelimiter value delim maxBytes
  | .lengthPrefixed width => readLengthPrefixed value width maxBytes
  | .fixedSize size => readFixed size

/-! ## Later bytes change nothing -/

theorem untilDelimiter_stable (delimiter : List UInt8) (maxBytes : Nat) (accumulated : List β) :
    Stable (untilDelimiter value delimiter maxBytes accumulated) := by
  intro total stream
  induction stream generalizing accumulated total with
  | nil =>
    intro data total' rest finished
    unfold untilDelimiter at finished
    split at finished <;> cases finished
  | cons byte stream ih =>
    intro data total' rest finished
    unfold untilDelimiter at finished
    split at finished
    · cases finished
    · rename_i room
      split at finished
      · rename_i ends
        cases finished
        refine ⟨suffix_cons _ _, fun more => ?_⟩
        rw [cons_append, untilDelimiter, if_neg room, if_pos ends]
      · rename_i goesOn
        obtain ⟨suffix, extended⟩ := ih _ _ _ _ _ finished
        refine ⟨suffix.trans (suffix_cons _ _), fun more => ?_⟩
        rw [cons_append, untilDelimiter, if_neg room, if_neg goesOn]
        exact extended more

variable {framing : TcpFraming} {width : UInt8} {payload delimiter : List UInt8}

theorem readFramed_stable (framed : framing ≠ .raw) (closed : Bool) (count maxBytes : Nat) :
    Stable (readFramed value closed count framing maxBytes) := by
  cases framing with
  | raw => exact absurd rfl framed
  | lengthPrefixed width =>
    refine (stable_exactly _).andThen fun _ => ?_
    unfold readPayload
    split
    · exact stable_fail _
    · split
      · exact stable_fail _
      · exact stable_exactly _
  | delimiter delim =>
    simp only [readFramed, readUntilDelimiter]
    split
    · exact stable_fail _
    · exact untilDelimiter_stable value delim maxBytes []
  | fixedSize size => exact stable_exactly _

/-! ## What is read of a frame -/

/-- The reader stops exactly at the end of the frame, if it stops: the delimiter does not
come up earlier, and the length fits in its prefix. -/
def ReadsBack (payload : List UInt8) : TcpFraming → Prop
  | .raw => True
  | .lengthPrefixed width =>
    width = 1 ∨ width = 2 ∨ width = 4 → payload.length < 2 ^ (8 * width.toNat)
  | .delimiter delim =>
    ∀ part, part <+: payload ++ delim → delim <:+ part → delim = [] ∨ part = payload ++ delim
  | .fixedSize _ => True

theorem length_encodeFrame_fixedSize (payload : List UInt8) (size : Nat) :
    (encodeFrame payload (.fixedSize size)).length = size := by
  simp only [encodeFrame, length_append, length_take, length_replicate]
  omega

variable {frame accumulated left : List β}

/-- With `accumulated` read and `left` to come of a frame in which the delimiter comes up
only at the end. -/
theorem untilDelimiter_readsOff (ends : delimiter <:+ frame.map value)
    (once : ∀ part, part <+: frame → delimiter <:+ part.map value → part = frame) (maxBytes : Nat)
    (split : accumulated ++ left = frame) (more : left ≠ []) :
    ReadsOff (untilDelimiter value delimiter maxBytes accumulated) left (· ⊆ frame) := by
  induction left generalizing accumulated with
  | nil => exact absurd rfl more
  | cons byte left ih =>
    intro total rest data total' rest' finished
    have here : (accumulated ++ [byte]) ++ left = frame := by
      rw [← split, append_assoc, singleton_append]
    rw [cons_append, untilDelimiter] at finished
    split at finished
    · cases finished
    · split at finished
      · rename_i found
        cases finished
        -- the delimiter is found here, so this is the end
        have whole := once _ ⟨left, here⟩ found
        have nothing : left = [] := by
          rw [whole] at here
          exact append_right_eq_self.mp here
        subst nothing
        refine ⟨fun b taken => ?_, rfl, rfl⟩
        rw [← whole]
        exact mem_of_mem_take taken
      · rename_i notYet
        have ahead : left ≠ [] := by
          rintro rfl
          rw [append_nil] at here
          exact notYet (here ▸ ends)
        obtain ⟨inside, read, same⟩ := ih here ahead _ _ _ _ _ finished
        refine ⟨inside, ?_, same⟩
        rw [read, length_cons]
        omega

theorem payloadLen_unsupported (unsupported : ¬ (width = 1 ∨ width = 2 ∨ width = 4))
    (header : List UInt8) : payloadLen width header = none := by
  simp only [not_or] at unsupported
  unfold payloadLen
  split
  · exact if_neg unsupported.1
  · exact if_neg unsupported.2.1
  · exact if_neg unsupported.2.2
  · rfl

/-- The prefix `encode_frame` writes has the width's length and stands for what fits in it of the
payload's. -/
theorem payloadLen_encodeFrame (payload : List UInt8)
    (supported : width = 1 ∨ width = 2 ∨ width = 4) :
    ∃ header, encodeFrame payload (.lengthPrefixed width) = header ++ payload ∧
      header.length = width.toNat ∧
      payloadLen width header = some (payload.length % 2 ^ (8 * width.toNat)) := by
  rcases supported with rfl | rfl | rfl
  · refine ⟨[payload.length.toUInt8], rfl, rfl, ?_⟩
    simp only [payloadLen, if_true, Nat.toUInt8_eq, UInt8.toNat_ofNat']
    rfl
  · refine ⟨beBytes16 payload.length.toUInt16, rfl, rfl, ?_⟩
    simp only [payloadLen, beBytes16, if_true, ofBeBytes16_bytes, Nat.toUInt16_eq,
      UInt16.toNat_ofNat']
    rfl
  · refine ⟨beBytes32 payload.length.toUInt32, rfl, rfl, ?_⟩
    simp only [payloadLen, beBytes32, if_true, ofBeBytes32_bytes, Nat.toUInt32_eq,
      UInt32.toNat_ofNat']
    rfl

theorem readFramed_readsOff (framed : framing ≠ .raw) (back : ReadsBack payload framing)
    (encoded : frame.map value = encodeFrame payload framing) (closed : Bool)
    (count maxBytes : Nat) :
    ReadsOff (readFramed value closed count framing maxBytes) frame (· ⊆ frame) := by
  cases framing with
  | raw => exact absurd rfl framed
  | lengthPrefixed width =>
    show ReadsOff (readLengthPrefixed value width maxBytes) frame (· ⊆ frame)
    by_cases supported : width = 1 ∨ width = 2 ∨ width = 4
    · obtain ⟨header, splits, length, announces⟩ := payloadLen_encodeFrame payload supported
      rw [Nat.mod_eq_of_lt (back supported)] at announces
      rw [splits] at encoded
      obtain ⟨front, body, rfl, rfl, rfl⟩ := map_eq_append_iff.mp encoded
      have width' : width.toNat = front.length := by rw [← length, length_map]
      unfold readLengthPrefixed
      rw [width']
      refine (readsOff_exactly front).andThen ?_
      rintro _ rfl
      unfold readPayload
      rw [announces, length_map]
      dsimp only
      split
      · exact readsOff_fail _ _ _
      · intro total rest data total' rest' finished
        obtain ⟨rfl, read, same⟩ := readsOff_exactly body _ _ _ _ _ finished
        exact ⟨subset_append_right _ _, read, same⟩
    · -- any other width is refused
      intro total rest data total' rest' finished
      obtain ⟨header, read, left, -, finished⟩ := andThen_done finished
      rw [readPayload, payloadLen_unsupported supported] at finished
      cases finished
  | delimiter delim =>
    simp only [readFramed, readUntilDelimiter]
    split
    · exact readsOff_fail _ _ _
    · rename_i proper
      have whole : frame.map value = payload ++ delim := encoded
      have ends : delim <:+ frame.map value := by
        rw [whole]
        exact suffix_append _ _
      have once : ∀ part, part <+: frame → delim <:+ part.map value → part = frame := by
        intro part begins found
        have same := (back (part.map value) (whole ▸ begins.map value) found).resolve_left proper
        have lengths : part.length = frame.length := by
          rw [← length_map value, same, ← whole, length_map]
        exact begins.eq_of_length lengths
      have more : frame ≠ [] := by
        rintro rfl
        exact proper (suffix_nil.mp ends)
      exact untilDelimiter_readsOff value ends once maxBytes (nil_append frame) more
  | fixedSize size =>
    have length : size = frame.length := by
      rw [← length_encodeFrame_fixedSize payload size, ← encoded, length_map]
    simp only [readFramed, readFixed]
    rw [length]
    intro total rest data total' rest' finished
    obtain ⟨rfl, read, same⟩ := readsOff_exactly frame _ _ _ _ _ finished
    exact ⟨List.Subset.refl _, read, same⟩

end Netanvil.Tcp
