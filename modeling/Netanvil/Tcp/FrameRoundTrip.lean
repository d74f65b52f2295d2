/-
# Frames read back from the stream

`read_until_delimiter` takes one byte at a time and stops at the delimiter: frames are read back
one after the other, and what follows them stays (`delimiter_round_trip`). `encode_frame` cuts
the length to the width of its prefix and says nothing, so a longer payload is read back short,
and its end as the next frame (`length_prefix_round_trip`).
-/
import Netanvil.Tcp.Framing
import Netanvil.Tcp.LaunchConfig

namespace Netanvil.Tcp

open Theory List Nat Reader
open TestServer

/-! ## Delimiters -/

/-- A read with room for one byte. The stream is what arrives at a time, and then closed. -/
def readByte : List (List UInt8) → Option (UInt8 × List (List UInt8))
  | [] => none
  | [] :: segments => readByte segments
  | (byte :: segment) :: segments => some (byte, segment :: segments)

/-- The loop of `read_until_delimiter` with room for so many bytes, and the stream it leaves. -/
def readBytes (delimiter : List UInt8) :
    Nat → List UInt8 → List (List UInt8) → Except String (List UInt8) × List (List UInt8)
  | 0, _, segments => (.error "response exceeded max_bytes before delimiter found", segments)
  | room + 1, accumulated, segments =>
    match readByte segments with
    | none => (.error "connection closed before delimiter found", [])
    | some (byte, left) =>
      if delimiter <:+ accumulated ++ [byte] then
        (.ok ((accumulated ++ [byte]).take (accumulated.length + 1 - delimiter.length)), left)
      else readBytes delimiter room (accumulated ++ [byte]) left

/-- `read_framed` with a delimiter. -/
def readDelimited (delimiter : List UInt8) (maxBytes : Nat) (segments : List (List UInt8)) :
    Except String (List UInt8) × List (List UInt8) :=
  if delimiter = [] then (.error "empty delimiter", segments)
  else readBytes delimiter maxBytes [] segments

/-- So many calls, as long as they succeed. -/
def readDelimitedTimes (delimiter : List UInt8) (maxBytes : Nat) :
    Nat → List (List UInt8) → List (List UInt8) × List (List UInt8)
  | 0, segments => ([], segments)
  | n + 1, segments =>
    match readDelimited delimiter maxBytes segments with
    | (.error _, left) => ([], left)
    | (.ok payload, left) =>
      let (payloads, left) := readDelimitedTimes delimiter maxBytes n left
      (payload :: payloads, left)

variable {delimiter payload accumulated rest data left : List UInt8} {segments : List (List UInt8)}
  {maxBytes room total : Nat}

/-- The pieces do not matter. -/
theorem readByte_eq (segments : List (List UInt8)) :
    (readByte segments).map (fun (byte, left) => byte :: left.flatten) =
      if segments.flatten = [] then none else some segments.flatten := by
  induction segments with
  | nil => rfl
  | cons segment segments ih =>
    cases segment with
    | nil => simpa [readByte] using ih
    | cons byte segment => simp [readByte]

theorem exists_readByte {byte : UInt8} (there : segments.flatten = byte :: rest) :
    ∃ left, readByte segments = some (byte, left) ∧ left.flatten = rest := by
  have read := readByte_eq segments
  rw [there, if_neg (cons_ne_nil _ _)] at read
  obtain ⟨⟨first, left⟩, taken, same⟩ := Option.map_eq_some_iff.mp read
  obtain ⟨rfl, rfl⟩ := cons.inj same
  exact ⟨left, taken, rfl⟩

/-- It finishes as the reader of a connection does on the same bytes. -/
theorem untilDelimiter_done_iff :
    (∃ total', untilDelimiter id delimiter maxBytes accumulated total segments.flatten =
        .done data total' rest) ↔
      ∃ left, readBytes delimiter (maxBytes - accumulated.length) accumulated segments =
        (.ok data, left) ∧ left.flatten = rest := by
  induction stream : segments.flatten generalizing segments accumulated total with
  | nil =>
    have closed := readByte_eq segments
    rw [stream, if_pos rfl, Option.map_eq_none_iff] at closed
    unfold untilDelimiter
    cases maxBytes - accumulated.length with
    | zero => split <;> simp [readBytes]
    | succ room => split <;> simp [readBytes, closed]
  | cons byte later ih =>
    obtain ⟨left, read, same⟩ := exists_readByte stream
    unfold untilDelimiter
    split
    · rename_i full
      simp [Nat.sub_eq_zero_of_le full, readBytes]
    · rename_i roomy
      have more :
          maxBytes - accumulated.length = maxBytes - (accumulated ++ [byte]).length + 1 := by
        rw [length_append, length_singleton]
        omega
      rw [more]
      simp only [readBytes, read, map_id]
      split
      · simp [same]
      · exact ih same

/-- With `accumulated` read and `left` to come of a frame that has the delimiter only at its end. -/
theorem readBytes_frame
    (once : ∀ part, part <+: payload ++ delimiter → delimiter <:+ part →
      part = payload ++ delimiter)
    (more : left ≠ []) (frame : accumulated ++ left = payload ++ delimiter)
    (there : segments.flatten = left ++ rest) (roomy : left.length ≤ room) :
    ∃ later, readBytes delimiter room accumulated segments = (.ok payload, later) ∧
      later.flatten = rest := by
  induction left generalizing accumulated segments room with
  | nil => exact absurd rfl more
  | cons byte left ih =>
    obtain ⟨later, read, same⟩ := exists_readByte there
    obtain ⟨room, rfl⟩ := exists_eq_succ_of_ne_zero (ne_zero_of_lt roomy)
    have here : accumulated ++ [byte] ++ left = payload ++ delimiter := by
      rw [← frame, append_assoc, singleton_append]
    simp only [readBytes, read]
    split
    · rename_i found
      have whole := once _ ⟨left, here⟩ found
      obtain rfl : left = [] := append_right_eq_self.mp (whole ▸ here)
      refine ⟨later, ?_, same⟩
      have lengths : accumulated.length + 1 = payload.length + delimiter.length := by
        simpa using congrArg length whole
      rw [whole, lengths, Nat.add_sub_cancel, take_left]
    · rename_i notYet
      have ahead : left ≠ [] := by
        rintro rfl
        rw [append_nil] at here
        exact notYet (here ▸ suffix_append _ _)
      exact ih ahead here same (le_of_succ_le_succ roomy)

/-- The first failed call has taken no more than there was room for. -/
theorem readBytes_fails
    (never : ∀ part, part <+: segments.flatten.take room → part ≠ [] →
      ¬ delimiter <:+ accumulated ++ part) :
    ∃ message left taken, readBytes delimiter room accumulated segments = (.error message, left) ∧
      segments.flatten = taken ++ left.flatten ∧ taken.length ≤ room := by
  induction room generalizing accumulated segments with
  | zero => exact ⟨_, _, [], rfl, rfl, le_rfl⟩
  | succ room ih =>
    cases stream : segments.flatten with
    | nil =>
      have closed := readByte_eq segments
      rw [stream, if_pos rfl, Option.map_eq_none_iff] at closed
      exact ⟨"connection closed before delimiter found", [], [],
        by simp only [readBytes, closed], rfl, zero_le _⟩
    | cons byte rest =>
      obtain ⟨later, read, same⟩ := exists_readByte stream
      rw [stream, take_succ_cons, ← same] at never
      have notYet : ¬ delimiter <:+ accumulated ++ [byte] := never [byte] (by simp) (by simp)
      have goesOn : ∀ part, part <+: later.flatten.take room → part ≠ [] →
          ¬ delimiter <:+ accumulated ++ [byte] ++ part := by
        intro part begins _ found
        exact never (byte :: part) (by simpa using begins) (by simp) (by simpa using found)
      obtain ⟨message, left, taken, fails, split, short⟩ := ih goesOn
      refine ⟨message, left, byte :: taken, ?_, ?_, succ_le_succ short⟩
      · simp only [readBytes, read, if_neg notYet, fails]
      · rw [← same, split, cons_append]

/-- **Frames with a delimiter are read back one after the other, in whatever pieces they arrive, and
what follows them stays; and a call that finds no delimiter takes no more than `maxBytes`.** -/
theorem delimiter_round_trip (proper : delimiter ≠ []) (maxBytes : Nat)
    (segments : List (List UInt8)) :
    (∀ payloads rest,
      (∀ p ∈ payloads,
        ReadsBack p (.delimiter delimiter) ∧ p.length + delimiter.length ≤ maxBytes) →
      segments.flatten = payloads.flatMap (encodeFrame · (.delimiter delimiter)) ++ rest →
      ∃ left, readDelimitedTimes delimiter maxBytes payloads.length segments = (payloads, left) ∧
        left.flatten = rest) ∧
    (¬ delimiter <:+: segments.flatten.take maxBytes →
      ∃ message left taken, readDelimited delimiter maxBytes segments = (.error message, left) ∧
        segments.flatten = taken ++ left.flatten ∧ taken.length ≤ maxBytes) := by
  constructor
  · intro payloads rest each there
    induction payloads generalizing segments with
    | nil => exact ⟨segments, rfl, there⟩
    | cons payload payloads ih =>
      obtain ⟨⟨once, short⟩, later⟩ := forall_mem_cons.mp each
      rw [flatMap_cons, append_assoc] at there
      have roomy : (payload ++ delimiter).length ≤ maxBytes := by
        rwa [length_append]
      obtain ⟨left, read, same⟩ := readBytes_frame
        (fun part begins found => (once part begins found).resolve_left proper)
        (append_ne_nil_of_right_ne_nil payload proper) (nil_append _) there roomy
      obtain ⟨left', reads, rests⟩ := ih left later same
      exact ⟨left', by simp [readDelimitedTimes, readDelimited, proper, read, reads], rests⟩
  · intro never
    rw [readDelimited, if_neg proper]
    refine readBytes_fails fun part begins _ found => never ?_
    exact found.isInfix.trans begins.isInfix

/-- Two lines and the beginning of a third, in three pieces. -/
theorem two_lines_read :
    ∃ left, readDelimitedTimes [13, 10] 8 2 [[65, 13], [10, 13, 66], [13, 10, 67]] =
        ([[65], [13, 66]], left) ∧ left.flatten = [67] := by
  have once : ∀ p ∈ ([[65], [13, 66]] : List (List UInt8)), p.length + 2 ≤ 8 ∧
      ∀ part ∈ (p ++ [13, 10]).inits, [13, 10] <:+ part → part = p ++ [13, 10] := by decide +kernel
  have proper : ([13, 10] : List UInt8) ≠ [] := by simp
  refine (delimiter_round_trip proper 8 _).1 [[65], [13, 66]] [67] (fun p mem => ⟨?_, ?_⟩) rfl
  · intro part begins found
    exact .inr ((once p mem).2 part ((mem_inits _ _).mpr begins) found)
  · exact (once p mem).1

/-! ## Length prefixes -/

/-- The frame is read back, whatever follows it, and its prefix is the length of the payload. -/
structure RoundTrips (payload : List UInt8) (width : UInt8) (maxBytes : Nat) : Prop where
  decodes : ∀ closed count total rest, readFramed id closed count (.lengthPrefixed width) maxBytes
      total (encodeFrame payload (.lengthPrefixed width) ++ rest) =
    .done payload (total + (encodeFrame payload (.lengthPrefixed width)).length) rest
  agrees : payloadLen width ((encodeFrame payload (.lengthPrefixed width)).take width.toNat) =
    some payload.length

variable {str : StrFunctions} {s delim : String} {width : UInt8}

theorem width_of_accepted (accepted : parseTcpFraming str s delim = .ok (.lengthPrefixed width)) :
    width = 1 ∨ width = 2 ∨ width = 4 := by
  unfold parseTcpFraming parseWidth parseSize at accepted
  split at accepted
  · cases accepted
  · split at accepted
    · split at accepted
      · cases accepted
      · split_ifs at accepted with supported
        cases accepted
        exact supported
    · split at accepted
      · cases accepted
      · split at accepted
        · split at accepted <;> cases accepted
        · cases accepted

/-- **A frame of an accepted width is read back exactly if the payload's length fits in the
prefix.** -/
theorem length_prefix_round_trip
    (accepted : parseTcpFraming str s delim = .ok (.lengthPrefixed width))
    (short : payload.length ≤ maxBytes) :
    RoundTrips payload width maxBytes ↔ payload.length < 2 ^ (8 * width.toNat) := by
  have supported := width_of_accepted accepted
  obtain ⟨header, splits, length, announces⟩ := payloadLen_encodeFrame payload supported
  have front : (encodeFrame payload (.lengthPrefixed width)).take width.toNat = header := by
    rw [splits, ← length, take_left]
  constructor
  · intro trips
    have agrees := trips.agrees
    rw [front, announces, Option.some_inj] at agrees
    rw [← agrees]
    exact mod_lt _ (by positivity)
  · intro fits
    rw [mod_eq_of_lt fits] at announces
    refine ⟨fun closed count total rest => ?_, front ▸ announces⟩
    have header_done : exactly width.toNat total (header ++ payload ++ rest) =
        .done header (total + width.toNat) (payload ++ rest) := by
      simp [exactly, ← length]
    rw [splits, readFramed, readLengthPrefixed, andThen_of_done header_done]
    simp [readPayload, announces, short.not_gt, exactly, length, add_assoc]

/-- `--framing length-prefix:2` -/
theorem two_byte_prefix_read_back :
    parseTcpFraming asciiStr "length-prefix:2" "\\r\\n" = .ok (.lengthPrefixed 2) ∧
      RoundTrips (replicate 256 65) 2 65536 := by
  have accepted : parseTcpFraming asciiStr "length-prefix:2" "\\r\\n" =
      .ok (.lengthPrefixed 2) := rfl
  have length : (replicate 256 (65 : UInt8)).length = 256 := length_replicate
  refine ⟨accepted, (length_prefix_round_trip accepted ?_).mpr ?_⟩ <;> rw [length] <;> decide

/-- `--framing length-prefix:1` with 256 bytes: the prefix is 0, and the payload stays on the
stream. -/
theorem payload_of_256_left :
    parseTcpFraming asciiStr "length-prefix:1" "\\r\\n" = .ok (.lengthPrefixed 1) ∧
      readFramed id false 1 (.lengthPrefixed 1) 65536 0
          (encodeFrame (replicate 256 65) (.lengthPrefixed 1)) =
        .done [] 1 (replicate 256 65) ∧
      ¬ RoundTrips (replicate 256 65) 1 65536 := by
  have cut : ∀ payload : List UInt8, payload.length = 256 →
      readFramed id false 1 (.lengthPrefixed 1) 65536 0
        (encodeFrame payload (.lengthPrefixed 1)) = .done [] 1 payload := by
    intro payload length
    simp [readFramed, readLengthPrefixed, andThen, exactly, encodeFrame, length,
      readPayload, payloadLen]
  have left := cut (replicate 256 65) length_replicate
  refine ⟨rfl, left, fun trips => ?_⟩
  have whole := trips.decodes false 1 0 []
  rw [append_nil, left] at whole
  cases whole

end Netanvil.Tcp
