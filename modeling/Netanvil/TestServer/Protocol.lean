/-
# The v2 header the test server reads from a TCP client

The parser accepts every size, latency and error rate; `parseHeader_encodeHeader` says that the
header the TCP executor writes is one it reads back, field by field.
-/
import Mathlib.Tactic
import Netanvil.Tcp.Spec

namespace Netanvil.TestServer

open Tcp

inductive Mode where
  | rr
  | sink
  | source
  | bidir
  | crr
  deriving DecidableEq

def Mode.ofByte (byte : UInt8) : Option Mode :=
  if byte = 0x01 then some .rr
  else if byte = 0x02 then some .sink
  else if byte = 0x03 then some .source
  else if byte = 0x04 then some .bidir
  else if byte = 0x05 then some .crr
  else none

structure ParsedHeader where
  mode : Mode
  requestSize : UInt16
  responseSize : UInt32
  latencyUs : Option UInt32
  errorRate : Option UInt32
  deriving DecidableEq

/-- First byte of a protocol header. -/
def versionV2 : UInt8 := 0xF0

def headerMin : Nat := 10

def isProtocolSentinel (firstByte : UInt8) : Bool := decide (versionV2 ≤ firstByte)

/-- `u16::from_be_bytes`. -/
def ofBeBytes16 (a b : UInt8) : UInt16 := UInt16.ofNat (a.toNat * 2 ^ 8 + b.toNat)

/-- `u32::from_be_bytes`. -/
def ofBeBytes32 (a b c d : UInt8) : UInt32 :=
  UInt32.ofNat (a.toNat * 2 ^ 24 + b.toNat * 2 ^ 16 + c.toNat * 2 ^ 8 + d.toNat)

/-- An optional field at `offset`. The outer `none` is an index out of range, the inner one a
header that is refused. -/
def fieldAt (buf : List UInt8) (present : Bool) (headerLen offset : Nat) :
    Option (Option (Option UInt32 × Nat)) :=
  if present then
    if headerLen < offset + 4 then some none
    else do
      let value := ofBeBytes32 (← buf[offset]?) (← buf[offset + 1]?) (← buf[offset + 2]?)
        (← buf[offset + 3]?)
      return some (some value, offset + 4)
  else some (some (none, offset))

/-- `parse_header`; the outer `none` is an index out of range. The first ten bytes are there once
the length has been checked. -/
def parseIndexed (buf : List UInt8) : Option (Option ParsedHeader) :=
  match buf with
  | version :: len :: modeByte :: flags :: q₁ :: q₀ :: r₃ :: r₂ :: r₁ :: r₀ :: _ =>
    if isProtocolSentinel version = false then some none
    else if len.toNat < headerMin ∨ buf.length < len.toNat then some none
    else
      match Mode.ofByte modeByte with
      | none => some none
      | some mode => do
        let some (latencyUs, offset) ← fieldAt buf (flags &&& 0x02 != 0) len.toNat headerMin
          | return none
        let some (errorRate, _) ← fieldAt buf (flags &&& 0x04 != 0) len.toNat offset
          | return none
        return some ⟨mode, ofBeBytes16 q₁ q₀, ofBeBytes32 r₃ r₂ r₁ r₀, latencyUs, errorRate⟩
  | _ => some none

/-- No index is out of range (`parseIndexed_spec`). -/
def parseHeader (buf : List UInt8) : Option ParsedHeader := (parseIndexed buf).join

def parseHeaderWithOffset (buf : List UInt8) : Option (Option (ParsedHeader × Nat)) :=
  match buf with
  | _ :: len :: _ => (parseIndexed buf).map (·.map fun header => (header, len.toNat))
  | _ => some none

/-! ## Reading back what the executor writes -/

/-- The server's word for a client's mode. -/
def Mode.ofTest : (mode : TcpTestMode) → mode ≠ .echo → Mode
  | .rr, _ => .rr
  | .sink, _ => .sink
  | .source, _ => .source
  | .bidir, _ => .bidir
  | .crr, _ => .crr

/-- The fields a request's header announces. -/
def announced (spec : TcpRequestSpec) (headed : spec.mode ≠ .echo) : ParsedHeader :=
  ⟨.ofTest spec.mode headed, spec.requestSize, spec.responseSize, spec.latencyUs, spec.errorRate⟩

theorem ofByte_modeByte (mode : TcpTestMode) (headed : mode ≠ .echo) :
    Mode.ofByte (modeByte mode headed) = some (.ofTest mode headed) := by
  cases mode with
  | echo => exact absurd rfl headed
  | rr | sink | source | bidir | crr => rfl

theorem ofBeBytes16_bytes (n : UInt16) : ofBeBytes16 (n >>> 8).toUInt8 n.toUInt8 = n := by
  apply UInt16.toNat_inj.mp
  have bound := n.toNat_lt
  have high : (n >>> 8).toUInt8.toNat = n.toNat / 2 ^ 8 % 2 ^ 8 := by
    simp [Nat.shiftRight_eq_div_pow]
  have low : n.toUInt8.toNat = n.toNat % 2 ^ 8 := by simp
  rw [ofBeBytes16, high, low, UInt16.toNat_ofNat']
  omega

theorem ofBeBytes32_bytes (n : UInt32) :
    ofBeBytes32 (n >>> 24).toUInt8 (n >>> 16).toUInt8 (n >>> 8).toUInt8 n.toUInt8 = n := by
  apply UInt32.toNat_inj.mp
  have bound := n.toNat_lt
  have byte₃ : (n >>> 24).toUInt8.toNat = n.toNat / 2 ^ 24 % 2 ^ 8 := by
    simp [Nat.shiftRight_eq_div_pow]
  have byte₂ : (n >>> 16).toUInt8.toNat = n.toNat / 2 ^ 16 % 2 ^ 8 := by
    simp [Nat.shiftRight_eq_div_pow]
  have byte₁ : (n >>> 8).toUInt8.toNat = n.toNat / 2 ^ 8 % 2 ^ 8 := by
    simp [Nat.shiftRight_eq_div_pow]
  have byte₀ : n.toUInt8.toNat = n.toNat % 2 ^ 8 := by simp
  rw [ofBeBytes32, byte₃, byte₂, byte₁, byte₀, UInt32.toNat_ofNat']
  omega

theorem flag_bits : (4 &&& 2 : UInt8) = 0 ∧ (2 &&& 4 : UInt8) = 0 ∧ ((2 ||| 4) &&& 2 : UInt8) = 2 ∧
    ((2 ||| 4) &&& 4 : UInt8) = 4 := by
  decide

theorem parseHeader_encodeHeader (spec : TcpRequestSpec) (headed : spec.mode ≠ .echo) :
    parseHeader (encodeHeader spec headed) = some (announced spec headed) := by
  -- the flags and the announced length depend only on which optional fields are there
  rcases latency : spec.latencyUs with _ | us <;> rcases error : spec.errorRate with _ | rate
  all_goals
    simp [parseHeader, parseIndexed, encodeHeader, announced, beBytes16, beBytes32, latency, error,
      flag_bits, ofByte_modeByte, ofBeBytes16_bytes, ofBeBytes32_bytes, isProtocolSentinel,
      versionV2, headerMin, fieldAt]

/-- The header announces its own length. -/
theorem encodeHeader_shape (spec : TcpRequestSpec) (headed : spec.mode ≠ .echo) :
    ∃ len rest, encodeHeader spec headed = 0xF0 :: len :: rest ∧
      len.toNat = (encodeHeader spec headed).length ∧ headerMin ≤ len.toNat := by
  refine ⟨_, _, rfl, ?_⟩
  cases latency : spec.latencyUs <;> cases error : spec.errorRate <;>
    simp [encodeHeader, beBytes16, beBytes32, latency, error, headerMin]

/-! ## No index is out of range -/

theorem fieldAt_inside {buf : List UInt8} {headerLen : Nat} (inside : headerLen ≤ buf.length)
    (present : Bool) (offset : Nat) :
    ∃ field, fieldAt buf present headerLen offset = some field := by
  unfold fieldAt
  split_ifs with _ short
  · exact ⟨_, rfl⟩
  · have within : ∀ k < headerLen, buf[k]? = some (buf.getD k 0) := by
      intro k small
      grind
    simp only [within offset (by omega), within (offset + 1) (by omega),
      within (offset + 2) (by omega), within (offset + 3) (by omega), Option.bind_eq_bind,
      Option.bind_some]
    exact ⟨_, rfl⟩
  · exact ⟨_, rfl⟩

theorem parseIndexed_spec (buf : List UInt8) :
    ∃ parsed, parseIndexed buf = some parsed ∧ ∀ header, parsed = some header →
      10 ≤ (buf.getD 1 0).toNat ∧ (buf.getD 1 0).toNat ≤ buf.length := by
  unfold parseIndexed
  split
  next version len modeByte flags q₁ q₀ r₃ r₂ r₁ r₀ rest =>
    split_ifs with _ refused
    · exact ⟨_, rfl, by simp⟩
    · exact ⟨_, rfl, by simp⟩
    obtain ⟨long, inside⟩ := not_or.mp refused |>.imp not_lt.mp not_lt.mp
    cases Mode.ofByte modeByte with
    | none => exact ⟨_, rfl, by simp⟩
    | some mode =>
      obtain ⟨_ | ⟨latencyUs, offset⟩, latency⟩ :=
        fieldAt_inside inside (flags &&& 0x02 != 0) headerMin
      · simp [latency]
      obtain ⟨_ | ⟨errorRate, _⟩, error⟩ := fieldAt_inside inside (flags &&& 0x04 != 0) offset
      · simp [latency, error]
      · simpa [latency, error] using ⟨long, inside⟩
  next => exact ⟨_, rfl, by simp⟩

theorem parseHeaderWithOffset_spec (buf : List UInt8) :
    ∃ parsed, parseHeaderWithOffset buf = some parsed ∧ ∀ header offset,
      parsed = some (header, offset) →
        offset = (buf.getD 1 0).toNat ∧ 10 ≤ offset ∧ offset ≤ buf.length := by
  obtain ⟨parsed, indexed, bounds⟩ := parseIndexed_spec buf
  unfold parseHeaderWithOffset
  split
  · rw [indexed]
    refine ⟨_, rfl, fun header offset found => ?_⟩
    obtain ⟨header, rfl, same⟩ := Option.map_eq_some_iff.mp found
    cases same
    exact ⟨rfl, bounds header rfl⟩
  · exact ⟨_, rfl, by simp⟩

/-- **The header the executor writes is read back, whatever follows it, and no part of it is taken
for a header. No buffer makes the parser panic, or point past its end.** -/
theorem header_round_trip :
    (∀ (spec : TcpRequestSpec) (headed : spec.mode ≠ .echo),
      (∀ rest, parseHeaderWithOffset (encodeHeader spec headed ++ rest) =
        some (some (announced spec headed, (encodeHeader spec headed).length))) ∧
      ∀ part, part <+: encodeHeader spec headed → part ≠ encodeHeader spec headed →
        parseHeaderWithOffset part = some none) ∧
    ∀ buf, ∃ parsed, parseHeaderWithOffset buf = some parsed ∧ ∀ header offset,
      parsed = some (header, offset) → 10 ≤ offset ∧ offset ≤ buf.length := by
  refine ⟨?_, ?_⟩
  · intro spec headed
    refine ⟨fun rest => ?_, fun part starts strict => ?_⟩
    · rcases latency : spec.latencyUs with _ | us <;> rcases error : spec.errorRate with _ | rate
      all_goals
        simp [parseHeaderWithOffset, parseIndexed, encodeHeader, announced, beBytes16, beBytes32,
          latency, error, flag_bits, ofByte_modeByte, ofBeBytes16_bytes, ofBeBytes32_bytes,
          isProtocolSentinel, versionV2, headerMin, fieldAt]
    obtain ⟨_ | ⟨header, offset⟩, parsed, bounds⟩ := parseHeaderWithOffset_spec part
    · exact parsed
    · obtain ⟨rfl, long, inside⟩ := bounds header offset rfl
      obtain ⟨len, tail, shape, length, -⟩ := encodeHeader_shape spec headed
      have announced : part.getD 1 0 = len := by
        have second := List.prefix_iff_getElem?.mp starts 1 (by omega)
        grind
      rw [announced, length] at inside
      exact absurd (starts.eq_of_length_le inside) strict
  · intro buf
    obtain ⟨parsed, done, bounds⟩ := parseHeaderWithOffset_spec buf
    exact ⟨parsed, done, fun header offset found => (bounds header offset found).2⟩

end Netanvil.TestServer
