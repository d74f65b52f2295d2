/-
# Payloads in hexadecimal

`encode_hex` writes a payload for the agents, `decode_hex` and `resolve_payload` read one on the
command line and `decode_hex_bytes` on an agent. The decoders slice the string every two bytes
and give the slices to `u8::from_str_radix`.

`hex_payloads_iff` says that every payload comes back, which strings the command line refuses as
it should, and on which strings the agent neither drops nor alters a digit.
-/
import Netanvil.Config.TestSpec
import Netanvil.Theory.Slices

namespace Netanvil.Config

open List Option Theory Theory.Slices

/-! ## The functions -/

/-- `char::to_digit(16)`. -/
def toDigit (c : Char) : Option Nat :=
  if '0' ≤ c ∧ c ≤ '9' then some (c.toNat - 48)
  else if 'a' ≤ c ∧ c ≤ 'f' then some (c.toNat - 87)
  else if 'A' ≤ c ∧ c ≤ 'F' then some (c.toNat - 55)
  else none

/-- `u8::from_str_radix(s, 16)`, which allows a plus sign. -/
def fromStrRadix (s : List Char) : Option UInt8 := do
  let digits := if s.head? = some '+' then s.tail else s
  guard (digits ≠ [])
  let value ← digits.foldlM (fun n c => do
    let digit ← toDigit c
    guard (16 * n + digit < 256)
    return 16 * n + digit) 0
  return UInt8.ofNat value

/-- Two digits for each byte. -/
def hexPairs (bytes : List UInt8) : List Char :=
  bytes.flatMap fun b => [(b.toNat / 16).digitChar, (b.toNat % 16).digitChar]

def encodeHex (bytes : List UInt8) : String := String.ofList (hexPairs bytes)

/-- `char::is_whitespace`. -/
def isWhitespace (c : Char) : Bool :=
  let n := c.toNat
  9 ≤ n && n ≤ 13 || 8192 ≤ n && n ≤ 8202 ||
    n ∈ [32, 133, 160, 5760, 8232, 8233, 8239, 8287, 12288]

def clean (s : String) : List Char := s.toList.filter (!isWhitespace ·)

/-- `(0..len).step_by(2)`. -/
def offsets (len : Nat) : List Nat := range' 0 ((len + 1) / 2) 2

/-- A slice that is not there is a panic. -/
def readPair (message : String) : Option (List Char) → Except SpecFailure UInt8
  | none => .error .panic
  | some pair =>
    match fromStrRadix pair with
    | none => .error (.error message)
    | some byte => .ok byte

def decodePairs (describe : Nat → String) (s : String) : Except SpecFailure (List UInt8) :=
  (offsets (size (clean s))).mapM fun i => readPair (describe i) (slice i 2 (clean s))

def decodeHex : String → Except SpecFailure (List UInt8) :=
  decodePairs fun i => "hex decode at " ++ toString i ++ ": invalid digit found in string"

/-- `read` is the file system. -/
def resolvePayload (read : String → Option (List UInt8)) (text hex file : Option String) :
    Except SpecFailure (List UInt8) :=
  match text, hex, file with
  | some t, _, _ =>
    .ok (((t.replace "\\r" "\r").replace "\\n" "\n").replace "\\t" "\t").toUTF8.toList
  | none, some h, _ => decodePairs (fun i => "invalid hex at position " ++ toString i) h
  | none, none, some path =>
    match read path with
    | none => .error (.error ("failed to read payload file: " ++ path))
    | some bytes => .ok bytes
  | none, none, none => .ok []

/-- A pair that is no number is left out. -/
def keepPair (len i : Nat) (pair : Option (List Char)) : Except SpecFailure (Option UInt8) :=
  if i + 2 ≤ len then
    match pair with
    | none => .error .panic
    | some pair => .ok (fromStrRadix pair)
  else .ok none

def keptPairs (s : List Char) : Except SpecFailure (List (Option UInt8)) :=
  (offsets (size s)).mapM fun i => keepPair (size s) i (slice i 2 s)

def decodeHexBytes (hex : String) : Except SpecFailure (List UInt8) :=
  if hex.isEmpty then .ok [] else (keptPairs hex.toList).map reduceOption

/-! ## Digits -/

/-- An even number of digits. -/
inductive IsHex : List Char → Prop
  | nil : IsHex []
  | cons {a b : Char} {s : List Char} (high : (toDigit a).isSome) (low : (toDigit b).isSome)
      (rest : IsHex s) : IsHex (a :: b :: s)

variable {c a b : Char} {n k : Nat} {s p : List Char} {bytes : List UInt8}

theorem toDigit_spec (digit : toDigit c = some n) : n < 16 ∧ c.utf8Size = 1 := by
  rw [Char.utf8Size_eq_one_iff, UInt32.le_iff_toNat_le]
  simp only [toDigit, Char.le_def, UInt32.le_iff_toNat_le, Char.toNat] at digit
  split_ifs at digit <;> cases digit <;> simp at * <;> omega

theorem map_toDigit_cons (byte : UInt8) :
    (hexPairs (byte :: bytes)).map toDigit =
      some (byte.toNat / 16) :: some (byte.toNat % 16) :: (hexPairs bytes).map toDigit := by
  have table : ∀ n < 16, toDigit n.digitChar = some n := by decide
  have := byte.toNat_lt
  simp [hexPairs, table (byte.toNat / 16) (by omega), table (byte.toNat % 16) (by omega)]

theorem clean_encodeHex (bytes : List UInt8) : clean (encodeHex bytes) = hexPairs bytes := by
  have table : ∀ n < 16, isWhitespace n.digitChar = false := by decide
  rw [clean, encodeHex, String.toList_ofList]
  induction bytes with
  | nil => rfl
  | cons byte bytes ih =>
    have := byte.toNat_lt
    simpa [hexPairs, table (byte.toNat / 16) (by omega), table (byte.toNat % 16) (by omega)]
      using ih

theorem fromStrRadix_digits (high : toDigit a = some n) (low : toDigit b = some k) :
    fromStrRadix [a, b] = some (UInt8.ofNat (16 * n + k)) := by
  have unsigned : a ≠ '+' := by
    rintro rfl
    cases high
  have := (toDigit_spec high).1
  have := (toDigit_spec low).1
  simp [fromStrRadix, unsigned, high, low, show n < 256 by omega, show 16 * n + k < 256 by omega]

theorem isHex_iff : IsHex s ↔ ∃ bytes, (hexPairs bytes).map toDigit = s.map toDigit := by
  constructor
  · intro hex
    induction hex with
    | nil => exact ⟨[], rfl⟩
    | cons high low rest ih =>
      obtain ⟨n, high⟩ := isSome_iff_exists.mp high
      obtain ⟨k, low⟩ := isSome_iff_exists.mp low
      obtain ⟨bytes, same⟩ := ih
      have := (toDigit_spec high).1
      have := (toDigit_spec low).1
      have value : (UInt8.ofNat (16 * n + k)).toNat = 16 * n + k := by
        rw [UInt8.toNat_ofNat']
        omega
      refine ⟨UInt8.ofNat (16 * n + k) :: bytes, ?_⟩
      rw [map_toDigit_cons, same, value, map_cons, map_cons, high, low,
        show (16 * n + k) / 16 = n by omega, show (16 * n + k) % 16 = k by omega]
  · rintro ⟨bytes, same⟩
    induction bytes generalizing s with
    | nil =>
      rw [map_eq_nil_iff.mp same.symm]
      exact .nil
    | cons byte bytes ih =>
      rw [map_toDigit_cons] at same
      obtain ⟨a, s, rfl, high, same⟩ := map_eq_cons_iff.mp same.symm
      obtain ⟨b, s, rfl, low, same⟩ := map_eq_cons_iff.mp same
      exact .cons (by rw [high]; rfl) (by rw [low]; rfl) (ih same.symm)

/-! ## The loops -/

/-- A string that is digits is read digit by digit. -/
theorem mapM_of_hex {β : Type} {f : Nat → Option (List Char) → Except SpecFailure β}
    {g : UInt8 → β} (same : (hexPairs bytes).map toDigit = s.map toDigit)
    (reads : ∀ i pair byte, i + 2 ≤ size (p ++ s) → fromStrRadix pair = some byte →
      f i (some pair) = .ok (g byte)) :
    (range' (size p) ((size s + 1) / 2) 2).mapM (fun i => f i (slice i 2 (p ++ s))) =
      .ok (bytes.map g) := by
  induction bytes generalizing p s with
  | nil =>
    rw [map_eq_nil_iff.mp same.symm]
    rfl
  | cons byte bytes ih =>
    rw [map_toDigit_cons] at same
    obtain ⟨a, s, rfl, high, same⟩ := map_eq_cons_iff.mp same.symm
    obtain ⟨b, s, rfl, low, same⟩ := map_eq_cons_iff.mp same
    have value := fromStrRadix_digits high low
    rw [Nat.div_add_mod, UInt8.ofNat_toNat] at value
    have wide : size [a, b] = 2 := by simp [size, (toDigit_spec high).2, (toDigit_spec low).2]
    have whole : size (a :: b :: s) = 2 + size s := wide ▸ size_append (p := [a, b])
    have first : slice (size p) 2 (p ++ a :: b :: s) = some [a, b] :=
      wide ▸ slice_append (r := [a, b])
    have rest := ih (p := p ++ [a, b]) same.symm fun i pair byte inside =>
      reads i pair byte (by rwa [append_assoc] at inside)
    rw [size_append, wide, append_assoc, cons_append, cons_append, nil_append] at rest
    rw [show (size (a :: b :: s) + 1) / 2 = (size s + 1) / 2 + 1 by omega, range'_succ, mapM_cons,
      first, reads _ _ _ (by rw [size_append]; omega) value, rest]
    rfl

/-- At the first even offset where there is no number there is a slice. -/
def Refused (s : List Char) : Prop :=
  ∃ i, (offsets (size s)).find? (fun i => ((slice i 2 s).bind fromStrRadix).isNone) = some i ∧
    (slice i 2 s).isSome

/-- A character lies across an even offset. -/
def Splits (s : List Char) : Prop := ∃ i ∈ offsets (size s), i + 2 ≤ size s ∧ slice i 2 s = none

variable {describe : Nat → String} {s : String}

theorem decodePairs_of_hex (same : (hexPairs bytes).map toDigit = (clean s).map toDigit) :
    decodePairs describe s = .ok bytes := by
  refine (mapM_of_hex (g := id) (p := []) (f := fun i => readPair (describe i)) same ?_).trans
    (by rw [List.map_id])
  intro i pair byte _ value
  rw [readPair, value]
  rfl

theorem decodePairs_refuses :
    (∃ message, decodePairs describe s = .error (.error message)) ↔ Refused (clean s) := by
  have fails (message : String) (pair : Option (List Char)) :
      (!(readPair message pair).isOk) = (pair.bind fromStrRadix).isNone := by
    cases pair with
    | none => rfl
    | some pair => cases value : fromStrRadix pair <;> simp [readPair, value] <;> rfl
  simp only [decodePairs, mapM_eq_error, fails]
  rw [exists_comm]
  refine exists_congr fun i => ?_
  rw [exists_and_left]
  refine and_congr_right fun first => ?_
  have other := find?_some first
  cases there : slice i 2 (clean s) with
  | none => simp [readPair]
  | some pair =>
    rw [there, bind_some, isNone_iff_eq_none] at other
    simp [readPair, other]

theorem decodeHexBytes_eq : decodeHexBytes s = (keptPairs s.toList).map reduceOption := by
  unfold decodeHexBytes
  split
  · rename_i empty
    rw [String.isEmpty_iff.mp empty]
    rfl
  · rfl

theorem decodeHexBytes_of_hex (same : (hexPairs bytes).map toDigit = s.toList.map toDigit) :
    decodeHexBytes s = .ok bytes := by
  have kept : keptPairs s.toList = .ok (bytes.map some) := by
    refine mapM_of_hex (p := []) same fun i pair byte inside value => ?_
    rw [keepPair, if_pos (by exact inside), value]
  rw [decodeHexBytes_eq, kept]
  show Except.ok ((bytes.map some).filterMap id) = .ok bytes
  rw [filterMap_map, Function.id_comp, filterMap_some]

theorem decodeHexBytes_panics : (∃ e, decodeHexBytes s = .error e) ↔ Splits s.toList := by
  have whole (kept : Except SpecFailure (List (Option UInt8))) :
      (∃ e, kept.map reduceOption = .error e) ↔ ∃ e, kept = .error e := by
    cases kept <;> simp [Except.map]
  rw [decodeHexBytes_eq, whole, keptPairs, mapM_fails, Splits]
  refine exists_congr fun i => and_congr_right fun _ => ?_
  unfold keepPair
  split
  · cases slice i 2 s.toList <;> simp [*]
  · simp [*]

/-! ## What comes back -/

/-- **Every payload comes back. The command line refuses a text that is no payload, and does not
panic, exactly if the first pair that is no number can be sliced. The agent neither drops nor
alters a digit exactly if the text is a payload, or it panics.** -/
theorem hex_payloads_iff (read : String → Option (List UInt8)) (file : Option String) :
    (∀ decode ∈ [decodeHex, fun hex => resolvePayload read none (some hex) file],
      (∀ bytes, decode (encodeHex bytes) = .ok bytes) ∧
        ∀ s, (¬ IsHex (clean s) → ∃ message, decode s = .error (.error message)) ↔
          IsHex (clean s) ∨ Refused (clean s)) ∧
    (∀ bytes, decodeHexBytes (encodeHex bytes) = .ok bytes) ∧
    ∀ s, (∀ bytes, decodeHexBytes s = .ok bytes →
        (encodeHex bytes).toList.map toDigit = s.toList.map toDigit) ↔
      IsHex s.toList ∨ Splits s.toList := by
  have pairs (describe : Nat → String) :
      (∀ bytes, decodePairs describe (encodeHex bytes) = .ok bytes) ∧
        ∀ s, (¬ IsHex (clean s) → ∃ message, decodePairs describe s = .error (.error message)) ↔
          IsHex (clean s) ∨ Refused (clean s) :=
    ⟨fun bytes => decodePairs_of_hex (by rw [clean_encodeHex]),
      fun s => by rw [decodePairs_refuses, or_iff_not_imp_left]⟩
  refine ⟨?_, fun bytes => decodeHexBytes_of_hex ?_, fun s => ?_⟩
  · simp only [forall_mem_cons, not_mem_nil, false_imp_iff, implies_true, and_true]
    exact ⟨pairs _, pairs _⟩
  · rw [encodeHex, String.toList_ofList]
  · simp only [encodeHex, String.toList_ofList, isHex_iff, ← decodeHexBytes_panics]
    constructor
    · intro faithful
      cases read : decodeHexBytes s with
      | error e => exact .inr ⟨e, rfl⟩
      | ok bytes => exact .inl ⟨bytes, faithful bytes read⟩
    · rintro (⟨bytes', same⟩ | ⟨e, panics⟩) bytes read
      · rw [decodeHexBytes_of_hex same] at read
        cases read
        exact same
      · rw [panics] at read
        cases read

/-- An odd number of digits is a panic; the agent drops what is no number. -/
theorem odd_digits_panic :
    ¬ IsHex (clean "123") ∧ decodeHex "123" = .error .panic ∧ decodeHexBytes "4g" = .ok [] := by
  have three : clean "123" = ['1', '2', '3'] := by decide +kernel
  refine ⟨?_, by decide +kernel, by decide +kernel⟩
  rw [three]
  rintro (_ | ⟨-, -, ⟨⟩⟩)

end Netanvil.Config
