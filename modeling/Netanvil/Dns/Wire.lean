/-
# Queries, and the test server's responses

`encodeQuery` writes the labels of a name with their lengths, each narrowed to a byte.
`decodeQuestion` and `decodeRecord` read a question and a record by the rules of RFC 1035. What was
asked is read back exactly if no label is longer than 63 bytes (`query_faithful`), and a longer one
is sent all the same. `buildResponse` answers any query of 12 bytes and more, with a message that
`decodeMessage` reads to its end (`response_faithful`).
-/
import Netanvil.TestServer.Protocol

namespace Netanvil.Dns

open Tcp TestServer List

/-! ## Queries -/

inductive DnsQueryType where
  | a | aaaa | mx | cname | txt | ns | soa | ptr | srv | any

def DnsQueryType.wireValue : DnsQueryType → UInt16
  | .a => 1
  | .aaaa => 28
  | .mx => 15
  | .cname => 5
  | .txt => 16
  | .ns => 2
  | .soa => 6
  | .ptr => 12
  | .srv => 33
  | .any => 255

/-- The name is given by its bytes. -/
structure DnsRequestSpec where
  queryName : List UInt8
  queryType : DnsQueryType
  recursion : Bool
  dnssec : Bool
  txid : UInt16

/-- The labels between the dots; empty ones are skipped. -/
def labels (name : List UInt8) : List (List UInt8) := (name.splitOn 46).filter (!·.isEmpty)

/-- A label and its length, as a byte. -/
def frame (label : List UInt8) : List UInt8 := label.length.toUInt8 :: label

def encodeDomainName (name : List UInt8) : List UInt8 := (labels name).flatMap frame ++ [0]

def question (spec : DnsRequestSpec) : List UInt8 :=
  encodeDomainName spec.queryName ++ beBytes16 spec.queryType.wireValue ++ beBytes16 1

/-- The root's OPT record, with the DO bit. -/
def optRecord : List UInt8 :=
  [0] ++ beBytes16 41 ++ beBytes16 4096 ++ [0, 0] ++ beBytes16 0x8000 ++ beBytes16 0

/-- A transaction id of 0 stands for a random one. -/
def queryId (random : UInt16) (spec : DnsRequestSpec) : UInt16 :=
  if spec.txid ≠ 0 then spec.txid else random

def queryHeader (random : UInt16) (spec : DnsRequestSpec) : List UInt8 :=
  beBytes16 (queryId random spec) ++ beBytes16 (if spec.recursion then 0x0100 else 0) ++
    beBytes16 1 ++ beBytes16 0 ++ beBytes16 0 ++ beBytes16 (if spec.dnssec then 1 else 0)

def additional (spec : DnsRequestSpec) : List UInt8 := if spec.dnssec then optRecord else []

def encodeQuery (random : UInt16) (spec : DnsRequestSpec) : List UInt8 :=
  queryHeader random spec ++ question spec ++ additional spec

/-! ## Reading a message -/

/-- The labels of a name, each of 1 to 63 bytes, and what follows the name. -/
def decodeName : List UInt8 → Option (List (List UInt8) × List UInt8)
  | [] => none
  | len :: bytes =>
    if len = 0 then some ([], bytes)
    else if 63 < len.toNat ∨ bytes.length < len.toNat then none
    else (decodeName (bytes.drop len.toNat)).map fun (names, rest) =>
      (bytes.take len.toNat :: names, rest)
termination_by bytes => bytes.length
decreasing_by simp

/-- Labels, type, class and what follows. -/
def decodeQuestion (bytes : List UInt8) :
    Option (List (List UInt8) × UInt16 × UInt16 × List UInt8) :=
  match decodeName bytes with
  | some (names, t₁ :: t₀ :: c₁ :: c₀ :: rest) =>
    some (names, ofBeBytes16 t₁ t₀, ofBeBytes16 c₁ c₀, rest)
  | _ => none

/-- The name of a record: its own labels, or a pointer to an offset of the message. -/
inductive Owner where
  | labels (names : List (List UInt8))
  | pointer (offset : Nat)
  deriving DecidableEq

def decodeOwner : List UInt8 → Option (Owner × List UInt8)
  | b₁ :: b₀ :: rest =>
    if 0xC0 ≤ b₁ then some (.pointer (256 * (b₁.toNat - 0xC0) + b₀.toNat), rest)
    else (decodeName (b₁ :: b₀ :: rest)).map fun (names, rest) => (.labels names, rest)
  | _ => none

/-- The labels of a record's name in its message. -/
def Owner.resolve (message : List UInt8) : Owner → Option (List (List UInt8))
  | .labels names => some names
  | .pointer offset => (decodeName (message.drop offset)).map Prod.fst

structure ResourceRecord where
  owner : Owner
  type : UInt16
  class_ : UInt16
  ttl : UInt32
  data : List UInt8
  deriving DecidableEq

def decodeRecord (bytes : List UInt8) : Option (ResourceRecord × List UInt8) :=
  match decodeOwner bytes with
  | some (owner, t₁ :: t₀ :: c₁ :: c₀ :: l₃ :: l₂ :: l₁ :: l₀ :: n₁ :: n₀ :: rest) =>
    let length := (ofBeBytes16 n₁ n₀).toNat
    if rest.length < length then none
    else some (⟨owner, ofBeBytes16 t₁ t₀, ofBeBytes16 c₁ c₀, ofBeBytes32 l₃ l₂ l₁ l₀,
      rest.take length⟩, rest.drop length)
  | _ => none

/-- So many of a section, and what follows. -/
def decodeMany {α : Type} (decode : List UInt8 → Option (α × List UInt8)) :
    Nat → List UInt8 → Option (List α × List UInt8)
  | 0, bytes => some ([], bytes)
  | n + 1, bytes => do
    let (a, rest) ← decode bytes
    let (more, rest) ← decodeMany decode n rest
    return (a :: more, rest)

structure Message where
  id : UInt16
  flags : UInt8 × UInt8
  questions : List (List (List UInt8) × UInt16 × UInt16)
  answers : List ResourceRecord
  authorities : List ResourceRecord
  additionals : List ResourceRecord

/-- A message that ends where the counts of its header say. -/
def decodeMessage : List UInt8 → Option Message
  | i₁ :: i₀ :: f₁ :: f₀ :: q₁ :: q₀ :: a₁ :: a₀ :: n₁ :: n₀ :: x₁ :: x₀ :: rest => do
    let asked bytes := (decodeQuestion bytes).map fun (names, t, c, rest) => ((names, t, c), rest)
    let (questions, rest) ← decodeMany asked (ofBeBytes16 q₁ q₀).toNat rest
    let (answers, rest) ← decodeMany decodeRecord (ofBeBytes16 a₁ a₀).toNat rest
    let (authorities, rest) ← decodeMany decodeRecord (ofBeBytes16 n₁ n₀).toNat rest
    let (additionals, rest) ← decodeMany decodeRecord (ofBeBytes16 x₁ x₀).toNat rest
    if rest = [] then
      return ⟨ofBeBytes16 i₁ i₀, (f₁, f₀), questions, answers, authorities, additionals⟩
    else none
  | _ => none

variable {names : List (List UInt8)} {rest label tail : List UInt8}

theorem length_byte (proper : label ≠ []) (short : label.length ≤ 63) :
    label.length.toUInt8.toNat = label.length ∧ label.length.toUInt8 ≠ 0 := by
  have positive := length_pos_iff.mpr proper
  have len : label.length.toUInt8.toNat = label.length := by simp; omega
  refine ⟨len, fun zero => ?_⟩
  simp [zero] at len
  omega

theorem decodeName_frames (proper : ∀ label ∈ names, label ≠ [])
    (short : ∀ label ∈ names, label.length ≤ 63) :
    decodeName (names.flatMap frame ++ 0 :: rest) = some (names, rest) := by
  induction names with
  | nil => simp [decodeName]
  | cons label names ih =>
    rw [forall_mem_cons] at proper short
    obtain ⟨len, nonzero⟩ := length_byte proper.1 short.1
    simp only [flatMap_cons, frame, cons_append, append_assoc, decodeName]
    rw [len, if_neg nonzero, if_neg (by simp; omega), drop_left, take_left, ih proper.2 short.2]
    rfl

/-- What is read back as it was is made of short labels. -/
theorem short_of_decodeName
    (decoded : decodeName (names.flatMap frame ++ tail) = some (names, rest)) :
    ∀ label ∈ names, label.length ≤ 63 := by
  induction names generalizing tail with
  | nil => simp
  | cons label names ih =>
    simp only [flatMap_cons, frame, cons_append, append_assoc, decodeName] at decoded
    split_ifs at decoded with zero long
    · cases decoded
    obtain ⟨⟨names', rest'⟩, later, same⟩ := Option.map_eq_some_iff.mp decoded
    simp only [Prod.mk.injEq, cons.injEq] at same
    obtain ⟨⟨taken, rfl⟩, rfl⟩ := same
    have length : label.length.toUInt8.toNat = label.length := by
      have cut := congrArg length taken
      rw [length_take] at cut
      omega
    rw [length, drop_left] at later
    exact forall_mem_cons.mpr ⟨by omega, ih later⟩

theorem labels_proper (name : List UInt8) : ∀ label ∈ labels name, label ≠ [] := by
  simp [labels]

theorem drop_encodeQuery (random : UInt16) (spec : DnsRequestSpec) :
    (encodeQuery random spec).drop 12 = question spec ++ additional spec := by
  simp [encodeQuery, queryHeader, beBytes16]

theorem question_append (spec : DnsRequestSpec) (tail : List UInt8) :
    question spec ++ tail = (labels spec.queryName).flatMap frame ++
      0 :: (beBytes16 spec.queryType.wireValue ++ (beBytes16 1 ++ tail)) := by
  simp [question, encodeDomainName]

theorem decodeQuestion_question (spec : DnsRequestSpec) (tail : List UInt8)
    (short : ∀ label ∈ labels spec.queryName, label.length ≤ 63) :
    decodeQuestion (question spec ++ tail) =
      some (labels spec.queryName, spec.queryType.wireValue, 1, tail) := by
  rw [question_append, decodeQuestion, decodeName_frames (labels_proper _) short]
  simp [beBytes16, ofBeBytes16_bytes]
  rfl

theorem decode_additional (spec : DnsRequestSpec) :
    decodeMany decodeRecord (if spec.dnssec then 1 else 0) (additional spec) =
      some (if spec.dnssec then [⟨.labels [], 41, 4096, 0x8000, []⟩] else [], []) := by
  have opt : decodeRecord optRecord = some (⟨.labels [], 41, 4096, 0x8000, []⟩, []) := by
    simp [decodeRecord, decodeOwner, decodeName, optRecord, beBytes16, ofBeBytes16, ofBeBytes32]
  cases dnssec : spec.dnssec with
  | false => simp [additional, dnssec, decodeMany]
  | true => simp [additional, dnssec, decodeMany, opt]

/-- **The question section is read back as the name's labels, the type and class IN exactly if every
label has at most 63 bytes, and what follows it as one OPT record with the DO bit, or as nothing
without `dnssec`.** -/
theorem query_faithful (random : UInt16) (spec : DnsRequestSpec) :
    (decodeQuestion ((encodeQuery random spec).drop 12) =
          some (labels spec.queryName, spec.queryType.wireValue, 1, additional spec) ∧
        decodeMany decodeRecord (if spec.dnssec then 1 else 0) (additional spec) =
          some (if spec.dnssec then [⟨.labels [], 41, 4096, 0x8000, []⟩] else [], [])) ↔
      ∀ label ∈ labels spec.queryName, label.length ≤ 63 := by
  rw [and_iff_left (decode_additional spec), drop_encodeQuery]
  constructor
  · intro decoded
    rw [question_append, decodeQuestion] at decoded
    split at decoded
    · rename_i name
      simp only [Option.some.injEq, Prod.mk.injEq] at decoded
      exact short_of_decodeName (decoded.1 ▸ name)
    · cases decoded
  · exact decodeQuestion_question spec _

/-- A name of one label of 256 bytes. -/
def longLabel : DnsRequestSpec := ⟨replicate 256 97, .a, true, true, 0x1234⟩

/-- A label of 256 bytes has the length byte 0: what is asked for is the root, and a type and class
that are letters of the name. -/
theorem long_label_asks_root :
    (decodeQuestion ((encodeQuery 0 longLabel).drop 12)).map (fun q => (q.1, q.2.1, q.2.2.1)) =
      some ([], 0x6161, 0x6161) := by
  have starts : (encodeQuery 0 longLabel).drop 12 =
      0 :: 97 :: 97 :: 97 :: 97 :: (encodeQuery 0 longLabel).drop 17 := by decide +kernel
  rw [starts, decodeQuestion, decodeName, if_pos rfl]
  rfl

/-! ## Responses -/

/-- `bytes[start..stop]`; `none` where it panics. -/
def slice (bytes : List UInt8) (start stop : Nat) : Option (List UInt8) :=
  if start ≤ stop ∧ stop ≤ bytes.length then some ((bytes.take stop).drop start) else none

/-- How far the loop over the question's labels goes. -/
def skipName : List UInt8 → Nat
  | [] => 0
  | len :: bytes => if len = 0 then 0 else 1 + len.toNat + skipName (bytes.drop len.toNat)
termination_by bytes => bytes.length
decreasing_by simp

/-- A compression pointer to this offset of the message. -/
def pointer (offset : UInt16) : List UInt8 := beBytes16 (0xC000 ||| offset)

/-- An A record of 127.0.0.1, with its name given by the pointer. -/
def answer : List UInt8 :=
  pointer 12 ++ beBytes16 1 ++ beBytes16 1 ++ beBytes32 60 ++ beBytes16 4 ++ [127, 0, 0, 1]

def buildResponse (query : List UInt8) : Option (List UInt8) := do
  let id ← slice query 0 2
  let flags ← query[2]?
  let qsectionEnd := min (12 + skipName (query.drop 12) + 1 + 4) query.length
  let section_ ← slice query 12 qsectionEnd
  return id ++ [0x80 ||| (flags &&& 0x01), 0x80] ++ [0, 1, 0, 1, 0, 0, 0, 0] ++ section_ ++ answer

theorem slice_append (front middle back : List UInt8) :
    slice (front ++ middle ++ back) front.length (front.length + middle.length) = some middle := by
  simp [slice, take_append]

theorem skipName_frames (proper : ∀ label ∈ names, label ≠ [])
    (short : ∀ label ∈ names, label.length ≤ 63) :
    skipName (names.flatMap frame ++ 0 :: rest) = (names.flatMap frame).length := by
  induction names with
  | nil => simp [skipName]
  | cons label names ih =>
    rw [forall_mem_cons] at proper short
    obtain ⟨len, nonzero⟩ := length_byte proper.1 short.1
    simp [frame, skipName, len, nonzero, ih proper.2 short.2]
    omega

/-- An address of the machine itself, under the name that stands at offset 12. -/
def localhostRecord : ResourceRecord := ⟨.pointer 12, 1, 1, 60, [127, 0, 0, 1]⟩

theorem decodeRecord_answer : decodeRecord answer = some (localhostRecord, []) := by
  decide +kernel

theorem buildResponse_encodeQuery (random : UInt16) (spec : DnsRequestSpec)
    (short : ∀ label ∈ labels spec.queryName, label.length ≤ 63) :
    buildResponse (encodeQuery random spec) =
      some (beBytes16 (queryId random spec) ++ [0x80 ||| if spec.recursion then 1 else 0, 0x80] ++
        [0, 1, 0, 1, 0, 0, 0, 0] ++ (question spec ++ answer)) := by
  have passed : 12 + skipName ((encodeQuery random spec).drop 12) + 1 + 4 =
      12 + (question spec).length := by
    rw [drop_encodeQuery, question_append, skipName_frames (labels_proper _) short]
    simp [question, encodeDomainName, beBytes16]
    omega
  have copied : slice (encodeQuery random spec) 12
      (min (12 + (question spec).length) (encodeQuery random spec).length) =
        some (question spec) := by
    have inside : (encodeQuery random spec).length =
        12 + (question spec).length + (additional spec).length := by
      simp [encodeQuery, queryHeader, beBytes16]
      omega
    rw [min_eq_left (by omega)]
    exact slice_append (queryHeader random spec) _ _
  have id : slice (encodeQuery random spec) 0 2 = some (beBytes16 (queryId random spec)) := by
    simp [slice, encodeQuery, queryHeader, beBytes16]
  have rd : ((if spec.recursion then (0x0100 : UInt16) else 0) >>> 8).toUInt8 &&& 0x01 =
      if spec.recursion then 1 else 0 := by
    cases spec.recursion <;> rfl
  have flags : (encodeQuery random spec)[2]? =
      some ((if spec.recursion then (0x0100 : UInt16) else 0) >>> 8).toUInt8 := rfl
  simp only [buildResponse, passed, copied, id, flags, Option.bind_eq_bind, Option.bind_some, rd]
  simp [beBytes16]

/-- **A query of at least 12 bytes is answered. The response to a query for labels of 1 to 63 bytes
has its id and its RD bit, its question section byte for byte, and by the counts of its header that
one question, one record and nothing else; the record's name is a pointer to the question's.** -/
theorem response_faithful :
    (∀ query : List UInt8, 12 ≤ query.length → (buildResponse query).isSome) ∧
      ∀ random spec, (∀ label ∈ labels spec.queryName, label.length ≤ 63) →
        ∃ response, buildResponse (encodeQuery random spec) = some response ∧
          question spec <+: response.drop 12 ∧
          decodeMessage response = some {
            id := queryId random spec
            flags := (0x80 ||| if spec.recursion then 1 else 0, 0x80)
            questions := [(labels spec.queryName, spec.queryType.wireValue, 1)]
            answers := [localhostRecord]
            authorities := []
            additionals := [] } ∧
          localhostRecord.owner = .pointer 12 ∧
          localhostRecord.owner.resolve response = some (labels spec.queryName) := by
  constructor
  · intro query long
    have flags : query[2]? = some (query[2]) := getElem?_eq_getElem (by omega)
    have named : 12 ≤ min (12 + skipName (query.drop 12) + 1 + 4) query.length := by omega
    simp only [buildResponse, slice, flags]
    rw [if_pos (by omega), if_pos ⟨named, min_le_right _ _⟩]
    rfl
  · intro random spec short
    refine ⟨_, buildResponse_encodeQuery random spec short, ?_, ?_, rfl, ?_⟩
    · exact prefix_append _ _
    · have one : (ofBeBytes16 0 1).toNat = 1 := by decide
      have zero : (ofBeBytes16 0 0).toNat = 0 := by decide
      simp [decodeMessage, beBytes16, one, zero, decodeMany, decodeQuestion_question spec _ short,
        decodeRecord_answer, ofBeBytes16_bytes]
    · show (decodeName (question spec ++ answer)).map Prod.fst = _
      rw [question_append, decodeName_frames (labels_proper _) short]
      rfl

end Netanvil.Dns
