/-
# Reading one reply off the stream

`readResponse` is `read_response` over what has arrived of the stream. It takes the byte after
a carriage return for a line feed and without a look at the limit (`bounded_iff`). `Encodes` is
the grammar of well-formed replies; a reply may hold text or numbers the client cannot
represent, and then reading it fails. With some part of a well-formed reply on the stream, a
read that finishes has read the whole reply and nothing else (`readResponse_whole`).
-/
import Netanvil.Redis.Executor
import Netanvil.Theory.Reading

namespace Netanvil.Redis

open Theory Reader List Option Nat

/-! ## Numbers -/

/-- A digit more. -/
def shiftIn (acc : Nat) (byte : UInt8) : Option Nat :=
  if 48 ≤ byte.toNat ∧ byte.toNat ≤ 57 then some (acc * 10 + (byte.toNat - 48)) else none

def digits : List UInt8 → Option Nat
  | [] => none
  | bytes => bytes.foldlM shiftIn 0

/-- The number a decimal numeral stands for. -/
def decimal : List UInt8 → Option Int
  | 43 :: bytes => (digits bytes).map Int.ofNat
  | 45 :: bytes => (digits bytes).map fun n => -Int.ofNat n
  | bytes => (digits bytes).map Int.ofNat

/-- `str::parse::<i64>`. -/
def parseI64 (bytes : List UInt8) : Option Int :=
  (decimal bytes).filter fun n => decide (-2 ^ 63 ≤ n ∧ n < 2 ^ 63)

/-! ## The reader -/

/-- The byte after a carriage return, whatever it is, ends the line. -/
def endLine (line : List UInt8) (total : Nat) : List UInt8 → Read UInt8 (List UInt8)
  | [] => .pending
  | _ :: rest => .done line (total + 2) rest

/-- The line without its end; `line` is what has been read of it. -/
def readLine (maxBytes : Nat) (line : List UInt8) (total : Nat) :
    List UInt8 → Read UInt8 (List UInt8)
  | [] => if maxBytes ≤ total then .failed "exceeded max_bytes reading RESP line" else .pending
  | byte :: rest =>
    if maxBytes ≤ total then .failed "exceeded max_bytes reading RESP line"
    else if byte = 13 then endLine line total rest
    else readLine maxBytes (line ++ [byte]) (total + 1) rest

section

-- `fromUtf8` is the standard library's `str::from_utf8`; of an error's text the part that
-- comes from a parse error of the library is left out
variable (fromUtf8 : List UInt8 → Option String) (maxBytes : Nat)

/-- The bytes of a bulk string and its line end. -/
def readBulk (len : Nat) : Reader UInt8 RespValue :=
  guarded (fun total => decide (maxBytes < total + len + 2))
    ("bulk string too large: " ++ toString len ++ " bytes")
    ((exactly (len + 2)).andThen fun data =>
      .give (.bulkString (some (data.take len))))

/-- Go on with the number the payload is. -/
def ofNumber (message : String) (payload : List UInt8) (next : Int → Reader UInt8 RespValue) :
    Reader UInt8 RespValue :=
  match parseI64 payload with
  | none => .fail message
  | some n => next n

/-- The cases of the type byte; `element` reads an element of an array. -/
def ofPayload (element : Reader UInt8 RespValue) (typeByte : UInt8) (payload : List UInt8)
    (text : String) : Reader UInt8 RespValue :=
  if typeByte = 43 then .give (.simpleString text)
  else if typeByte = 45 then .give (.error text)
  else if typeByte = 58 then
    ofNumber "bad integer" payload fun n => .give (.integer (.ofInt n))
  else if typeByte = 36 then
    ofNumber "bad bulk length" payload fun len =>
      if len < 0 then .give (.bulkString none) else readBulk maxBytes len.toNat
  else if typeByte = 42 then
    ofNumber "bad array count" payload fun count =>
      if count < 0 then .give (.array [])
      else (element.times count.toNat).andThen fun elements => .give (.array elements)
  else .fail "unknown RESP type byte"

def ofLine (element : Reader UInt8 RespValue) : List UInt8 → Reader UInt8 RespValue
  | [] => .fail "empty RESP line"
  | typeByte :: payload =>
    match fromUtf8 payload with
    | none => .fail "non-UTF8 RESP line"
    | some text => ofPayload maxBytes element typeByte payload text

/-- `depth` bounds how deep arrays are followed. -/
def readValue : Nat → Reader UInt8 RespValue
  | 0 => fun _ _ => .pending
  | depth + 1 => andThen (readLine maxBytes []) (ofLine fromUtf8 maxBytes (readValue depth))

/-- No array nests deeper than the stream is long (`readValue_depth`). -/
def readResponse (stream : List UInt8) : Read UInt8 RespValue :=
  readValue fromUtf8 maxBytes (stream.length + 1) 0 stream

end

/-! ## Later bytes change nothing -/

theorem readLine_stable (maxBytes : Nat) (stream : List UInt8) :
    ∀ line total value total' rest,
      readLine maxBytes line total stream = .done value total' rest →
        (rest <:+ stream ∧ rest.length < stream.length) ∧
          ∀ more, readLine maxBytes line total (stream ++ more) =
            .done value total' (rest ++ more) := by
  induction stream with
  | nil =>
    intro line total value total' rest finished
    unfold readLine at finished
    split at finished <;> cases finished
  | cons byte stream ih =>
    intro line total value total' rest finished
    unfold readLine at finished
    by_cases full : maxBytes ≤ total
    · rw [if_pos full] at finished; cases finished
    rw [if_neg full] at finished
    by_cases ends : byte = 13
    · rw [if_pos ends] at finished
      cases stream with
      | nil => cases finished
      | cons feed stream =>
        cases finished
        refine ⟨⟨⟨[byte, feed], rfl⟩, by simp only [length_cons]; omega⟩, fun more => ?_⟩
        rw [cons_append, readLine, if_neg full, if_pos ends]
        rfl
    · rw [if_neg ends] at finished
      obtain ⟨⟨suffix, shorter⟩, extended⟩ := ih _ _ _ _ _ finished
      refine ⟨⟨suffix.trans (suffix_cons _ _), lt_succ_of_lt shorter⟩, fun more => ?_⟩
      rw [cons_append, readLine, if_neg full, if_neg ends]
      exact extended more

theorem stable_readLine (maxBytes : Nat) : Stable (readLine maxBytes []) := by
  intro total stream value total' rest finished
  obtain ⟨⟨suffix, -⟩, extended⟩ := readLine_stable _ _ _ _ _ _ _ finished
  exact ⟨suffix, extended⟩

variable {fromUtf8 : List UInt8 → Option String} {maxBytes : Nat}

theorem stable_readBulk (len : Nat) : Stable (readBulk maxBytes len) :=
  ((stable_exactly _).andThen fun _ => stable_give _).guarded _ _

variable {next : Int → Reader UInt8 RespValue} {P : RespValue → Prop}
  {element element' : Reader UInt8 RespValue} {n depth acc : Nat}
  {bytes payload body e : List UInt8}

/-- What holds of the readers that a line can lead to holds of the line's reader. -/
theorem ofLine_related (element' : Reader UInt8 RespValue)
    {P : Reader UInt8 RespValue → Reader UInt8 RespValue → Prop}
    (gives : ∀ value, P (.give value) (.give value))
    (fails : ∀ message, P (.fail message) (.fail message))
    (bulk : ∀ len, P (readBulk maxBytes len) (readBulk maxBytes len))
    (elements : ∀ count, P ((element.times count).andThen fun values => .give (.array values))
      ((element'.times count).andThen fun values => .give (.array values)))
    (line : List UInt8) :
    P (ofLine fromUtf8 maxBytes element line) (ofLine fromUtf8 maxBytes element' line) := by
  cases line with
  | nil => exact fails _
  | cons typeByte payload =>
    have number : ∀ message next next', (∀ k, P (next k) (next' k)) →
        P (ofNumber message payload next) (ofNumber message payload next') := by
      intro message next next' holds
      unfold ofNumber
      cases parseI64 payload with
      | none => exact fails _
      | some k => exact holds k
    simp only [ofLine]
    cases fromUtf8 payload with
    | none => exact fails _
    | some text =>
      unfold ofPayload
      split_ifs
      · exact gives _
      · exact gives _
      · exact number _ _ _ fun k => gives _
      · refine number _ _ _ fun len => ?_
        split_ifs
        · exact gives _
        · exact bulk _
      · refine number _ _ _ fun count => ?_
        split_ifs
        · exact gives _
        · exact elements _
      · exact fails _

theorem stable_ofLine (stable : Stable element) (line : List UInt8) :
    Stable (ofLine fromUtf8 maxBytes element line) :=
  ofLine_related element (P := fun r _ => Stable r) stable_give stable_fail stable_readBulk
    (fun count => (stable.times count).andThen fun _ => stable_give _) line

theorem stable_readValue (depth : Nat) : Stable (readValue fromUtf8 maxBytes depth) := by
  induction depth with
  | zero =>
    intro total stream value total' rest finished
    cases finished
  | succ depth ih => exact (stable_readLine _).andThen fun line => stable_ofLine ih line

/-- A line's payload uses the reader of elements only for what comes after it. -/
theorem agreeBelow_ofLine (stable : Stable element)
    (agree : AgreeBelow n element element') (line : List UInt8) :
    AgreeBelow n (ofLine fromUtf8 maxBytes element line)
      (ofLine fromUtf8 maxBytes element' line) := by
  refine ofLine_related element' (fun _ _ _ _ => rfl) (fun _ _ _ _ => rfl) (fun _ _ _ _ => rfl)
    ?_ line
  intro count
  exact .andThen (stable.times count) (.times stable agree count) fun _ _ _ _ => rfl

/-- Following arrays deeper than the stream is long makes no difference. -/
theorem readValue_depth (depth depth' : Nat) (total : Nat) (stream : List UInt8)
    (short : stream.length < depth) (short' : stream.length < depth') :
    readValue fromUtf8 maxBytes depth total stream =
      readValue fromUtf8 maxBytes depth' total stream := by
  induction depth generalizing depth' total stream with
  | zero => exact absurd short (not_lt_zero _)
  | succ depth ih =>
    cases depth' with
    | zero => exact absurd short' (not_lt_zero _)
    | succ depth' =>
      -- the line takes at least one byte, so one level less is enough for what follows
      simp only [readValue, andThen]
      cases taken : readLine maxBytes [] total stream with
      | pending | failed message => rfl
      | done line read rest =>
        obtain ⟨⟨-, shorter⟩, -⟩ := readLine_stable _ _ _ _ _ _ _ taken
        refine agreeBelow_ofLine (n := rest.length + 1) (stable_readValue depth) ?_ line
          read rest (lt_succ_self _)
        intro total stream within
        exact ih depth' total stream (by omega) (by omega)

variable (fromUtf8 maxBytes) in
/-- A reply from here on, however deep its arrays nest. -/
def readNext : Reader UInt8 RespValue := fun total stream =>
  readValue fromUtf8 maxBytes (stream.length + 1) total stream

/-- `read_value` calls itself for the elements. -/
theorem readNext_eq : readNext fromUtf8 maxBytes =
    andThen (readLine maxBytes []) (ofLine fromUtf8 maxBytes (readNext fromUtf8 maxBytes)) := by
  funext total stream
  simp only [readNext, readValue, andThen]
  cases taken : readLine maxBytes [] total stream with
  | pending | failed message => rfl
  | done line read rest =>
    obtain ⟨⟨-, shorter⟩, -⟩ := readLine_stable _ _ _ _ _ _ _ taken
    refine agreeBelow_ofLine (stable_readValue _) ?_ line read rest shorter
    intro total stream short
    exact readValue_depth _ _ _ _ short (lt_succ_self _)

/-! ## Well-formed replies -/

def crlf : List UInt8 := [13, 10]

/-- The bytes are a well-formed reply, which stands for the value if the client can
represent it. -/
inductive Encodes (fromUtf8 : List UInt8 → Option String) : List UInt8 → RespValue → Prop where
  | simpleString (text : List UInt8) (string : String) (line : 13 ∉ text ∧ 10 ∉ text)
      (read : ∀ s, fromUtf8 text = some s → s = string) :
      Encodes fromUtf8 (43 :: text ++ crlf) (.simpleString string)
  | error (text : List UInt8) (message : String) (line : 13 ∉ text ∧ 10 ∉ text)
      (read : ∀ s, fromUtf8 text = some s → s = message) :
      Encodes fromUtf8 (45 :: text ++ crlf) (.error message)
  | integer (numeral : List UInt8) (n : Int) (number : decimal numeral = some n) :
      Encodes fromUtf8 (58 :: numeral ++ crlf) (.integer (.ofInt n))
  | bulkString (numeral data : List UInt8) (number : decimal numeral = some data.length) :
      Encodes fromUtf8 (36 :: numeral ++ crlf ++ (data ++ crlf)) (.bulkString (some data))
  | nullBulkString : Encodes fromUtf8 (36 :: [45, 49] ++ crlf) (.bulkString none)
  | array (numeral : List UInt8) (elements : List (List UInt8)) (values : List RespValue)
      (number : decimal numeral = some elements.length)
      (all : Forall₂ (Encodes fromUtf8) elements values) :
      Encodes fromUtf8 (42 :: numeral ++ crlf ++ elements.flatten) (.array values)
  | nullArray : Encodes fromUtf8 (42 :: [45, 49] ++ crlf) (.array [])

theorem not_mem_of_foldlM (value : bytes.foldlM shiftIn acc = some n) : 13 ∉ bytes := by
  induction bytes generalizing acc with
  | nil => exact not_mem_nil
  | cons byte bytes ih =>
    rw [foldlM_cons, bind_eq_bind, bind_eq_some_iff] at value
    obtain ⟨next, digit, value⟩ := value
    intro present
    rcases mem_cons.mp present with rfl | later
    · exact absurd digit (by simp [shiftIn])
    · exact ih value later

theorem not_mem_of_digits (value : digits bytes = some n) : 13 ∉ bytes := by
  cases bytes with
  | nil => exact not_mem_nil
  | cons byte bytes => exact not_mem_of_foldlM value

/-- A numeral fits in a line. -/
theorem not_mem_of_decimal {n : Int} (value : decimal bytes = some n) : 13 ∉ bytes := by
  unfold decimal at value
  split at value <;> obtain ⟨n, value, -⟩ := map_eq_some_iff.mp value <;>
    simpa using not_mem_of_digits value

theorem readLine_reads (maxBytes : Nat) (text : List UInt8) (noReturn : 13 ∉ text) :
    ∀ line, ReadsOff (readLine maxBytes line) (text ++ crlf) (· = line ++ text) := by
  induction text with
  | nil =>
    intro line total rest value total' rest' finished
    rw [nil_append, crlf, cons_append, readLine] at finished
    split at finished
    · cases finished
    · rw [if_pos rfl] at finished
      cases finished
      exact ⟨(append_nil line).symm, rfl, rfl⟩
  | cons byte text ih =>
    obtain ⟨proper, noReturn⟩ := not_or.mp (fun either => noReturn (mem_cons.mpr either))
    intro line total rest value total' rest' finished
    rw [cons_append, cons_append, readLine] at finished
    split at finished
    · cases finished
    · rw [if_neg (Ne.symm proper)] at finished
      obtain ⟨rfl, rfl, rfl⟩ := ih noReturn _ _ _ _ _ _ finished
      refine ⟨by rw [append_assoc, singleton_append], ?_, rfl⟩
      simp only [cons_append, length_cons]
      omega

theorem ofNumber_reads {n : Int} (message : String)
    (number : decimal payload = some n) (reads : ReadsOff (next n) body P) :
    ReadsOff (ofNumber message payload next) body P := by
  unfold ofNumber
  cases read : parseI64 payload with
  | none => exact readsOff_fail _ _ _
  | some m =>
    obtain ⟨same, -⟩ := filter_eq_some_iff.mp read
    cases same.symm.trans number
    exact reads

/-- A reply's first line, then what its payload announces. -/
theorem readValue_reads_line {typeByte : UInt8}
    (noReturn : 13 ∉ typeByte :: payload) (reads : ∀ text, fromUtf8 payload = some text →
      ReadsOff (ofPayload maxBytes (readValue fromUtf8 maxBytes depth) typeByte payload text)
        body P) :
    ReadsOff (readValue fromUtf8 maxBytes (depth + 1))
      (typeByte :: payload ++ crlf ++ body) P := by
  refine (readLine_reads maxBytes _ noReturn []).andThen ?_
  rintro _ rfl
  show ReadsOff (ofLine fromUtf8 maxBytes _ (typeByte :: payload)) body P
  simp only [ofLine]
  cases text : fromUtf8 payload with
  | none => exact readsOff_fail _ _ _
  | some string => exact reads string text

theorem readValue_reads {value : RespValue} (depth : Nat) (encodes : Encodes fromUtf8 e value) :
    ReadsOff (readValue fromUtf8 maxBytes depth) e (· = value) := by
  -- one level of arrays at a time; the elements are read at the depth below
  induction depth generalizing e value with
  | zero =>
    intro total rest value' total' rest' finished
    cases finished
  | succ depth ih =>
    cases encodes with
    | simpleString text string line read | error text string line read =>
      rw [← append_nil (_ :: text ++ crlf)]
      refine readValue_reads_line (by simp [line.1]) fun s utf8 => ?_
      exact readsOff_give (by rw [read s utf8])
    | integer numeral n number =>
      rw [← append_nil (58 :: numeral ++ crlf)]
      refine readValue_reads_line (by simp [not_mem_of_decimal number]) fun s utf8 => ?_
      exact ofNumber_reads _ number (readsOff_give rfl)
    | bulkString numeral data number =>
      refine readValue_reads_line (by simp [not_mem_of_decimal number]) fun s utf8 => ?_
      refine ofNumber_reads _ number ?_
      rw [if_neg (by omega), Int.toNat_natCast]
      refine ReadsOff.guarded ?_ _ _
      have length : data.length + 2 = (data ++ crlf).length := by simp [crlf]
      rw [← append_nil (data ++ crlf), length]
      refine (readsOff_exactly (data ++ crlf)).andThen ?_
      rintro _ rfl
      exact readsOff_give (by rw [take_left])
    | nullBulkString | nullArray =>
      have number : decimal [45, 49] = some (-1) := by decide
      generalize ([45, 49] : List UInt8) = numeral at number ⊢
      rw [← append_nil (_ :: numeral ++ crlf)]
      refine readValue_reads_line (by simp [not_mem_of_decimal number]) fun s utf8 => ?_
      refine ofNumber_reads _ number ?_
      rw [if_pos (by decide)]
      exact readsOff_give rfl
    | array numeral elements values number all =>
      refine readValue_reads_line (by simp [not_mem_of_decimal number]) fun s utf8 => ?_
      refine ofNumber_reads _ number ?_
      rw [if_neg (by omega), Int.toNat_natCast]
      rw [← append_nil elements.flatten]
      refine (readsOff_times (all.imp fun e value encodes => ih encodes)).andThen ?_
      rintro _ rfl
      exact readsOff_give rfl

/-- A read that finishes with part of a well-formed reply on the stream has read all of
it. -/
theorem readResponse_whole {e stream rest : List UInt8} {value value' : RespValue} {total : Nat}
    (encodes : Encodes fromUtf8 e value) (part : stream <+: e)
    (finished : readResponse fromUtf8 maxBytes stream = .done value' total rest) :
    stream = e ∧ value' = value ∧ total = e.length ∧ rest = [] := by
  unfold readResponse at finished
  obtain ⟨whole, same, read, nothing⟩ :=
    (readValue_reads (stream.length + 1) encodes).whole (stable_readValue _) part finished
  exact ⟨whole, same, by rw [read, zero_add], nothing⟩

/-- **What a read has taken for a reply is well-formed exactly if the stream starts with a
well-formed reply.** -/
theorem reply_well_formed {stream rest : List UInt8} {value : RespValue} {total : Nat}
    (finished : readResponse fromUtf8 maxBytes stream = .done value total rest) :
    Encodes fromUtf8 (stream.take total) value ↔
      ∃ reply sent, reply <+: stream ∧ Encodes fromUtf8 reply sent := by
  refine ⟨fun encodes => ⟨_, value, take_prefix _ _, encodes⟩, ?_⟩
  rintro ⟨reply, sent, ⟨later, rfl⟩, encodes⟩
  obtain ⟨rfl, rfl, -⟩ := readValue_reads _ encodes _ _ _ _ _ finished
  rwa [zero_add, take_left]

theorem ok_read :
    Encodes (fun _ => some "OK") [43, 79, 75, 13, 10] (.simpleString "OK") := by
  have finished : readResponse (fun _ => some "OK") 5 [43, 79, 75, 13, 10] =
      .done (.simpleString "OK") 5 [] := rfl
  exact (reply_well_formed finished).mpr
    ⟨_, _, prefix_rfl, .simpleString [79, 75] "OK" (by decide) (by simp)⟩

/-- What follows a carriage return is taken for a line feed. -/
theorem line_feed_trusted :
    readResponse (fun _ => some "OK") 5 [43, 79, 75, 13, 88] = .done (.simpleString "OK") 5 [] ∧
      ¬ Encodes (fun _ => some "OK") [43, 79, 75, 13, 88] (.simpleString "OK") := by
  refine ⟨rfl, fun encodes => ?_⟩
  generalize sent : ([43, 79, 75, 13, 88] : List UInt8) = bytes at encodes
  cases encodes with
  | simpleString text string line read =>
    have last := congrArg getLast? sent
    rw [getLast?_append] at last
    simp [crlf] at last

/-- With nothing on the stream no read finishes. -/
theorem readResponse_nil (maxBytes : Nat) (value : RespValue) (total : Nat) (rest : List UInt8) :
    readResponse fromUtf8 maxBytes [] ≠ .done value total rest := by
  intro finished
  obtain ⟨line, read, left, taken, -⟩ := andThen_done finished
  obtain ⟨⟨-, shorter⟩, -⟩ := readLine_stable _ _ _ _ _ _ _ taken
  exact not_lt_zero _ shorter

/-! ## How much is read -/

theorem readLine_counts (line : List UInt8) : Counts (readLine maxBytes line) := by
  intro total stream value total' rest finished
  fun_induction readLine maxBytes line total stream with
  | case1 | case2 | case3 => cases finished
  | case4 line total left => cases left <;> grind [endLine]
  | case5 line total byte left room goesOn ih => grind

theorem readBulk_counts (len : Nat) : Counts (readBulk maxBytes len) := by
  unfold readBulk guarded andThen exactly
  intro total stream value total' rest finished
  grind [give]

theorem readValue_counts (depth : Nat) : Counts (readValue fromUtf8 maxBytes depth) := by
  induction depth with
  | zero => rintro _ _ _ _ _ ⟨⟩
  | succ depth ih =>
    exact (readLine_counts []).andThen (ofLine_related (readValue fromUtf8 maxBytes depth)
      (P := fun r _ => Counts r) counts_give counts_fail readBulk_counts
      fun count => (ih.times count).andThen fun _ => counts_give _)

/-! ## Where it waits -/

theorem readLine_final (line : List UInt8) : Final (readLine maxBytes line) := by
  intro total stream message failed more
  fun_induction readLine maxBytes line total stream with
  | case1 line total full => cases more <;> simpa [readLine, full] using failed
  | case2 => cases failed
  | case3 line total byte left full => simpa [readLine, full] using failed
  | case4 line total left => cases left <;> cases failed
  | case5 line total byte left room goesOn ih =>
    rw [cons_append, readLine, if_neg room, if_neg goesOn]
    exact ih failed

theorem readValue_final (depth : Nat) : Final (readValue fromUtf8 maxBytes depth) := by
  induction depth with
  | zero => rintro _ _ _ ⟨⟩
  | succ depth ih =>
    refine (readLine_final []).andThen (stable_readLine _)
      (ofLine_related (readValue fromUtf8 maxBytes depth)
        (P := fun r _ => Final r) final_give final_fail (fun len => ?_) fun count => ?_)
    · exact ((final_exactly _).andThen (stable_exactly _) fun _ => final_give _).guarded _ _
    · exact (ih.times (stable_readValue _) count).andThen ((stable_readValue _).times count)
        fun _ => final_give _

theorem readLine_line {text : List UInt8} (noReturn : 13 ∉ text) (line rest : List UInt8)
    (total : Nat) (room : total + text.length < maxBytes) :
    readLine maxBytes line total (text ++ 13 :: rest) =
      endLine (line ++ text) (total + text.length) rest := by
  induction text generalizing line total with
  | nil => rw [nil_append, readLine, if_neg (by simpa using room), if_pos rfl, append_nil]; rfl
  | cons byte text ih =>
    rw [mem_cons, not_or] at noReturn
    rw [length_cons] at room
    rw [cons_append, readLine, if_neg (by omega), if_neg (Ne.symm noReturn.1),
      ih noReturn.2 _ _ (by omega), append_assoc, singleton_append, length_cons]
    congr 1
    omega

/-- With all bytes up to the limit there, a line that has not ended fails. -/
theorem exists_return {line stream : List UInt8} {total : Nat}
    (limit : total + stream.length = maxBytes)
    (goes : ∀ message, readLine maxBytes line total stream ≠ .failed message) :
    ∃ text rest, 13 ∉ text ∧ stream = text ++ 13 :: rest := by
  induction stream generalizing line total with
  | nil => exact absurd (by rw [readLine, if_pos (by simpa using limit.ge)]) (goes _)
  | cons byte stream ih =>
    rw [length_cons] at limit
    rw [readLine, if_neg (by omega)] at goes
    by_cases ends : byte = 13
    · exact ⟨[], stream, not_mem_nil, by rw [ends, nil_append]⟩
    · rw [if_neg ends] at goes
      obtain ⟨text, rest, noReturn, rfl⟩ := ih (by omega) goes
      exact ⟨byte :: text, rest, by simp [noReturn, Ne.symm ends], rfl⟩

variable (fromUtf8) in
/-- How many bytes and how many replies a line says come after it. -/
def announced : List UInt8 → Option (Nat × Nat)
  | [] => none
  | typeByte :: payload =>
    if fromUtf8 payload = none then none
    else if typeByte = 43 ∨ typeByte = 45 then some (0, 0)
    else if typeByte = 58 then (parseI64 payload).map fun _ => (0, 0)
    else if typeByte = 36 then
      (parseI64 payload).map fun len => (if len < 0 then 0 else len.toNat + 2, 0)
    else if typeByte = 42 then (parseI64 payload).map fun count => (0, count.toNat)
    else none

variable (fromUtf8) in
/-- With so many replies still to come, the bytes go up to the carriage return of a line. -/
inductive AtReturn : Nat → List UInt8 → Prop where
  | here {owed : Nat} {text : List UInt8} (line : 13 ∉ text) : AtReturn (owed + 1) (text ++ [13])
  | later {owed replies : Nat} {feed : UInt8} {text data rest : List UInt8} (line : 13 ∉ text)
      (tells : announced fromUtf8 text = some (data.length, replies))
      (there : AtReturn (replies + owed) rest) :
      AtReturn (owed + 1) (text ++ 13 :: feed :: (data ++ rest))

/-- What follows a line is what the line announces. -/
theorem ofLine_pending {owed total : Nat} {rest : List UInt8}
    (limit : total + rest.length = maxBytes) (line : List UInt8) :
    (ofLine fromUtf8 maxBytes element line).andThen (fun _ => element.times owed) total rest =
        .pending ↔
      ∃ skip replies, announced fromUtf8 line = some (skip, replies) ∧ skip ≤ rest.length ∧
        element.times (replies + owed) (total + skip) (rest.drop skip) = .pending := by
  cases line with
  | nil => simp [ofLine, announced, fail, andThen]
  | cons typeByte payload =>
    simp only [ofLine, announced]
    cases fromUtf8 payload with
    | none => simp [fail, andThen]
    | some text =>
      simp only [ofPayload, reduceCtorEq, if_false]
      by_cases plain : typeByte = 43 ∨ typeByte = 45
      · rcases plain with rfl | rfl <;> simp [give, andThen]
      rw [if_neg plain]
      rw [not_or] at plain
      rw [if_neg plain.1, if_neg plain.2]
      simp only [ofNumber]
      split_ifs with integer bulk array
      · cases parseI64 payload <;> simp [give, fail, andThen]
      · cases parseI64 payload with
        | none => simp [fail, andThen]
        | some len =>
          by_cases null : len < 0
          · simp [null, give, andThen]
          · by_cases fits : len.toNat + 2 ≤ rest.length
            · have accepts : ¬ maxBytes < total + len.toNat + 2 := by omega
              simp [null, readBulk, guarded, accepts, exactly, andThen, give, fits, fits.not_gt]
            · have refuses : maxBytes < total + len.toNat + 2 := by omega
              simp [null, readBulk, guarded, refuses, andThen, fits]
      · cases parseI64 payload with
        | none => simp [fail, andThen]
        | some count =>
          by_cases null : count < 0
          · simp [null, give, andThen, Int.toNat_of_nonpos null.le]
          · simp [null, andThen_assoc, times_pending, andThen_pending, give]
      · simp [fail, andThen]

/-- At the limit a reader of replies waits exactly behind the carriage return of a line. -/
theorem waits_iff {owed total : Nat} {stream : List UInt8}
    (limit : total + stream.length = maxBytes) :
    (readNext fromUtf8 maxBytes).times owed total stream = .pending ↔
      AtReturn fromUtf8 owed stream := by
  -- one line at a time, over what is left of the stream
  induction size : stream.length using Nat.strong_induction_on generalizing owed total stream with
  | _ size ih =>
    subst size
    cases owed with
    | zero => exact ⟨by rintro ⟨⟩, by rintro ⟨⟩⟩
    | succ owed =>
      rw [times_succ_pending, readNext_eq, andThen_assoc, ← readNext_eq]
      constructor
      · intro waiting
        obtain ⟨text, rest, noReturn, rfl⟩ :
            ∃ text rest, 13 ∉ text ∧ stream = text ++ 13 :: rest := by
          refine exists_return limit (?_ : ∀ message, readLine maxBytes [] total stream ≠ _)
          intro message failed
          simp [andThen, failed] at waiting
        simp only [length_append, length_cons] at limit
        have taken := readLine_line noReturn [] rest total (show _ < maxBytes by omega)
        cases rest with
        | nil => exact .here noReturn
        | cons feed rest =>
          rw [length_cons] at limit
          rw [andThen_of_done taken] at waiting
          obtain ⟨skip, replies, tells, enough, waiting⟩ := (ofLine_pending (by omega) _).mp waiting
          rw [← take_append_drop skip rest]
          refine .later noReturn (by rwa [length_take_of_le enough]) ?_
          exact (ih _ (by simp; omega) (by rw [length_drop]; omega) rfl).mp waiting
      · intro returns
        cases returns with
        | @here _ text noReturn =>
          rw [length_append, length_singleton] at limit
          have taken := readLine_line noReturn [] [] total (show _ < maxBytes by omega)
          exact andThen_pending.mpr (.inl taken)
        | @later _ replies feed text data rest noReturn tells there =>
          simp only [length_append, length_cons] at limit
          have taken := readLine_line noReturn [] (feed :: (data ++ rest)) total
            (show _ < maxBytes by omega)
          rw [andThen_of_done taken]
          refine (ofLine_pending (by simp; omega) _).mpr ⟨_, _, tells, by simp, ?_⟩
          rw [drop_left]
          exact (ih _ (by simp; omega) (by omega) rfl).mpr there

variable (fromUtf8 maxBytes) (stream : List UInt8)

/-- The reader takes the first `k` bytes: it still waits before each. -/
def Takes (k : Nat) : Prop :=
  ∀ j < k, readResponse fromUtf8 maxBytes (stream.take j) = .pending

/-- At most `maxBytes` bytes are taken, whatever becomes of the read, and a reply that is returned
is no longer. -/
def Bounded : Prop :=
  ∀ k ≤ stream.length, Takes fromUtf8 maxBytes stream k → k ≤ maxBytes ∧
    ∀ value total rest, readResponse fromUtf8 maxBytes (stream.take k) = .done value total rest →
      total ≤ maxBytes

/-- Byte number `maxBytes` is the carriage return of a line, and another one follows. -/
def ReturnAtLimit : Prop := maxBytes < stream.length ∧ AtReturn fromUtf8 1 (stream.take maxBytes)

/-- **The reader keeps to `maxBytes` exactly if byte number `maxBytes` is not the carriage return of
a line: the byte after it is taken without a look at the limit.** -/
theorem bounded_iff :
    Bounded fromUtf8 maxBytes stream ↔ ¬ReturnAtLimit fromUtf8 maxBytes stream := by
  have waits : maxBytes ≤ stream.length →
      (readResponse fromUtf8 maxBytes (stream.take maxBytes) = .pending ↔
        AtReturn fromUtf8 1 (stream.take maxBytes)) := by
    intro inside
    have full : 0 + (stream.take maxBytes).length = maxBytes := by
      rw [length_take_of_le inside, zero_add]
    rw [← waits_iff full]
    simp [times, andThen_pending, give, readResponse, readNext]
  constructor
  · rintro bounded ⟨longer, returns⟩
    have pending := (waits longer.le).mpr returns
    refine absurd (bounded _ longer fun j earlier => ?_).1 (not_succ_le_self _)
    obtain ⟨more, split⟩ : stream.take j <+: stream.take maxBytes :=
      take_prefix_take_left (by omega)
    rw [readResponse, ← split] at pending
    rw [readResponse, readValue_depth _ ((stream.take j ++ more).length + 1) _ _ (lt_succ_self _)
      (by rw [length_append]; omega)]
    exact (readValue_final _).waits (stable_readValue _) pending
  · intro noReturn k inside takes
    have size : (stream.take k).length = k := length_take_of_le inside
    have fits : k ≤ maxBytes := by
      by_contra! over_
      exact noReturn ⟨by omega, (waits (by omega)).mp (takes maxBytes over_)⟩
    refine ⟨fits, fun value total rest finished => ?_⟩
    have count := readValue_counts _ _ _ _ _ _ finished
    omega

/-- Five bytes are returned under a limit of four. -/
theorem five_bytes_of_four :
    readResponse (fun _ => some "OK") 4 [43, 79, 75, 13, 10] = .done (.simpleString "OK") 5 [] :=
  rfl

end Netanvil.Redis
