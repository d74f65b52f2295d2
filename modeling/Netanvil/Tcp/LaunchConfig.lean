/-
# A test's mode and framing, as the command line and the agent read them

A test started with `netanvil test` reads the strings given for mode, framing and delimiter with
`parse_tcp_mode` and `parse_tcp_framing`. A leader checks the mode, and sends the mode and the
framing on as strings; `run_tcp_test` of the agent reads them again in its own way, and what it
does not know it takes for the default (`launched_through_leader`). Lower case and numbers are
read by the standard library, of which `StrFunctions` says what is needed.
-/
import Netanvil.Tcp.Spec

namespace Netanvil.Tcp

/-- What is used of `str`; `toLowercase` leaves the names of the modes as they are. -/
structure StrFunctions where
  toLowercase : String → String
  parseU8 : String → Except String UInt8
  parseUsize : String → Except String Nat
  lower_names : ∀ name ∈ ["rr", "stream", "sink", "maerts", "source", "bidir"],
    toLowercase name = name

/-- An error with its contexts, the outermost first. -/
abbrev Chain : Type := List String

def withContext {α : Type} (context : String) : Except Chain α → Except Chain α
  | .ok a => .ok a
  | .error causes => .error (context :: causes)

def stripPrefix (start s : String) : Option String :=
  if start.toList.isPrefixOf s.toList then some (String.ofList (s.toList.drop start.length))
  else none

/-- `replace` of a backslash followed by `letter`. -/
def replaceEscape (letter char : Char) : List Char → List Char
  | [] => []
  | [c] => [c]
  | c :: d :: rest =>
    if c = '\\' ∧ d = letter then char :: replaceEscape letter char rest
    else c :: replaceEscape letter char (d :: rest)

/-- The bytes of a delimiter, its escapes replaced. -/
def delimiterBytes (delimiter : String) : List UInt8 :=
  (replaceEscape 'n' '\n' (replaceEscape 'r' '\r' delimiter.toList)).flatMap String.utf8EncodeChar

/-! ## The command line -/

section

variable (str : StrFunctions)

def parseTcpMode (s : String) : Except Chain TcpTestMode :=
  let name := str.toLowercase s
  if name = "echo" then .ok .echo
  else if name = "rr" then .ok .rr
  else if name = "stream" ∨ name = "sink" then .ok .sink
  else if name = "maerts" ∨ name = "source" then .ok .source
  else if name = "bidir" then .ok .bidir
  else if name = "crr" then .ok .crr
  else .error
    ["unknown mode: " ++ name ++ ". Expected: echo, rr, stream, maerts, bidir, crr"]

def parseWidth (rest : String) : Except Chain TcpFraming :=
  match str.parseU8 rest with
  | .error e => .error ["length-prefix width must be 1, 2, or 4", e]
  | .ok width =>
    if width = 1 ∨ width = 2 ∨ width = 4 then .ok (.lengthPrefixed width)
    else .error ["length-prefix width must be 1, 2, or 4, got " ++ toString width]

def parseSize (rest : String) : Except Chain TcpFraming :=
  match str.parseUsize rest with
  | .error e => .error ["fixed size must be a number", e]
  | .ok size => .ok (.fixedSize size)

def parseTcpFraming (s delimiter : String) : Except Chain TcpFraming :=
  if s = "raw" then .ok .raw
  else
    match stripPrefix "length-prefix:" s with
    | some rest => parseWidth str rest
    | none =>
      if s = "delimiter" then .ok (.delimiter (delimiterBytes delimiter))
      else
        match stripPrefix "fixed:" s with
        | some rest => parseSize str rest
        | none => .error
            ["unknown framing: " ++ s ++
              ". Expected: raw, length-prefix:N, delimiter, fixed:N"]

/-! ## The leader and the agent -/

/-- What a leader sends of the three strings. -/
structure TcpProtocolConfig where
  mode : String
  framing : String

/-- The mode is checked and sent as it was given; the delimiter is not sent. -/
def leaderConfig (mode framing _delimiter : String) : Except Chain TcpProtocolConfig :=
  match withContext "invalid --mode" (parseTcpMode str mode) with
  | .ok _ => .ok ⟨mode, framing⟩
  | .error e => .error e

def agentMode (mode : String) : TcpTestMode :=
  if mode = "echo" then .echo
  else if mode = "rr" then .rr
  else if mode = "sink" ∨ mode = "stream" then .sink
  else if mode = "source" ∨ mode = "maerts" then .source
  else if mode = "bidir" then .bidir
  else .echo

def agentFraming (framing : String) : TcpFraming :=
  if framing = "raw" ∨ framing = "" then .raw
  else
    match stripPrefix "delimiter:" framing with
    | some rest => .delimiter (delimiterBytes rest)
    | none =>
      if framing = "delimiter" then .delimiter [13, 10]
      else
        match stripPrefix "length-prefix:" framing with
        | some rest => .lengthPrefixed ((str.parseU8 rest).toOption.getD 4)
        | none =>
          match stripPrefix "fixed:" framing with
          | some rest => .fixedSize ((str.parseUsize rest).toOption.getD 1024)
          | none => .raw

/-- The mode and the framing an agent runs a test with that was launched through a leader. -/
def launchedThroughLeader (mode framing delimiter : String) :
    Except Chain (TcpTestMode × TcpFraming) :=
  (leaderConfig str mode framing delimiter).map fun config =>
    (agentMode config.mode, agentFraming str config.framing)

end

/-! ## Where they agree -/

variable {str : StrFunctions}

/-- The mode is some spelling of `echo`, or one of the others in lower case, `crr` apart. -/
def ModeKept (str : StrFunctions) (mode : String) : Prop :=
  str.toLowercase mode = "echo" ∨
    mode ∈ ["rr", "stream", "sink", "maerts", "source", "bidir"]

/-- There is no delimiter, or it is CR LF. -/
def FramingKept (framing delimiter : String) : Prop :=
  framing = "delimiter" → delimiterBytes delimiter = [13, 10]

variable {mode s start framing delimiter : String}

theorem agentMode_of_unknown
    (unknown : mode ∉ ["rr", "stream", "sink", "maerts", "source", "bidir"]) :
    agentMode mode = .echo := by
  simp only [List.mem_cons, List.not_mem_nil, or_false, not_or] at unknown
  obtain ⟨rr, stream, sink, maerts, source, bidir⟩ := unknown
  simp [agentMode, rr, stream, sink, maerts, source, bidir]

theorem parseTcpMode_of_known
    (known : mode ∈ ["rr", "stream", "sink", "maerts", "source", "bidir"]) :
    parseTcpMode str mode = .ok (agentMode mode) := by
  have lower := str.lower_names mode known
  simp only [List.mem_cons, List.not_mem_nil, or_false] at known
  rcases known with rfl | rfl | rfl | rfl | rfl | rfl <;>
    simp [parseTcpMode, agentMode, lower]

theorem parseTcpMode_eq_echo :
    parseTcpMode str mode = .ok .echo ↔ str.toLowercase mode = "echo" := by
  constructor
  · intro parsed
    simp only [parseTcpMode] at parsed
    split_ifs at parsed with echo
    · exact echo
    all_goals cases parsed
  · intro echo
    simp [parseTcpMode, echo]

theorem agentMode_eq_iff {parsed : TcpTestMode} (accepted : parseTcpMode str mode = .ok parsed) :
    agentMode mode = parsed ↔ ModeKept str mode := by
  by_cases known : mode ∈ ["rr", "stream", "sink", "maerts", "source", "bidir"]
  · rw [parseTcpMode_of_known known] at accepted
    exact ⟨fun _ => .inr known, fun _ => Except.ok.inj accepted⟩
  · rw [agentMode_of_unknown known]
    constructor
    · rintro rfl
      exact .inl (parseTcpMode_eq_echo.mp accepted)
    · rintro (echo | known')
      · exact Except.ok.inj ((parseTcpMode_eq_echo.mpr echo).symm.trans accepted)
      · exact absurd known' known

theorem head?_of_stripPrefix {start rest : String} {a : Char}
    (found : stripPrefix start s = some rest) (first : start.toList.head? = some a) :
    s.toList.head? = some a := by
  unfold stripPrefix at found
  split at found
  · rename_i is
    obtain ⟨tail, eq⟩ := List.isPrefixOf_iff_prefix.mp is
    rw [← eq, List.head?_append, first]
    rfl
  · cases found

/-- A string does not start in two ways. -/
theorem stripPrefix_eq_none {a b : Char} (head : s.toList.head? = some a)
    (first : start.toList.head? = some b) (differ : a ≠ b) : stripPrefix start s = none := by
  by_contra found
  obtain ⟨rest, found⟩ := Option.ne_none_iff_exists'.mp found
  exact differ (Option.some.inj (head.symm.trans (head?_of_stripPrefix found first)))

theorem ne_of_head? {t : String} {a : Char} (head : s.toList.head? = some a)
    (other : t.toList.head? ≠ some a) : s ≠ t := by
  rintro rfl
  exact other head

theorem agentFraming_eq_iff {parsed : TcpFraming}
    (accepted : parseTcpFraming str framing delimiter = .ok parsed) :
    agentFraming str framing = parsed ↔ FramingKept framing delimiter := by
  unfold parseTcpFraming at accepted
  by_cases raw : framing = "raw"
  · subst raw
    rw [if_pos rfl] at accepted
    cases accepted
    simp [agentFraming, FramingKept]
  rw [if_neg raw] at accepted
  split at accepted
  · rename_i rest width
    have head := head?_of_stripPrefix width rfl
    have filled : framing ≠ "" := ne_of_head? head (by decide)
    have delim : framing ≠ "delimiter" := ne_of_head? head (by decide)
    have noDelim : stripPrefix "delimiter:" framing = none :=
      stripPrefix_eq_none head rfl (by decide)
    have given : agentFraming str framing =
        .lengthPrefixed ((str.parseU8 rest).toOption.getD 4) := by
      simp [agentFraming, raw, filled, delim, noDelim, width]
    refine iff_of_true ?_ fun is => absurd is delim
    unfold parseWidth at accepted
    split at accepted
    · cases accepted
    · rename_i n is
      split_ifs at accepted
      cases accepted
      rw [given, is]
      rfl
  · rename_i noWidth
    by_cases delim : framing = "delimiter"
    · subst delim
      rw [if_pos rfl] at accepted
      cases accepted
      have strip : stripPrefix "delimiter:" "delimiter" = none := by decide
      simp only [agentFraming, strip, FramingKept, String.reduceEq, or_self, if_false, if_true,
        TcpFraming.delimiter.injEq, forall_const]
      exact eq_comm
    rw [if_neg delim] at accepted
    split at accepted
    · rename_i rest size
      have head := head?_of_stripPrefix size rfl
      have filled : framing ≠ "" := ne_of_head? head (by decide)
      have noDelim : stripPrefix "delimiter:" framing = none :=
        stripPrefix_eq_none head rfl (by decide)
      have given : agentFraming str framing =
          .fixedSize ((str.parseUsize rest).toOption.getD 1024) := by
        simp [agentFraming, raw, filled, delim, noDelim, noWidth, size]
      refine iff_of_true ?_ fun is => absurd is delim
      unfold parseSize at accepted
      split at accepted
      · cases accepted
      · rename_i n is
        cases accepted
        rw [given, is]
        rfl
    · cases accepted

/-- Of the strings that a local test accepts, a test launched through a leader is run with the
mode and the framing of the local one exactly if both are kept. -/
theorem launched_through_leader {mode framing delimiter : String} {parsedMode : TcpTestMode}
    {parsedFraming : TcpFraming} (modeAccepted : parseTcpMode str mode = .ok parsedMode)
    (framingAccepted : parseTcpFraming str framing delimiter = .ok parsedFraming) :
    launchedThroughLeader str mode framing delimiter = .ok (parsedMode, parsedFraming) ↔
      ModeKept str mode ∧ FramingKept framing delimiter := by
  have sent : launchedThroughLeader str mode framing delimiter =
      .ok (agentMode mode, agentFraming str framing) := by
    simp [launchedThroughLeader, leaderConfig, modeAccepted, withContext, Except.map]
  rw [sent, ← agentMode_eq_iff modeAccepted, ← agentFraming_eq_iff framingAccepted]
  simp

/-- Letters and digits of ASCII. -/
def asciiStr : StrFunctions where
  toLowercase s := String.ofList (s.toList.map Char.toLower)
  parseU8 s :=
    if s.toList.all Char.isDigit then
      .ok (s.toList.foldl (fun n c => 10 * n + (c.toNat - '0'.toNat).toUInt8) 0)
    else .error "invalid digit found in string"
  parseUsize s :=
    if s.toList.all Char.isDigit then
      .ok (s.toList.foldl (fun n c => 10 * n + (c.toNat - '0'.toNat)) 0)
    else .error "invalid digit found in string"
  lower_names := by decide

/-- `netanvil leader --mode stream --framing length-prefix:2` -/
theorem launched_length_prefixed :
    ModeKept asciiStr "stream" ∧ FramingKept "length-prefix:2" "\\r\\n" ∧
      launchedThroughLeader asciiStr "stream" "length-prefix:2" "\\r\\n" =
        .ok (.sink, .lengthPrefixed 2) := by
  have mode : ModeKept asciiStr "stream" := .inr (by decide)
  have framing : FramingKept "length-prefix:2" "\\r\\n" := fun is => absurd is (by decide)
  exact ⟨mode, framing, (launched_through_leader rfl rfl).mpr ⟨mode, framing⟩⟩

/-- `--mode crr --framing delimiter --delimiter ';'` is run as `echo` with CR LF. -/
theorem launched_crr_semicolon :
    parseTcpMode asciiStr "crr" = .ok .crr ∧
      parseTcpFraming asciiStr "delimiter" ";" = .ok (.delimiter [59]) ∧
      launchedThroughLeader asciiStr "crr" "delimiter" ";" = .ok (.echo, .delimiter [13, 10]) :=
  ⟨rfl, rfl, rfl⟩

end Netanvil.Tcp
