import GoPlugin.BufioReader

/-!
# The stderr log pump (`Client.logStderr`)

The host reads the plugin's standard error line by line.  It copies each line to
`ClientConfig.Stderr` and hands it to the logger, at the level that the line asks for.  A line
that does not fit into the buffer comes in parts.
-/

namespace GoPlugin

open ByteString Bufio

/-! ### Entries -/

/-- `hclog.Level`, in its order. -/
inductive LogLevel where
  | noLevel | trace | debug | info | warn | error | off
deriving DecidableEq, Repr

def LogLevel.toNat : LogLevel → Nat
  | .noLevel => 0
  | .trace => 1
  | .debug => 2
  | .info => 3
  | .warn => 4
  | .error => 5
  | .off => 6

/-- A value that is logged: a string, an error, or anything else that a JSON object has. -/
inductive LogValue where
  | string (s : ByteString)
  | error (e : ReadError)
  | other (code : Nat)
deriving DecidableEq, Repr

/-- `logEntry`; the timestamp is as `hclog.TimeFormat` prints it. -/
structure LogEntry where
  message : ByteString
  level : ByteString
  timestamp : ByteString
  kvPairs : List (ByteString × LogValue)
deriving DecidableEq, Repr

/-- What the pump asks of `encoding/json`, `time` and `hclog`.  An object comes with its members in
    the order in which `range` visits them. -/
structure LogDeps where
  unmarshal : ByteString → Option (List (ByteString × LogValue))
  parseTime : ByteString → Option ByteString
  zeroTime : ByteString
  levelFromString : ByteString → LogLevel

/-- A checked type assertion on a member: the zero value where there is no such string. -/
def stringMember (raw : List (ByteString × LogValue)) (key : ByteString) : ByteString :=
  match raw.lookup key with
  | some (.string s) => s
  | _ => []

/-- The time of an entry; an error where there is a string that does not parse. -/
def timestampMember (deps : LogDeps) (raw : List (ByteString × LogValue)) : Option ByteString :=
  match raw.lookup (ascii "@timestamp") with
  | some (.string s) => deps.parseTime s
  | _ => some deps.zeroTime

def parseJSON (deps : LogDeps) (input : ByteString) : Option LogEntry :=
  match deps.unmarshal input with
  | none => none
  | some raw =>
      match timestampMember deps raw with
      | none => none
      | some timestamp =>
          some {
            message := stringMember raw (ascii "@message")
            level := stringMember raw (ascii "@level")
            timestamp := timestamp
            kvPairs := raw.filter fun kv =>
              !([ascii "@message", ascii "@level", ascii "@timestamp"].contains kv.1) }

def flattenKVPairs (kvs : List (ByteString × LogValue)) : List LogValue :=
  kvs.flatMap fun kv => [.string kv.1, kv.2]

/-- A call of the logger. -/
structure LogCall where
  level : LogLevel
  message : ByteString
  args : List LogValue
deriving DecidableEq, Repr

/-! ### The pump -/

/-- The variables of `logStderr`, what was written to `Stderr`, and the calls of the logger. -/
structure StderrPump where
  reader : Reader
  continuation : Bool
  inPanic : Bool
  stderr : ByteString
  log : List LogCall
deriving DecidableEq, Repr

namespace StderrPump

def write (s : StderrPump) (bytes : ByteString) : StderrPump :=
  { s with stderr := s.stderr ++ bytes }

def call (s : StderrPump) (level : LogLevel) (message : ByteString) (args : List LogValue) :
    StderrPump :=
  { s with log := s.log ++ [⟨level, message, args⟩] }

/-- The level that the text of a line asks for. -/
def tagLevel (line : ByteString) : Option LogLevel :=
  if (ascii "[TRACE]").isPrefixOf line then some .trace
  else if (ascii "[DEBUG]").isPrefixOf line then some .debug
  else if (ascii "[INFO]").isPrefixOf line then some .info
  else if (ascii "[WARN]").isPrefixOf line then some .warn
  else if (ascii "[ERROR]").isPrefixOf line then some .error
  else none

/-- The first line of a stack trace. -/
def startsPanic (line : ByteString) : Bool :=
  (ascii "panic: ").isPrefixOf line || (ascii "fatal error: ").isPrefixOf line

/-- A line that is not JSON. -/
def logText (s : StderrPump) (line : ByteString) : StderrPump :=
  match tagLevel line with
  | some level => s.call level line []
  | none =>
      if startsPanic line then call { s with inPanic := true } .error line []
      else if s.inPanic then s.call .error line []
      else s.call .debug line []

/-- A line that is JSON. -/
def logJSON (deps : LogDeps) (loggerLevel : LogLevel) (s : StderrPump) (line : ByteString)
    (entry : LogEntry) : StderrPump :=
  let logLevel := deps.levelFromString entry.level
  if logLevel ≠ .noLevel ∧ logLevel.toNat < loggerLevel.toNat then s
  else
    let out := flattenKVPairs entry.kvPairs ++
      [.string (ascii "timestamp"), .string entry.timestamp]
    match logLevel with
    | .noLevel | .off => s.call .debug line []
    | level => s.call level entry.message out

/-- What is logged of a whole line. -/
def logLine (deps : LogDeps) (loggerLevel : LogLevel) (s : StderrPump) (line : ByteString) :
    StderrPump :=
  if loggerLevel = .off then s
  else
    match parseJSON deps line with
    | none => s.logText line
    | some entry => s.logJSON deps loggerLevel line entry

/-- The body of the loop, after a successful `ReadLine`. -/
def take (deps : LogDeps) (loggerLevel : LogLevel) (s : StderrPump) (line : ByteString)
    (prefixed : Bool) : StderrPump :=
  let s := s.write line
  if prefixed || s.continuation then
    let s := s.call .debug line []
    let s := if prefixed then s else s.write [newline]
    { s with continuation := prefixed }
  else (s.write [newline]).logLine deps loggerLevel line

/-- The loop; there is a result, with the error, where it returns. -/
def pump (deps : LogDeps) (loggerLevel : LogLevel) : Nat → StderrPump →
    Option (ReadError × StderrPump)
  | 0, _ => none
  | fuel + 1, s =>
      match s.reader.readLine with
      | (⟨line, prefixed, none⟩, reader) =>
          pump deps loggerLevel fuel
            (take deps loggerLevel { s with reader := reader } line prefixed)
      | (⟨_, _, some .eof⟩, reader) => some (.eof, { s with reader := reader })
      | (⟨_, _, some e⟩, reader) =>
          some (e, call { s with reader := reader } .error (ascii "reading plugin stderr")
            [.string (ascii "error"), .error e])

end StderrPump

/-- `logStderr`, for a logger with this level when it starts. -/
def logStderr (deps : LogDeps) (loggerLevel : LogLevel) (pluginLogBufferSize : Int)
    (r : Source) (fuel : Nat) : Option (ReadError × StderrPump) :=
  StderrPump.pump deps loggerLevel fuel
    ⟨newReaderSize r pluginLogBufferSize, false, false, [], []⟩

/-! ### What is copied -/

/-- Without the carriage return that stands before a newline. -/
def dropCRs : ByteString → ByteString
  | [] => []
  | c :: s => if c = 13 ∧ s.head? = some newline then dropCRs s else c :: dropCRs s

/-- A part of a line that does not end within its line end stays as it is. -/
theorem dropCRs_append_part {part : ByteString} (hpart : newline ∉ part) {rest : ByteString}
    (hcut : part.getLast? = some 13 → rest.head? ≠ some newline) :
    dropCRs (part ++ rest) = part ++ dropCRs rest := by
  induction part with
  | nil => rfl
  | cons c part ih =>
      have htail : newline ∉ part := fun hmem => hpart (List.mem_cons_of_mem c hmem)
      have hkeep : ¬(c = 13 ∧ (part ++ rest).head? = some newline) := by
        rintro ⟨rfl, hhead⟩
        cases part with
        | nil => exact hcut rfl hhead
        | cons d part =>
            cases hhead
            exact htail List.mem_cons_self
      have hcut' : part.getLast? = some 13 → rest.head? ≠ some newline := by
        intro hlast
        apply hcut
        rw [List.getLast?_cons, hlast]
        rfl
      rw [List.cons_append, dropCRs, if_neg hkeep, ih htail hcut', List.cons_append]

theorem dropCRs_newline_cons (s : ByteString) : dropCRs (newline :: s) = newline :: dropCRs s := by
  rw [dropCRs, if_neg]
  rintro ⟨hcr, -⟩
  cases hcr

/-- A line loses the carriage return that it ends in, if there is one. -/
theorem dropCRs_append_line {line : ByteString} (hline : newline ∉ line) (rest : ByteString) :
    dropCRs (line ++ newline :: rest) = dropCR line ++ newline :: dropCRs rest := by
  unfold dropCR
  split
  · next hlast =>
      have hconcat : line = line.dropLast ++ [13] := (List.dropLast_append_getLast? 13 hlast).symm
      have hpart : newline ∉ line.dropLast := fun hmem => hline (List.dropLast_subset line hmem)
      conv_lhs => rw [hconcat, List.append_assoc, List.singleton_append]
      rw [dropCRs_append_part hpart fun _ => by simp [newline], dropCRs,
        if_pos ⟨rfl, rfl⟩, dropCRs_newline_cons]
  · next hlast =>
      rw [dropCRs_append_part hline fun h => absurd h hlast, dropCRs_newline_cons]

/-- The stream is empty, or its last line is ended. -/
def Terminated (s : ByteString) : Prop := s = [] ∨ s.getLast? = some newline

instance (s : ByteString) : Decidable (Terminated s) := by
  unfold Terminated
  infer_instance

theorem Terminated.of_append {s t : ByteString} (h : Terminated (s ++ t)) : Terminated t := by
  rcases h with hnil | hlast
  · exact Or.inl (List.append_eq_nil_iff.mp hnil).2
  · cases t with
    | nil => exact Or.inl rfl
    | cons c t =>
        rw [List.getLast?_append_cons] at hlast
        exact Or.inr hlast

theorem Terminated.newline_mem {s : ByteString} (h : Terminated s) (hne : s ≠ []) : newline ∈ s :=
  List.mem_of_getLast? (h.resolve_left hne)

namespace StderrPump

variable (deps : LogDeps) (loggerLevel : LogLevel)

/-- Logging has no other effect. -/
theorem logLine_frame (s : StderrPump) (line : ByteString) :
    (s.logLine deps loggerLevel line).stderr = s.stderr ∧
      (s.logLine deps loggerLevel line).reader = s.reader := by
  unfold logLine
  split
  · exact ⟨rfl, rfl⟩
  split
  · unfold logText
    split
    · exact ⟨rfl, rfl⟩
    split
    · exact ⟨rfl, rfl⟩
    split <;> exact ⟨rfl, rfl⟩
  · unfold logJSON
    dsimp only
    split
    · exact ⟨rfl, rfl⟩
    split <;> exact ⟨rfl, rfl⟩

/-- What one round writes, whatever came before it. -/
theorem take_frame (s : StderrPump) (line : ByteString) (prefixed : Bool) :
    (s.take deps loggerLevel line prefixed).stderr =
        s.stderr ++ (line ++ if prefixed then [] else [newline]) ∧
      (s.take deps loggerLevel line prefixed).reader = s.reader := by
  unfold take
  cases prefixed with
  | true => exact ⟨by simp [write, call], rfl⟩
  | false =>
      simp only [Bool.false_or]
      split
      · exact ⟨by simp [write, call], rfl⟩
      · obtain ⟨hstderr, hreader⟩ :=
          logLine_frame deps loggerLevel ((s.write line).write [newline]) line
        exact ⟨by rw [hstderr]; simp [write], by rw [hreader]; rfl⟩

end StderrPump

/-- A reader in the middle of a stream whose last line is ended. -/
structure Reading (r : Reader) : Prop where
  sound : r.Sound
  lively : r.source.Lively
  size : 1 < r.size
  last : r.source.last = .eof
  terminated : Terminated r.remaining

theorem Reading.next {r r' : Reader} (h : Reading r) (hfollows : r.Follows r')
    {front : ByteString} (hremaining : r.remaining = front ++ r'.remaining) : Reading r' where
  sound := hfollows.sound
  lively := hfollows.lively
  size := hfollows.size ▸ h.size
  last := hfollows.last.trans h.last
  terminated := Terminated.of_append (hremaining ▸ h.terminated)

/-- A call of `ReadLine` finds the end, or it takes a piece off the stream. -/
theorem Reading.readLine {r : Reader} (h : Reading r) :
    (r.remaining = [] ∧ ∃ r', r.readLine = (⟨[], false, some .eof⟩, r')) ∨
      ∃ line prefixed r', r.readLine = (⟨line, prefixed, none⟩, r') ∧ Reading r' ∧
        r'.remaining.length < r.remaining.length ∧
        dropCRs r.remaining =
          (line ++ if prefixed then [] else [newline]) ++ dropCRs r'.remaining := by
  obtain ⟨hfollows, hlined⟩ := Reader.lined_readLine h.sound h.lively h.size
  generalize r.readLine = x at hfollows hlined
  cases hlined with
  | @line line r' hline hremaining =>
      have hfront : r.remaining = (line ++ [newline]) ++ r'.remaining := by
        rw [hremaining, List.append_assoc]
        rfl
      refine Or.inr ⟨_, _, r', rfl, h.next hfollows hfront, ?_, ?_⟩
      · rw [hremaining, List.length_append, List.length_cons]
        omega
      · rw [hremaining, dropCRs_append_line hline]
        simp
  | @part line r' hne hline hremaining hcut =>
      have hpos : 0 < line.length := List.length_pos_iff.mpr hne
      refine Or.inr ⟨_, _, r', rfl, h.next hfollows hremaining, ?_, ?_⟩
      · rw [hremaining, List.length_append]
        omega
      · rw [hremaining, dropCRs_append_part hline]
        · simp
        · intro hcr
          rw [hcut hcr]
          simp [newline]
  | last hne hline hremaining hremaining' =>
      -- the last line is ended, so it has a newline
      have hterminated := h.terminated
      rw [hremaining] at hterminated
      exact absurd (hterminated.newline_mem hne) hline
  | @ended r' hremaining hremaining' =>
      rw [h.last]
      exact Or.inl ⟨hremaining, r', rfl⟩

namespace StderrPump

/-- The loop copies what is still to come, and returns at its end. -/
theorem pump_copies (deps : LogDeps) (loggerLevel : LogLevel) {s : StderrPump}
    (h : Reading s.reader) {fuel : Nat} (hfuel : s.reader.remaining.length < fuel) :
    ∃ s', pump deps loggerLevel fuel s = some (.eof, s') ∧
      s'.stderr = s.stderr ++ dropCRs s.reader.remaining := by
  induction fuel generalizing s with
  | zero => omega
  | succ fuel ih =>
      rcases h.readLine with ⟨hremaining, reader, hread⟩ |
        ⟨line, prefixed, reader, hread, hnext, hless, hcopied⟩
      · refine ⟨{ s with reader := reader }, ?_, ?_⟩
        · rw [pump, hread]
        · rw [hremaining]
          simp [dropCRs]
      · obtain ⟨hstderr, hreader⟩ :=
          take_frame deps loggerLevel { s with reader := reader } line prefixed
        obtain ⟨s', hpump, hout⟩ := ih
          (s := take deps loggerLevel { s with reader := reader } line prefixed)
          (by rw [hreader]; exact hnext) (by rw [hreader]; dsimp only; omega)
        refine ⟨s', ?_, ?_⟩
        · rw [pump, hread]
          exact hpump
        · rw [hout, hstderr, hreader, hcopied, List.append_assoc]

end StderrPump

/-- **The plugin's standard error is copied.**  Whatever the size of the buffer and the pieces in
    which the stream arrives, what is written to `Stderr` is the stream without the carriage
    returns before newlines.  (`bufio` gives up on a reader that returns nothing a hundred times
    in a row.) -/
theorem logStderr_copies (deps : LogDeps) (loggerLevel : LogLevel) (pluginLogBufferSize : Int)
    {stream : ByteString} (hstream : Terminated stream) {pieces : List Piece}
    (hpieces : ∀ p ∈ pieces, p.idle < maxConsecutiveEmptyReads) {fuel : Nat}
    (hfuel : stream.length < fuel) :
    ∃ s, logStderr deps loggerLevel pluginLogBufferSize ⟨stream, pieces, .eof⟩ fuel =
        some (.eof, s) ∧ s.stderr = dropCRs stream := by
  have hsize : 1 < (newReaderSize ⟨stream, pieces, .eof⟩ pluginLogBufferSize).size := by
    unfold newReaderSize minReadBufferSize
    dsimp only
    omega
  exact StderrPump.pump_copies deps loggerLevel
    (s := ⟨newReaderSize ⟨stream, pieces, .eof⟩ pluginLogBufferSize, false, false, [], []⟩)
    ⟨Reader.sound_newReaderSize _ _, hpieces, hsize, rfl, hstream⟩ hfuel

/-- A library in which nothing is JSON. -/
def plainText : LogDeps := ⟨fun _ => none, fun _ => none, [], fun _ => .noLevel⟩

theorem logStderr_copies_crlf :
    ∃ s, logStderr plainText .info 16
        ⟨ascii "panic: out of memory\r\nexit\n", [⟨3, 20, false⟩], .eof⟩ 100 = some (.eof, s) ∧
      s.stderr = ascii "panic: out of memory\nexit\n" :=
  logStderr_copies plainText .info 16 (by decide) (by decide) (by decide)

end GoPlugin
