import GoPlugin.LogStderr

/-!
# The turns of the stderr log pump

One turn of the loop of `logStderr`, and how the loop is made of them.  Each whole line comes to one
call of the logger, but for the lines that the pump skips: all of them if the logger was off when
the pump started, and the JSON entries below the level that the logger had then.
-/

namespace GoPlugin

open ByteString Bufio

namespace StderrPump

/-- What a turn leads to. -/
inductive Turn where
  | next (s : StderrPump)
  | returned (e : ReadError) (s : StderrPump)
deriving DecidableEq, Repr

/-- The pump after the turn. -/
def Turn.pump : Turn → StderrPump
  | .next s => s
  | .returned _ s => s

/-- A turn of the loop, with what it does after a successful `ReadLine`. -/
def turnWith (take : StderrPump → ByteString → Bool → StderrPump) (s : StderrPump) : Turn :=
  match s.reader.readLine with
  | (⟨line, prefixed, none⟩, reader) => .next (take { s with reader := reader } line prefixed)
  | (⟨_, _, some .eof⟩, reader) => .returned .eof { s with reader := reader }
  | (⟨_, _, some e⟩, reader) =>
      .returned e (call { s with reader := reader } .error (ascii "reading plugin stderr")
        [.string (ascii "error"), .error e])

def turn (deps : LogDeps) (loggerLevel : LogLevel) (s : StderrPump) : Turn :=
  s.turnWith (take deps loggerLevel)

/-- The loop is made of its turns. -/
theorem pump_succ (deps : LogDeps) (loggerLevel : LogLevel) (fuel : Nat) (s : StderrPump) :
    pump deps loggerLevel (fuel + 1) s =
      match s.turn deps loggerLevel with
      | .next s' => pump deps loggerLevel fuel s'
      | .returned e s' => some (e, s') := by
  rw [pump, turn, turnWith]
  rcases s.reader.readLine with ⟨⟨line, prefixed, err⟩, reader⟩
  cases err with
  | none => rfl
  | some e => cases e <;> rfl

/-- The state after so many turns; `none` where the loop has returned before. -/
def turns (deps : LogDeps) (loggerLevel : LogLevel) : Nat → StderrPump → Option StderrPump
  | 0, s => some s
  | n + 1, s =>
      match s.turn deps loggerLevel with
      | .next s' => turns deps loggerLevel n s'
      | .returned _ _ => none

variable {deps : LogDeps} {loggerLevel : LogLevel}

theorem turns_succ {s s' : StderrPump} (h : s.turn deps loggerLevel = .next s') (n : Nat) :
    turns deps loggerLevel (n + 1) s = turns deps loggerLevel n s' := by
  rw [turns, h]

theorem turns_add {n : Nat} {s s' : StderrPump} (h : turns deps loggerLevel n s = some s')
    (m : Nat) : turns deps loggerLevel (n + m) s = turns deps loggerLevel m s' := by
  induction n generalizing s with
  | zero =>
      cases h
      rw [Nat.zero_add]
  | succ n ih =>
      rw [turns] at h
      split at h
      · next hturn =>
          rw [Nat.add_right_comm, turns_succ hturn]
          exact ih h
      · cases h

/-- A turn calls `ReadLine` once. -/
theorem reader_turn {s s' : StderrPump} (h : s.turn deps loggerLevel = .next s') :
    s'.reader = s.reader.readLine.2 := by
  unfold turn turnWith at h
  rcases hread : s.reader.readLine with ⟨⟨line, prefixed, err⟩, reader⟩
  rw [hread] at h
  cases err with
  | none =>
      cases h
      exact (take_frame deps loggerLevel { s with reader := reader } line prefixed).2
  | some e => cases e <;> cases h

theorem reader_turns {n : Nat} {s s' : StderrPump} (h : turns deps loggerLevel n s = some s') :
    s'.reader = s.reader.afterLines n := by
  induction n generalizing s with
  | zero =>
      cases h
      rfl
  | succ n ih =>
      rw [turns] at h
      split at h
      · next hturn => rw [ih h, Reader.afterLines, reader_turn hturn]
      · cases h

/-- Where the loop returns, it also does so from the states in between. -/
theorem pump_of_turns {s s' : StderrPump} {x : ReadError × StderrPump} {n fuel : Nat}
    (hpump : pump deps loggerLevel fuel s = some x)
    (hturns : turns deps loggerLevel n s = some s') :
    ∃ fuel', pump deps loggerLevel fuel' s' = some x := by
  induction n generalizing s fuel with
  | zero =>
      cases hturns
      exact ⟨fuel, hpump⟩
  | succ n ih =>
      rw [turns] at hturns
      split at hturns
      · next hturn =>
          cases fuel with
          | zero => cases hpump
          | succ fuel =>
              rw [pump_succ, hturn] at hpump
              exact ih hpump hturns
      · cases hturns

/-! ### The pump without the shortcuts -/

def plainJSON (deps : LogDeps) (s : StderrPump) (line : ByteString) (entry : LogEntry) :
    StderrPump :=
  let out := flattenKVPairs entry.kvPairs ++
    [.string (ascii "timestamp"), .string entry.timestamp]
  match deps.levelFromString entry.level with
  | .noLevel | .off => s.call .debug line []
  | level => s.call level entry.message out

def plainLine (deps : LogDeps) (s : StderrPump) (line : ByteString) : StderrPump :=
  match parseJSON deps line with
  | none => s.logText line
  | some entry => s.plainJSON deps line entry

def plainTake (deps : LogDeps) (s : StderrPump) (line : ByteString) (prefixed : Bool) :
    StderrPump :=
  let s := s.write line
  if prefixed || s.continuation then
    let s := s.call .debug line []
    let s := if prefixed then s else s.write [newline]
    { s with continuation := prefixed }
  else (s.write [newline]).plainLine deps line

def plainTurn (deps : LogDeps) (s : StderrPump) : Turn := s.turnWith (plainTake deps)

/-! ### The calls -/

/-- The level at which a line that is not JSON is logged. -/
def textLevel (inPanic : Bool) (line : ByteString) : LogLevel :=
  match tagLevel line with
  | some level => level
  | none => if startsPanic line || inPanic then .error else .debug

/-- A line that is not JSON begins a stack trace. -/
def beginsTrace (line : ByteString) : Bool := (tagLevel line).isNone && startsPanic line

theorem logText_eq (s : StderrPump) (line : ByteString) :
    s.logText line =
      { s with
        inPanic := s.inPanic || beginsTrace line
        log := s.log ++ [⟨textLevel s.inPanic line, line, []⟩] } := by
  unfold logText textLevel beginsTrace
  cases tagLevel line with
  | some level => simp [call]
  | none =>
      cases startsPanic line with
      | true => simp [call]
      | false => cases hpanic : s.inPanic <;> simp [call, hpanic]

/-- The call for a JSON line. -/
def jsonCall (deps : LogDeps) (line : ByteString) (entry : LogEntry) : LogCall :=
  let out := flattenKVPairs entry.kvPairs ++
    [.string (ascii "timestamp"), .string entry.timestamp]
  match deps.levelFromString entry.level with
  | .noLevel | .off => ⟨.debug, line, []⟩
  | level => ⟨level, entry.message, out⟩

theorem plainJSON_eq (s : StderrPump) (line : ByteString) (entry : LogEntry) :
    s.plainJSON deps line entry = { s with log := s.log ++ [jsonCall deps line entry] } := by
  unfold plainJSON jsonCall
  cases deps.levelFromString entry.level <;> rfl

/-- The call that the plain pump makes for a line. -/
def plainCall (deps : LogDeps) (inPanic : Bool) (line : ByteString) : LogCall :=
  match parseJSON deps line with
  | none => ⟨textLevel inPanic line, line, []⟩
  | some entry => jsonCall deps line entry

/-- The line is the first one of a stack trace for the pump. -/
def entersPanic (deps : LogDeps) (line : ByteString) : Bool :=
  (parseJSON deps line).isNone && beginsTrace line

theorem plainLine_eq (s : StderrPump) (line : ByteString) :
    s.plainLine deps line =
      { s with
        inPanic := s.inPanic || entersPanic deps line
        log := s.log ++ [plainCall deps s.inPanic line] } := by
  unfold plainLine entersPanic plainCall
  cases parseJSON deps line with
  | none => simp [logText_eq]
  | some entry => simp [plainJSON_eq]

/-- The shortcuts. -/
def skips (deps : LogDeps) (loggerLevel : LogLevel) (line : ByteString) : Bool :=
  loggerLevel = .off ||
    match parseJSON deps line with
    | none => false
    | some entry =>
        deps.levelFromString entry.level ≠ .noLevel &&
          (deps.levelFromString entry.level).toNat < loggerLevel.toNat

/-- But for the shortcuts, the pump is the plain one. -/
theorem logLine_eq (s : StderrPump) (line : ByteString) :
    s.logLine deps loggerLevel line =
      if skips deps loggerLevel line then s else s.plainLine deps line := by
  unfold logLine skips plainLine
  by_cases hoff : loggerLevel = .off
  · simp [hoff]
  · rw [if_neg hoff]
    cases parseJSON deps line with
    | none => simp [hoff]
    | some entry =>
        unfold logJSON
        dsimp only
        split
        · next hskip => simp [hskip]
        · next hkeep =>
            rw [if_neg (by simpa [hoff] using hkeep)]
            unfold plainJSON
            cases deps.levelFromString entry.level <;> rfl

end StderrPump

end GoPlugin
