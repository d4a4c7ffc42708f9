import GoPlugin.LabelledSystem
import GoPlugin.LogTurns

/-!
# The level of the host's logger (`Client.logStderr`)

The pump asks the logger for its level once, when it starts, and does not hand it what the logger
would ignore at that level.  The host may change the level at any time, and the logger emits an
entry if its level is at least the one that the logger has at that moment.

The turns of the pump are interleaved here with the changes of the level.  A turn calls the logger
once at most, so a change in the middle of it is one before or after it.
-/

namespace GoPlugin

open LabelledSystem ByteString Bufio StderrPump

/-- The pump, the level that the logger has now, what it has emitted, and the error with which the
    pump has returned. -/
structure HostLog where
  pump : StderrPump
  level : LogLevel
  emitted : List LogCall
  returned : Option ReadError
deriving DecidableEq, Repr

/-- The logger's condition. -/
def LogLevel.emits (level : LogLevel) (c : LogCall) : Bool := level.toNat ≤ c.level.toNat

namespace HostLog

inductive Act where
  | turn
  | setLevel (level : LogLevel)
deriving DecidableEq, Repr

/-- What the logger emits of the calls that a turn has added. -/
def emit (s : HostLog) (pump : StderrPump) : HostLog :=
  { s with
    pump := pump
    emitted := s.emitted ++ (pump.log.drop s.pump.log.length).filter s.level.emits }

def stepWith (turn : StderrPump → Turn) (s : HostLog) : Act → Option HostLog
  | .setLevel level => some { s with level := level }
  | .turn =>
      match s.returned with
      | some _ => none
      | none =>
          match turn s.pump with
          | .next pump => some (s.emit pump)
          | .returned e pump => some { s.emit pump with returned := some e }

/-- `logStderr`, whose logger had the level `loggerLevel` when it started. -/
def step (deps : LogDeps) (loggerLevel : LogLevel) : HostLog → Act → Option HostLog :=
  stepWith (turn deps loggerLevel)

/-- The pump without the shortcuts. -/
def plainStep (deps : LogDeps) : HostLog → Act → Option HostLog := stepWith (plainTurn deps)

def start (loggerLevel : LogLevel) (pluginLogBufferSize : Int) (r : Source) : HostLog :=
  ⟨⟨newReaderSize r pluginLogBufferSize, false, false, [], []⟩, loggerLevel, [], none⟩

/-- What can be seen of it: what the logger emits, what is written to `Stderr`, and the end. -/
def seen (s : HostLog) : List LogCall × ByteString × Option ReadError :=
  (s.emitted, s.pump.stderr, s.returned)

/-! ### The system runs the pump -/

/-- How many of the actions are turns. -/
def turnCount (run : List Act) : Nat := run.count .turn

variable {deps : LogDeps} {loggerLevel : LogLevel}

/-- After the pump has returned there are only changes of the level. -/
theorem exec_of_returned {turn : StderrPump → Turn} {s s' : HostLog} {run : List Act}
    {e : ReadError} (hs : s.returned = some e) (hrun : exec (stepWith turn) s run = some s') :
    s'.pump = s.pump ∧ s'.returned = some e ∧ turnCount run = 0 := by
  induction run generalizing s with
  | nil =>
      cases hrun
      exact ⟨rfl, hs, rfl⟩
  | cons a run ih =>
      obtain ⟨t, ht, hrest⟩ := exec_cons_eq_some.mp hrun
      cases a with
      | turn =>
          rw [stepWith, hs] at ht
          cases ht
      | setLevel level =>
          cases ht
          exact ih (s := { s with level := level }) hs hrest

/-- A run in which the pump returns is one of the loop, whatever the changes of the level. -/
theorem pump_of_exec {s s' : HostLog} {run : List Act} {e : ReadError}
    (hrun : exec (step deps loggerLevel) s run = some s') (hs : s.returned = none)
    (hs' : s'.returned = some e) :
    StderrPump.pump deps loggerLevel (turnCount run) s.pump = some (e, s'.pump) := by
  induction run generalizing s with
  | nil =>
      cases hrun
      cases hs.symm.trans hs'
  | cons a run ih =>
      obtain ⟨t, ht, hrest⟩ := exec_cons_eq_some.mp hrun
      cases a with
      | setLevel level =>
          cases ht
          exact ih (s := { s with level := level }) hrest hs
      | turn =>
          have hcount : turnCount (.turn :: run) = turnCount run + 1 := List.count_cons_self
          rw [hcount, pump_succ]
          rw [step, stepWith, hs] at ht
          dsimp only at ht
          cases hturn : s.pump.turn deps loggerLevel with
          | next pump =>
              rw [hturn] at ht
              cases ht
              exact ih hrest hs
          | returned e' pump =>
              rw [hturn] at ht
              cases ht
              obtain ⟨hpump, hreturned, hzero⟩ := exec_of_returned rfl hrest
              cases hreturned.symm.trans hs'
              rw [hpump]
              rfl

/-! ### The two pumps side by side -/

/-- The pumps have read and written the same.  A pump that is off does not look for panics. -/
structure PumpAlike (loggerLevel : LogLevel) (p q : StderrPump) : Prop where
  reader : q.reader = p.reader
  continuation : q.continuation = p.continuation
  stderr : q.stderr = p.stderr
  inPanic : loggerLevel ≠ .off → q.inPanic = p.inPanic

/-- The pumps have been called with what comes to the same for a logger with this level. -/
structure Alike (loggerLevel level : LogLevel) (p q p' q' : StderrPump) : Prop where
  pumps : PumpAlike loggerLevel p' q'
  calls : ∃ cs ds, p'.log = p.log ++ cs ∧ q'.log = q.log ++ ds ∧
    cs.filter level.emits = ds.filter level.emits

theorem tagLevel_ne_off (line : ByteString) : tagLevel line ≠ some .off := by
  unfold tagLevel
  repeat' split
  all_goals decide

theorem textLevel_ne_off (inPanic : Bool) (line : ByteString) : textLevel inPanic line ≠ .off := by
  unfold textLevel
  split
  · next level htag =>
      rintro rfl
      exact tagLevel_ne_off line htag
  · split <;> decide

/-- The level at which a JSON line is logged. -/
def jsonLevel : LogLevel → LogLevel
  | .noLevel | .off => .debug
  | level => level

theorem level_jsonCall (line : ByteString) (entry : LogEntry) :
    (jsonCall deps line entry).level = jsonLevel (deps.levelFromString entry.level) := by
  unfold jsonCall
  cases deps.levelFromString entry.level <;> rfl

theorem jsonLevel_ne_off (level : LogLevel) : jsonLevel level ≠ .off := by
  cases level <;> decide

theorem toNat_jsonLevel_le {level : LogLevel} (h : level ≠ .noLevel) :
    (jsonLevel level).toNat ≤ level.toNat := by
  cases level with
  | noLevel => exact absurd rfl h
  | trace | debug | info | warn | error | off => decide

/-- No call is one that a logger emits although it is off. -/
theorem level_plainCall_ne_off (inPanic : Bool) (line : ByteString) :
    (plainCall deps inPanic line).level ≠ .off := by
  unfold plainCall
  split
  · exact textLevel_ne_off inPanic line
  · rw [level_jsonCall]
    exact jsonLevel_ne_off _

theorem toNat_lt_off {level : LogLevel} (h : level ≠ .off) : level.toNat < LogLevel.off.toNat := by
  cases level with
  | off => exact absurd rfl h
  | noLevel | trace | debug | info | warn | error => decide

/-- What is skipped is below the level that the logger had. -/
theorem toNat_level_lt_of_skips {line : ByteString} (h : skips deps loggerLevel line = true)
    (inPanic : Bool) : (plainCall deps inPanic line).level.toNat < loggerLevel.toNat := by
  by_cases hoff : loggerLevel = .off
  · rw [hoff]
    exact toNat_lt_off (level_plainCall_ne_off inPanic line)
  · unfold skips at h
    unfold plainCall
    cases hparse : parseJSON deps line with
    | none => simp [hparse, hoff] at h
    | some entry =>
        simp only [hoff, hparse, decide_false, Bool.false_or, Bool.and_eq_true,
          decide_eq_true_eq] at h
        dsimp only
        rw [level_jsonCall]
        exact Nat.lt_of_le_of_lt (toNat_jsonLevel_le h.1) h.2

/-- A JSON line does not begin a stack trace. -/
theorem entersPanic_of_skips {line : ByteString} (h : skips deps loggerLevel line = true)
    (hoff : loggerLevel ≠ .off) : entersPanic deps line = false := by
  unfold skips at h
  unfold entersPanic
  cases hparse : parseJSON deps line with
  | none => simp [hparse, hoff] at h
  | some entry => rfl

theorem alike_logLine (deps : LogDeps) {level : LogLevel} {p q : StderrPump}
    (h : PumpAlike loggerLevel p q) (habove : loggerLevel.toNat ≤ level.toNat) (line : ByteString) :
    Alike loggerLevel level p q (p.logLine deps loggerLevel line) (q.plainLine deps line) := by
  rw [logLine_eq]
  cases hskip : skips deps loggerLevel line with
  | true =>
      -- the plain pump calls a logger that ignores the call
      rw [if_pos rfl, plainLine_eq]
      have hbelow := toNat_level_lt_of_skips hskip q.inPanic
      refine ⟨⟨h.reader, h.continuation, h.stderr, ?_⟩, [], _, (List.append_nil _).symm, rfl, ?_⟩
      · intro hoff
        dsimp only
        rw [entersPanic_of_skips hskip hoff, Bool.or_false]
        exact h.inPanic hoff
      · have hsilent : level.emits (plainCall deps q.inPanic line) = false := by
          unfold LogLevel.emits
          rw [decide_eq_false_iff_not]
          omega
        rw [List.filter_nil, List.filter_cons, hsilent]
        rfl
  | false =>
      have hoff : loggerLevel ≠ .off := by
        rintro rfl
        cases hskip
      have hpanic := h.inPanic hoff
      -- a line that is not skipped is the same call of both, as they agree on the panic
      rw [if_neg Bool.false_ne_true, plainLine_eq, plainLine_eq, hpanic]
      exact ⟨⟨h.reader, h.continuation, h.stderr, fun _ => rfl⟩, _, _, rfl, rfl, rfl⟩

theorem PumpAlike.write {p q : StderrPump} (h : PumpAlike loggerLevel p q) (bytes : ByteString) :
    PumpAlike loggerLevel (p.write bytes) (q.write bytes) :=
  ⟨h.reader, h.continuation, congrArg (· ++ bytes) h.stderr, h.inPanic⟩

/-- The same call of both. -/
theorem PumpAlike.call {p q : StderrPump} (h : PumpAlike loggerLevel p q) (level : LogLevel)
    (c : LogLevel) (message : ByteString) (args : List LogValue) :
    Alike loggerLevel level p q (p.call c message args) (q.call c message args) :=
  ⟨⟨h.reader, h.continuation, h.stderr, h.inPanic⟩, _, _, rfl, rfl, rfl⟩

theorem alike_take (deps : LogDeps) {level : LogLevel} {p q : StderrPump}
    (h : PumpAlike loggerLevel p q) (habove : loggerLevel.toNat ≤ level.toNat) (line : ByteString)
    (prefixed : Bool) :
    Alike loggerLevel level p q (p.take deps loggerLevel line prefixed)
      (q.plainTake deps line prefixed) := by
  have hcontinuation : (q.write line).continuation = (p.write line).continuation :=
    h.continuation
  unfold take plainTake
  dsimp only
  rw [hcontinuation]
  cases hpart : prefixed || (p.write line).continuation with
  | true =>
      rw [if_pos rfl, if_pos rfl]
      obtain ⟨hpumps, hcalls⟩ := (h.write line).call level .debug line []
      cases prefixed with
      | true => exact ⟨⟨hpumps.reader, rfl, hpumps.stderr, hpumps.inPanic⟩, hcalls⟩
      | false =>
          have hended := hpumps.write [newline]
          exact ⟨⟨hended.reader, rfl, hended.stderr, hended.inPanic⟩, hcalls⟩
  | false =>
      rw [if_neg Bool.false_ne_true, if_neg Bool.false_ne_true]
      obtain ⟨hpumps, hcalls⟩ := alike_logLine deps ((h.write line).write [newline])
        habove line
      exact ⟨hpumps, hcalls⟩

/-- Both turns lead on, or both pumps return. -/
theorem alike_turn (deps : LogDeps) {level : LogLevel} {p q : StderrPump}
    (h : PumpAlike loggerLevel p q) (habove : loggerLevel.toNat ≤ level.toNat) :
    (∃ p' q', p.turn deps loggerLevel = .next p' ∧ q.plainTurn deps = .next q' ∧
        Alike loggerLevel level p q p' q') ∨
      ∃ e p' q', p.turn deps loggerLevel = .returned e p' ∧ q.plainTurn deps = .returned e q' ∧
        Alike loggerLevel level p q p' q' := by
  unfold turn plainTurn turnWith
  rw [h.reader]
  rcases p.reader.readLine with ⟨⟨line, prefixed, err⟩, reader⟩
  have hread : PumpAlike loggerLevel { p with reader := reader } { q with reader := reader } :=
    ⟨rfl, h.continuation, h.stderr, h.inPanic⟩
  cases err with
  | none =>
      obtain ⟨hpumps, hcalls⟩ := alike_take deps hread habove line prefixed
      exact Or.inl ⟨_, _, rfl, rfl, hpumps, hcalls⟩
  | some e =>
      have hcall := hread.call level .error (ascii "reading plugin stderr")
        [.string (ascii "error"), .error e]
      cases e with
      | eof => exact Or.inr ⟨.eof, _, _, rfl, rfl, hread, [], [], by simp, by simp, rfl⟩
      | noProgress => exact Or.inr ⟨.noProgress, _, _, rfl, rfl, hcall.pumps, hcall.calls⟩
      | other code => exact Or.inr ⟨.other code, _, _, rfl, rfl, hcall.pumps, hcall.calls⟩

/-- The logger is not below the level that it had when the pump started, and so far there is no
    difference. -/
structure Same (loggerLevel : LogLevel) (s t : HostLog) : Prop where
  pumps : PumpAlike loggerLevel s.pump t.pump
  level : t.level = s.level
  emitted : t.emitted = s.emitted
  returned : t.returned = s.returned
  above : loggerLevel.toNat ≤ s.level.toNat

theorem Same.emit {s t : HostLog} (h : Same loggerLevel s t) {p q : StderrPump}
    (halike : Alike loggerLevel s.level s.pump t.pump p q) :
    Same loggerLevel (s.emit p) (t.emit q) where
  pumps := halike.pumps
  level := h.level
  emitted := by
    obtain ⟨cs, ds, hp, hq, hfilter⟩ := halike.calls
    unfold HostLog.emit
    dsimp only
    rw [hp, hq, List.drop_left, List.drop_left, h.level, h.emitted, hfilter]
  returned := h.returned
  above := h.above

/-- The action does not take the logger below that level. -/
def Above (loggerLevel : LogLevel) : Act → Prop
  | .turn => True
  | .setLevel level => loggerLevel.toNat ≤ level.toNat

instance (loggerLevel : LogLevel) : DecidablePred (Above loggerLevel)
  | .turn => isTrue trivial
  | .setLevel level => inferInstanceAs (Decidable (loggerLevel.toNat ≤ level.toNat))

theorem Same.step {s t : HostLog} (h : Same loggerLevel s t) {a : Act}
    (ha : Above loggerLevel a) :
    Option.Rel (Same loggerLevel) (HostLog.step deps loggerLevel s a) (plainStep deps t a) := by
  unfold HostLog.step plainStep
  cases a with
  | setLevel level => exact .some ⟨h.pumps, rfl, h.emitted, h.returned, ha⟩
  | turn =>
      unfold stepWith
      rw [h.returned]
      cases s.returned with
      | some e => exact .none
      | none =>
          rcases alike_turn deps h.pumps h.above with
            ⟨p, q, hp, hq, halike⟩ | ⟨e, p, q, hp, hq, halike⟩
          · rw [hp, hq]
            exact .some (h.emit halike)
          · rw [hp, hq]
            have hemit := h.emit halike
            exact .some ⟨hemit.pumps, hemit.level, hemit.emitted, rfl, hemit.above⟩

theorem same_start (loggerLevel : LogLevel) (pluginLogBufferSize : Int) (r : Source) :
    Same loggerLevel (start loggerLevel pluginLogBufferSize r)
      (start loggerLevel pluginLogBufferSize r) :=
  ⟨⟨rfl, rfl, rfl, fun _ => rfl⟩, rfl, rfl, rfl, Nat.le_refl _⟩

/-- **The shortcuts cannot be seen** as long as the host does not take the logger below the level
    that it had when the pump started: whatever the stream is, in whatever pieces it comes, and
    whenever the level changes, `logStderr` and the pump without the shortcuts make the logger
    emit the same entries, write the same to `Stderr`, and return alike. -/
theorem seen_eq_plain (deps : LogDeps) (loggerLevel : LogLevel) (pluginLogBufferSize : Int)
    (r : Source) (run : List Act) (hlevels : ∀ a ∈ run, Above loggerLevel a) :
    (exec (step deps loggerLevel) (start loggerLevel pluginLogBufferSize r) run).map seen =
      (exec (plainStep deps) (start loggerLevel pluginLogBufferSize r) run).map seen := by
  have hrel : Option.Rel (Same loggerLevel)
      (exec (step deps loggerLevel) (start loggerLevel pluginLogBufferSize r) run)
      (exec (plainStep deps) (start loggerLevel pluginLogBufferSize r) run) :=
    exec_lockstep (fun _ _ _ hs ha => hs.step ha) (same_start loggerLevel pluginLogBufferSize r)
      hlevels
  generalize exec (step deps loggerLevel) (start loggerLevel pluginLogBufferSize r) run = x
    at hrel ⊢
  generalize exec (plainStep deps) (start loggerLevel pluginLogBufferSize r) run = y at hrel ⊢
  cases hrel with
  | none => rfl
  | @some s t hsame =>
      have hseen : seen t = seen s := by
        unfold seen
        rw [hsame.emitted, hsame.pumps.stderr, hsame.returned]
      rw [Option.map_some, Option.map_some, hseen]

/-- A line that is an entry at debug level, and a library that knows it. -/
def debugEntry : ByteString := ascii "\x7b\"@level\":\"debug\",\"@message\":\"ready\"\x7d"

def knowsEntry : LogDeps where
  unmarshal line :=
    if line = debugEntry then
      some [(ascii "@level", .string (ascii "debug")), (ascii "@message", .string (ascii "ready"))]
    else none
  parseTime _ := none
  zeroTime := ascii "0001-01-01T00:00:00.000Z"
  levelFromString level := if level = ascii "debug" then .debug else .noLevel

def entryStream : Source := ⟨debugEntry ++ [newline], [⟨1, 20, false⟩], .eof⟩

/-- The logger goes up to `Warn` and back, which is not seen. -/
theorem seen_eq_plain_raised :
    (exec (step knowsEntry .info) (start .info 64 entryStream)
        [.setLevel .warn, .turn, .setLevel .info, .turn]).map seen =
      (exec (plainStep knowsEntry) (start .info 64 entryStream)
        [.setLevel .warn, .turn, .setLevel .info, .turn]).map seen :=
  seen_eq_plain knowsEntry .info 64 entryStream _ (by decide)

/-- The host turns debugging on while the plugin runs: the entry is lost. -/
theorem lowered_level_loses_entry :
    (exec (step knowsEntry .info) (start .info 64 entryStream)
        [.setLevel .debug, .turn, .turn]).map seen =
      some ([], debugEntry ++ [newline], some .eof) ∧
    (exec (plainStep knowsEntry) (start .info 64 entryStream)
        [.setLevel .debug, .turn, .turn]).map seen =
      some ([⟨.debug, ascii "ready",
        [.string (ascii "timestamp"), .string (ascii "0001-01-01T00:00:00.000Z")]⟩],
        debugEntry ++ [newline], some .eof) := by
  decide +kernel

end HostLog

end GoPlugin
