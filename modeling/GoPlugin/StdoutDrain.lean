import GoPlugin.BufioScanner
import GoPlugin.ClientLifecycle
import GoPlugin.StartBody

/-!
# The plugin's stdout (`Client.Start`)

A goroutine scans the plugin's stdout for lines and sends them on `linesCh`.  `Start` receives one
line at most; when it returns, whatever it returns, its deferred function starts another goroutine
that receives the other lines.  The plugin can go on writing as long as its stdout is read: what is
left in the pipe when all of them have come to rest is never read.
-/

namespace GoPlugin

open LabelledSystem ByteString Bufio GoMap

/-- Where `Start` stands after it has started the scanner. -/
inductive StartPc where
  | selecting
  | handling (event : StartEvent)
  | returned
deriving DecidableEq, Repr

/-- The scanner and the line it sends, and where the scanner's goroutine, `Start` and the drainer
    stand. -/
structure StdoutState where
  scanner : Scanner
  text : ByteString
  scan : ScanPc
  start : StartPc
  drain : DrainPc
deriving DecidableEq, Repr

/-- The scanner's goroutine has closed `linesCh`. -/
def ScanPc.closed : ScanPc → Bool
  | .pipes | .group | .finished => true
  | .off | .scanning | .sending | .closing => false

namespace StdoutState

/-- `Start` has started the goroutine that scans `stdout`. -/
def launched (stdout : Source) : StdoutState :=
  ⟨newScanner stdout, [], .scanning, .selecting, .off⟩

inductive Act where
  | scan                          -- a step of the scanner's goroutine
  | select (event : StartEvent)   -- `Start` goes on
  | startReturns                  -- `Start` returns or panics, and the deferred function runs
  | drain                         -- a step of the drainer
deriving DecidableEq, Repr

def scanStep (s : StdoutState) : Option StdoutState :=
  match s.scan with
  | .scanning =>
      match s.scanner.scan with
      | (some text, scanner) => some { s with scanner := scanner, text := text, scan := .sending }
      | (none, scanner) => some { s with scanner := scanner, scan := .closing }
  | .closing => some { s with scan := .pipes }
  | .pipes => some { s with scan := .group }
  | .group => some { s with scan := .finished }
  | .off | .sending | .finished => none

/-- The timer and the context may be ready at any time. -/
def selectStep (s : StdoutState) (event : StartEvent) : Option StdoutState :=
  match s.start, event with
  | .selecting, .timeout | .selecting, .exited => some { s with start := .handling event }
  | .selecting, .line line =>
      if s.scan = .sending ∧ s.text = line then
        some { s with scan := .scanning, start := .handling event }
      else none
  | .selecting, .closed => if s.scan.closed then some { s with start := .handling event } else none
  | _, _ => none

def drainStep (s : StdoutState) : Option StdoutState :=
  match s.drain with
  | .draining =>
      if s.scan = .sending then some { s with scan := .scanning }
      else if s.scan.closed then some { s with drain := .group }
      else none
  | .group => some { s with drain := .finished }
  | .off | .finished => none

def step (s : StdoutState) : Act → Option StdoutState
  | .scan => s.scanStep
  | .select event => s.selectStep event
  | .startReturns =>
      match s.start with
      | .handling _ => some { s with start := .returned, drain := .draining }
      | _ => none
  | .drain => s.drainStep

/-! ### What one step can do -/

/-- How the goroutines go on. -/
inductive Next (s : StdoutState) : Act → StdoutState → Prop where
  | token {text : ByteString} {scanner : Scanner} (hscan : s.scan = .scanning)
      (htoken : s.scanner.scan = (some text, scanner)) :
      Next s .scan { s with scanner := scanner, text := text, scan := .sending }
  | ended {scanner : Scanner} (hscan : s.scan = .scanning)
      (htoken : s.scanner.scan = (none, scanner)) :
      Next s .scan { s with scanner := scanner, scan := .closing }
  | close (hscan : s.scan = .closing) : Next s .scan { s with scan := .pipes }
  | pipes (hscan : s.scan = .pipes) : Next s .scan { s with scan := .group }
  | group (hscan : s.scan = .group) : Next s .scan { s with scan := .finished }
  | wake {event : StartEvent} (hstart : s.start = .selecting)
      (hevent : event = .closed → s.scan.closed = true) (hline : ∀ line, event ≠ .line line) :
      Next s (.select event) { s with start := .handling event }
  | first (hstart : s.start = .selecting) (hscan : s.scan = .sending) :
      Next s (.select (.line s.text))
        { s with scan := .scanning, start := .handling (.line s.text) }
  | startReturns {event : StartEvent} (hstart : s.start = .handling event) :
      Next s .startReturns { s with start := .returned, drain := .draining }
  | line (hdrain : s.drain = .draining) (hscan : s.scan = .sending) :
      Next s .drain { s with scan := .scanning }
  | drained (hdrain : s.drain = .draining) (hclosed : s.scan.closed = true) :
      Next s .drain { s with drain := .group }
  | done (hdrain : s.drain = .group) : Next s .drain { s with drain := .finished }

variable {s s' : StdoutState} {a : Act} {stdout : Source}

theorem next_of_step (h : step s a = some s') : Next s a s' := by
  cases a with
  | scan =>
      rw [step, scanStep] at h
      split at h
      · next hscan =>
          split at h
          · next htoken =>
              cases h
              exact .token hscan htoken
          · next htoken =>
              cases h
              exact .ended hscan htoken
      · next hscan =>
          cases h
          exact .close hscan
      · next hscan =>
          cases h
          exact .pipes hscan
      · next hscan =>
          cases h
          exact .group hscan
      all_goals cases h
  | select event =>
      change s.selectStep event = some s' at h
      unfold selectStep at h
      split at h
      · next hstart =>
          cases h
          exact .wake hstart (by intro he; cases he) (by intro _ he; cases he)
      · next hstart =>
          cases h
          exact .wake hstart (by intro he; cases he) (by intro _ he; cases he)
      · next hstart =>
          split at h
          · next hready =>
              obtain ⟨hscan, rfl⟩ := hready
              cases h
              exact .first hstart hscan
          · cases h
      · next hstart =>
          split at h
          · next hclosed =>
              cases h
              exact .wake hstart (fun _ => hclosed) (by intro _ he; cases he)
          · cases h
      · cases h
  | startReturns =>
      rw [step] at h
      split at h
      · next hstart =>
          cases h
          exact .startReturns hstart
      · cases h
  | drain =>
      rw [step, drainStep] at h
      split at h
      · next hdrain =>
          split at h
          · next hscan =>
              cases h
              exact .line hdrain hscan
          · split at h
            · next hclosed =>
                cases h
                exact .drained hdrain hclosed
            · cases h
      · next hdrain =>
          cases h
          exact .done hdrain
      all_goals cases h

/-! ### What every run keeps -/

/-- The stream can be read to its end. -/
def ShortLines (stdout : ByteString) : Prop :=
  shortLines maxScanTokenSize maxScanTokenSize stdout = true

/-- While the scanner goes on, what is still to come decides whether the stream is read to its
    end; after that, the bytes that are left tell. -/
structure Sound (stdout : ByteString) (s : StdoutState) : Prop where
  started : s.scan ≠ .off
  reading : s.scan = .scanning ∨ s.scan = .sending →
    s.scanner.Sound ∧ s.scanner.maxTokenSize = maxScanTokenSize ∧
      (ShortLines stdout ↔ ShortLines s.scanner.remaining)
  read : s.scan ≠ .scanning → s.scan ≠ .sending →
    (ShortLines stdout ↔ s.scanner.source.rest = [])
  deferred : s.start ≠ .returned ↔ s.drain = .off
  drained : s.drain = .group ∨ s.drain = .finished → s.scan.closed = true

theorem sound_launched (h : stdout.Lively) : Sound stdout.rest (launched stdout) where
  started := ScanPc.noConfusion
  reading _ := ⟨Scanner.sound_newScanner h, rfl, Iff.rfl⟩
  read hscan := absurd rfl hscan
  deferred := iff_of_true StartPc.noConfusion rfl
  drained := by
    rintro (h | h) <;> cases h

theorem Sound.next {bytes : ByteString} (h : Sound bytes s) (hnext : Next s a s') :
    Sound bytes s' := by
  -- the drainer has not gone past an open channel
  have hopen : s.scan.closed = false → ¬(s.drain = .group ∨ s.drain = .finished) := by
    intro hclosed hdrain
    cases hclosed.symm.trans (h.drained hdrain)
  cases hnext with
  | token hscan htoken =>
      obtain ⟨hsound, hmax, hiff⟩ := h.reading (Or.inl hscan)
      have hscanned := hsound.scanned_scan
      rw [htoken] at hscanned
      obtain ⟨hfollows, -⟩ := hscanned.follows
      have hshort := hscanned.shortLines_iff
      rw [hmax] at hshort
      exact {
        started := ScanPc.noConfusion
        reading := fun _ => ⟨hfollows.sound, hfollows.maxTokenSize.trans hmax, hiff.trans hshort⟩
        read := fun _ hsending => absurd rfl hsending
        deferred := h.deferred
        drained := fun hdrain => absurd hdrain (hopen (by rw [hscan]; rfl)) }
  | ended hscan htoken =>
      obtain ⟨hsound, hmax, hiff⟩ := h.reading (Or.inl hscan)
      have hscanned := hsound.scanned_scan
      rw [htoken] at hscanned
      have hshort := hscanned.shortLines_iff
      rw [hmax] at hshort
      exact {
        started := ScanPc.noConfusion
        reading := by rintro (hpc | hpc) <;> cases hpc
        read := fun _ _ => hiff.trans hshort
        deferred := h.deferred
        drained := fun hdrain => absurd hdrain (hopen (by rw [hscan]; rfl)) }
  | close hscan | pipes hscan | group hscan =>
      exact {
        started := ScanPc.noConfusion
        reading := by rintro (hpc | hpc) <;> cases hpc
        read := fun _ _ => h.read (by rw [hscan]; decide) (by rw [hscan]; decide)
        deferred := h.deferred
        drained := fun _ => rfl }
  | wake hstart hevent hline =>
      have hoff : s.drain = .off := h.deferred.mp (by rw [hstart]; exact StartPc.noConfusion)
      exact { h with deferred := iff_of_true StartPc.noConfusion hoff }
  | first hstart hscan =>
      have hoff : s.drain = .off := h.deferred.mp (by rw [hstart]; exact StartPc.noConfusion)
      exact {
        started := ScanPc.noConfusion
        reading := fun _ => h.reading (Or.inr hscan)
        read := fun hscanning => absurd rfl hscanning
        deferred := iff_of_true StartPc.noConfusion hoff
        drained := fun hdrain => absurd hdrain (hopen (by rw [hscan]; rfl)) }
  | startReturns hstart =>
      exact {
        started := h.started
        reading := h.reading
        read := h.read
        deferred := iff_of_false (fun hne => hne rfl) DrainPc.noConfusion
        drained := by rintro (hdrain | hdrain) <;> cases hdrain }
  | line hdrain hscan =>
      exact {
        started := ScanPc.noConfusion
        reading := fun _ => h.reading (Or.inr hscan)
        read := fun hscanning => absurd rfl hscanning
        deferred := h.deferred
        drained := fun hdrain => absurd hdrain (hopen (by rw [hscan]; rfl)) }
  | drained hdrain hclosed =>
      have hback : ¬s.start ≠ .returned := by
        rw [h.deferred, hdrain]
        exact DrainPc.noConfusion
      exact { h with
        deferred := iff_of_false hback DrainPc.noConfusion
        drained := fun _ => hclosed }
  | done hdrain =>
      have hback : ¬s.start ≠ .returned := by
        rw [h.deferred, hdrain]
        exact DrainPc.noConfusion
      exact { h with
        deferred := iff_of_false hback DrainPc.noConfusion
        drained := fun _ => h.drained (Or.inl hdrain) }

/-! ### The goroutines come to rest -/

/-- How many steps are left, with so many bytes to come. -/
def scanSteps (bytes : Nat) : ScanPc → Nat
  | .off | .finished => 0
  | .group => 1
  | .pipes => 2
  | .closing => 3
  | .scanning => 4 + 2 * bytes
  | .sending => 5 + 2 * bytes

def startSteps : StartPc → Nat
  | .selecting => 2
  | .handling _ => 1
  | .returned => 0

def drainSteps : DrainPc → Nat
  | .off => 3
  | .draining => 2
  | .group => 1
  | .finished => 0

def stepsLeft (s : StdoutState) : Nat :=
  scanSteps s.scanner.remaining.length s.scan + startSteps s.start + drainSteps s.drain

theorem Sound.stepsLeft_lt {bytes : ByteString} (h : Sound bytes s) (hnext : Next s a s') :
    s'.stepsLeft < s.stepsLeft := by
  unfold stepsLeft
  cases hnext with
  | token hscan htoken =>
      obtain ⟨hsound, -, -⟩ := h.reading (Or.inl hscan)
      have hscanned := hsound.scanned_scan
      rw [htoken] at hscanned
      obtain ⟨-, hless⟩ := hscanned.follows
      rw [hscan]
      simp only [scanSteps]
      omega
  | ended hscan htoken =>
      rw [hscan]
      simp only [scanSteps]
      omega
  | close hscan | pipes hscan | group hscan =>
      rw [hscan]
      simp only [scanSteps]
      omega
  | wake hstart hevent hline =>
      rw [hstart]
      simp only [startSteps]
      omega
  | first hstart hscan =>
      rw [hstart, hscan]
      simp only [scanSteps, startSteps]
      omega
  | startReturns hstart =>
      have hoff : s.drain = .off := h.deferred.mp (by rw [hstart]; exact StartPc.noConfusion)
      rw [hstart, hoff]
      simp only [startSteps, drainSteps]
      omega
  | line hdrain hscan =>
      rw [hscan]
      simp only [scanSteps]
      omega
  | drained hdrain hclosed | done hdrain =>
      rw [hdrain]
      simp only [drainSteps]
      omega

/-- One of the goroutines can go on until they all have finished. -/
theorem Sound.finished {bytes : ByteString} (h : Sound bytes s) (hstuck : ∀ a, step s a = none) :
    s.scan = .finished ∧ s.start = .returned ∧ s.drain = .finished := by
  have hstart : s.start = .returned := by
    cases hpc : s.start with
    | selecting =>
        have hselect := hstuck (.select .timeout)
        simp [step, selectStep, hpc] at hselect
    | handling event =>
        have hreturn := hstuck .startReturns
        simp [step, hpc] at hreturn
    | returned => rfl
  have hscan := hstuck .scan
  have hdrain := hstuck .drain
  have hon : s.drain ≠ .off := fun hoff => h.deferred.mpr hoff hstart
  cases hpc : s.drain with
  | off => exact absurd hpc hon
  | draining =>
      -- the scanner's goroutine is neither able to go on by itself nor waiting for the drainer
      simp only [step, drainStep, hpc, scanStep] at hdrain hscan
      cases hpc' : s.scan with
      | off => exact absurd hpc' h.started
      | scanning =>
          rw [hpc'] at hscan
          dsimp only at hscan
          split at hscan <;> cases hscan
      | sending => simp [hpc'] at hdrain
      | closing | pipes | group => simp [hpc'] at hscan
      | finished => simp [hpc', ScanPc.closed] at hdrain
  | group => simp [step, drainStep, hpc] at hdrain
  | finished =>
      have hclosed := h.drained (Or.inr hpc)
      refine ⟨?_, hstart, rfl⟩
      cases hpc' : s.scan with
      | off | scanning | sending | closing => simp [hpc', ScanPc.closed] at hclosed
      | pipes | group => simp [step, scanStep, hpc'] at hscan
      | finished => rfl

/-! ### Runs -/

theorem Sound.step {bytes : ByteString} (s : StdoutState) (a : Act) (s' : StdoutState)
    (h : Sound bytes s) (hstep : StdoutState.step s a = some s') :
    Sound bytes s' ∧ s'.stepsLeft < s.stepsLeft :=
  ⟨h.next (next_of_step hstep), h.stepsLeft_lt (next_of_step hstep)⟩

theorem sound_of_exec (h : stdout.Lively) {run : List Act}
    (hrun : exec step (launched stdout) run = some s) : Sound stdout.rest s :=
  exec_invariant_of_step (fun s a s' hs hstep => (hs.step s a s' hstep).1) (sound_launched h) hrun

/-- Nothing is left of the stream where the goroutines have come to rest. -/
def Drained (stdout : Source) : Prop :=
  ∀ run s, exec step (launched stdout) run = some s → (∀ a, step s a = none) →
    s.scanner.source.rest = []

/-- Whether something is left does not depend on the run. -/
theorem rest_eq_nil_iff (h : stdout.Lively) {run : List Act}
    (hrun : exec step (launched stdout) run = some s) (hstuck : ∀ a, step s a = none) :
    s.scanner.source.rest = [] ↔ ShortLines stdout.rest := by
  have hsound := sound_of_exec h hrun
  obtain ⟨hscan, -, -⟩ := hsound.finished hstuck
  refine (hsound.read ?_ ?_).symm
  · rw [hscan]
    exact ScanPc.noConfusion
  · rw [hscan]
    exact ScanPc.noConfusion

theorem exists_stuck (h : stdout.Lively) :
    ∃ run s, exec step (launched stdout) run = some s ∧ ∀ a, step s a = none :=
  exists_exec_stuck (fun s a s' hs hstep => hs.step s a s' hstep) (sound_launched h)

/-- **Every run of the three goroutines ends**, with all of them finished, whatever `Start` has
    waited for and received.  The whole of the plugin's stdout has then been read if and only if
    each of its lines ends within the size of the scanner's largest buffer. -/
theorem drained_iff (stdout : Source) (h : stdout.Lively) :
    (∀ run s, exec step (launched stdout) run = some s →
      run.length ≤ 2 * stdout.rest.length + 9 ∧
        ((∀ a, step s a = none) →
          s.scan = .finished ∧ s.start = .returned ∧ s.drain = .finished)) ∧
      (Drained stdout ↔ ShortLines stdout.rest) := by
  refine ⟨?_, ?_, ?_⟩
  · intro run s hrun
    have hlength := length_add_le_of_exec (fun s a s' hs hstep => hs.step s a s' hstep)
      (sound_launched h) hrun
    have hleft : (launched stdout).stepsLeft = 4 + 2 * stdout.rest.length + 2 + 3 := rfl
    exact ⟨by omega, (sound_of_exec h hrun).finished⟩
  · intro hdrained
    obtain ⟨run, s, hrun, hstuck⟩ := exists_stuck h
    exact (rest_eq_nil_iff h hrun hstuck).mp (hdrained run s hrun hstuck)
  · intro hshort run s hrun hstuck
    exact (rest_eq_nil_iff h hrun hstuck).mpr hshort

/-- A handshake line and a last line without an end. -/
def twoLines : Source := ⟨ascii "1|1|tcp|:1" ++ newline :: ascii "ready", [⟨1, 9, false⟩], .eof⟩

theorem drained_twoLines :
    twoLines.Lively ∧ ShortLines twoLines.rest ∧ Drained twoLines := by
  have hlively : twoLines.Lively := by
    intro p hp
    cases List.mem_singleton.mp hp
    decide
  have hshort : ShortLines twoLines.rest := by
    unfold ShortLines twoLines
    rw [shortLines_line (by decide) (by decide)]
    exact shortLines_last (by decide) (by decide)
  exact ⟨hlively, hshort, (drained_iff twoLines hlively).2.mpr hshort⟩

/-- After the handshake the plugin prints a line that is longer than the buffer, by more than the
    pipe holds. -/
def longLine : Source :=
  ⟨ascii "1|1|tcp|:1" ++ newline :: List.replicate (maxScanTokenSize + 100000) 120, [], .eof⟩

theorem not_shortLines_longLine : ¬ShortLines longLine.rest := by
  have hplain : newline ∉ List.replicate maxScanTokenSize 120 := by
    intro hmem
    exact absurd (List.eq_of_mem_replicate hmem) (by decide)
  unfold ShortLines longLine
  rw [shortLines_line (by decide) (by decide), ← List.replicate_append_replicate,
    shortLines_tooLong hplain List.length_replicate]
  exact List.cons_ne_nil _ _

/-- The scanner gives up on the long line: all goroutines finish, and bytes are left. -/
theorem longLine_left_unread :
    (∃ run s, exec step (launched longLine) run = some s ∧ ∀ a, step s a = none) ∧
      ∀ run s, exec step (launched longLine) run = some s → (∀ a, step s a = none) →
        s.scanner.source.rest ≠ [] := by
  have hlively : longLine.Lively := List.forall_mem_nil _
  refine ⟨exists_stuck hlively, ?_⟩
  intro run s hrun hstuck hrest
  exact not_shortLines_longLine ((rest_eq_nil_iff hlively hrun hstuck).mp hrest)

/-! ### What `Start` receives -/

/-- The scanner's goroutine has got as far as its first line, at most. -/
structure Unread (stdout : Source) (s : StdoutState) : Prop where
  scanning : s.scan = .scanning → s.scanner = newScanner stdout
  sending : s.scan = .sending → (newScanner stdout).scan.1 = some s.text
  ended : s.scan = .closing ∨ s.scan.closed = true → (newScanner stdout).scan.1 = none

/-- The result of the first `Scan` is for `Start`, until it goes on. -/
structure Awaits (stdout : Source) (s : StdoutState) : Prop where
  unread : s.start = .selecting → Unread stdout s
  line : ∀ line, s.start = .handling (.line line) → (newScanner stdout).scan.1 = some line
  closed : s.start = .handling .closed → (newScanner stdout).scan.1 = none
  undrained : s.start ≠ .returned → s.drain = .off

theorem awaits_launched (stdout : Source) : Awaits stdout (launched stdout) where
  unread _ := by
    refine ⟨fun _ => rfl, ?_, ?_⟩
    · intro hpc
      cases hpc
    · rintro (hpc | hpc) <;> cases hpc
  line := by
    intro line hpc
    cases hpc
  closed := by
    intro hpc
    cases hpc
  undrained _ := rfl

theorem Unread.token (h : Unread stdout s) (hscan : s.scan = .scanning) {text : ByteString}
    {scanner : Scanner} (htoken : s.scanner.scan = (some text, scanner)) :
    Unread stdout { s with scanner := scanner, text := text, scan := .sending } := by
  refine ⟨?_, ?_, ?_⟩
  · intro hpc
    cases hpc
  · intro _
    rw [← h.scanning hscan, htoken]
  · rintro (hpc | hpc) <;> cases hpc

/-- There is no first line, and the goroutine is on its way to its end. -/
theorem unread_of_none (h : (newScanner stdout).scan.1 = none) (hscanning : s.scan ≠ .scanning)
    (hsending : s.scan ≠ .sending) : Unread stdout s :=
  ⟨fun hpc => absurd hpc hscanning, fun hpc => absurd hpc hsending, fun _ => h⟩

theorem Awaits.next (h : Awaits stdout s) (hnext : Next s a s') : Awaits stdout s' := by
  have hoff : s.start = .selecting → s.drain = .off := by
    intro hstart
    apply h.undrained
    rw [hstart]
    exact StartPc.noConfusion
  cases hnext with
  | token hscan htoken =>
      exact { h with unread := fun hstart => (h.unread hstart).token hscan htoken }
  | ended hscan htoken =>
      refine { h with unread := fun hstart => unread_of_none ?_ ?_ ?_ }
      · rw [← (h.unread hstart).scanning hscan, htoken]
      · exact ScanPc.noConfusion
      · exact ScanPc.noConfusion
  | close hscan | pipes hscan | group hscan =>
      refine { h with unread := fun hstart => unread_of_none ?_ ?_ ?_ }
      · apply (h.unread hstart).ended
        rw [hscan]
        decide
      · exact ScanPc.noConfusion
      · exact ScanPc.noConfusion
  | @wake event hstart hevent hline =>
      refine ⟨?_, ?_, ?_, fun _ => hoff hstart⟩
      · intro hpc
        cases hpc
      · intro line hpc
        cases hpc
        exact absurd rfl (hline line)
      · intro hpc
        cases hpc
        exact (h.unread hstart).ended (Or.inr (hevent rfl))
  | first hstart hscan =>
      refine ⟨?_, ?_, ?_, fun _ => hoff hstart⟩
      · intro hpc
        cases hpc
      · intro line hpc
        cases hpc
        exact (h.unread hstart).sending hscan
      · intro hpc
        cases hpc
  | startReturns hstart =>
      refine ⟨?_, ?_, ?_, fun hback => absurd rfl hback⟩
      · intro hpc
        cases hpc
      · intro line hpc
        cases hpc
      · intro hpc
        cases hpc
  | line hdrain hscan =>
      refine { h with unread := ?_ }
      intro hstart
      cases hdrain.symm.trans (hoff hstart)
  | drained hdrain hclosed | done hdrain =>
      refine { h with unread := ?_, undrained := ?_ }
      · intro hstart
        cases hdrain.symm.trans (hoff hstart)
      · intro hback
        cases hdrain.symm.trans (h.undrained hback)

theorem awaits_of_exec {run : List Act} (hrun : exec step (launched stdout) run = some s) :
    Awaits stdout s :=
  exec_invariant_of_step (fun _ _ _ hs hstep => hs.next (next_of_step hstep))
    (awaits_launched stdout) hrun

/-- The handshake is made on the first line of stdout, as `handshakeOn` has it. -/
theorem handshake_of_exec (c : ClientConfig) (order : RangeOrder Int64 PluginSet)
    (deps : HandshakeDeps) (h : stdout.Lively)
    (hends : newline ∈ stdout.rest ∨ stdout.rest.length ≠ maxScanTokenSize) {run : List Act}
    (hrun : exec step (launched stdout) run = some s) :
    (∀ line, s.start = .handling (.line line) →
      handshake c order deps line true = handshakeOn c order deps stdout.rest) ∧
      (s.start = .handling .closed →
        handshake c order deps [] false = handshakeOn c order deps stdout.rest) := by
  have hawaits := awaits_of_exec hrun
  have hfirst : (newScanner stdout).scan.1 = scanLine stdout.rest :=
    (Scanner.sound_newScanner h).scanned_scan.eq_scanLine rfl hends
  refine ⟨?_, ?_⟩
  · intro line hstart
    rw [handshakeOn, ← hfirst, hawaits.line line hstart]
  · intro hstart
    rw [handshakeOn, ← hfirst, hawaits.closed hstart]

/-! ### The client's goroutines -/

/-- How the client sees the step.  That `Start` receives a line is a step of the drainer there. -/
def lifecycleAct (n : Nat) (s : StdoutState) : Act → Option Client.Act
  | .scan => some (.goroutine n (.scanner s.scanner.scan.1.isSome))
  | .select (.line _) | .drain => some (.goroutine n .drainer)
  | .select _ | .startReturns => none

/-- The drainer that the client has from the beginning. -/
def lifecycleDrain : DrainPc → DrainPc
  | .off => .draining
  | pc => pc

/-- The runner `n` of the client is the one whose stdout this is. -/
def Follows (n : Nat) (s : StdoutState) (c : Client) : Prop :=
  ∃ r, c.runners[n]? = some r ∧ r.scanner = s.scan ∧ r.drainer = lifecycleDrain s.drain

theorem follows_set {n : Nat} {c c' : Client} {r r' : RunnerState}
    (hr : c.runners[n]? = some r) (hrunners : c'.runners = c.runners.set n r')
    (hscan : r'.scanner = s.scan) (hdrain : r'.drainer = lifecycleDrain s.drain) :
    Follows n s c' := by
  obtain ⟨hn, -⟩ := List.getElem?_eq_some_iff.mp hr
  refine ⟨r', ?_, hscan, hdrain⟩
  rw [hrunners, List.getElem?_set_self hn]

theorem step_goroutine (cfg : LaunchConfig) {n : Nat} {c : Client} {r : RunnerState}
    (hr : c.runners[n]? = some r) (g : Client.Goroutine) :
    Client.step cfg c (.goroutine n g) = c.goroutineStep n r g := by
  rw [Client.step, hr]

theorem Follows.next (cfg : LaunchConfig) {n : Nat} {c : Client} (hawaits : Awaits stdout s)
    (h : Follows n s c) (hnext : Next s a s') :
    (∀ b, lifecycleAct n s a = some b → ∃ c', Client.step cfg c b = some c' ∧ Follows n s' c') ∧
      (lifecycleAct n s a = none → Follows n s' c) := by
  obtain ⟨r, hr, hscanner, hdrainer⟩ := h
  -- a step of the scanner or of the drainer there
  have hshown : ∀ {g} (r' : RunnerState),
      (c.goroutineStep n r g).map Client.runners = some (c.runners.set n r') →
      r'.scanner = s'.scan → r'.drainer = lifecycleDrain s'.drain →
      (∀ b, some (Client.Act.goroutine n g) = some b →
        ∃ c', Client.step cfg c b = some c' ∧ Follows n s' c') ∧
        (some (Client.Act.goroutine n g) = none → Follows n s' c) := by
    intro g r' hmap hscan hdrain
    obtain ⟨c', hstep, hrunners⟩ := Option.map_eq_some_iff.mp hmap
    refine ⟨?_, ?_⟩
    · intro b hb
      cases hb
      exact ⟨c', (step_goroutine cfg hr g).trans hstep, follows_set hr hrunners hscan hdrain⟩
    · intro hnone
      cases hnone
  have hon : s.start ≠ .returned → r.drainer = .draining := by
    intro hback
    rw [hdrainer, hawaits.undrained hback]
    rfl
  cases hnext with
  | token hscan htoken =>
      rw [hscan] at hscanner
      rw [lifecycleAct, htoken]
      refine hshown { r with scanner := .sending } ?_ rfl hdrainer
      rw [Client.goroutineStep, Client.scannerStep, hscanner]
      rfl
  | ended hscan htoken =>
      rw [hscan] at hscanner
      rw [lifecycleAct, htoken]
      refine hshown { r with scanner := .closing } ?_ rfl hdrainer
      rw [Client.goroutineStep, Client.scannerStep, hscanner]
      rfl
  | close hscan =>
      rw [hscan] at hscanner
      refine hshown { r with scanner := .pipes } ?_ rfl hdrainer
      rw [Client.goroutineStep, Client.scannerStep, hscanner]
      rfl
  | pipes hscan =>
      rw [hscan] at hscanner
      refine hshown { r with scanner := .group } ?_ rfl hdrainer
      rw [Client.goroutineStep, Client.scannerStep, hscanner]
      rfl
  | group hscan =>
      rw [hscan] at hscanner
      refine hshown { r with scanner := .finished } ?_ rfl hdrainer
      rw [Client.goroutineStep, Client.scannerStep, hscanner]
      rfl
  | @wake event hstart hevent hline =>
      cases event with
      | line line => exact absurd rfl (hline line)
      | timeout | exited | closed =>
          refine ⟨?_, fun _ => ⟨r, hr, hscanner, hdrainer⟩⟩
          intro b hb
          cases hb
  | first hstart hscan =>
      rw [hscan] at hscanner
      have hdraining := hon (hstart ▸ StartPc.noConfusion)
      refine hshown { r with scanner := .scanning } ?_ rfl hdrainer
      rw [Client.goroutineStep, Client.drainerStep, hdraining, hscanner]
      rfl
  | startReturns hstart =>
      have hdraining := hon (hstart ▸ StartPc.noConfusion)
      refine ⟨?_, fun _ => ⟨r, hr, hscanner, hdraining⟩⟩
      intro b hb
      cases hb
  | line hdrain hscan =>
      rw [hscan] at hscanner
      rw [hdrain] at hdrainer
      have hdraining : r.drainer = .draining := hdrainer
      refine hshown { r with scanner := .scanning } ?_ rfl ?_
      · rw [Client.goroutineStep, Client.drainerStep, hdraining, hscanner]
        rfl
      · rw [hdrain]
        exact hdrainer
  | drained hdrain hclosed =>
      rw [hdrain] at hdrainer
      have hdraining : r.drainer = .draining := hdrainer
      refine hshown { r with drainer := .group } ?_ hscanner rfl
      rw [Client.goroutineStep, Client.drainerStep, hdraining, hscanner]
      cases hpc : s.scan with
      | off | scanning | sending | closing =>
          rw [hpc] at hclosed
          cases hclosed
      | pipes | group | finished => rfl
  | done hdrain =>
      rw [hdrain] at hdrainer
      have hgroup : r.drainer = .group := hdrainer
      refine hshown { r with drainer := .finished } ?_ hscanner rfl
      rw [Client.goroutineStep, Client.drainerStep, hgroup]
      rfl

/-- Every run here is, without the steps that are `Start`'s own, a run of the client's
    goroutines. -/
theorem client_run (cfg : LaunchConfig) {n : Nat} {c : Client} {run : List Act}
    (hc : Follows n (launched stdout) c) (hrun : exec step (launched stdout) run = some s) :
    ∃ c', exec (Client.step cfg) c (subrun step (lifecycleAct n) (launched stdout) run) = some c' ∧
      Follows n s c' := by
  have hkeep : ∀ s a s' c b, Awaits stdout s ∧ Follows n s c → step s a = some s' →
      lifecycleAct n s a = some b →
      ∃ c', Client.step cfg c b = some c' ∧ Awaits stdout s' ∧ Follows n s' c' := by
    rintro s a s' c b ⟨hawaits, hfollows⟩ hstep hview
    have hnext := next_of_step hstep
    obtain ⟨c', hc', hfollows'⟩ := (hfollows.next cfg hawaits hnext).1 b hview
    exact ⟨c', hc', hawaits.next hnext, hfollows'⟩
  have hhide : ∀ s a s' c, Awaits stdout s ∧ Follows n s c → step s a = some s' →
      lifecycleAct n s a = none → Awaits stdout s' ∧ Follows n s' c := by
    rintro s a s' c ⟨hawaits, hfollows⟩ hstep hview
    have hnext := next_of_step hstep
    exact ⟨hawaits.next hnext, (hfollows.next cfg hawaits hnext).2 hview⟩
  obtain ⟨c', hexec, -, hfollows⟩ := exec_subrun hkeep hhide ⟨awaits_launched stdout, hc⟩ hrun
  exact ⟨c', hexec, hfollows⟩

end StdoutState

end GoPlugin
