import GoPlugin.ByteString
import GoPlugin.LabelledSystem
import GoPlugin.Tally

/-!
# The life of a plugin client (`client.go`)

`Start` launches the plugin, or attaches to a running one, and leaves goroutines behind: the
stderr pump, the stdout scanner, the drainer of its lines and the waiter, which sets `exited`.
`Kill` may be called by any number of goroutines; `killOnce` lets one of them run the body.

`Start` holds the client's lock from its first to its last statement, so a call is one step
here; what comes of it is left to the environment.  `Client` and `Protocol` begin with a `Start`
call.  The other critical sections are one step each as well.

What is assumed of a runner: `Wait` returns after the plugin has exited only, a runner whose
`Start` fails has no plugin that runs, and `ID` does not change.
-/

namespace GoPlugin

open Tally LabelledSystem

/-- Which one of `Cmd`, `RunnerFunc` and `Reattach` the configuration has. -/
inductive LaunchMode where
  | cmd
  | runnerFunc
  | reattach (test : Bool)
deriving DecidableEq, Repr

/-- The options that are read here, and the client's place in `managedClients`. -/
structure LaunchConfig where
  mode : LaunchMode
  managed : Bool
  self : Nat
deriving DecidableEq, Repr

/-! ### The goroutines of a plugin -/

/-- Where `logStderr` stands. -/
inductive PumpPc where
  | off         -- no such goroutine
  | pumping
  | pipes       -- before `pipesWaitGroup.Done`
  | group       -- before `clientWaitGroup.Done`
  | finished
deriving DecidableEq, Repr

/-- What the goroutine adds to `clientWaitGroup`. -/
def PumpPc.member : PumpPc → Nat
  | .off | .finished => 0
  | _ => 1

/-- Where the scanner of stdout stands. -/
inductive ScanPc where
  | off
  | scanning
  | sending     -- in `linesCh <- scanner.Text()`
  | closing     -- before `close(linesCh)`
  | pipes
  | group
  | finished
deriving DecidableEq, Repr

def ScanPc.member : ScanPc → Nat
  | .off | .finished => 0
  | _ => 1

/-- Where the drainer of the lines stands. -/
inductive DrainPc where
  | off
  | draining
  | group
  | finished
deriving DecidableEq, Repr

def DrainPc.member : DrainPc → Nat
  | .off | .finished => 0
  | _ => 1

/-- Where the waiter stands.  `ctx` is the context whose cancel function it has deferred. -/
inductive WaiterPc where
  | off
  | starting                  -- before `defer c.ctxCancel()`
  | pipes (ctx : Nat)         -- in `pipesWaitGroup.Wait`
  | waiting (ctx : Nat)       -- in `runner.Wait`
  | locking (ctx : Nat)       -- before it sets `exited`
  | group (ctx : Nat)         -- before `clientWaitGroup.Done`
  | cancelling (ctx : Nat)    -- before `ctxCancel`
  | finished
deriving DecidableEq, Repr

/-- A launched plugin's waiter calls `Done` before it cancels the context, a reattached one's
    afterwards. -/
def WaiterPc.member (attached : Bool) : WaiterPc → Nat
  | .off | .finished => 0
  | .cancelling _ => if attached then 1 else 0
  | _ => 1

/-- The waiter has seen the plugin exit. -/
def WaiterPc.reaped : WaiterPc → Bool
  | .locking _ | .group _ | .cancelling _ | .finished => true
  | _ => false

/-- The waiter has set `exited`. -/
def WaiterPc.past : WaiterPc → Bool
  | .group _ | .cancelling _ | .finished => true
  | _ => false

/-- A runner that the client has called `Start` on or attached to, and the goroutines for it. -/
structure RunnerState where
  id : ByteString
  attached : Bool
  running : Bool
  stderr : PumpPc
  scanner : ScanPc
  drainer : DrainPc
  waiter : WaiterPc
deriving DecidableEq, Repr

namespace RunnerState

/-- `runner.Start` failed. -/
def unstarted (id : ByteString) : RunnerState :=
  ⟨id, false, false, .off, .off, .off, .off⟩

def launched (id : ByteString) : RunnerState :=
  ⟨id, false, true, .pumping, .scanning, .draining, .starting⟩

def reattached (id : ByteString) : RunnerState :=
  ⟨id, true, true, .off, .off, .off, .starting⟩

/-- How many of its goroutines have yet to call `clientWaitGroup.Done`. -/
def members (r : RunnerState) : Nat :=
  r.stderr.member + r.scanner.member + r.drainer.member + r.waiter.member r.attached

end RunnerState

/-! ### The client -/

/-- Where the body of `Kill` stands.  `n` is the runner and `dir` the socket directory that it
    has read. -/
inductive BodyPc where
  | counting
  | reading                                   -- before the locked reads
  | dialing (n : Nat) (dir : Option Nat)      -- in `c.Client()`
  | closing (n : Nat) (dir : Option Nat)      -- before `client.Close()`
  | grace (n : Nat) (dir : Option Nat)        -- in the select on `doneCtx` and the timer
  | killing (n : Nat) (dir : Option Nat)      -- before `runner.Kill`
  | marking (dir : Option Nat)                -- before it sets `processKilled`
  | waiting (dir : Option Nat)                -- in `clientWaitGroup.Wait`
  | removing (dir : Option Nat)               -- before `os.RemoveAll`
  | clearing                                  -- before it clears `c.runner`
  | untracking                                -- before `removeManagedClient`
deriving DecidableEq, Repr

/-- The body is past `clientWaitGroup.Wait`. -/
def BodyPc.late : BodyPc → Bool
  | .removing _ | .clearing | .untracking => true
  | _ => false

/-- The state of `killOnce`: nobody has come, the `t`-th `Kill` call runs the body, or it has. -/
inductive OncePc where
  | idle
  | running (t : Nat) (pc : BodyPc)
  | done
deriving DecidableEq, Repr

/-- Where a `Kill` call stands. -/
inductive KillPc where
  | entering    -- before it reads `c.runner`
  | once        -- in `killOnce.Do`
  | returned
deriving DecidableEq, Repr

/-- What the client has told the plugin to do. -/
inductive Command where
  | close
  | kill (n : Nat)
deriving DecidableEq, Repr

/-- The client; runners, contexts and temporary directories are named by numbers.  The fields
    from `runners` on are the world around it.  `address` names the runner that reported it,
    `piped` says that `StdoutPipe` has been called on `config.Cmd`. -/
structure Client where
  address : Option Nat
  runner : Option Nat
  client : Bool
  exited : Bool
  processKilled : Bool
  doneCtx : Option Nat
  clientWaitGroup : Nat
  pipesWaitGroup : Nat
  killOnce : OncePc
  killBodyRuns : Nat
  socketDir : Option Nat
  piped : Bool
  runners : List RunnerState
  cancelled : List Nat
  dirsMade : Nat
  dirs : List Nat
  managedClients : List Nat
  calls : List KillPc
  commands : List Command
deriving DecidableEq, Repr

namespace Client

/-- `NewClient`, where `others` are managed already. -/
def newClient (cfg : LaunchConfig) (others : List Nat) : Client where
  address := none
  runner := none
  client := false
  exited := false
  processKilled := false
  doneCtx := none
  clientWaitGroup := 0
  pipesWaitGroup := 0
  killOnce := .idle
  killBodyRuns := 0
  socketDir := none
  piped := false
  runners := []
  cancelled := []
  dirsMade := 0
  dirs := []
  managedClients := if cfg.managed then others ++ [cfg.self] else others
  calls := []
  commands := []

/-! ### `Start` -/

/-- Where a `Start` call ends that finds no address.  `id` is what `ID` of the runner gives. -/
inductive StartOutcome where
  | refused                          -- the option checks, the checksum, the certificate
  | noDir                            -- `os.MkdirTemp`
  | noGroup                          -- `setGroupWritable`
  | noRunner (piped : Bool)          -- `RunnerFunc`, `NewCmdRunner` or `ReattachFunc`
  | noStart (id : ByteString)        -- `runner.Start`
  | noHandshake (id : ByteString)    -- the timeout, or a bad handshake
  | ok (id : ByteString)
deriving DecidableEq, Repr

def mkdirTemp (s : Client) : Client :=
  { s with
    socketDir := some s.dirsMade
    dirsMade := s.dirsMade + 1
    dirs := s.dirs ++ [s.dirsMade] }

/-- Up to the runner.  `StdoutPipe` fails on a command that has a pipe already, and `ID` of a
    `CmdRunner` prints a number. -/
def newRunner (cfg : LaunchConfig) (s : Client) (id : ByteString) : Option Client :=
  match cfg.mode with
  | .cmd => if s.piped || id.isEmpty then none else some { s with piped := true }
  | .runnerFunc => some s.mkdirTemp
  | .reattach _ => none

def setRunner (s : Client) (r : RunnerState) : Client :=
  { s with runner := some s.runners.length, runners := s.runners ++ [r] }

/-- From `runner.Start` to the handshake. -/
def spawn (s : Client) (id : ByteString) : Client :=
  { s.setRunner (.launched id) with
    doneCtx := some s.runners.length
    clientWaitGroup := s.clientWaitGroup + 4
    pipesWaitGroup := s.pipesWaitGroup + 2 }

def launch (cfg : LaunchConfig) (s : Client) : StartOutcome → Option Client
  | .refused => some s
  | .noDir => if cfg.mode = .runnerFunc then some { s with socketDir := none } else none
  | .noGroup => if cfg.mode = .runnerFunc then some s.mkdirTemp else none
  | .noRunner piped =>
      match cfg.mode with
      | .cmd => some { s with piped := s.piped || piped }
      | .runnerFunc => some s.mkdirTemp
      | .reattach _ => none
  | .noStart id => (newRunner cfg s id).map fun s => s.setRunner (.unstarted id)
  | .noHandshake id =>
      -- the deferred function kills the runner
      (newRunner cfg s id).map fun s =>
        { s.spawn id with commands := s.commands ++ [.kill s.runners.length] }
  | .ok id =>
      (newRunner cfg s id).map fun s => { s.spawn id with address := some s.runners.length }

def reattach (s : Client) (test : Bool) : StartOutcome → Option Client
  | .refused | .noRunner _ => some s
  | .ok id =>
      some { s with
        address := some s.runners.length
        -- in test mode the runner is not set
        runner := if test then s.runner else some s.runners.length
        doneCtx := some s.runners.length
        clientWaitGroup := s.clientWaitGroup + 1
        runners := s.runners ++ [.reattached id] }
  | _ => none

def start (cfg : LaunchConfig) (s : Client) (o : StartOutcome) : Option Client :=
  if s.address.isSome then some s
  else
    match cfg.mode with
    | .reattach test => s.reattach test o
    | _ => launch cfg s o

/-! ### `Kill` -/

/-- The body ends, and with it the call that runs it. -/
def leave (s : Client) (t : Nat) : Client :=
  { s with killOnce := .done, calls := s.calls.set t .returned }

/-- A step of the body, which the `t`-th call runs.  `ok` is the outcome of a step that has
    two. -/
def bodyStep (cfg : LaunchConfig) (s : Client) (t : Nat) (ok : Bool) : BodyPc → Option Client
  | .counting =>
      some { s with killBodyRuns := s.killBodyRuns + 1, killOnce := .running t .reading }
  | .reading =>
      match s.runner with
      | none => some (s.leave t)
      | some n =>
          match s.runners[n]? with
          | some r =>
              if r.id.isEmpty then some (s.leave t)
              else if s.address.isSome then
                some { s with killOnce := .running t (.dialing n s.socketDir) }
              else some { s with killOnce := .running t (.killing n s.socketDir) }
          | none => none
  | .dialing n dir =>
      if s.client || ok then
        some { s with client := true, killOnce := .running t (.closing n dir) }
      else some { s with killOnce := .running t (.killing n dir) }
  | .closing n dir =>
      some { s with
        killOnce := .running t (if ok then .grace n dir else .killing n dir)
        commands := s.commands ++ [.close] }
  | .grace n dir =>
      if ok then
        match s.doneCtx with
        | some ctx =>
            if s.cancelled.contains ctx then some { s with killOnce := .running t (.waiting dir) }
            else none
        | none => none
      else some { s with killOnce := .running t (.killing n dir) }
  | .killing n dir =>
      some { s with killOnce := .running t (.marking dir), commands := s.commands ++ [.kill n] }
  | .marking dir => some { s with processKilled := true, killOnce := .running t (.waiting dir) }
  | .waiting dir =>
      if s.clientWaitGroup = 0 then some { s with killOnce := .running t (.removing dir) }
      else none
  | .removing dir =>
      some { s with killOnce := .running t .clearing, dirs := s.dirs.filter (some · != dir) }
  | .clearing => some { s with runner := none, killOnce := .running t .untracking }
  | .untracking =>
      some { s.leave t with
        managedClients := if cfg.managed then s.managedClients.erase cfg.self
          else s.managedClients }

/-- A step of the `t`-th `Kill` call outside the body. -/
def callStep (s : Client) (t : Nat) : Option Client :=
  match s.calls[t]? with
  | some .entering =>
      match s.runner with
      | none => some { s with calls := s.calls.set t .returned }
      | some _ => some { s with calls := s.calls.set t .once }
  | some .once =>
      match s.killOnce with
      | .idle => some { s with killOnce := .running t .counting }
      | .running _ _ => none
      | .done => some { s with calls := s.calls.set t .returned }
  | _ => none

/-! ### The goroutines -/

inductive Goroutine where
  | stderr
  | scanner (more : Bool)    -- whether `Scan` finds another line
  | drainer
  | waiter
deriving DecidableEq, Repr

def stderrStep (s : Client) (n : Nat) (r : RunnerState) : Option Client :=
  match r.stderr with
  | .pumping => some { s with runners := s.runners.set n { r with stderr := .pipes } }
  | .pipes =>
      some { s with
        pipesWaitGroup := s.pipesWaitGroup - 1
        runners := s.runners.set n { r with stderr := .group } }
  | .group =>
      some { s with
        clientWaitGroup := s.clientWaitGroup - 1
        runners := s.runners.set n { r with stderr := .finished } }
  | .off | .finished => none

def scannerStep (s : Client) (n : Nat) (r : RunnerState) (more : Bool) : Option Client :=
  match r.scanner with
  | .scanning =>
      some { s with
        runners := s.runners.set n { r with scanner := if more then .sending else .closing } }
  | .closing => some { s with runners := s.runners.set n { r with scanner := .pipes } }
  | .pipes =>
      some { s with
        pipesWaitGroup := s.pipesWaitGroup - 1
        runners := s.runners.set n { r with scanner := .group } }
  | .group =>
      some { s with
        clientWaitGroup := s.clientWaitGroup - 1
        runners := s.runners.set n { r with scanner := .finished } }
  | .off | .sending | .finished => none

def drainerStep (s : Client) (n : Nat) (r : RunnerState) : Option Client :=
  match r.drainer with
  | .draining =>
      match r.scanner with
      | .sending => some { s with runners := s.runners.set n { r with scanner := .scanning } }
      -- the channel is closed
      | .pipes | .group | .finished =>
          some { s with runners := s.runners.set n { r with drainer := .group } }
      | _ => none
  | .group =>
      some { s with
        clientWaitGroup := s.clientWaitGroup - 1
        runners := s.runners.set n { r with drainer := .finished } }
  | .off | .finished => none

def waiterStep (s : Client) (n : Nat) (r : RunnerState) : Option Client :=
  match r.waiter with
  | .starting =>
      s.doneCtx.map fun ctx =>
        { s with
          runners := s.runners.set n
            { r with waiter := if r.attached then .waiting ctx else .pipes ctx } }
  | .pipes ctx =>
      if s.pipesWaitGroup = 0 then
        some { s with runners := s.runners.set n { r with waiter := .waiting ctx } }
      else none
  | .waiting ctx =>
      if r.running then none
      else some { s with runners := s.runners.set n { r with waiter := .locking ctx } }
  | .locking ctx =>
      some { s with
        exited := true
        runners := s.runners.set n
          { r with waiter := if r.attached then .cancelling ctx else .group ctx } }
  | .group ctx =>
      some { s with
        clientWaitGroup := s.clientWaitGroup - 1
        runners := s.runners.set n
          { r with waiter := if r.attached then .finished else .cancelling ctx } }
  | .cancelling ctx =>
      some { s with
        cancelled := ctx :: s.cancelled
        runners := s.runners.set n
          { r with waiter := if r.attached then .group ctx else .finished } }
  | .off | .finished => none

def goroutineStep (s : Client) (n : Nat) (r : RunnerState) : Goroutine → Option Client
  | .stderr => s.stderrStep n r
  | .scanner more => s.scannerStep n r more
  | .drainer => s.drainerStep n r
  | .waiter => s.waiterStep n r

/-! ### Runs -/

inductive Act where
  | start (o : StartOutcome)              -- a `Start` call, also as part of another call
  | connect (ok : Bool)                   -- the rest of a `Client` call
  | kill                                  -- a goroutine calls `Kill`
  | call (t : Nat)
  | body (ok : Bool)
  | goroutine (n : Nat) (g : Goroutine)
  | exit (n : Nat)                        -- the plugin exits, by itself or told to
deriving DecidableEq, Repr

def step (cfg : LaunchConfig) (s : Client) : Act → Option Client
  | .start o => start cfg s o
  | .connect ok =>
      if s.address.isSome then some { s with client := s.client || ok } else none
  | .kill => some { s with calls := s.calls ++ [.entering] }
  | .call t => s.callStep t
  | .body ok =>
      match s.killOnce with
      | .running t pc => bodyStep cfg s t ok pc
      | _ => none
  | .goroutine n g =>
      match s.runners[n]? with
      | some r => s.goroutineStep n r g
      | none => none
  | .exit n =>
      match s.runners[n]? with
      | some r => some { s with runners := s.runners.set n { r with running := false } }
      | none => none

/-- `Start` makes no runner any more. -/
def barred (cfg : LaunchConfig) (s : Client) : Bool :=
  s.address.isSome || (cfg.mode == .cmd && s.piped)

/-! ### What one step can do -/

/-- A `Start` call that ended in `o` has made the runner `r`. -/
structure Created (cfg : LaunchConfig) (s s' : Client) (o : StartOutcome) (r : RunnerState) :
    Prop where
  opened : s.barred cfg = false
  runners : s'.runners = s.runners ++ [r]
  group : s'.clientWaitGroup = s.clientWaitGroup + r.members
  fresh : (r.waiter = .off ∧ r.running = false) ∨ r.waiter = .starting
  address : s'.address = none ∨
    (s'.address = some s.runners.length ∧ r.waiter = .starting ∧ o = .ok r.id)
  runner : s'.runner = some s.runners.length ∨ cfg.mode = .reattach true
  piped : cfg.mode = .cmd → s'.piped = true ∧ r.id ≠ []
  exited : s'.exited = s.exited
  killOnce : s'.killOnce = s.killOnce
  killBodyRuns : s'.killBodyRuns = s.killBodyRuns
  calls : s'.calls = s.calls

/-- A plugin exits or a goroutine of it goes on, which leaves the wait group at `wg`. -/
structure RunnerNext (s : Client) (r r' : RunnerState) (wg : Nat) (marked : Bool) : Prop where
  id : r'.id = r.id
  running : r'.running = true → r.running = true
  off : r'.waiter = .off ↔ r.waiter = .off
  group : (r'.members = r.members ∧ wg = s.clientWaitGroup) ∨
    (r'.members + 1 = r.members ∧ wg = s.clientWaitGroup - 1)
  exited : s.exited = true → marked = true
  reaped : r'.waiter.reaped = true → r.waiter.reaped = true ∨ r.running = false
  past : r'.waiter.past = true → r.waiter.past = true ∨ marked = true

inductive Move (cfg : LaunchConfig) (s : Client) : Act → Client → Prop where
  | stay {a client socketDir piped dirsMade dirs} (hpiped : s.piped = true → piped = true) :
      Move cfg s a
        { s with
          client := client
          socketDir := socketDir
          piped := piped
          dirsMade := dirsMade
          dirs := dirs }
  | create {o r s'} (h : Created cfg s s' o r) : Move cfg s (.start o) s'
  | goroutine {a n r r' wg pipes marked cancelled} (hr : s.runners[n]? = some r)
      (h : RunnerNext s r r' wg marked) :
      Move cfg s a
        { s with
          clientWaitGroup := wg
          pipesWaitGroup := pipes
          exited := marked
          cancelled := cancelled
          runners := s.runners.set n r' }
  | kill : Move cfg s .kill { s with calls := s.calls ++ [.entering] }
  | gateNone {t} (hc : s.calls[t]? = some .entering) (hr : s.runner = none) :
      Move cfg s (.call t) { s with calls := s.calls.set t .returned }
  | gateSome {t n} (hc : s.calls[t]? = some .entering) (hr : s.runner = some n) :
      Move cfg s (.call t) { s with calls := s.calls.set t .once }
  | win {t} (hc : s.calls[t]? = some .once) (ho : s.killOnce = .idle) :
      Move cfg s (.call t) { s with killOnce := .running t .counting }
  | pass {t} (hc : s.calls[t]? = some .once) (ho : s.killOnce = .done) :
      Move cfg s (.call t) { s with calls := s.calls.set t .returned }
  | count {t ok} (ho : s.killOnce = .running t .counting) :
      Move cfg s (.body ok)
        { s with killBodyRuns := s.killBodyRuns + 1, killOnce := .running t .reading }
  | leave {t ok} (ho : s.killOnce = .running t .reading)
      (h : s.runner = none ∨ ∃ n r, s.runner = some n ∧ s.runners[n]? = some r ∧ r.id = []) :
      Move cfg s (.body ok) (s.leave t)
  | advance {t ok pc pc' client processKilled commands} (ho : s.killOnce = .running t pc)
      (hpc : pc ≠ .counting) (hearly : pc.late = false) (hpc' : pc' ≠ .counting)
      (hearly' : pc'.late = false) :
      Move cfg s (.body ok)
        { s with
          client := client
          processKilled := processKilled
          killOnce := .running t pc'
          commands := commands }
  | wait {t ok dir} (ho : s.killOnce = .running t (.waiting dir))
      (hgroup : s.clientWaitGroup = 0) :
      Move cfg s (.body ok) { s with killOnce := .running t (.removing dir) }
  | tidy {t ok pc pc' runner dirs} (ho : s.killOnce = .running t pc) (hlate : pc.late = true)
      (hlate' : pc'.late = true) (hrunner : runner = s.runner ∨ runner = none) :
      Move cfg s (.body ok)
        { s with runner := runner, killOnce := .running t pc', dirs := dirs }
  | finish {t ok managed} (ho : s.killOnce = .running t .untracking) :
      Move cfg s (.body ok) { s.leave t with managedClients := managed }

theorem newRunner_eq_some {cfg : LaunchConfig} {s s' : Client} {id : ByteString}
    (h : newRunner cfg s id = some s') :
    ∃ piped socketDir dirsMade dirs,
      s' = { s with
        piped := piped, socketDir := socketDir, dirsMade := dirsMade, dirs := dirs } ∧
      (cfg.mode = .cmd → s.piped = false ∧ piped = true ∧ id ≠ []) := by
  unfold newRunner at h
  split at h
  · next hmode =>
      split at h
      · cases h
      · next hpiped =>
          cases h
          rw [Bool.or_eq_true, not_or, Bool.not_eq_true] at hpiped
          exact ⟨true, s.socketDir, s.dirsMade, s.dirs, rfl,
            fun _ => ⟨hpiped.1, rfl, by simpa using hpiped.2⟩⟩
  · next hmode =>
      cases h
      exact ⟨_, _, _, _, rfl, by simp [hmode]⟩
  · cases h

theorem move_of_launch {cfg : LaunchConfig} {s s' : Client} {o : StartOutcome}
    (haddress : s.address = none) (h : launch cfg s o = some s') : Move cfg s (.start o) s' := by
  -- a runner is made from a state in which that is allowed
  have hmade : ∀ {id s₁}, newRunner cfg s id = some s₁ → s.barred cfg = false ∧
      ∃ piped socketDir dirsMade dirs,
        s₁ = { s with
          piped := piped, socketDir := socketDir, dirsMade := dirsMade, dirs := dirs } ∧
        (cfg.mode = .cmd → piped = true ∧ id ≠ []) := by
    intro id s₁ hnew
    obtain ⟨piped, socketDir, dirsMade, dirs, hs₁, hcmd⟩ := newRunner_eq_some hnew
    refine ⟨?_, piped, socketDir, dirsMade, dirs, hs₁, fun hmode => (hcmd hmode).2⟩
    by_cases hmode : cfg.mode = .cmd
    · simp [barred, haddress, (hcmd hmode).1]
    · simp [barred, haddress, hmode]
  cases o with
  | refused =>
      cases h
      exact .stay (fun hp => hp)
  | noDir =>
      simp only [launch] at h
      split at h <;> cases h
      exact .stay (fun hp => hp)
  | noGroup =>
      simp only [launch] at h
      split at h <;> cases h
      exact .stay (fun hp => hp)
  | noRunner piped =>
      simp only [launch] at h
      split at h <;> cases h
      · exact .stay (fun hp => by simp [hp])
      · exact .stay (fun hp => hp)
  | noStart id =>
      obtain ⟨s₁, hnew, rfl⟩ := Option.map_eq_some_iff.mp h
      obtain ⟨hopen, piped, socketDir, dirsMade, dirs, rfl, hcmd⟩ := hmade hnew
      exact .create (r := .unstarted id)
        ⟨hopen, rfl, rfl, Or.inl ⟨rfl, rfl⟩, Or.inl haddress, Or.inl rfl,
          hcmd, rfl, rfl, rfl, rfl⟩
  | noHandshake id =>
      obtain ⟨s₁, hnew, rfl⟩ := Option.map_eq_some_iff.mp h
      obtain ⟨hopen, piped, socketDir, dirsMade, dirs, rfl, hcmd⟩ := hmade hnew
      exact .create (r := .launched id)
        ⟨hopen, rfl, rfl, Or.inr rfl, Or.inl haddress, Or.inl rfl,
          hcmd, rfl, rfl, rfl, rfl⟩
  | ok id =>
      obtain ⟨s₁, hnew, rfl⟩ := Option.map_eq_some_iff.mp h
      obtain ⟨hopen, piped, socketDir, dirsMade, dirs, rfl, hcmd⟩ := hmade hnew
      exact .create (r := .launched id)
        ⟨hopen, rfl, rfl, Or.inr rfl, Or.inr ⟨rfl, rfl, rfl⟩, Or.inl rfl,
          hcmd, rfl, rfl, rfl, rfl⟩

theorem move_of_start {cfg : LaunchConfig} {s s' : Client} {o : StartOutcome}
    (h : start cfg s o = some s') : Move cfg s (.start o) s' := by
  unfold start at h
  split at h
  · cases h
    exact .stay (fun hp => hp)
  · next haddress =>
      rw [Bool.not_eq_true, Option.isSome_eq_false_iff, Option.isNone_iff_eq_none] at haddress
      split at h
      · next test hmode =>
          unfold reattach at h
          split at h
          · cases h
            exact .stay (fun hp => hp)
          · cases h
            exact .stay (fun hp => hp)
          · next id =>
              cases h
              have hopen : s.barred cfg = false := by simp [barred, haddress, hmode]
              refine .create (r := .reattached id)
                ⟨hopen, rfl, rfl, Or.inr rfl, Or.inr ⟨rfl, rfl, rfl⟩, ?_, ?_, rfl, rfl, rfl, rfl⟩
              · cases test with
                | false => exact Or.inl rfl
                | true => exact Or.inr hmode
              · intro hcmd
                rw [hmode] at hcmd
                cases hcmd
          · cases h
      · exact move_of_launch haddress h

theorem move_of_body {cfg : LaunchConfig} {s s' : Client} {t : Nat} {ok : Bool} {pc : BodyPc}
    (ho : s.killOnce = .running t pc) (h : bodyStep cfg s t ok pc = some s') :
    Move cfg s (.body ok) s' := by
  cases pc with
  | counting =>
      cases h
      exact .count ho
  | reading =>
      simp only [bodyStep] at h
      split at h
      · next hr =>
          cases h
          exact .leave ho (Or.inl hr)
      · next n hr =>
          split at h
          · next r hn =>
              split at h
              · next hid =>
                  cases h
                  exact .leave ho (Or.inr ⟨n, r, hr, hn, List.isEmpty_iff.mp hid⟩)
              · split at h <;> cases h
                · exact .advance ho (by simp) rfl (by simp) rfl
                · exact .advance ho (by simp) rfl (by simp) rfl
          · cases h
  | dialing n dir =>
      simp only [bodyStep] at h
      split at h <;> cases h
      · exact .advance ho (by simp) rfl (by simp) rfl
      · exact .advance ho (by simp) rfl (by simp) rfl
  | closing n dir =>
      cases h
      cases ok with
      | false => exact .advance ho (by simp) rfl (by simp) rfl
      | true => exact .advance ho (by simp) rfl (by simp) rfl
  | grace n dir =>
      simp only [bodyStep] at h
      split at h
      · split at h
        · split at h <;> cases h
          exact .advance ho (by simp) rfl (by simp) rfl
        · cases h
      · cases h
        exact .advance ho (by simp) rfl (by simp) rfl
  | killing n dir =>
      cases h
      exact .advance ho (by simp) rfl (by simp) rfl
  | marking dir =>
      cases h
      exact .advance ho (by simp) rfl (by simp) rfl
  | waiting dir =>
      simp only [bodyStep] at h
      split at h <;> cases h
      exact .wait ho ‹_›
  | removing dir =>
      cases h
      exact .tidy ho rfl rfl (Or.inl rfl)
  | clearing =>
      cases h
      exact .tidy ho rfl rfl (Or.inr rfl)
  | untracking =>
      cases h
      exact .finish ho

theorem move_of_goroutine {cfg : LaunchConfig} {s s' : Client} {n : Nat} {r : RunnerState}
    {g : Goroutine} (hr : s.runners[n]? = some r) (h : s.goroutineStep n r g = some s') :
    Move cfg s (.goroutine n g) s' := by
  -- the pump, the scanner and the drainer leave the waiter alone
  have hother : ∀ {r' : RunnerState} {wg pipes : Nat}, r'.id = r.id → r'.running = r.running →
      r'.waiter = r.waiter →
      ((r'.members = r.members ∧ wg = s.clientWaitGroup) ∨
        (r'.members + 1 = r.members ∧ wg = s.clientWaitGroup - 1)) →
      Move cfg s (.goroutine n g)
        { s with
          clientWaitGroup := wg, pipesWaitGroup := pipes, runners := s.runners.set n r' } := by
    intro r' wg pipes hid hrunning hwaiter hgroup
    refine .goroutine hr ⟨hid, fun h => hrunning ▸ h, by rw [hwaiter], hgroup, fun h => h, ?_, ?_⟩
    · exact fun h => Or.inl (hwaiter ▸ h)
    · exact fun h => Or.inl (hwaiter ▸ h)
  obtain ⟨id, attached, running, stderr, scanner, drainer, waiter⟩ := r
  cases g with
  | stderr =>
      simp only [goroutineStep, stderrStep] at h
      cases stderr <;> cases h
      · exact hother rfl rfl rfl (Or.inl ⟨rfl, rfl⟩)
      · exact hother rfl rfl rfl (Or.inl ⟨rfl, rfl⟩)
      · refine hother rfl rfl rfl (Or.inr ⟨?_, rfl⟩)
        simp only [RunnerState.members, PumpPc.member]
        omega
  | scanner more =>
      simp only [goroutineStep, scannerStep] at h
      cases scanner <;> cases h
      · refine hother rfl rfl rfl (Or.inl ⟨?_, rfl⟩)
        cases more <;> rfl
      · exact hother rfl rfl rfl (Or.inl ⟨rfl, rfl⟩)
      · exact hother rfl rfl rfl (Or.inl ⟨rfl, rfl⟩)
      · refine hother rfl rfl rfl (Or.inr ⟨?_, rfl⟩)
        simp only [RunnerState.members, ScanPc.member]
        omega
  | drainer =>
      simp only [goroutineStep, drainerStep] at h
      cases drainer with
      | off | finished => cases h
      | draining =>
          cases scanner <;> cases h <;> exact hother rfl rfl rfl (Or.inl ⟨rfl, rfl⟩)
      | group =>
          cases h
          refine hother rfl rfl rfl (Or.inr ⟨?_, rfl⟩)
          simp only [RunnerState.members, DrainPc.member]
          omega
  | waiter =>
      simp only [goroutineStep, waiterStep] at h
      cases waiter with
      | off | finished => cases h
      | starting =>
          obtain ⟨ctx, -, rfl⟩ := Option.map_eq_some_iff.mp h
          cases attached <;>
            exact .goroutine hr ⟨rfl, fun h => h, by simp, Or.inl ⟨rfl, rfl⟩, fun h => h,
              by simp [WaiterPc.reaped], by simp [WaiterPc.past]⟩
      | pipes ctx =>
          dsimp only at h
          split at h <;> cases h
          exact .goroutine hr ⟨rfl, fun h => h, by simp, Or.inl ⟨rfl, rfl⟩, fun h => h,
            by simp [WaiterPc.reaped], by simp [WaiterPc.past]⟩
      | waiting ctx =>
          dsimp only at h
          split at h
          · cases h
          · next hrunning =>
              cases h
              exact .goroutine hr ⟨rfl, fun h => h, by simp, Or.inl ⟨rfl, rfl⟩, fun h => h,
                fun _ => Or.inr (Bool.eq_false_iff.mpr hrunning), by simp [WaiterPc.past]⟩
      | locking ctx =>
          cases h
          cases attached <;>
            exact .goroutine hr ⟨rfl, fun h => h, by simp, Or.inl ⟨rfl, rfl⟩, fun _ => rfl,
              fun _ => Or.inl rfl, fun _ => Or.inr rfl⟩
      | group ctx =>
          cases h
          cases attached <;>
            exact .goroutine hr ⟨rfl, fun h => h, by simp, Or.inr ⟨rfl, rfl⟩, fun h => h,
              fun _ => Or.inl rfl, fun _ => Or.inl rfl⟩
      | cancelling ctx =>
          cases h
          cases attached <;>
            exact .goroutine hr ⟨rfl, fun h => h, by simp, Or.inl ⟨rfl, rfl⟩, fun h => h,
              fun _ => Or.inl rfl, fun _ => Or.inl rfl⟩

theorem move_of_step {cfg : LaunchConfig} {s s' : Client} {a : Act} (h : step cfg s a = some s') :
    Move cfg s a s' := by
  cases a with
  | start o => exact move_of_start h
  | connect ok =>
      simp only [step] at h
      split at h <;> cases h
      exact .stay (fun hp => hp)
  | kill =>
      cases h
      exact .kill
  | call t =>
      simp only [step, callStep] at h
      split at h
      · split at h <;> cases h
        · exact .gateNone ‹_› ‹_›
        · exact .gateSome ‹_› ‹_›
      · split at h <;> cases h
        · exact .win ‹_› ‹_›
        · exact .pass ‹_› ‹_›
      · cases h
  | body ok =>
      simp only [step] at h
      split at h
      · exact move_of_body ‹_› h
      · cases h
  | goroutine n g =>
      simp only [step] at h
      split at h
      · exact move_of_goroutine ‹_› h
      · cases h
  | exit n =>
      simp only [step] at h
      split at h
      · next r hr =>
          cases h
          exact .goroutine hr ⟨rfl, by simp, Iff.rfl, Or.inl ⟨rfl, rfl⟩, fun h => h,
            fun h => Or.inl h, fun h => Or.inl h⟩
      · cases h

end Client

end GoPlugin
