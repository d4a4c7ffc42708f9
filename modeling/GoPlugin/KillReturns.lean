import GoPlugin.ClientKill
import GoPlugin.StdoutDrain

/-!
# `Kill` calls return

A `Kill` call blocks in `killOnce.Do` on the call that runs the body, and the body blocks in
`clientWaitGroup.Wait` on four goroutines, which wait for one another and for the plugin.  None of
them waits for ever: the body kills the plugin before it waits, unless the plugin's context is done.
Before that, however, it asks the plugin to quit, and nothing says that the plugin answers:
`RPCClient.Close` waits for the reply to `Control.Quit` without a bound.

The context is the weak point.  A waiter defers the cancel function that `c.ctxCancel` holds when
the goroutine comes to run, so with a second `Start` call in between, the waiter of a first plugin
cancels the context of the second one.  With one plugin this cannot happen.
-/

namespace GoPlugin

open Tally LabelledSystem

/-! ### What is left to do -/

def PumpPc.stepsLeft : PumpPc → Nat
  | .pumping => 3
  | .pipes => 2
  | .group => 1
  | .off | .finished => 0

def ScanPc.stepsLeft : ScanPc → Nat
  | .sending => 5
  | .scanning => 4
  | .closing => 3
  | .pipes => 2
  | .group => 1
  | .off | .finished => 0

def DrainPc.stepsLeft : DrainPc → Nat
  | .draining => 2
  | .group => 1
  | .off | .finished => 0

def WaiterPc.stepsLeft (attached : Bool) : WaiterPc → Nat
  | .starting => 6
  | .pipes _ => 5
  | .waiting _ => 4
  | .locking _ => 3
  | .group _ => if attached then 1 else 2
  | .cancelling _ => if attached then 2 else 1
  | .off | .finished => 0

def KillPc.stepsLeft : KillPc → Nat
  | .entering => 2
  | .once => 1
  | .returned => 0

def BodyPc.stepsLeft : BodyPc → Nat
  | .counting => 11
  | .reading => 10
  | .dialing _ _ => 9
  | .closing _ _ => 8
  | .grace _ _ => 7
  | .killing _ _ => 6
  | .marking _ => 5
  | .waiting _ => 4
  | .removing _ => 3
  | .clearing => 2
  | .untracking => 1

/-- The runner that the body has read. -/
def BodyPc.target : BodyPc → Option Nat
  | .dialing n _ | .closing n _ | .grace n _ | .killing n _ => some n
  | _ => none

/-- The body is done with the runner, and waits or is about to. -/
def BodyPc.told : BodyPc → Bool
  | .marking _ | .waiting _ => true
  | _ => false

/-- The body is in `c.Client()` or in `client.Close()`, which wait for the plugin. -/
def BodyPc.asks : BodyPc → Bool
  | .dialing _ _ | .closing _ _ => true
  | _ => false

def OncePc.asks : OncePc → Bool
  | .running _ pc => pc.asks
  | .idle | .done => false

def OncePc.stepsLeft : OncePc → Nat
  | .idle => 12
  | .running _ pc => pc.stepsLeft
  | .done => 0

/-- What a pump adds to `pipesWaitGroup`. -/
def PumpPc.piping : PumpPc → Nat
  | .pumping | .pipes => 1
  | _ => 0

def ScanPc.piping : ScanPc → Nat
  | .scanning | .sending | .closing | .pipes => 1
  | _ => 0

namespace RunnerState

def stepsLeft (r : RunnerState) : Nat :=
  r.stderr.stepsLeft + r.scanner.stepsLeft + r.drainer.stepsLeft + r.waiter.stepsLeft r.attached

def piping (r : RunnerState) : Nat := r.stderr.piping + r.scanner.piping

/-- The scanner and the drainer come together, and the drainer stays until the channel is
    closed. -/
structure Shaped (r : RunnerState) : Prop where
  opened : r.scanner ≠ .off → r.scanner.closed = false → r.drainer = .draining
  draining : r.drainer = .draining → r.scanner ≠ .off

theorem shaped_unstarted (id : ByteString) : (unstarted id).Shaped :=
  ⟨fun hoff => absurd rfl hoff, (by intro h; cases h)⟩

theorem shaped_launched (id : ByteString) : (launched id).Shaped :=
  ⟨fun _ _ => rfl, fun _ => by simp [launched]⟩

theorem shaped_reattached (id : ByteString) : (reattached id).Shaped :=
  ⟨fun hoff => absurd rfl hoff, (by intro h; cases h)⟩

/-- The goroutine is in a read that returns when the plugin writes or is gone. -/
def awaits (r : RunnerState) : Client.Goroutine → Bool
  | .stderr => r.running && r.stderr == .pumping
  | .scanner _ => r.running && r.scanner == .scanning
  | .drainer | .waiter => false

end RunnerState

namespace Client

def stepsLeft (s : Client) : Nat :=
  tally RunnerState.stepsLeft s.runners + s.killOnce.stepsLeft + tally KillPc.stepsLeft s.calls

/-- The steps of the client's goroutines and of `Kill` calls. -/
def Act.uses : Act → Nat
  | .call _ | .body _ | .goroutine _ _ => 1
  | .start _ | .connect _ | .kill | .exit _ => 0

/-- The steps that come of a `Start` call, of a `Kill` call and of a line on stdout. -/
def Act.adds : Act → Nat
  | .start _ => 15
  | .kill => 2
  | .goroutine _ (.scanner true) => 2
  | _ => 0

/-- What happens sooner or later in `s` if it can: a plugin that was killed exits, and reads end
    when the plugin is gone.  The answers of a plugin are not due. -/
def due (s : Client) : Act → Bool
  | .call _ => true
  | .body _ => !s.killOnce.asks
  | .goroutine n g => (s.runners[n]?).all fun r => !r.awaits g
  | .exit n => s.commands.contains (.kill n) && (s.runners[n]?).any RunnerState.running
  | .start _ | .connect _ | .kill => false

/-- Nothing that is due can happen. -/
def Resting (cfg : LaunchConfig) (s : Client) : Prop := ∀ a, s.due a = true → step cfg s a = none

/-! ### What one step can do -/

/-- What becomes of `pipesWaitGroup`, the contexts and the steps left when a goroutine of the
    plugin `r` goes on. -/
structure GoroutineNext (s : Client) (g : Goroutine) (r r' : RunnerState) (pipes : Nat)
    (cancelled : List Nat) : Prop where
  running : r'.running = r.running
  shaped : r.Shaped → r'.Shaped
  pipes : (r'.piping = r.piping ∧ pipes = s.pipesWaitGroup) ∨
    (r'.piping + 1 = r.piping ∧ pipes = s.pipesWaitGroup - 1)
  starting : r'.waiter = .starting → r.waiter = .starting
  cancelled : cancelled = s.cancelled ∨ r.waiter.reaped = true
  less : ∀ n, r'.stepsLeft + 1 ≤ r.stepsLeft + (Act.goroutine n g).adds

/-- The pump and the scanner leave the waiter alone. -/
theorem GoroutineNext.of_waiter_eq {s : Client} {g : Goroutine} {r r' : RunnerState} {pipes : Nat}
    (hrunning : r'.running = r.running) (hwaiter : r'.waiter = r.waiter)
    (hshaped : r.Shaped → r'.Shaped)
    (hpipes : (r'.piping = r.piping ∧ pipes = s.pipesWaitGroup) ∨
      (r'.piping + 1 = r.piping ∧ pipes = s.pipesWaitGroup - 1))
    (hless : ∀ n, r'.stepsLeft + 1 ≤ r.stepsLeft + (Act.goroutine n g).adds) :
    GoroutineNext s g r r' pipes s.cancelled :=
  ⟨hrunning, hshaped, hpipes, fun hw => hwaiter ▸ hw, Or.inl rfl, hless⟩

theorem next_of_stderrStep {s s' : Client} {n : Nat} {r : RunnerState}
    (h : s.stderrStep n r = some s') :
    ∃ r' wg pipes,
      s' = { s with
        clientWaitGroup := wg, pipesWaitGroup := pipes, runners := s.runners.set n r' } ∧
      GoroutineNext s .stderr r r' pipes s.cancelled := by
  unfold stderrStep at h
  split at h
  · next hpc =>
      cases h
      refine ⟨_, _, _, rfl, .of_waiter_eq rfl rfl (fun hs => ⟨hs.1, hs.2⟩) (Or.inl ⟨?_, rfl⟩) ?_⟩
      · simp only [RunnerState.piping, hpc, PumpPc.piping]
      · intro m
        simp only [RunnerState.stepsLeft, hpc, PumpPc.stepsLeft]
        omega
  · next hpc =>
      cases h
      refine ⟨_, _, _, rfl, .of_waiter_eq rfl rfl (fun hs => ⟨hs.1, hs.2⟩) (Or.inr ⟨?_, rfl⟩) ?_⟩
      · simp only [RunnerState.piping, hpc, PumpPc.piping]
        omega
      · intro m
        simp only [RunnerState.stepsLeft, hpc, PumpPc.stepsLeft]
        omega
  · next hpc =>
      cases h
      refine ⟨_, _, _, rfl, .of_waiter_eq rfl rfl (fun hs => ⟨hs.1, hs.2⟩) (Or.inl ⟨?_, rfl⟩) ?_⟩
      · simp only [RunnerState.piping, hpc, PumpPc.piping]
      · intro m
        simp only [RunnerState.stepsLeft, hpc, PumpPc.stepsLeft]
        omega
  · cases h
  · cases h

theorem next_of_scannerStep {s s' : Client} {n : Nat} {r : RunnerState} {more : Bool}
    (h : s.scannerStep n r more = some s') :
    ∃ r' wg pipes,
      s' = { s with
        clientWaitGroup := wg, pipesWaitGroup := pipes, runners := s.runners.set n r' } ∧
      GoroutineNext s (.scanner more) r r' pipes s.cancelled := by
  unfold scannerStep at h
  split at h
  · next hpc =>
      cases h
      refine ⟨_, _, _, rfl, .of_waiter_eq rfl rfl (fun hs => ?_) (Or.inl ⟨?_, rfl⟩) ?_⟩
      · have hdraining := hs.opened (by simp [hpc]) (by simp [hpc, ScanPc.closed])
        exact ⟨fun _ _ => hdraining, fun _ => by cases more <;> simp⟩
      · cases more <;> simp only [RunnerState.piping, hpc] <;> rfl
      · intro m
        cases more with
        | false =>
            simp only [RunnerState.stepsLeft, hpc, ScanPc.stepsLeft, Bool.false_eq_true, if_false]
            omega
        | true =>
            simp only [RunnerState.stepsLeft, hpc, ScanPc.stepsLeft, Act.adds, if_true]
            omega
  · next hpc =>
      cases h
      refine ⟨_, _, _, rfl, .of_waiter_eq rfl rfl (fun hs => ?_) (Or.inl ⟨?_, rfl⟩) ?_⟩
      · exact ⟨fun _ hclosed => by simp [ScanPc.closed] at hclosed, fun _ => by simp⟩
      · simp only [RunnerState.piping, hpc, ScanPc.piping]
      · intro m
        simp only [RunnerState.stepsLeft, hpc, ScanPc.stepsLeft]
        omega
  · next hpc =>
      cases h
      refine ⟨_, _, _, rfl, .of_waiter_eq rfl rfl (fun hs => ?_) (Or.inr ⟨?_, rfl⟩) ?_⟩
      · exact ⟨fun _ hclosed => by simp [ScanPc.closed] at hclosed, fun _ => by simp⟩
      · simp only [RunnerState.piping, hpc, ScanPc.piping]
      · intro m
        simp only [RunnerState.stepsLeft, hpc, ScanPc.stepsLeft]
        omega
  · next hpc =>
      cases h
      refine ⟨_, _, _, rfl, .of_waiter_eq rfl rfl (fun hs => ?_) (Or.inl ⟨?_, rfl⟩) ?_⟩
      · exact ⟨fun _ hclosed => by simp [ScanPc.closed] at hclosed, fun _ => by simp⟩
      · simp only [RunnerState.piping, hpc, ScanPc.piping]
      · intro m
        simp only [RunnerState.stepsLeft, hpc, ScanPc.stepsLeft]
        omega
  · cases h
  · cases h
  · cases h

theorem next_of_drainerStep {s s' : Client} {n : Nat} {r : RunnerState}
    (h : s.drainerStep n r = some s') :
    ∃ r' wg,
      s' = { s with clientWaitGroup := wg, runners := s.runners.set n r' } ∧
      GoroutineNext s .drainer r r' s.pipesWaitGroup s.cancelled := by
  -- the channel is closed, so the drainer may leave
  have hleave : ∀ {pc : ScanPc}, r.scanner = pc → pc.closed = true → r.drainer = .draining →
      GoroutineNext s .drainer r { r with drainer := .group } s.pipesWaitGroup s.cancelled := by
    intro pc hscanner hclosed hdrainer
    refine .of_waiter_eq rfl rfl (fun _ => ⟨fun _ hopen => ?_, fun hd => ?_⟩) (Or.inl ⟨rfl, rfl⟩) ?_
    · rw [hscanner, hclosed] at hopen
      cases hopen
    · cases hd
    · intro m
      simp only [RunnerState.stepsLeft, hdrainer, DrainPc.stepsLeft]
      omega
  unfold drainerStep at h
  split at h
  · next hdrainer =>
      split at h
      · next hscanner =>
          cases h
          refine ⟨_, _, rfl, .of_waiter_eq rfl rfl
            (fun _ => ⟨fun _ _ => hdrainer, fun _ => by simp⟩) (Or.inl ⟨?_, rfl⟩) ?_⟩
          · simp only [RunnerState.piping, hscanner, ScanPc.piping]
          · intro m
            simp only [RunnerState.stepsLeft, hscanner, ScanPc.stepsLeft]
            omega
      · next hscanner =>
          cases h
          exact ⟨_, _, rfl, hleave hscanner rfl hdrainer⟩
      · next hscanner =>
          cases h
          exact ⟨_, _, rfl, hleave hscanner rfl hdrainer⟩
      · next hscanner =>
          cases h
          exact ⟨_, _, rfl, hleave hscanner rfl hdrainer⟩
      · cases h
  · next hdrainer =>
      cases h
      refine ⟨_, _, rfl, .of_waiter_eq rfl rfl (fun hs => ⟨fun hoff hopen => ?_, fun hd => ?_⟩)
        (Or.inl ⟨rfl, rfl⟩) ?_⟩
      · have hdraining := hs.opened hoff hopen
        rw [hdrainer] at hdraining
        cases hdraining
      · cases hd
      · intro m
        simp only [RunnerState.stepsLeft, hdrainer, DrainPc.stepsLeft]
        omega
  · cases h
  · cases h

theorem next_of_waiterStep {s s' : Client} {n : Nat} {r : RunnerState}
    (h : s.waiterStep n r = some s') :
    ∃ r' wg exited cancelled,
      s' = { s with
        clientWaitGroup := wg
        exited := exited
        cancelled := cancelled
        runners := s.runners.set n r' } ∧
      GoroutineNext s .waiter r r' s.pipesWaitGroup cancelled := by
  have hpc : ∀ {pc : WaiterPc} {cancelled : List Nat}, pc ≠ .starting →
      (cancelled = s.cancelled ∨ r.waiter.reaped = true) →
      pc.stepsLeft r.attached + 1 ≤ r.waiter.stepsLeft r.attached →
      GoroutineNext s .waiter r { r with waiter := pc } s.pipesWaitGroup cancelled := by
    intro pc cancelled hstarting hcancelled hless
    refine ⟨rfl, fun hs => ⟨hs.1, hs.2⟩, Or.inl ⟨rfl, rfl⟩, fun hw => absurd hw hstarting,
      hcancelled, fun m => ?_⟩
    simp only [RunnerState.stepsLeft]
    omega
  unfold waiterStep at h
  split at h
  · next hw =>
      obtain ⟨ctx, -, rfl⟩ := Option.map_eq_some_iff.mp h
      refine ⟨_, _, _, _, rfl, hpc ?_ (Or.inl rfl) ?_⟩
      · split <;> simp
      · rw [hw]
        split <;> simp [WaiterPc.stepsLeft]
  · next hw =>
      split at h <;> cases h
      exact ⟨_, _, _, _, rfl, hpc (by simp) (Or.inl rfl) (by simp [hw, WaiterPc.stepsLeft])⟩
  · next hw =>
      split at h <;> cases h
      exact ⟨_, _, _, _, rfl, hpc (by simp) (Or.inl rfl) (by simp [hw, WaiterPc.stepsLeft])⟩
  · next hw =>
      cases h
      refine ⟨_, _, _, _, rfl, hpc ?_ (Or.inl rfl) ?_⟩
      · split <;> simp
      · rw [hw]
        cases r.attached <;> simp [WaiterPc.stepsLeft]
  · next hw =>
      cases h
      refine ⟨_, _, _, _, rfl, hpc ?_ (Or.inl rfl) ?_⟩
      · split <;> simp
      · rw [hw]
        cases r.attached <;> simp [WaiterPc.stepsLeft]
  · next hw =>
      cases h
      refine ⟨_, _, _, _, rfl, hpc ?_ (Or.inr (by simp [hw, WaiterPc.reaped])) ?_⟩
      · split <;> simp
      · rw [hw]
        cases r.attached <;> simp [WaiterPc.stepsLeft]
  · cases h
  · cases h

theorem next_of_goroutine {s s' : Client} {n : Nat} {r : RunnerState} {g : Goroutine}
    (h : s.goroutineStep n r g = some s') :
    ∃ r' wg pipes exited cancelled,
      s' = { s with
        clientWaitGroup := wg
        pipesWaitGroup := pipes
        exited := exited
        cancelled := cancelled
        runners := s.runners.set n r' } ∧
      GoroutineNext s g r r' pipes cancelled := by
  cases g with
  | stderr =>
      obtain ⟨r', wg, pipes, rfl, hnext⟩ := next_of_stderrStep h
      exact ⟨r', wg, pipes, _, _, rfl, hnext⟩
  | scanner more =>
      obtain ⟨r', wg, pipes, rfl, hnext⟩ := next_of_scannerStep h
      exact ⟨r', wg, pipes, _, _, rfl, hnext⟩
  | drainer =>
      obtain ⟨r', wg, rfl, hnext⟩ := next_of_drainerStep h
      exact ⟨r', wg, _, _, _, rfl, hnext⟩
  | waiter =>
      obtain ⟨r', wg, exited, cancelled, rfl, hnext⟩ := next_of_waiterStep h
      exact ⟨r', wg, _, exited, cancelled, rfl, hnext⟩

/-- A `Start` call has made the runner `r`. -/
structure Made (s s' : Client) (r : RunnerState) : Prop where
  runners : s'.runners = s.runners ++ [r]
  runner : s'.runner = s.runner ∨ s'.runner = some s.runners.length
  pipes : s'.pipesWaitGroup = s.pipesWaitGroup + r.piping
  starting : r.waiter = .starting → s'.doneCtx.isSome = true
  doneCtx : s.doneCtx.isSome = true → s'.doneCtx.isSome = true
  shaped : r.Shaped
  less : r.stepsLeft ≤ 15
  cancelled : s'.cancelled = s.cancelled
  killOnce : s'.killOnce = s.killOnce
  calls : s'.calls = s.calls
  managedClients : s'.managedClients = s.managedClients

inductive StartNext (s : Client) : Client → Prop where
  | stay {socketDir piped dirsMade dirs} :
      StartNext s
        { s with socketDir := socketDir, piped := piped, dirsMade := dirsMade, dirs := dirs }
  | made {s' r} (h : Made s s' r) : StartNext s s'

theorem next_of_launch {cfg : LaunchConfig} {s s' : Client} {o : StartOutcome}
    (h : launch cfg s o = some s') : StartNext s s' := by
  cases o with
  | refused =>
      cases h
      exact .stay
  | noDir | noGroup =>
      simp only [launch] at h
      split at h <;> cases h
      exact .stay
  | noRunner piped =>
      simp only [launch] at h
      split at h <;> cases h
      · exact .stay
      · exact .stay
  | noStart id =>
      obtain ⟨s₁, hnew, rfl⟩ := Option.map_eq_some_iff.mp h
      obtain ⟨piped, socketDir, dirsMade, dirs, rfl, -⟩ := newRunner_eq_some hnew
      exact .made (r := .unstarted id) ⟨rfl, Or.inr rfl, rfl, (by intro h; cases h), fun h => h,
        RunnerState.shaped_unstarted id, Nat.zero_le _, rfl, rfl, rfl, rfl⟩
  | noHandshake id =>
      obtain ⟨s₁, hnew, rfl⟩ := Option.map_eq_some_iff.mp h
      obtain ⟨piped, socketDir, dirsMade, dirs, rfl, -⟩ := newRunner_eq_some hnew
      exact .made (r := .launched id) ⟨rfl, Or.inr rfl, rfl, fun _ => rfl, fun _ => rfl,
        RunnerState.shaped_launched id, Nat.le_refl 15, rfl, rfl, rfl, rfl⟩
  | ok id =>
      obtain ⟨s₁, hnew, rfl⟩ := Option.map_eq_some_iff.mp h
      obtain ⟨piped, socketDir, dirsMade, dirs, rfl, -⟩ := newRunner_eq_some hnew
      exact .made (r := .launched id) ⟨rfl, Or.inr rfl, rfl, fun _ => rfl, fun _ => rfl,
        RunnerState.shaped_launched id, Nat.le_refl 15, rfl, rfl, rfl, rfl⟩

theorem next_of_start {cfg : LaunchConfig} {s s' : Client} {o : StartOutcome}
    (h : start cfg s o = some s') : StartNext s s' := by
  unfold start at h
  split at h
  · cases h
    exact .stay
  · split at h
    · next test hmode =>
        unfold reattach at h
        split at h
        · cases h
          exact .stay
        · cases h
          exact .stay
        · next id =>
            cases h
            refine .made (r := .reattached id) ⟨rfl, ?_, rfl, fun _ => rfl, fun _ => rfl,
              RunnerState.shaped_reattached id, Nat.le_add_right 6 9, rfl, rfl, rfl,
              rfl⟩
            cases test with
            | false => exact Or.inr rfl
            | true => exact Or.inl rfl
        · cases h
    · exact next_of_launch h

/-- A step of the body, which the `t`-th call runs. -/
inductive BodyNext (cfg : LaunchConfig) (s : Client) (t : Nat) : BodyPc → Client → Prop where
  | leave {pc managed} (hpc : 1 ≤ pc.stepsLeft)
      (hmanaged : managed = s.managedClients ∨ managed = s.managedClients.erase cfg.self) :
      BodyNext cfg s t pc { s.leave t with managedClients := managed }
  | advance {pc pc' client processKilled commands runner runs dirs}
      (hless : pc'.stepsLeft + 1 ≤ pc.stepsLeft)
      (hrunner : runner = s.runner ∨ runner = none)
      (hcommands : ∀ c ∈ s.commands, c ∈ commands)
      (htarget : ∀ n, pc'.target = some n → pc.target = some n ∨ s.runner = some n)
      (htold : pc'.told = true → pc.told = true ∨ s.cancelled ≠ [] ∨
        ∃ n, pc.target = some n ∧ .kill n ∈ commands) :
      BodyNext cfg s t pc
        { s with
          client := client
          processKilled := processKilled
          killOnce := .running t pc'
          killBodyRuns := runs
          commands := commands
          dirs := dirs
          runner := runner }

theorem next_of_body {cfg : LaunchConfig} {s s' : Client} {t : Nat} {ok : Bool} {pc : BodyPc}
    (h : bodyStep cfg s t ok pc = some s') : BodyNext cfg s t pc s' := by
  cases pc with
  | counting =>
      cases h
      exact .advance (by decide) (Or.inl rfl) (fun _ hc => hc) (by simp [BodyPc.target])
        (by simp [BodyPc.told])
  | reading =>
      simp only [bodyStep] at h
      split at h
      · cases h
        exact .leave (by decide) (Or.inl rfl)
      · next n hn =>
          split at h
          · split at h
            · cases h
              exact .leave (by decide) (Or.inl rfl)
            · split at h <;> cases h
              · exact .advance (by simp [BodyPc.stepsLeft]) (Or.inl rfl) (fun _ hc => hc)
                  (by rintro m hm; cases hm; exact Or.inr hn) (by simp [BodyPc.told])
              · exact .advance (by simp [BodyPc.stepsLeft]) (Or.inl rfl) (fun _ hc => hc)
                  (by rintro m hm; cases hm; exact Or.inr hn) (by simp [BodyPc.told])
          · cases h
  | dialing n dir =>
      simp only [bodyStep] at h
      split at h <;> cases h
      · exact .advance (by simp [BodyPc.stepsLeft]) (Or.inl rfl) (fun _ hc => hc)
          (fun _ hm => Or.inl hm) (by simp [BodyPc.told])
      · exact .advance (by simp [BodyPc.stepsLeft]) (Or.inl rfl) (fun _ hc => hc)
          (fun _ hm => Or.inl hm) (by simp [BodyPc.told])
  | closing n dir =>
      cases h
      refine .advance ?_ (Or.inl rfl) (fun _ hc => List.mem_append_left _ hc) ?_ ?_
      · cases ok <;> simp [BodyPc.stepsLeft]
      · cases ok <;> exact fun _ hm => Or.inl hm
      · cases ok <;> simp [BodyPc.told]
  | grace n dir =>
      simp only [bodyStep] at h
      split at h
      · split at h
        · split at h
          · next ctx hctx hcontains =>
              cases h
              refine .advance (by simp [BodyPc.stepsLeft]) (Or.inl rfl) (fun _ hc => hc)
                (by simp [BodyPc.target]) (fun _ => Or.inr (Or.inl ?_))
              intro hnil
              rw [hnil] at hcontains
              cases hcontains
          · cases h
        · cases h
      · cases h
        exact .advance (by simp [BodyPc.stepsLeft]) (Or.inl rfl) (fun _ hc => hc)
          (fun _ hm => Or.inl hm) (by simp [BodyPc.told])
  | killing n dir =>
      cases h
      exact .advance (by simp [BodyPc.stepsLeft]) (Or.inl rfl)
        (fun _ hc => List.mem_append_left _ hc) (by simp [BodyPc.target])
        (fun _ => Or.inr (Or.inr ⟨n, rfl, by simp⟩))
  | marking dir =>
      cases h
      exact .advance (by simp [BodyPc.stepsLeft]) (Or.inl rfl) (fun _ hc => hc)
        (by simp [BodyPc.target]) (fun _ => Or.inl rfl)
  | waiting dir =>
      simp only [bodyStep] at h
      split at h <;> cases h
      exact .advance (by simp [BodyPc.stepsLeft]) (Or.inl rfl) (fun _ hc => hc)
        (by simp [BodyPc.target]) (by simp [BodyPc.told])
  | removing dir =>
      cases h
      exact .advance (by simp [BodyPc.stepsLeft]) (Or.inl rfl) (fun _ hc => hc)
        (by simp [BodyPc.target]) (by simp [BodyPc.told])
  | clearing =>
      cases h
      exact .advance (by decide) (Or.inr rfl) (fun _ hc => hc) (by simp [BodyPc.target])
        (by simp [BodyPc.told])
  | untracking =>
      cases h
      refine .leave (by decide) ?_
      split
      · exact Or.inr rfl
      · exact Or.inl rfl

/-! ### The steps are bounded -/

theorem tally_returned_le (calls : List KillPc) (t : Nat) :
    tally KillPc.stepsLeft (calls.set t .returned) ≤ tally KillPc.stepsLeft calls := by
  cases hc : calls[t]? with
  | none =>
      exact Nat.le_of_eq (by rw [List.set_eq_of_length_le (List.getElem?_eq_none_iff.mp hc)])
  | some pc =>
      have hset := tally_set KillPc.stepsLeft .returned hc
      simp only [KillPc.stepsLeft] at hset
      omega

theorem stepsLeft_body {cfg : LaunchConfig} {s s' : Client} {t : Nat} {pc : BodyPc}
    (ho : s.killOnce = .running t pc) (h : BodyNext cfg s t pc s') :
    s'.stepsLeft + 1 ≤ s.stepsLeft := by
  cases h with
  | leave hpc =>
      have hcalls := tally_returned_le s.calls t
      simp only [stepsLeft, Client.leave, ho, OncePc.stepsLeft]
      omega
  | advance hless =>
      simp only [stepsLeft, ho, OncePc.stepsLeft]
      omega

theorem stepsLeft_step {cfg : LaunchConfig} {s s' : Client} {a : Act} (h : step cfg s a = some s') :
    s'.stepsLeft + a.uses ≤ s.stepsLeft + a.adds := by
  cases a with
  | start o =>
      cases next_of_start h with
      | stay => exact Nat.le_add_right _ _
      | made hmade =>
          have hless := hmade.less
          simp only [stepsLeft, hmade.runners, hmade.killOnce, hmade.calls, tally_append,
            tally_cons, tally_nil, Act.uses, Act.adds]
          omega
  | connect ok =>
      simp only [step] at h
      split at h <;> cases h
      exact Nat.le_refl _
  | kill =>
      cases h
      simp only [stepsLeft, tally_append, tally_cons, tally_nil, KillPc.stepsLeft, Act.uses,
        Act.adds]
      omega
  | call t =>
      simp only [step, callStep] at h
      split at h
      · next hc =>
          split at h <;> cases h
          · have hset := tally_set KillPc.stepsLeft .returned hc
            simp only [stepsLeft, KillPc.stepsLeft, Act.uses, Act.adds] at hset ⊢
            omega
          · have hset := tally_set KillPc.stepsLeft .once hc
            simp only [stepsLeft, KillPc.stepsLeft, Act.uses, Act.adds] at hset ⊢
            omega
      · next hc =>
          split at h
          · next ho =>
              cases h
              simp only [stepsLeft, ho, OncePc.stepsLeft, BodyPc.stepsLeft, Act.uses, Act.adds]
              omega
          · cases h
          · cases h
            have hset := tally_set KillPc.stepsLeft .returned hc
            simp only [stepsLeft, KillPc.stepsLeft, Act.uses, Act.adds] at hset ⊢
            omega
      · cases h
  | body ok =>
      simp only [step] at h
      split at h
      · next ho => exact stepsLeft_body ho (next_of_body h)
      · cases h
  | goroutine n g =>
      simp only [step] at h
      split at h
      · next r hr =>
          obtain ⟨r', wg, pipes, exited, cancelled, rfl, hnext⟩ := next_of_goroutine h
          have hset := tally_set RunnerState.stepsLeft r' hr
          have hless := hnext.less n
          simp only [stepsLeft, Act.uses]
          omega
      · cases h
  | exit n =>
      simp only [step] at h
      split at h
      · next r hr =>
          cases h
          have hset := tally_set RunnerState.stepsLeft { r with running := false } hr
          have hsame : ({ r with running := false } : RunnerState).stepsLeft = r.stepsLeft := rfl
          simp only [stepsLeft, Act.uses, Act.adds]
          omega
      · cases h

/-! ### Nobody waits for ever -/

/-- Each runner that is left running has been told to end. -/
def Told (s : Client) : Prop :=
  s.runners.length ≤ 1 → ∀ (n : Nat) r, s.runners[n]? = some r → r.running = true →
    .kill n ∈ s.commands

structure Lively (s : Client) : Prop where
  pipes : s.pipesWaitGroup = tally RunnerState.piping s.runners
  runner : ∀ n, s.runner = some n → n < s.runners.length
  shaped : ∀ r ∈ s.runners, r.Shaped
  starting : ∀ r ∈ s.runners, r.waiter = .starting → s.doneCtx.isSome = true
  gate : .once ∈ s.calls → s.runners ≠ []
  cancelled : s.cancelled ≠ [] →
    s.runners ≠ [] ∧ (s.runners.length ≤ 1 → ∀ r ∈ s.runners, r.running = false)
  body : ∀ t pc, s.killOnce = .running t pc →
    s.runners ≠ [] ∧ (∀ n, pc.target = some n → n < s.runners.length) ∧ (pc.told = true → Told s)

theorem lively_newClient (cfg : LaunchConfig) (others : List Nat) :
    Lively (newClient cfg others) := by
  constructor <;> simp [newClient]

theorem Lively.made {s s' : Client} {r : RunnerState} (h : Lively s) (hmade : Made s s' r) :
    Lively s' := by
  have hne : s'.runners ≠ [] := by
    rw [hmade.runners]
    exact List.concat_ne_nil r s.runners
  -- a second runner, and nothing is said about two
  have hmany : s.runners ≠ [] → ¬ s'.runners.length ≤ 1 := by
    intro hold hone
    have hpos := List.length_pos_of_ne_nil hold
    rw [hmade.runners, List.length_append, List.length_singleton] at hone
    omega
  have hlength : s'.runners.length = s.runners.length + 1 := by
    rw [hmade.runners, List.length_append, List.length_singleton]
  refine ⟨?_, ?_, ?_, ?_, fun _ => hne, ?_, ?_⟩
  · rw [hmade.pipes, hmade.runners, h.pipes, tally_append, tally_cons, tally_nil, Nat.add_zero]
  · intro n hn
    rcases hmade.runner with hsame | hnew
    · have hlt := h.runner n (hsame ▸ hn)
      omega
    · rw [hnew] at hn
      cases hn
      omega
  · intro q hq
    rw [hmade.runners, List.mem_append, List.mem_singleton] at hq
    rcases hq with hold | rfl
    · exact h.shaped q hold
    · exact hmade.shaped
  · intro q hq hstarting
    rw [hmade.runners, List.mem_append, List.mem_singleton] at hq
    rcases hq with hold | rfl
    · exact hmade.doneCtx (h.starting q hold hstarting)
    · exact hmade.starting hstarting
  · intro hcancelled
    rw [hmade.cancelled] at hcancelled
    exact ⟨hne, fun hone => absurd hone (hmany (h.cancelled hcancelled).1)⟩
  · intro t pc ho
    rw [hmade.killOnce] at ho
    obtain ⟨hold, htarget, -⟩ := h.body t pc ho
    refine ⟨hne, fun n hn => ?_, fun _ hone => absurd hone (hmany hold)⟩
    have hlt := htarget n hn
    omega

/-- A runner is updated and does not come back to life. -/
theorem Lively.setRunner {s : Client} {n wg pipes : Nat} {r r' : RunnerState} {exited : Bool}
    {cancelled : List Nat} (h : Lively s) (hr : s.runners[n]? = some r)
    (hrunning : r'.running = true → r.running = true) (hshaped : r'.Shaped)
    (hpipes : pipes + r.piping = s.pipesWaitGroup + r'.piping)
    (hstarting : r'.waiter = .starting → r.waiter = .starting)
    (hcancelled : cancelled = s.cancelled ∨ r'.running = false) :
    Lively { s with
      clientWaitGroup := wg
      pipesWaitGroup := pipes
      exited := exited
      cancelled := cancelled
      runners := s.runners.set n r' } := by
  have hne : s.runners ≠ [] := List.ne_nil_of_mem (List.mem_of_getElem? hr)
  have hset : s.runners.set n r' ≠ [] := by
    apply List.ne_nil_of_length_pos
    rw [List.length_set]
    exact List.length_pos_of_ne_nil hne
  have hold : ∀ {m : Nat} {q : RunnerState}, (s.runners.set n r')[m]? = some q →
      q.running = true → ∃ q₀, s.runners[m]? = some q₀ ∧ q₀.running = true := by
    intro m q hq hrun
    rcases getElem?_set_cases hq with ⟨rfl, rfl⟩ | ⟨-, hq⟩
    · exact ⟨r, hr, hrunning hrun⟩
    · exact ⟨q, hq, hrun⟩
  refine ⟨?_, fun m hm => ?_, fun q hq => ?_, fun q hq hw => ?_, fun _ => hset, fun hc => ?_,
    fun t pc ho => ?_⟩
  · have htally := tally_set RunnerState.piping r' hr
    have hsum := h.pipes
    dsimp only
    omega
  · rw [List.length_set]
    exact h.runner m hm
  · rcases List.mem_or_eq_of_mem_set hq with hq | rfl
    · exact h.shaped q hq
    · exact hshaped
  · rcases List.mem_or_eq_of_mem_set hq with hq | rfl
    · exact h.starting q hq hw
    · exact h.starting r (List.mem_of_getElem? hr) (hstarting hw)
  · refine ⟨hset, fun hone q hq => ?_⟩
    rw [List.length_set] at hone
    rcases hcancelled with rfl | hstopped
    · obtain ⟨m, hm⟩ := List.mem_iff_getElem?.mp hq
      by_contra hrun
      obtain ⟨q₀, hq₀, hrun₀⟩ := hold hm (Bool.not_eq_false _ ▸ hrun)
      rw [(h.cancelled hc).2 hone q₀ (List.mem_of_getElem? hq₀)] at hrun₀
      cases hrun₀
    · -- the only runner is the one that has exited
      obtain ⟨m, hm⟩ := List.mem_iff_getElem?.mp hq
      have hlt := (List.getElem?_eq_some_iff.mp hm).1
      have hltn := (List.getElem?_eq_some_iff.mp hr).1
      rw [List.length_set] at hlt
      have hmn : n = m := by omega
      subst hmn
      rw [List.getElem?_set_self hltn] at hm
      cases hm
      exact hstopped
  · obtain ⟨-, htarget, htold⟩ := h.body t pc ho
    refine ⟨hset, fun m hm => ?_, fun hpc hone m q hq hrun => ?_⟩
    · rw [List.length_set]
      exact htarget m hm
    · rw [List.length_set] at hone
      obtain ⟨q₀, hq₀, hrun₀⟩ := hold hq hrun
      exact htold hpc hone m q₀ hq₀ hrun₀

theorem Lively.goroutine {s s' : Client} {n : Nat} {r : RunnerState} {g : Goroutine}
    (h : Lively s) (htracked : Tracked s) (hr : s.runners[n]? = some r)
    (hstep : s.goroutineStep n r g = some s') : Lively s' := by
  obtain ⟨r', wg, pipes, exited, cancelled, rfl, hnext⟩ := next_of_goroutine hstep
  refine h.setRunner hr (fun hrun => hnext.running ▸ hrun)
    (hnext.shaped (h.shaped r (List.mem_of_getElem? hr))) ?_ hnext.starting ?_
  · have hle := le_tally RunnerState.piping hr
    have hsum := h.pipes
    rcases hnext.pipes with ⟨hp, rfl⟩ | ⟨hp, rfl⟩ <;> omega
  · refine hnext.cancelled.imp id fun hreaped => ?_
    rw [hnext.running]
    exact (htracked.sound n r hr).reaped hreaped

theorem Lively.bodyNext {cfg : LaunchConfig} {s s' : Client} {t : Nat} {pc : BodyPc}
    (h : Lively s) (ho : s.killOnce = .running t pc) (hnext : BodyNext cfg s t pc s') :
    Lively s' := by
  obtain ⟨hne, htarget, htold⟩ := h.body t pc ho
  cases hnext with
  | leave hpc =>
      refine ⟨h.pipes, h.runner, h.shaped, h.starting, fun _ => hne, h.cancelled, fun i q hq => ?_⟩
      cases hq
  | advance hless hrunner hcommands htarget' htold' =>
      refine ⟨h.pipes, fun n hn => ?_, h.shaped, h.starting, h.gate, h.cancelled,
        fun i q hq => ?_⟩
      · rcases hrunner with rfl | rfl
        · exact h.runner n hn
        · cases hn
      · cases hq
        refine ⟨hne, fun n hn => (htarget' n hn).elim (htarget n) (h.runner n),
          fun hpc hone n r hr hrun => ?_⟩
        rcases htold' hpc with hpc₀ | hcancelled | ⟨m, hm, hkill⟩
        · exact hcommands _ (htold hpc₀ hone n r hr hrun)
        · rw [(h.cancelled hcancelled).2 hone r (List.mem_of_getElem? hr)] at hrun
          cases hrun
        · have hlt := (List.getElem?_eq_some_iff.mp hr).1
          have hltm := htarget m hm
          have hmn : m = n := by
            dsimp only at hone hlt
            omega
          exact hmn ▸ hkill

theorem Lively.step {cfg : LaunchConfig} {s s' : Client} {a : Act} (h : Lively s)
    (htracked : Tracked s) (hstep : step cfg s a = some s') : Lively s' := by
  have hcalls : ∀ {t : Nat} {pc : KillPc}, (pc = .once → s.runners ≠ []) →
      Lively { s with calls := s.calls.set t pc } := by
    intro t pc hpc
    refine ⟨h.pipes, h.runner, h.shaped, h.starting, fun hmem => ?_, h.cancelled, h.body⟩
    rcases List.mem_or_eq_of_mem_set hmem with hold | heq
    · exact h.gate hold
    · exact hpc heq.symm
  cases a with
  | start o =>
      cases next_of_start hstep with
      | stay => exact ⟨h.pipes, h.runner, h.shaped, h.starting, h.gate, h.cancelled, h.body⟩
      | made hmade => exact h.made hmade
  | connect ok =>
      simp only [Client.step] at hstep
      split at hstep <;> cases hstep
      exact ⟨h.pipes, h.runner, h.shaped, h.starting, h.gate, h.cancelled, h.body⟩
  | kill =>
      cases hstep
      refine ⟨h.pipes, h.runner, h.shaped, h.starting, fun hmem => ?_, h.cancelled, h.body⟩
      apply h.gate
      simpa using hmem
  | call t =>
      simp only [Client.step, callStep] at hstep
      split at hstep
      · split at hstep
        · cases hstep
          exact hcalls (by intro h; cases h)
        · next n hn =>
            cases hstep
            refine hcalls fun _ hnil => ?_
            have hlt := h.runner n hn
            rw [hnil] at hlt
            cases hlt
      · next hc =>
          split at hstep
          · cases hstep
            refine ⟨h.pipes, h.runner, h.shaped, h.starting, h.gate, h.cancelled, fun i q hq => ?_⟩
            cases hq
            exact ⟨h.gate (List.mem_of_getElem? hc), (by intro n hn; cases hn),
              (by intro hpc; cases hpc)⟩
          · cases hstep
          · cases hstep
            exact hcalls (by intro h; cases h)
      · cases hstep
  | body ok =>
      simp only [Client.step] at hstep
      split at hstep
      · next ho => exact h.bodyNext ho (next_of_body hstep)
      · cases hstep
  | goroutine n g =>
      simp only [Client.step] at hstep
      split at hstep
      · next hr => exact h.goroutine htracked hr hstep
      · cases hstep
  | exit n =>
      simp only [Client.step] at hstep
      split at hstep
      · next r hr =>
          cases hstep
          have hshaped := h.shaped r (List.mem_of_getElem? hr)
          exact h.setRunner hr (by intro hrun; cases hrun) ⟨hshaped.1, hshaped.2⟩ rfl
            (fun hw => hw) (Or.inl rfl)
      · cases hstep

section Resting

variable {cfg : LaunchConfig} {s : Client} (hrest : Resting cfg s)

include hrest

end Resting

theorem lively_step {cfg : LaunchConfig} (s : Client) (a : Act) (s' : Client)
    (h : Tracked s ∧ Lively s) (hstep : step cfg s a = some s') : Tracked s' ∧ Lively s' :=
  ⟨h.1.move (move_of_step hstep), h.2.step h.1 hstep⟩

/-- All goroutines and calls have ended, and no plugin runs. -/
def quiet (s : Client) : Bool :=
  s.runners.all (fun r => r.stepsLeft == 0 && !r.running) && s.calls.all (· == .returned) &&
    (s.killOnce == .idle || s.killOnce == .done)

end Client

end GoPlugin
