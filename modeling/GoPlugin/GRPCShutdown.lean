import GoPlugin.LockedClose

/-!
# The end of a gRPC plugin (`grpc_controller.go`, `grpc_server.go`)

The handler of the host's `Shutdown` call returns at once, since `GracefulStop` waits for all
handlers and would wait for this one.  It leaves a goroutine behind that starts `GracefulStop` in
another one and waits for it, for the drain window at most, and then calls `Stop` as well.  In test
mode `Serve` calls `Stop` when its context is done.  Whoever stops the server closes the broker.
`GRPCServer.Serve` closes `DoneCh`, which the plugin's `Serve` waits for.

The plugin does not multiplex.  What is assumed of `grpc.Server`: `GracefulStop` returns when every
handler has returned; `Stop` cancels the calls that run, and it waits for their handlers or not
(`stopWaits`).  Calls may arrive until `Stop` is called or one of the two has returned.
`grpc.Server.Serve` returns when the listener fails, or after one of the two has returned if one was
called.

Both methods of `grpc.Server` begin by closing the listener, and they wait for the loop that accepts
connections from it.  So the first assumption needs a listener whose `Accept` returns when it is
closed, and whose `Close` leaves the connections alone.  `GRPCServerMuxer` is neither: its `Accept`
may stand in a send for ever, and its `Close` closes the session that carries every call.
-/

namespace GoPlugin

open LabelledSystem Tally LockedClose

/-! ### The model -/

/-- Where the handler of an RPC stands. -/
inductive HandlingPc where
  | running
  | abandoned                -- the host has given up the call, which cancels its context
  | cancelled                -- its context was cancelled by `Stop`
  | returned (cut : Bool)    -- `cut`: after its context was cancelled by `Stop`
deriving DecidableEq, Repr

/-- An RPC.  The handler of a `Shutdown` call returns by itself. -/
structure Handling where
  shutdown : Bool
  pc : HandlingPc
deriving DecidableEq, Repr

/-- What `grpc.Server.Stop` does to an RPC. -/
def Handling.cancel (x : Handling) : Handling :=
  match x.pc with
  | .running => { x with pc := .cancelled }
  | _ => x

def Handling.handled (x : Handling) : Bool :=
  match x.pc with
  | .returned _ => true
  | _ => false

/-- Where a `GRPCServer.Stop` or `GRPCServer.GracefulStop` call stands. -/
inductive StopPc where
  | stopping              -- in the method of `grpc.Server`
  | closing (c : Nat)     -- in `closeBroker`, as its `c`-th caller
  | returned
deriving DecidableEq, Repr

/-- Where the goroutine of a `Shutdown` call stands. -/
inductive ShutdownPc where
  | selecting
  | stopping (pc : StopPc)    -- the window is over: in `Stop`
  | awaiting                  -- in `<-stopped`
  | finished
deriving DecidableEq, Repr

/-- The goroutines of a `Shutdown` call.  `inner` is the `GracefulStop` call, once it is made. -/
structure ShutdownCall where
  outer : ShutdownPc
  inner : Option StopPc
deriving DecidableEq, Repr

/-- Where `Serve` of the plugin stands after `go server.Serve(listener)`. -/
inductive GRPCMainPc where
  | selecting
  | cancelled                 -- the context is done and the listener closed: before `Stop`
  | stopping (pc : StopPc)
  | awaiting                  -- in `<-doneCh`
  | returned
deriving DecidableEq, Repr

/-! The steps that are left, of which a stop call makes another one in `closeBroker`. -/

def Handling.stepsLeft (x : Handling) : Nat := if x.handled then 0 else 1

def StopPc.stepsLeft : StopPc → Nat
  | .stopping => 7
  | .closing _ => 1
  | .returned => 0

def ShutdownPc.stepsLeft : ShutdownPc → Nat
  | .selecting => 10
  | .stopping pc => 2 + pc.stepsLeft
  | .awaiting => 1
  | .finished => 0

def ShutdownCall.stepsLeft (y : ShutdownCall) : Nat :=
  y.outer.stepsLeft + (y.inner.map StopPc.stepsLeft).getD 8

def GRPCMainPc.stepsLeft : GRPCMainPc → Nat
  | .selecting => 1
  | .cancelled => 10
  | .stopping pc => 2 + pc.stepsLeft
  | .awaiting => 1
  | .returned => 0

/-- The handler returns without the application's doing: its context is cancelled, or it is the
    one of a `Shutdown` call. -/
def Handling.returns (x : Handling) : Bool :=
  x.shutdown || x.pc == .cancelled || x.pc == .abandoned

structure GRPCShutdown where
  rpcs : List Handling
  shutdowns : List ShutdownCall
  quit : Bool             -- `Stop` or `GracefulStop` was called
  halted : Bool           -- `Stop` was called
  stopped : Bool          -- one of the methods of `grpc.Server` has returned
  broker : Guarded        -- `s.broker`, and the callers of `closeBroker`
  listening : Bool
  serving : Bool          -- `GRPCServer.Serve` has not returned
  doneCh : Nat            -- how often it has been closed
  main : GRPCMainPc
deriving DecidableEq, Repr

namespace GRPCShutdown

def init : GRPCShutdown where
  rpcs := []
  shutdowns := []
  quit := false
  halted := false
  stopped := false
  broker := .init
  listening := true
  serving := true
  doneCh := 0
  main := .selecting

/-- All handlers have returned. -/
def drained (s : GRPCShutdown) : Bool := s.rpcs.all Handling.handled

/-- The call of `grpc.Server.Stop`. -/
def stop (s : GRPCShutdown) : GRPCShutdown :=
  { s with quit := true, halted := true, rpcs := s.rpcs.map Handling.cancel }

/-- A `GRPCServer.Stop` or `GRPCServer.GracefulStop` call goes on.  `waits` says whether the method
    of `grpc.Server` waits for the handlers. -/
def stopNext (waits : Bool) (s : GRPCShutdown) : StopPc → Option (GRPCShutdown × StopPc)
  | .stopping =>
      if waits && !s.drained then none
      else
        some ({ s with stopped := true, broker := s.broker.enter },
          .closing s.broker.callers.length)
  | .closing c => if s.broker.callers[c]? = some .returned then some (s, .returned) else none
  | .returned => none

/-- `grpc.Server.Serve` can return. -/
def serveEnds (s : GRPCShutdown) : Bool := if s.quit then s.stopped else !s.listening

inductive Act where
  | call (shutdown : Bool)    -- an RPC arrives
  | abandon (i : Nat)         -- the host cancels it, does not wait any longer or is gone
  | handler (i : Nat)         -- its handler returns
  | inner (j : Nat)           -- the inner goroutine of the `j`-th `Shutdown` call goes on
  | window (j : Nat)          -- the outer one sees the drain window end
  | outer (j : Nat)           -- and otherwise goes on
  | broker (c : Nat)          -- the `c`-th `closeBroker` call goes on
  | listenerFails
  | serve                     -- `grpc.Server.Serve` returns
  | cancel                    -- the context is done, in test mode
  | main
deriving DecidableEq, Repr

def abandonStep (s : GRPCShutdown) (i : Nat) : Option GRPCShutdown :=
  match s.rpcs[i]? with
  | some ⟨shutdown, .running⟩ => some { s with rpcs := s.rpcs.set i ⟨shutdown, .abandoned⟩ }
  | _ => none

def handlerStep (s : GRPCShutdown) (i : Nat) : Option GRPCShutdown :=
  match s.rpcs[i]? with
  | some ⟨shutdown, .running⟩ | some ⟨shutdown, .abandoned⟩ =>
      some { s with rpcs := s.rpcs.set i ⟨shutdown, .returned false⟩ }
  | some ⟨shutdown, .cancelled⟩ =>
      some { s with rpcs := s.rpcs.set i ⟨shutdown, .returned true⟩ }
  | _ => none

def innerStep (s : GRPCShutdown) (j : Nat) : Option GRPCShutdown :=
  match s.shutdowns[j]? with
  | some ⟨outer, none⟩ =>
      some { s with quit := true, shutdowns := s.shutdowns.set j ⟨outer, some .stopping⟩ }
  | some ⟨outer, some pc⟩ =>
      (stopNext true s pc).map fun x =>
        { x.1 with shutdowns := s.shutdowns.set j ⟨outer, some x.2⟩ }
  | none => none

def windowStep (s : GRPCShutdown) (j : Nat) : Option GRPCShutdown :=
  match s.shutdowns[j]? with
  | some ⟨.selecting, inner⟩ =>
      some { s.stop with shutdowns := s.shutdowns.set j ⟨.stopping .stopping, inner⟩ }
  | _ => none

def outerStep (stopWaits : Bool) (s : GRPCShutdown) (j : Nat) : Option GRPCShutdown :=
  match s.shutdowns[j]? with
  | some ⟨.selecting, some .returned⟩ | some ⟨.awaiting, some .returned⟩ =>
      some { s with shutdowns := s.shutdowns.set j ⟨.finished, some .returned⟩ }
  | some ⟨.stopping .returned, inner⟩ =>
      some { s with shutdowns := s.shutdowns.set j ⟨.awaiting, inner⟩ }
  | some ⟨.stopping pc, inner⟩ =>
      (stopNext stopWaits s pc).map fun x =>
        { x.1 with shutdowns := s.shutdowns.set j ⟨.stopping x.2, inner⟩ }
  | _ => none

def mainStep (stopWaits : Bool) (s : GRPCShutdown) : Option GRPCShutdown :=
  match s.main with
  | .selecting | .awaiting => if 0 < s.doneCh then some { s with main := .returned } else none
  | .cancelled => some { s.stop with main := .stopping .stopping }
  | .stopping .returned => some { s with main := .awaiting }
  | .stopping pc => (stopNext stopWaits s pc).map fun x => { x.1 with main := .stopping x.2 }
  | .returned => none

def step (stopWaits : Bool) (s : GRPCShutdown) : Act → Option GRPCShutdown
  | .call shutdown =>
      if s.halted || s.stopped then none
      else
        some { s with
          rpcs := s.rpcs ++ [⟨shutdown, .running⟩]
          shutdowns := if shutdown then s.shutdowns ++ [⟨.selecting, none⟩] else s.shutdowns }
  | .abandon i => s.abandonStep i
  | .handler i => s.handlerStep i
  | .inner j => s.innerStep j
  | .window j => s.windowStep j
  | .outer j => outerStep stopWaits s j
  | .broker c => (s.broker.step c).map fun g => { s with broker := g }
  | .listenerFails => some { s with listening := false }
  | .serve =>
      if s.serving && s.serveEnds then
        some { s with serving := false, doneCh := s.doneCh + 1 }
      else none
  | .cancel =>
      if s.main = .selecting then some { s with listening := false, main := .cancelled } else none
  | .main => mainStep stopWaits s

/-! ### What one step can do -/

inductive StopNext (waits : Bool) (s : GRPCShutdown) : StopPc → GRPCShutdown → StopPc → Prop where
  | stopped (h : waits = true → s.drained = true) :
      StopNext waits s .stopping { s with stopped := true, broker := s.broker.enter }
        (.closing s.broker.callers.length)
  | closed {c} (h : s.broker.callers[c]? = some .returned) :
      StopNext waits s (.closing c) s .returned

theorem stopNext_eq_some {waits : Bool} {s s' : GRPCShutdown} {pc pc' : StopPc}
    (h : stopNext waits s pc = some (s', pc')) : StopNext waits s pc s' pc' := by
  cases pc with
  | stopping =>
      simp only [stopNext] at h
      split at h
      · cases h
      · next hwaits =>
          cases h
          refine .stopped fun htrue => ?_
          simpa [htrue] using hwaits
  | closing c =>
      simp only [stopNext] at h
      split at h
      · next hc =>
          cases h
          exact .closed hc
      · cases h
  | returned => cases h

inductive Next (stopWaits : Bool) (s : GRPCShutdown) : Act → GRPCShutdown → Prop where
  | call {shutdown} (hhalted : s.halted = false) (hstopped : s.stopped = false) :
      Next stopWaits s (.call shutdown)
        { s with
          rpcs := s.rpcs ++ [⟨shutdown, .running⟩]
          shutdowns := if shutdown then s.shutdowns ++ [⟨.selecting, none⟩] else s.shutdowns }
  | abandon {i shutdown} (hi : s.rpcs[i]? = some ⟨shutdown, .running⟩) :
      Next stopWaits s (.abandon i) { s with rpcs := s.rpcs.set i ⟨shutdown, .abandoned⟩ }
  | handled {i shutdown pc} (hi : s.rpcs[i]? = some ⟨shutdown, pc⟩)
      (hpc : pc = .running ∨ pc = .abandoned) :
      Next stopWaits s (.handler i)
        { s with rpcs := s.rpcs.set i ⟨shutdown, .returned false⟩ }
  | cut {i shutdown} (hi : s.rpcs[i]? = some ⟨shutdown, .cancelled⟩) :
      Next stopWaits s (.handler i)
        { s with rpcs := s.rpcs.set i ⟨shutdown, .returned true⟩ }
  | gracefulStop {j outer} (hj : s.shutdowns[j]? = some ⟨outer, none⟩) :
      Next stopWaits s (.inner j)
        { s with quit := true, shutdowns := s.shutdowns.set j ⟨outer, some .stopping⟩ }
  | inner {j outer pc s' pc'} (hj : s.shutdowns[j]? = some ⟨outer, some pc⟩)
      (h : StopNext true s pc s' pc') :
      Next stopWaits s (.inner j)
        { s' with shutdowns := s.shutdowns.set j ⟨outer, some pc'⟩ }
  | window {j inner} (hj : s.shutdowns[j]? = some ⟨.selecting, inner⟩) :
      Next stopWaits s (.window j)
        { s.stop with shutdowns := s.shutdowns.set j ⟨.stopping .stopping, inner⟩ }
  | finish {j outer} (hj : s.shutdowns[j]? = some ⟨outer, some .returned⟩)
      (houter : outer = .selecting ∨ outer = .awaiting) :
      Next stopWaits s (.outer j)
        { s with shutdowns := s.shutdowns.set j ⟨.finished, some .returned⟩ }
  | await {j inner} (hj : s.shutdowns[j]? = some ⟨.stopping .returned, inner⟩) :
      Next stopWaits s (.outer j) { s with shutdowns := s.shutdowns.set j ⟨.awaiting, inner⟩ }
  | outer {j inner pc s' pc'} (hj : s.shutdowns[j]? = some ⟨.stopping pc, inner⟩)
      (h : StopNext stopWaits s pc s' pc') :
      Next stopWaits s (.outer j)
        { s' with shutdowns := s.shutdowns.set j ⟨.stopping pc', inner⟩ }
  | broker {c g} (h : s.broker.step c = some g) :
      Next stopWaits s (.broker c) { s with broker := g }
  | listenerFails : Next stopWaits s .listenerFails { s with listening := false }
  | serve (hserving : s.serving = true) (hquit : s.quit = true → s.stopped = true)
      (hlistening : s.quit = false → s.listening = false) :
      Next stopWaits s .serve { s with serving := false, doneCh := s.doneCh + 1 }
  | cancel (hmain : s.main = .selecting) :
      Next stopWaits s .cancel { s with listening := false, main := .cancelled }
  | mainStop (hmain : s.main = .cancelled) :
      Next stopWaits s .main { s.stop with main := .stopping .stopping }
  | mainAwait (hmain : s.main = .stopping .returned) :
      Next stopWaits s .main { s with main := .awaiting }
  | mainStopping {pc s' pc'} (hmain : s.main = .stopping pc)
      (h : StopNext stopWaits s pc s' pc') :
      Next stopWaits s .main { s' with main := .stopping pc' }
  | mainDone (hmain : s.main = .selecting ∨ s.main = .awaiting) (hdone : 0 < s.doneCh) :
      Next stopWaits s .main { s with main := .returned }

theorem next_of_innerStep {w : Bool} {s s' : GRPCShutdown} {j : Nat}
    (h : s.innerStep j = some s') : Next w s (.inner j) s' := by
  unfold innerStep at h
  split at h
  · next outer hj =>
      cases h
      exact .gracefulStop hj
  · next outer pc hj =>
      obtain ⟨⟨t, pc'⟩, ht, rfl⟩ := Option.map_eq_some_iff.mp h
      exact .inner hj (stopNext_eq_some ht)
  · cases h

theorem next_of_outerStep {w : Bool} {s s' : GRPCShutdown} {j : Nat}
    (h : outerStep w s j = some s') : Next w s (.outer j) s' := by
  unfold outerStep at h
  split at h
  · next hj =>
      cases h
      exact .finish hj (Or.inl rfl)
  · next hj =>
      cases h
      exact .finish hj (Or.inr rfl)
  · next inner hj =>
      cases h
      exact .await hj
  · next pc inner _ hj =>
      obtain ⟨⟨t, pc'⟩, ht, rfl⟩ := Option.map_eq_some_iff.mp h
      exact .outer hj (stopNext_eq_some ht)
  · cases h

theorem next_of_mainStep {w : Bool} {s s' : GRPCShutdown} (h : mainStep w s = some s') :
    Next w s .main s' := by
  unfold mainStep at h
  split at h
  · next hmain =>
      split at h
      · next hdone =>
          cases h
          exact .mainDone (Or.inl hmain) hdone
      · cases h
  · next hmain =>
      split at h
      · next hdone =>
          cases h
          exact .mainDone (Or.inr hmain) hdone
      · cases h
  · next hmain =>
      cases h
      exact .mainStop hmain
  · next hmain =>
      cases h
      exact .mainAwait hmain
  · next pc _ hmain =>
      obtain ⟨⟨t, pc'⟩, ht, rfl⟩ := Option.map_eq_some_iff.mp h
      exact .mainStopping hmain (stopNext_eq_some ht)
  · cases h

theorem next_of_step {w : Bool} {s s' : GRPCShutdown} {a : Act} (h : step w s a = some s') :
    Next w s a s' := by
  cases a with
  | call shutdown =>
      simp only [step] at h
      split at h
      · cases h
      · next hopen =>
          cases h
          rw [Bool.or_eq_true, not_or, Bool.not_eq_true, Bool.not_eq_true] at hopen
          exact .call hopen.1 hopen.2
  | abandon i =>
      simp only [step, abandonStep] at h
      split at h
      · next hi =>
          cases h
          exact .abandon hi
      · cases h
  | handler i =>
      simp only [step, handlerStep] at h
      split at h
      · next hi =>
          cases h
          exact .handled hi (Or.inl rfl)
      · next hi =>
          cases h
          exact .handled hi (Or.inr rfl)
      · next hi =>
          cases h
          exact .cut hi
      · cases h
  | inner j => exact next_of_innerStep h
  | window j =>
      simp only [step, windowStep] at h
      split at h
      · next hj =>
          cases h
          exact .window hj
      · cases h
  | outer j => exact next_of_outerStep h
  | broker c =>
      obtain ⟨g, hg, rfl⟩ := Option.map_eq_some_iff.mp h
      exact .broker hg
  | listenerFails =>
      cases h
      exact .listenerFails
  | serve =>
      simp only [step] at h
      split at h
      · next hserve =>
          cases h
          rw [Bool.and_eq_true] at hserve
          refine .serve hserve.1 (fun hquit => ?_) (fun hquit => ?_)
          · simpa [serveEnds, hquit] using hserve.2
          · simpa [serveEnds, hquit] using hserve.2
      · cases h
  | cancel =>
      simp only [step] at h
      split at h
      · next hmain =>
          cases h
          exact .cancel hmain
      · cases h
  | main => exact next_of_mainStep h

/-! ### Invariants -/

/-- What is known where a stop call stands. -/
def Fits (s : GRPCShutdown) : StopPc → Prop
  | .stopping => True
  | .closing c => c < s.broker.callers.length
  | .returned => s.broker.callers ≠ []

structure ShutdownCall.Sound (s : GRPCShutdown) (y : ShutdownCall) : Prop where
  quit : y.inner ≠ none → s.quit = true
  inner : ∀ pc, y.inner = some pc → s.Fits pc
  outer : ∀ pc, y.outer = .stopping pc → s.Fits pc ∧ s.halted = true
  awaiting : y.outer = .awaiting → s.halted = true
  finished : y.outer = .finished → y.inner = some .returned

structure Sound (s : GRPCShutdown) : Prop where
  broker : s.broker.Sound
  halted : s.halted = true → ∀ x ∈ s.rpcs, x.pc ≠ .running
  quit : s.halted = true ∨ s.stopped = true → s.quit = true
  stopped : s.broker.callers ≠ [] → s.stopped = true
  shutdowns : ∀ y ∈ s.shutdowns, ShutdownCall.Sound s y
  main : ∀ pc, s.main = .stopping pc → s.Fits pc ∧ s.halted = true
  awaiting : s.main = .awaiting → s.broker.callers ≠ []
  doneCh : s.doneCh = if s.serving then 0 else 1
  returned : s.main = .returned → s.serving = false

theorem sound_init : Sound init where
  broker := Guarded.sound_init
  halted h := by cases h
  quit h := by rcases h with h | h <;> cases h
  stopped h := absurd rfl h
  shutdowns y h := by cases h
  main pc h := by cases h
  awaiting h := by cases h
  doneCh := rfl
  returned h := by cases h

/-- What stop calls rely on does not go away. -/
structure Grows (s s' : GRPCShutdown) : Prop where
  quit : s.quit = true → s'.quit = true
  halted : s.halted = true → s'.halted = true
  broker : s.broker.callers.length ≤ s'.broker.callers.length

variable {w : Bool} {s s' : GRPCShutdown}

theorem Grows.same (hquit : s'.quit = s.quit) (hhalted : s'.halted = s.halted)
    (hbroker : s'.broker = s.broker) : Grows s s' :=
  ⟨hquit.trans, hhalted.trans, hbroker ▸ Nat.le_refl _⟩

theorem Grows.ne_nil (h : Grows s s') (hne : s.broker.callers ≠ []) : s'.broker.callers ≠ [] := by
  have hpos := List.length_pos_iff.mpr hne
  exact List.length_pos_iff.mp (Nat.lt_of_lt_of_le hpos h.broker)

theorem Grows.fits (h : Grows s s') {pc : StopPc} (hpc : s.Fits pc) : s'.Fits pc := by
  cases pc with
  | stopping => trivial
  | closing c => exact Nat.lt_of_lt_of_le hpc h.broker
  | returned => exact h.ne_nil hpc

theorem Grows.sound (h : Grows s s') {y : ShutdownCall} (hy : ShutdownCall.Sound s y) :
    ShutdownCall.Sound s' y where
  quit hinner := h.quit (hy.quit hinner)
  inner pc hpc := h.fits (hy.inner pc hpc)
  outer pc hpc := ⟨h.fits (hy.outer pc hpc).1, h.halted (hy.outer pc hpc).2⟩
  awaiting houter := h.halted (hy.awaiting houter)
  finished := hy.finished

/-- A stop call goes on. -/
theorem StopNext.grows {pc pc' : StopPc} (h : StopNext w s pc s' pc') :
    Grows s s' ∧ s'.Fits pc' := by
  cases h with
  | stopped =>
      refine ⟨⟨fun h => h, fun h => h, ?_⟩, ?_⟩
      · simp [Guarded.enter]
      · simp [Fits, Guarded.enter]
  | closed hc =>
      refine ⟨.same rfl rfl rfl, fun hnil => ?_⟩
      rw [hnil] at hc
      cases hc

/-- The rest of the state under it. -/
theorem StopNext.sound {pc pc' : StopPc} (h : Sound s) (hnext : StopNext w s pc s' pc')
    (hquit : s.quit = true) : Sound s' := by
  have hgrows := hnext.grows.1
  cases hnext with
  | stopped =>
      exact ⟨h.broker.enter, h.halted, fun _ => hquit, fun _ => rfl,
        fun y hy => hgrows.sound (h.shutdowns y hy),
        fun pc hpc => ⟨hgrows.fits (h.main pc hpc).1, (h.main pc hpc).2⟩,
        fun hmain => hgrows.ne_nil (h.awaiting hmain), h.doneCh, h.returned⟩
  | closed => exact h

theorem StopNext.main_eq {pc pc' : StopPc} (h : StopNext w s pc s' pc') :
    s'.main = s.main ∧ s'.shutdowns = s.shutdowns := by
  cases h <;> exact ⟨rfl, rfl⟩

/-- One `Shutdown` call is replaced. -/
theorem Sound.setShutdown (h : Sound s) {j : Nat} {y : ShutdownCall}
    (hy : ShutdownCall.Sound s y) : Sound { s with shutdowns := s.shutdowns.set j y } := by
  have hgrows : Grows s { s with shutdowns := s.shutdowns.set j y } := .same rfl rfl rfl
  refine ⟨h.broker, h.halted, h.quit, h.stopped, fun z hz => ?_,
    fun pc hpc => ⟨hgrows.fits (h.main pc hpc).1, (h.main pc hpc).2⟩, h.awaiting, h.doneCh,
    h.returned⟩
  rcases List.mem_or_eq_of_mem_set hz with hold | rfl
  · exact hgrows.sound (h.shutdowns z hold)
  · exact hgrows.sound hy

/-- `main` is replaced. -/
theorem Sound.setMain (h : Sound s) {main : GRPCMainPc}
    (hmain : ∀ pc, main = .stopping pc → s.Fits pc ∧ s.halted = true)
    (hawaiting : main = .awaiting → s.broker.callers ≠ [])
    (hreturned : main = .returned → s.serving = false) : Sound { s with main := main } := by
  have hgrows : Grows s { s with main := main } := .same rfl rfl rfl
  exact ⟨h.broker, h.halted, h.quit, h.stopped, fun y hy => hgrows.sound (h.shutdowns y hy),
    fun pc hpc => ⟨hgrows.fits (hmain pc hpc).1, (hmain pc hpc).2⟩, hawaiting, h.doneCh,
    hreturned⟩

theorem cancel_ne_running (x : Handling) : x.cancel.pc ≠ .running := by
  unfold Handling.cancel
  split
  · simp
  · next hne => exact hne

theorem Sound.stop (h : Sound s) : Sound s.stop := by
  have hgrows : Grows s s.stop := ⟨fun _ => rfl, fun _ => rfl, Nat.le_refl _⟩
  refine ⟨h.broker, fun _ x hx => ?_, fun _ => rfl, h.stopped,
    fun y hy => hgrows.sound (h.shutdowns y hy),
    fun pc hpc => ⟨hgrows.fits (h.main pc hpc).1, rfl⟩, h.awaiting, h.doneCh, h.returned⟩
  obtain ⟨y, -, rfl⟩ := List.mem_map.mp hx
  exact cancel_ne_running y

/-- The table of RPCs is replaced. -/
theorem Sound.setRPCs (h : Sound s) (rpcs : List Handling)
    (hrpcs : s.halted = true → ∀ x ∈ rpcs, x.pc ≠ .running) : Sound { s with rpcs := rpcs } := by
  have hgrows : Grows s { s with rpcs := rpcs } := .same rfl rfl rfl
  exact ⟨h.broker, hrpcs, h.quit, h.stopped, fun y hy => hgrows.sound (h.shutdowns y hy),
    fun pc hpc => ⟨hgrows.fits (h.main pc hpc).1, (h.main pc hpc).2⟩, h.awaiting, h.doneCh,
    h.returned⟩

theorem Sound.closeListener (h : Sound s) : Sound { s with listening := false } := by
  have hgrows : Grows s { s with listening := false } := .same rfl rfl rfl
  exact ⟨h.broker, h.halted, h.quit, h.stopped, fun y hy => hgrows.sound (h.shutdowns y hy),
    fun pc hpc => ⟨hgrows.fits (h.main pc hpc).1, (h.main pc hpc).2⟩, h.awaiting, h.doneCh,
    h.returned⟩

theorem Sound.next {a : Act} (h : Sound s) (hnext : Next w s a s') : Sound s' := by
  have hset : ∀ {i : Nat} {x : Handling}, x.pc ≠ .running → s.halted = true →
      ∀ y ∈ s.rpcs.set i x, y.pc ≠ .running := by
    intro i x hx hhalted y hy
    rcases List.mem_or_eq_of_mem_set hy with hold | rfl
    · exact h.halted hhalted y hold
    · exact hx
  cases hnext with
  | @call shutdown hhalted hstopped =>
      have hrpcs := h.setRPCs (s.rpcs ++ [⟨shutdown, .running⟩]) fun htrue => by
        rw [hhalted] at htrue
        cases htrue
      cases shutdown with
      | false => exact hrpcs
      | true =>
          have hgrows : Grows { s with rpcs := s.rpcs ++ [⟨true, .running⟩] }
              { s with
                rpcs := s.rpcs ++ [⟨true, .running⟩]
                shutdowns := s.shutdowns ++ [⟨.selecting, none⟩] } := .same rfl rfl rfl
          refine ⟨hrpcs.broker, hrpcs.halted, hrpcs.quit, hrpcs.stopped, fun y hy => ?_,
            hrpcs.main, hrpcs.awaiting, hrpcs.doneCh, hrpcs.returned⟩
          rcases List.mem_append.mp hy with hold | hnew
          · exact hgrows.sound (hrpcs.shutdowns y hold)
          · rw [List.mem_singleton.mp hnew]
            exact ⟨fun hne => absurd rfl hne, (by intro _ hpc; cases hpc),
              (by intro _ hpc; cases hpc), (by intro hpc; cases hpc), (by intro hpc; cases hpc)⟩
  | abandon | handled | cut => exact h.setRPCs _ (hset (by simp))
  | @gracefulStop j outer hj =>
      have hgrows : Grows s { s with quit := true } := ⟨fun _ => rfl, fun h => h, Nat.le_refl _⟩
      have hquit : Sound { s with quit := true } :=
        ⟨h.broker, h.halted, fun _ => rfl, h.stopped,
          fun y hy => hgrows.sound (h.shutdowns y hy),
          fun pc hpc => ⟨hgrows.fits (h.main pc hpc).1, (h.main pc hpc).2⟩, h.awaiting, h.doneCh,
          h.returned⟩
      have hy := h.shutdowns _ (List.mem_of_getElem? hj)
      refine hquit.setShutdown ⟨fun _ => rfl, fun pc hpc => ?_, ?_, hy.awaiting, fun hfin => ?_⟩
      · cases hpc
        trivial
      · exact fun pc hpc => ⟨hgrows.fits (hy.outer pc hpc).1, (hy.outer pc hpc).2⟩
      · cases hy.finished hfin
  | @inner j outer pc t pc' hj hstop =>
      have hy := h.shutdowns _ (List.mem_of_getElem? hj)
      have hquit := hy.quit (by simp)
      have ht := hstop.sound h hquit
      obtain ⟨hgrows, hfits⟩ := hstop.grows
      rw [← hstop.main_eq.2]
      refine ht.setShutdown ⟨fun _ => hgrows.quit hquit, fun q hq => ?_, ?_, ?_, fun hfin => ?_⟩
      · cases hq
        exact hfits
      · exact fun q hq => ⟨hgrows.fits (hy.outer q hq).1, hgrows.halted (hy.outer q hq).2⟩
      · exact fun hq => hgrows.halted (hy.awaiting hq)
      · -- `GracefulStop` has returned already
        have hret := hy.finished hfin
        cases hret
        cases hstop
  | @window j inner hj =>
      have hy := h.shutdowns _ (List.mem_of_getElem? hj)
      have hgrows : Grows s s.stop := ⟨fun _ => rfl, fun _ => rfl, Nat.le_refl _⟩
      refine h.stop.setShutdown ⟨fun _ => rfl, fun pc hpc => hgrows.fits (hy.inner pc hpc), ?_,
        fun _ => rfl, (by intro hfin; cases hfin)⟩
      intro pc hpc
      cases hpc
      exact ⟨trivial, rfl⟩
  | finish hj houter =>
      have hy := h.shutdowns _ (List.mem_of_getElem? hj)
      exact h.setShutdown ⟨hy.quit, hy.inner, (by intro _ hpc; cases hpc),
        (by intro hpc; cases hpc), fun _ => rfl⟩
  | await hj =>
      have hy := h.shutdowns _ (List.mem_of_getElem? hj)
      exact h.setShutdown ⟨hy.quit, hy.inner, (by intro _ hpc; cases hpc),
        fun _ => (hy.outer _ rfl).2, (by intro hpc; cases hpc)⟩
  | @outer j inner pc t pc' hj hstop =>
      have hy := h.shutdowns _ (List.mem_of_getElem? hj)
      have hhalted := (hy.outer _ rfl).2
      have ht := hstop.sound h (h.quit (Or.inl hhalted))
      obtain ⟨hgrows, hfits⟩ := hstop.grows
      rw [← hstop.main_eq.2]
      refine ht.setShutdown ⟨fun hne => hgrows.quit (hy.quit hne),
        fun q hq => hgrows.fits (hy.inner q hq), fun q hq => ?_, (by intro hq; cases hq),
        (by intro hq; cases hq)⟩
      cases hq
      exact ⟨hfits, hgrows.halted hhalted⟩
  | @broker c g hg =>
      have hlength := Guarded.length_callers_step hg
      have hgrows : Grows s { s with broker := g } :=
        ⟨fun h => h, fun h => h, Nat.le_of_eq hlength.symm⟩
      refine ⟨h.broker.step hg, h.halted, h.quit, fun hne => h.stopped fun hnil => hne ?_,
        fun y hy => hgrows.sound (h.shutdowns y hy),
        fun pc hpc => ⟨hgrows.fits (h.main pc hpc).1, (h.main pc hpc).2⟩,
        fun hmain => hgrows.ne_nil (h.awaiting hmain), h.doneCh, h.returned⟩
      rw [hnil] at hlength
      exact List.length_eq_zero_iff.mp hlength
  | listenerFails => exact h.closeListener
  | serve hserving =>
      have hgrows : Grows s { s with serving := false, doneCh := s.doneCh + 1 } :=
        .same rfl rfl rfl
      refine ⟨h.broker, h.halted, h.quit, h.stopped, fun y hy => hgrows.sound (h.shutdowns y hy),
        fun pc hpc => ⟨hgrows.fits (h.main pc hpc).1, (h.main pc hpc).2⟩, h.awaiting, ?_,
        fun _ => rfl⟩
      have hzero := h.doneCh
      rw [hserving, if_pos rfl] at hzero
      simp [hzero]
  | cancel =>
      exact h.closeListener.setMain (by intro _ hpc; cases hpc) (by intro hpc; cases hpc)
        (by intro hpc; cases hpc)
  | mainStop =>
      refine h.stop.setMain (fun pc hpc => ?_) (by intro hpc; cases hpc) (by intro hpc; cases hpc)
      cases hpc
      exact ⟨trivial, rfl⟩
  | mainAwait hmain =>
      exact h.setMain (by intro _ hpc; cases hpc) (fun _ => (h.main _ hmain).1)
        (by intro hpc; cases hpc)
  | @mainStopping pc t pc' hmain hstop =>
      have hhalted := (h.main pc hmain).2
      obtain ⟨hgrows, hfits⟩ := hstop.grows
      refine (hstop.sound h (h.quit (Or.inl hhalted))).setMain (fun q hq => ?_)
        (by intro hpc; cases hpc) (by intro hpc; cases hpc)
      cases hq
      exact ⟨hfits, hgrows.halted hhalted⟩
  | mainDone hmain hdone =>
      refine h.setMain (by intro _ hpc; cases hpc) (by intro hpc; cases hpc) (fun _ => ?_)
      cases hserving : s.serving with
      | false => rfl
      | true =>
          have hzero := h.doneCh
          rw [hserving, if_pos rfl] at hzero
          omega

/-! ### The plugin ends -/

/-- The steps that must happen, also when the handlers of applications run until their context is
    cancelled. -/
def settling (stopWaits : Bool) (s : GRPCShutdown) : Act → Option GRPCShutdown
  | .call _ | .abandon _ | .listenerFails | .cancel => none
  | .handler i => if (s.rpcs[i]?).any Handling.returns then step stopWaits s (.handler i) else none
  | a => step stopWaits s a

theorem step_of_settling {a : Act} (h : settling w s a = some s') : step w s a = some s' := by
  cases a with
  | call | abandon | listenerFails | cancel => cases h
  | handler i =>
      simp only [settling] at h
      split at h
      · exact h
      · cases h
  | inner | window | outer | broker | serve | main => exact h

def stepsLeft (s : GRPCShutdown) : Nat :=
  tally Handling.stepsLeft s.rpcs + tally ShutdownCall.stepsLeft s.shutdowns +
    s.broker.stepsLeft + s.serving.toNat + s.main.stepsLeft

theorem tally_map_cancel (l : List Handling) :
    tally Handling.stepsLeft (l.map Handling.cancel) = tally Handling.stepsLeft l := by
  have hcancel : ∀ x : Handling, x.cancel.stepsLeft = x.stepsLeft := by
    intro x
    obtain ⟨shutdown, pc⟩ := x
    cases pc <;> rfl
  induction l with
  | nil => rfl
  | cons x l ih => rw [List.map_cons, tally_cons, tally_cons, hcancel, ih]

theorem stepsLeft_stop (s : GRPCShutdown) : s.stop.stepsLeft = s.stepsLeft := by
  simp only [stepsLeft, GRPCShutdown.stop, tally_map_cancel]

theorem stepsLeft_setRPC {i : Nat} {x : Handling} (hi : s.rpcs[i]? = some x) (x' : Handling) :
    ({ s with rpcs := s.rpcs.set i x' } : GRPCShutdown).stepsLeft + x.stepsLeft =
      s.stepsLeft + x'.stepsLeft := by
  have := tally_set Handling.stepsLeft x' hi
  simp only [stepsLeft]
  omega

theorem stepsLeft_setShutdown {j : Nat} {y : ShutdownCall} (hj : s.shutdowns[j]? = some y)
    (y' : ShutdownCall) :
    ({ s with shutdowns := s.shutdowns.set j y' } : GRPCShutdown).stepsLeft + y.stepsLeft =
      s.stepsLeft + y'.stepsLeft := by
  have := tally_set ShutdownCall.stepsLeft y' hj
  simp only [stepsLeft]
  omega

theorem stepsLeft_setMain (s : GRPCShutdown) (main : GRPCMainPc) :
    ({ s with main := main } : GRPCShutdown).stepsLeft + s.main.stepsLeft =
      s.stepsLeft + main.stepsLeft := by
  simp only [stepsLeft]
  omega

/-- A stop call uses up steps, with the `closeBroker` call in it. -/
theorem StopNext.stepsLeft {pc pc' : StopPc} (h : StopNext w s pc s' pc') :
    pc'.stepsLeft + s'.stepsLeft < pc.stepsLeft + s.stepsLeft := by
  cases h with
  | stopped =>
      have := Guarded.stepsLeft_enter s.broker
      simp only [GRPCShutdown.stepsLeft, StopPc.stepsLeft]
      omega
  | closed =>
      simp only [StopPc.stepsLeft]
      omega

theorem stepsLeft_settling {a : Act} (h : settling w s a = some s') :
    s'.stepsLeft < s.stepsLeft := by
  have hnext := next_of_step (step_of_settling h)
  cases hnext with
  | call | abandon | listenerFails | cancel => cases h
  | @handled i shutdown pc hi hpc =>
      have := stepsLeft_setRPC hi ⟨shutdown, .returned false⟩
      rcases hpc with rfl | rfl <;> simp [Handling.stepsLeft, Handling.handled] at this <;> omega
  | @cut i shutdown hi =>
      have := stepsLeft_setRPC hi ⟨shutdown, .returned true⟩
      simp only [Handling.stepsLeft, Handling.handled] at this
      simp at this
      omega
  | @gracefulStop j outer hj =>
      have := stepsLeft_setShutdown (s := { s with quit := true }) hj ⟨outer, some .stopping⟩
      simp only [ShutdownCall.stepsLeft, Option.map_none, Option.map_some, Option.getD_none,
        Option.getD_some, StopPc.stepsLeft] at this
      simp only [stepsLeft] at this ⊢
      omega
  | @inner j outer pc t pc' hj hstop =>
      have hless := hstop.stepsLeft
      have hshutdowns := hstop.main_eq.2
      rw [← hshutdowns] at hj ⊢
      have := stepsLeft_setShutdown hj ⟨outer, some pc'⟩
      simp only [ShutdownCall.stepsLeft, Option.map_some, Option.getD_some] at this
      omega
  | @window j inner hj =>
      have hstop := stepsLeft_stop s
      have := stepsLeft_setShutdown (s := s.stop) hj ⟨.stopping .stopping, inner⟩
      simp only [ShutdownCall.stepsLeft, ShutdownPc.stepsLeft, StopPc.stepsLeft] at this
      dsimp only [GRPCShutdown.stop] at hstop this ⊢
      omega
  | @finish j outer hj houter =>
      have := stepsLeft_setShutdown hj ⟨.finished, some .returned⟩
      simp only [ShutdownCall.stepsLeft] at this
      rcases houter with rfl | rfl <;> simp only [ShutdownPc.stepsLeft] at this <;> omega
  | @await j inner hj =>
      have := stepsLeft_setShutdown hj ⟨.awaiting, inner⟩
      simp only [ShutdownCall.stepsLeft, ShutdownPc.stepsLeft, StopPc.stepsLeft] at this
      omega
  | @outer j inner pc t pc' hj hstop =>
      have hless := hstop.stepsLeft
      have hshutdowns := hstop.main_eq.2
      rw [← hshutdowns] at hj ⊢
      have := stepsLeft_setShutdown hj ⟨.stopping pc', inner⟩
      simp only [ShutdownCall.stepsLeft, ShutdownPc.stepsLeft] at this
      omega
  | broker hg =>
      have := Guarded.stepsLeft_step hg
      simp only [stepsLeft]
      omega
  | serve hserving =>
      simp only [stepsLeft, hserving]
      simp
  | mainStop hmain =>
      have hstop := stepsLeft_stop s
      have := stepsLeft_setMain s.stop (.stopping .stopping)
      have hmain' : s.stop.main = .cancelled := hmain
      simp only [hmain', GRPCMainPc.stepsLeft, StopPc.stepsLeft] at this
      dsimp only [GRPCShutdown.stop] at hstop this ⊢
      omega
  | mainAwait hmain =>
      have := stepsLeft_setMain s .awaiting
      simp only [hmain, GRPCMainPc.stepsLeft, StopPc.stepsLeft] at this
      omega
  | @mainStopping pc t pc' hmain hstop =>
      have hless := hstop.stepsLeft
      have := stepsLeft_setMain t (.stopping pc')
      simp only [hstop.main_eq.1, hmain, GRPCMainPc.stepsLeft] at this
      omega
  | mainDone hmain =>
      have := stepsLeft_setMain s .returned
      rcases hmain with hmain | hmain <;> simp only [hmain, GRPCMainPc.stepsLeft] at this <;>
        omega

/-- The plugin was asked to end, by a `Shutdown` call or by its context. -/
def Ending (s : GRPCShutdown) : Prop :=
  s.shutdowns ≠ [] ∨ s.main = .cancelled ∨ s.halted = true

theorem set_shutdowns_ne_nil {j : Nat} {y : ShutdownCall} (hj : s.shutdowns[j]? = some y)
    (y' : ShutdownCall) : s.shutdowns.set j y' ≠ [] := by
  have hlt := (List.getElem?_eq_some_iff.mp hj).1
  apply List.ne_nil_of_length_pos
  rw [List.length_set]
  omega

theorem Ending.next {a : Act} (h : Ending s) (hnext : Next w s a s') : Ending s' := by
  cases hnext with
  | @call shutdown =>
      rcases h with hne | hmain | hhalted
      · refine Or.inl ?_
        cases shutdown with
        | false => exact hne
        | true => simp
      · exact Or.inr (Or.inl hmain)
      · exact Or.inr (Or.inr hhalted)
  | abandon | handled | cut | broker | listenerFails | serve => exact h
  | gracefulStop hj | finish hj | await hj => exact Or.inl (set_shutdowns_ne_nil hj _)
  | window hj => exact Or.inl (set_shutdowns_ne_nil hj _)
  | inner hj hstop => exact Or.inl (set_shutdowns_ne_nil hj _)
  | outer hj hstop => exact Or.inl (set_shutdowns_ne_nil hj _)
  | cancel => exact Or.inr (Or.inl rfl)
  | mainStop => exact Or.inr (Or.inr rfl)
  | mainAwait hmain =>
      refine h.imp_right fun hor => Or.inr (hor.resolve_left ?_)
      rw [hmain]
      simp
  | @mainStopping pc t pc' hmain hstop =>
      have hhalted : t.halted = s.halted := by cases hstop <;> rfl
      rcases h with hne | hcancelled | htrue
      · exact Or.inl (by rw [← hstop.main_eq.2] at hne; exact hne)
      · rw [hmain] at hcancelled
        cases hcancelled
      · exact Or.inr (Or.inr (hhalted.trans htrue))
  | mainDone hmain =>
      refine h.imp_right fun hor => Or.inr (hor.resolve_left ?_)
      rcases hmain with hmain | hmain <;> rw [hmain] <;> simp

/-! ### What becomes of the calls -/

/-- Where the calls stand, and who has called `Stop`. -/
structure Calls (s : GRPCShutdown) : Prop where
  drained : s.stopped = true → s.halted = true ∨ s.drained = true
  uncut : s.halted = false → ∀ x ∈ s.rpcs, x.pc ≠ .cancelled ∧ x.pc ≠ .returned true
  origin : s.halted = true →
    s.shutdowns ≠ [] ∨ (∃ pc, s.main = .stopping pc) ∨ s.broker.callers ≠ []

theorem calls_init : Calls init where
  drained h := by cases h
  uncut _ _ h := by cases h
  origin h := by cases h

theorem drained_iff_handled : s.drained = true ↔ ∀ x ∈ s.rpcs, x.handled = true := by
  simp [GRPCShutdown.drained]

/-- A handler returns. -/
theorem Calls.setRPC (h : Calls s) {i : Nat} {x : Handling} (hx : x.handled = true)
    (hcut : s.halted = false → x.pc ≠ .returned true) :
    Calls { s with rpcs := s.rpcs.set i x } := by
  refine ⟨fun hstopped => (h.drained hstopped).imp_right fun hdrained => ?_,
    fun hhalted y hy => ?_, h.origin⟩
  · rw [drained_iff_handled] at hdrained ⊢
    intro y hy
    rcases List.mem_or_eq_of_mem_set hy with hold | rfl
    · exact hdrained y hold
    · exact hx
  · rcases List.mem_or_eq_of_mem_set hy with hold | rfl
    · exact h.uncut hhalted y hold
    · refine ⟨fun hpc => ?_, hcut hhalted⟩
      rw [Handling.handled, hpc] at hx
      cases hx

theorem Calls.stopNext {pc pc' : StopPc} (h : Calls s) (hstop : StopNext w s pc s' pc')
    (hdrained : w = false → s.halted = true) : Calls s' := by
  cases hstop with
  | stopped hwaits =>
      refine ⟨fun _ => ?_, h.uncut, fun hhalted => Or.inr (Or.inr (Guarded.enter_ne_nil _))⟩
      cases w with
      | false => exact Or.inl (hdrained rfl)
      | true => exact Or.inr (hwaits rfl)
  | closed => exact h

theorem Calls.next {a : Act} (h : Calls s) (hs : Sound s) (hnext : Next w s a s') : Calls s' := by
  cases hnext with
  | @call shutdown hhalted hstopped =>
      refine ⟨fun htrue => ?_, fun _ x hx => ?_, fun htrue => ?_⟩
      · rw [hstopped] at htrue
        cases htrue
      · rcases List.mem_append.mp hx with hold | hnew
        · exact h.uncut hhalted x hold
        · rw [List.mem_singleton.mp hnew]
          simp
      · rw [hhalted] at htrue
        cases htrue
  | abandon hi =>
      refine ⟨fun hstopped => (h.drained hstopped).imp_right fun hdrained => ?_,
        fun hhalted x hx => ?_, h.origin⟩
      · -- a handler still runs
        cases drained_iff_handled.mp hdrained _ (List.mem_of_getElem? hi)
      · rcases List.mem_or_eq_of_mem_set hx with hold | rfl
        · exact h.uncut hhalted x hold
        · simp
  | handled hi => exact h.setRPC rfl (by simp)
  | cut hi =>
      refine h.setRPC rfl fun hhalted => ?_
      exact absurd rfl (h.uncut hhalted _ (List.mem_of_getElem? hi)).1
  | gracefulStop hj => exact ⟨h.drained, h.uncut, fun _ => Or.inl (set_shutdowns_ne_nil hj _)⟩
  | inner hj hstop =>
      have ht := h.stopNext hstop (by simp)
      exact ⟨ht.drained, ht.uncut, fun _ => Or.inl (set_shutdowns_ne_nil hj _)⟩
  | window hj =>
      exact ⟨fun _ => Or.inl rfl, (by intro hfalse; cases hfalse),
        fun _ => Or.inl (set_shutdowns_ne_nil hj _)⟩
  | finish hj | await hj => exact ⟨h.drained, h.uncut, fun _ => Or.inl (set_shutdowns_ne_nil hj _)⟩
  | outer hj hstop =>
      have houter := (hs.shutdowns _ (List.mem_of_getElem? hj)).outer _ rfl
      have ht := h.stopNext hstop fun _ => houter.2
      exact ⟨ht.drained, ht.uncut, fun _ => Or.inl (set_shutdowns_ne_nil hj _)⟩
  | @broker c g hg =>
      refine ⟨h.drained, h.uncut, fun hhalted => ?_⟩
      refine (h.origin hhalted).imp_right (Or.imp_right fun hne hnil => hne ?_)
      have hlength := Guarded.length_callers_step hg
      rw [hnil] at hlength
      exact List.length_eq_zero_iff.mp hlength.symm
  | listenerFails | serve => exact ⟨h.drained, h.uncut, h.origin⟩
  | cancel hmain =>
      refine ⟨h.drained, h.uncut, fun hhalted => ?_⟩
      rcases h.origin hhalted with hne | ⟨pc, hpc⟩ | hne
      · exact Or.inl hne
      · rw [hmain] at hpc
        cases hpc
      · exact Or.inr (Or.inr hne)
  | mainStop hmain =>
      exact ⟨fun _ => Or.inl rfl, (by intro hfalse; cases hfalse),
        fun _ => Or.inr (Or.inl ⟨_, rfl⟩)⟩
  | mainAwait hmain =>
      exact ⟨h.drained, h.uncut, fun _ => Or.inr (Or.inr (hs.main _ hmain).1)⟩
  | mainStopping hmain hstop =>
      have ht := h.stopNext hstop fun _ => (hs.main _ hmain).2
      exact ⟨ht.drained, ht.uncut, fun _ => Or.inr (Or.inl ⟨_, rfl⟩)⟩
  | mainDone hmain =>
      refine ⟨h.drained, h.uncut, fun hhalted => ?_⟩
      rcases h.origin hhalted with hne | ⟨pc, hpc⟩ | hne
      · exact Or.inl hne
      · rcases hmain with hmain | hmain <;> rw [hmain] at hpc <;> cases hpc
      · exact Or.inr (Or.inr hne)

theorem sound_calls_of_exec {run : List Act} (hrun : exec (step w) init run = some s) :
    Sound s ∧ Calls s := by
  have hstep : ∀ (t : GRPCShutdown) a t', Sound t ∧ Calls t → step w t a = some t' →
      Sound t' ∧ Calls t' := by
    rintro t a t' ⟨ht, hcalls⟩ hs
    exact ⟨ht.next (next_of_step hs), hcalls.next ht (next_of_step hs)⟩
  exact exec_invariant_of_step hstep ⟨sound_init, calls_init⟩ hrun

/-! ### Nothing is left to do -/

section Stuck

variable (hstuck : ∀ a, settling w s a = none)

include hstuck

theorem callers_returned (h : Sound s) {pc : Pc} (hpc : pc ∈ s.broker.callers) :
    pc = .returned := by
  have hcalls : ∀ c, s.broker.step c = none := by
    intro c
    simpa [settling, step] using hstuck (.broker c)
  obtain ⟨c, hc⟩ := List.mem_iff_getElem?.mp hpc
  exact h.broker.all_returned hcalls hc

theorem drained_of_halted (h : Sound s) (hhalted : s.halted = true) : s.drained = true := by
  rw [drained_iff_handled]
  intro x hx
  obtain ⟨i, hi⟩ := List.mem_iff_getElem?.mp hx
  obtain ⟨shutdown, pc⟩ := x
  cases pc with
  | running => exact absurd rfl (h.halted hhalted _ hx)
  | abandoned | cancelled =>
      have hstep := hstuck (.handler i)
      simp [settling, step, handlerStep, hi, Handling.returns] at hstep
  | returned cut => rfl

/-- A stop call that has not returned could go on. -/
theorem stopNext_isSome (h : Sound s) (waits : Bool) {pc : StopPc} (hfits : s.Fits pc)
    (hdrained : waits = true → s.drained = true) (hpc : pc ≠ .returned) :
    ∃ x, stopNext waits s pc = some x := by
  cases pc with
  | stopping =>
      simp only [stopNext]
      cases waits with
      | false => exact ⟨_, rfl⟩
      | true =>
          rw [hdrained rfl]
          exact ⟨_, rfl⟩
  | closing c =>
      have hc : s.broker.callers[c]? = some .returned := by
        rw [List.getElem?_eq_getElem hfits,
          callers_returned hstuck h (List.getElem_mem hfits)]
      simp only [stopNext, hc]
      exact ⟨_, rfl⟩
  | returned => exact absurd rfl hpc

theorem shutdown_finished (h : Sound s) {y : ShutdownCall} (hy : y ∈ s.shutdowns) :
    y.outer = .finished := by
  obtain ⟨j, hj⟩ := List.mem_iff_getElem?.mp hy
  have hsound := h.shutdowns y hy
  obtain ⟨outer, inner⟩ := y
  -- `GracefulStop` was called, and it has returned where the calls are cancelled
  obtain ⟨pc, rfl⟩ : ∃ pc, inner = some pc := by
    cases inner with
    | some pc => exact ⟨pc, rfl⟩
    | none =>
        have hstep := hstuck (.inner j)
        simp [settling, step, innerStep, hj] at hstep
  have hreturned : s.halted = true → pc = .returned := by
    intro hhalted
    by_contra hpc
    obtain ⟨x, hx⟩ := stopNext_isSome hstuck h true (hsound.inner pc rfl)
      (fun _ => drained_of_halted hstuck h hhalted) hpc
    have hstep := hstuck (.inner j)
    simp [settling, step, innerStep, hj, hx] at hstep
  cases outer with
  | selecting =>
      have hstep := hstuck (.window j)
      simp [settling, step, windowStep, hj] at hstep
  | stopping q =>
      obtain ⟨hfits, hhalted⟩ := hsound.outer q rfl
      have hstep := hstuck (.outer j)
      cases hq : q with
      | returned =>
          rw [hq] at hj
          simp [settling, step, outerStep, hj] at hstep
      | stopping | closing =>
          obtain ⟨x, hx⟩ := stopNext_isSome hstuck h w hfits
            (fun _ => drained_of_halted hstuck h hhalted) (by simp [hq])
          rw [hq] at hj hx
          simp [settling, step, outerStep, hj, hx] at hstep
  | awaiting =>
      have hpc := hreturned (hsound.awaiting rfl)
      have hstep := hstuck (.outer j)
      rw [hpc] at hj
      simp [settling, step, outerStep, hj] at hstep
  | finished => rfl

theorem main_cases (h : Sound s) : s.main = .returned ∨
    ((s.main = .selecting ∨ s.main = .awaiting) ∧ s.doneCh = 0) := by
  have hstep := hstuck .main
  cases hmain : s.main with
  | selecting =>
      simp only [settling, step, mainStep, hmain] at hstep
      split at hstep
      · cases hstep
      · exact Or.inr ⟨Or.inl rfl, by omega⟩
  | awaiting =>
      simp only [settling, step, mainStep, hmain] at hstep
      split at hstep
      · cases hstep
      · exact Or.inr ⟨Or.inr rfl, by omega⟩
  | cancelled => simp [settling, step, mainStep, hmain] at hstep
  | stopping pc =>
      obtain ⟨hfits, hhalted⟩ := h.main pc hmain
      cases hpc : pc with
      | returned =>
          rw [hpc] at hmain
          simp [settling, step, mainStep, hmain] at hstep
      | stopping | closing =>
          obtain ⟨x, hx⟩ := stopNext_isSome hstuck h w hfits
            (fun _ => drained_of_halted hstuck h hhalted) (by simp [hpc])
          rw [hpc] at hmain hx
          simp [settling, step, mainStep, hmain, hx] at hstep
  | returned => exact Or.inl rfl

/-- Somebody has closed the broker. -/
theorem callers_ne_nil (h : Sound s) (hcalls : Calls s) (hending : Ending s) :
    s.broker.callers ≠ [] := by
  -- the `GracefulStop` call of a `Shutdown` call has returned
  have hshutdown : s.shutdowns ≠ [] → s.broker.callers ≠ [] := by
    intro hne
    obtain ⟨y, hy⟩ := List.exists_mem_of_ne_nil _ hne
    have hsound := h.shutdowns y hy
    exact hsound.inner _ (hsound.finished (shutdown_finished hstuck h hy))
  have hmain := main_cases hstuck h
  rcases hending with hne | hcancelled | hhalted
  · exact hshutdown hne
  · rw [hcancelled] at hmain
    simp at hmain
  · rcases hcalls.origin hhalted with hne | ⟨pc, hpc⟩ | hne
    · exact hshutdown hne
    · rw [hpc] at hmain
      simp at hmain
    · exact hne

theorem finished (h : Sound s) (hcalls : Calls s) (hending : Ending s) :
    s.main = .returned ∧ s.doneCh = 1 ∧ s.broker.closed = 1 ∧ s.drained = true ∧
      ∀ y ∈ s.shutdowns, y = ⟨.finished, some .returned⟩ := by
  have hne := callers_ne_nil hstuck h hcalls hending
  have hstopped := h.stopped hne
  have hserving : s.serving = false := by
    have hstep := hstuck .serve
    cases hserving : s.serving with
    | false => rfl
    | true =>
        have hquit := h.quit (Or.inr hstopped)
        simp [settling, step, serveEnds, hserving, hquit, hstopped] at hstep
  have hdone : s.doneCh = 1 := by rw [h.doneCh, hserving]; rfl
  refine ⟨?_, hdone, ?_, ?_, fun y hy => ?_⟩
  · rcases main_cases hstuck h with hmain | ⟨-, hzero⟩
    · exact hmain
    · omega
  · obtain ⟨pc, hpc⟩ := List.exists_mem_of_ne_nil _ hne
    obtain ⟨c, hc⟩ := List.mem_iff_getElem?.mp hpc
    rw [callers_returned hstuck h hpc] at hc
    exact h.broker.closed_of_returned hc
  · rcases hcalls.drained hstopped with hhalted | hdrained
    · exact drained_of_halted hstuck h hhalted
    · exact hdrained
  · have houter := shutdown_finished hstuck h hy
    have hinner := (h.shutdowns y hy).finished houter
    obtain ⟨outer, inner⟩ := y
    cases houter
    cases hinner
    rfl

end Stuck

/-- **A plugin that is asked to end does.**  In every run in which `Shutdown` was called, or the
    context was done, and whatever the handlers of applications do before their context is
    cancelled: from there the goroutines take a bounded number of steps, and when none is left,
    `Serve` has returned, `DoneCh` and the broker were closed once, all handlers have returned and
    no goroutine of a `Shutdown` call is left. -/
theorem shutdown_ends_serve (stopWaits : Bool) (run : List Act) {s : GRPCShutdown}
    (hrun : exec (step stopWaits) init run = some s) (hending : Ending s) (rest : List Act)
    {s' : GRPCShutdown} (hrest : exec (settling stopWaits) s rest = some s') :
    rest.length ≤ s.stepsLeft ∧
      ((∀ a, settling stopWaits s' a = none) →
        s'.main = .returned ∧ s'.doneCh = 1 ∧ s'.broker.closed = 1 ∧ s'.drained = true ∧
          ∀ y ∈ s'.shutdowns, y = ⟨.finished, some .returned⟩) := by
  have hstep : ∀ (t : GRPCShutdown) a t', (Sound t ∧ Calls t ∧ Ending t) →
      settling stopWaits t a = some t' →
      (Sound t' ∧ Calls t' ∧ Ending t') ∧ t'.stepsLeft < t.stepsLeft := by
    rintro t a t' ⟨ht, hcalls, hend⟩ hs
    have hnext := next_of_step (step_of_settling hs)
    exact ⟨⟨ht.next hnext, hcalls.next ht hnext, hend.next hnext⟩, stepsLeft_settling hs⟩
  obtain ⟨hs, hcalls⟩ := sound_calls_of_exec hrun
  have hall : Sound s ∧ Calls s ∧ Ending s := ⟨hs, hcalls, hending⟩
  refine ⟨?_, fun hstuck => ?_⟩
  · have := length_add_le_of_exec hstep hall hrest
    omega
  · obtain ⟨hs', hcalls', hend'⟩ :=
      exec_invariant_of_step (fun t a t' ht h => (hstep t a t' ht h).1) hall hrest
    exact finished hstuck hs' hcalls' hend'

theorem settling_eq_none (h : s.stepsLeft = 0) (a : Act) : settling w s a = none := by
  cases hs : settling w s a with
  | none => rfl
  | some s' =>
      have := stepsLeft_settling hs
      omega

/-- A call runs on when the host asks the plugin to end. -/
def shuttingDown : List Act := [.call false, .call true, .inner 0, .handler 1]

/-- The window ends, and the call with it. -/
def forced : List Act :=
  [.window 0, .outer 0, .broker 0, .broker 0, .handler 0, .broker 0, .inner 0, .broker 0,
    .broker 0, .outer 0, .outer 0, .serve, .broker 1, .broker 1, .broker 1, .inner 0, .outer 0,
    .main]

theorem shutdown_ends_serve_forced :
    ∃ s s', exec (step false) init shuttingDown = some s ∧
      exec (settling false) s forced = some s' ∧ forced.length ≤ s.stepsLeft ∧
      s'.main = .returned ∧ s'.doneCh = 1 ∧ s'.broker.closed = 1 ∧
      s'.rpcs = [⟨false, .returned true⟩, ⟨true, .returned false⟩] := by
  have hends := shutdown_ends_serve false shuttingDown rfl (Or.inl (by decide)) forced rfl
  obtain ⟨hmain, hdone, hclosed, -⟩ := hends.2 (settling_eq_none rfl)
  exact ⟨_, _, rfl, rfl, hends.1, hmain, hdone, hclosed, rfl⟩

/-! ### A plugin that drains in time -/

/-- Everything but the end of a drain window, a failing listener and the context's end. -/
def Act.drains : Act → Bool
  | .window _ | .listenerFails | .cancel => false
  | _ => true

structure Drains (s : GRPCShutdown) : Prop where
  halted : s.halted = false
  listening : s.listening = true
  main : s.main = .selecting ∨ s.main = .returned
  stopped : s.serving = false → s.stopped = true

theorem StopNext.drains {pc pc' : StopPc} (h : Drains s) (hstop : StopNext w s pc s' pc') :
    Drains s' := by
  cases hstop with
  | stopped => exact ⟨h.halted, h.listening, h.main, fun _ => rfl⟩
  | closed => exact h

theorem Drains.next {a : Act} (h : Drains s) (ha : a.drains = true) (hnext : Next w s a s') :
    Drains s' := by
  cases hnext with
  | call | abandon | handled | cut | gracefulStop | finish | await | broker =>
      exact ⟨h.halted, h.listening, h.main, h.stopped⟩
  | inner hj hstop =>
      have ht := hstop.drains h
      exact ⟨ht.halted, ht.listening, ht.main, ht.stopped⟩
  | outer hj hstop =>
      have ht := hstop.drains h
      exact ⟨ht.halted, ht.listening, ht.main, ht.stopped⟩
  | window | listenerFails | cancel => cases ha
  | serve hserving hquit hlistening =>
      refine ⟨h.halted, h.listening, h.main, fun _ => ?_⟩
      -- without a stop call the listener would have failed
      cases hq : s.quit with
      | true => exact hquit hq
      | false =>
          have hfalse := hlistening hq
          rw [h.listening] at hfalse
          cases hfalse
  | mainStop hmain | mainAwait hmain | mainStopping hmain =>
      have hcases := h.main
      rw [hmain] at hcases
      simp at hcases
  | mainDone => exact ⟨h.halted, h.listening, Or.inr rfl, h.stopped⟩

/-- **A plugin that drains in time cuts no call.**  In every run in which no drain window ends, the
    listener does not fail and the context is not done: no handler has its context cancelled unless
    the host has given up the call, and `DoneCh` is closed only after all handlers have returned. -/
theorem drain_loses_no_call (stopWaits : Bool) (run : List Act) (hdrains : ∀ a ∈ run, a.drains)
    {s : GRPCShutdown} (hrun : exec (step stopWaits) init run = some s) :
    (∀ x ∈ s.rpcs, x.pc ≠ .cancelled ∧ x.pc ≠ .returned true) ∧
      (0 < s.doneCh → ∀ x ∈ s.rpcs, x.pc = .returned false) := by
  have hstep : ∀ (t : GRPCShutdown) a t', Sound t ∧ Calls t ∧ Drains t → a.drains = true →
      step stopWaits t a = some t' → Sound t' ∧ Calls t' ∧ Drains t' := by
    rintro t a t' ⟨ht, hcalls, hd⟩ ha hs
    have hnext := next_of_step hs
    exact ⟨ht.next hnext, hcalls.next ht hnext, hd.next ha hnext⟩
  have hinit : Drains init := ⟨rfl, rfl, Or.inl rfl, (by intro h; cases h)⟩
  obtain ⟨hs, hcalls, hd⟩ := exec_invariant hstep ⟨sound_init, calls_init, hinit⟩
    (along_of_forall_mem hdrains init) hrun
  have huncut := hcalls.uncut hd.halted
  refine ⟨huncut, fun hdone x hx => ?_⟩
  have hserving : s.serving = false := by
    cases hserving : s.serving with
    | false => rfl
    | true =>
        have hzero := hs.doneCh
        rw [hserving, if_pos rfl] at hzero
        omega
  have hdrained : s.drained = true := by
    rcases hcalls.drained (hd.stopped hserving) with hhalted | hdrained
    · rw [hd.halted] at hhalted
      cases hhalted
    · exact hdrained
  have hhandled := drained_iff_handled.mp hdrained x hx
  obtain ⟨hncancelled, hncut⟩ := huncut x hx
  obtain ⟨shutdown, pc⟩ := x
  cases pc with
  | running | abandoned => cases hhandled
  | cancelled => exact absurd rfl hncancelled
  | returned cut =>
      cases cut with
      | false => rfl
      | true => exact absurd rfl hncut

/-- The calls return in time, and the host does not wait for one of them. -/
def drainedInTime : List Act :=
  [.call false, .call true, .call false, .inner 0, .handler 1, .abandon 2, .handler 0, .handler 2,
    .inner 0, .broker 0, .broker 0, .broker 0, .broker 0, .broker 0, .inner 0, .serve]

theorem drain_loses_no_call_inTime :
    ∃ s, exec (step true) init drainedInTime = some s ∧ s.doneCh = 1 ∧
      ∀ x ∈ s.rpcs, x.pc = .returned false :=
  ⟨_, rfl, rfl, (drain_loses_no_call true drainedInTime (by decide) rfl).2 (by decide)⟩

end GRPCShutdown

end GoPlugin
