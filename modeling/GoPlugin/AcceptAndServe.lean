import GoPlugin.LabelledSystem
import GoPlugin.RunGroup

/-!
# Serving on a brokered listener (`GRPCBroker.AcceptAndServe`)

`AcceptAndServe` serves on the listener of an id until the server fails or the broker is closed.  A
run group has two actors.  The first serves, and its interrupt is `GracefulStop`, which waits for
the handlers.  The second waits for `doneCh` of the broker or for `closeCh`, which its interrupt
closes.  The listener is closed when the group has returned.

`run.Group` and the two methods of `grpc.Server` are parameters, of which `ServeDeps.Sound` says
what is assumed.  The handlers are the application's, and `GracefulStop` does not cancel them.
`Accept` has given a listener.

The broker does not multiplex.  `GracefulStop` closes the listener and waits for the loop that
accepts connections from it, so it returns after the handlers only if `Accept` of the listener
returns when the listener is closed.  `blockedClientListener` is not such a listener: its `Close`
does nothing, and once it has its token, its `Accept` stands in `session.Accept`.
-/

namespace GoPlugin

open LabelledSystem Tally

/-- The server, and the channels of the second actor.  `rpcs` are the calls that have arrived, and
    whether their handlers have returned. -/
structure BrokeredServer where
  doneCh : Bool
  closeCh : Nat           -- how often it has been closed
  listening : Bool
  quit : Bool             -- `GracefulStop` was called
  stopped : Bool          -- it has returned
  rpcs : List Bool
deriving DecidableEq, Repr

namespace BrokeredServer

def init (doneCh : Bool) : BrokeredServer where
  doneCh := doneCh
  closeCh := 0
  listening := true
  quit := false
  stopped := false
  rpcs := []

inductive Act where
  | rpc
  | handler (i : Nat)
  | listenerFails
  | brokerCloses
deriving DecidableEq, Repr

def step (s : BrokeredServer) : Act → Option BrokeredServer
  | .rpc => if s.stopped then none else some { s with rpcs := s.rpcs ++ [false] }
  | .handler i =>
      if s.rpcs[i]? = some false then some { s with rpcs := s.rpcs.set i true } else none
  | .listenerFails => some { s with listening := false }
  | .brokerCloses => some { s with doneCh := true }

def drained (s : BrokeredServer) : Bool := s.rpcs.all id

/-- What the interrupts do. -/
def hears (s : BrokeredServer) : RunGroup.Event → BrokeredServer
  | .interrupts 0 => { s with quit := true, listening := false }
  | .interrupted 0 => { s with stopped := true }
  | .interrupts 1 => { s with closeCh := s.closeCh + 1 }
  | _ => s

end BrokeredServer

/-- `run.Group`, and whether `Serve` and `GracefulStop` of `grpc.Server` can return. -/
structure ServeDeps where
  group : List RunGroup.Event → RunGroup.Event → Bool
  serve : BrokeredServer → Bool
  gracefulStop : BrokeredServer → Bool

structure ServeDeps.Sound (deps : ServeDeps) : Prop where
  group : RunGroup.Conforms 2 deps.group
  /-- `GracefulStop` returns after all handlers have, -/
  waits : ∀ s, deps.gracefulStop s = true → s.drained = true
  /-- and then it does. -/
  drains : ∀ s, s.quit = true → s.drained = true → deps.gracefulStop s = true
  /-- `Serve` returns when the listener fails, -/
  fails : ∀ s, s.quit = false → s.listening = false → deps.serve s = true
  /-- and when `GracefulStop` has returned. -/
  stops : ∀ s, s.stopped = true → deps.serve s = true

/-- An `AcceptAndServe` call: the server, what has happened to the group, and whether the listener
    is closed and the call returns. -/
structure AcceptAndServe where
  server : BrokeredServer
  past : List RunGroup.Event
  closed : Bool
deriving DecidableEq, Repr

namespace AcceptAndServe

def init (doneCh : Bool) : AcceptAndServe := ⟨.init doneCh, [], false⟩

inductive Act where
  | server (a : BrokeredServer.Act)
  | group (e : RunGroup.Event)
  | close                           -- the deferred `ln.Close`
deriving DecidableEq, Repr

/-- The actors that can return. -/
def ends (deps : ServeDeps) (s : BrokeredServer) : Nat → Bool
  | 0 => deps.serve s
  | _ => s.doneCh || 0 < s.closeCh

/-- The interrupts that can return. -/
def relieved (deps : ServeDeps) (s : BrokeredServer) : Nat → Bool
  | 0 => deps.gracefulStop s
  | _ => true

/-- `g.Run()` can go on in this way. -/
def goesOn (deps : ServeDeps) (s : AcceptAndServe) : RunGroup.Event → Bool :=
  RunGroup.possible 2 deps.group (ends deps s.server) (relieved deps s.server) s.past

def step (deps : ServeDeps) (s : AcceptAndServe) : Act → Option AcceptAndServe
  | .server a => (s.server.step a).map fun t => { s with server := t }
  | .group e =>
      if goesOn deps s e then some { s with server := s.server.hears e, past := e :: s.past }
      else none
  | .close =>
      if .returns ∈ s.past ∧ s.closed = false then some { s with closed := true } else none

/-! ### What one step can do -/

/-- What the server does by itself. -/
inductive ServerNext (s : BrokeredServer) : BrokeredServer.Act → BrokeredServer → Prop where
  | rpc (h : s.stopped = false) : ServerNext s .rpc { s with rpcs := s.rpcs ++ [false] }
  | handler {i} (h : s.rpcs[i]? = some false) :
      ServerNext s (.handler i) { s with rpcs := s.rpcs.set i true }
  | listenerFails : ServerNext s .listenerFails { s with listening := false }
  | brokerCloses : ServerNext s .brokerCloses { s with doneCh := true }

theorem next_of_server {s s' : BrokeredServer} {a : BrokeredServer.Act}
    (h : s.step a = some s') : ServerNext s a s' := by
  cases a with
  | rpc =>
      simp only [BrokeredServer.step] at h
      split at h <;> cases h
      next hstopped => exact .rpc (Bool.not_eq_true _ ▸ hstopped)
  | handler i =>
      simp only [BrokeredServer.step] at h
      split at h <;> cases h
      next hi => exact .handler hi
  | listenerFails =>
      cases h
      exact .listenerFails
  | brokerCloses =>
      cases h
      exact .brokerCloses

inductive Next (deps : ServeDeps) (s : AcceptAndServe) : Act → AcceptAndServe → Prop where
  | server {a t} (h : ServerNext s.server a t) : Next deps s (.server a) { s with server := t }
  | group {e} (h : goesOn deps s e = true) :
      Next deps s (.group e) { s with server := s.server.hears e, past := e :: s.past }
  | close (hreturned : .returns ∈ s.past) (hopen : s.closed = false) :
      Next deps s .close { s with closed := true }

theorem next_of_step {deps : ServeDeps} {s s' : AcceptAndServe} {a : Act}
    (h : step deps s a = some s') : Next deps s a s' := by
  cases a with
  | server a =>
      obtain ⟨t, ht, rfl⟩ := Option.map_eq_some_iff.mp h
      exact .server (next_of_server ht)
  | group e =>
      simp only [step] at h
      split at h <;> cases h
      next he => exact .group he
  | close =>
      simp only [step] at h
      split at h <;> cases h
      next hreturned => exact .close hreturned.1 hreturned.2

/-! ### What holds all the time -/

/-- What the server shows of the past. -/
structure Shows (s : BrokeredServer) (past : List RunGroup.Event) : Prop where
  quit : s.quit = true ↔ .interrupts 0 ∈ past
  stopped : s.stopped = true ↔ .interrupted 0 ∈ past
  closeCh : s.closeCh = if .interrupts 1 ∈ past then 1 else 0
  drained : s.stopped = true → s.drained = true
  cause : (∃ j, .ended j ∈ past) → .ended 0 ∈ past ∨ s.doneCh = true

structure Held (s : AcceptAndServe) : Prop where
  sound : RunGroup.Sound 2 s.past
  shows : Shows s.server s.past
  closed : s.closed = true → .returns ∈ s.past

theorem held_init (doneCh : Bool) : Held (init doneCh) :=
  ⟨RunGroup.sound_nil 2, by constructor <;> simp [init, BrokeredServer.init], by simp [init]⟩

theorem Shows.server {s s' : BrokeredServer} {a : BrokeredServer.Act}
    {past : List RunGroup.Event} (h : Shows s past) (hnext : ServerNext s a s') :
    Shows s' past := by
  cases hnext with
  | rpc hstopped =>
      refine ⟨h.quit, h.stopped, h.closeCh, fun htrue => ?_, h.cause⟩
      exact Bool.noConfusion (hstopped.symm.trans htrue)
  | handler hi =>
      refine ⟨h.quit, h.stopped, h.closeCh, fun htrue => ?_, h.cause⟩
      -- nobody is left who could return
      have hall := h.drained htrue
      rw [BrokeredServer.drained, List.all_eq_true] at hall
      cases hall _ (List.mem_of_getElem? hi)
  | listenerFails => exact ⟨h.quit, h.stopped, h.closeCh, h.drained, h.cause⟩
  | brokerCloses => exact ⟨h.quit, h.stopped, h.closeCh, h.drained, fun _ => Or.inr rfl⟩

theorem Shows.cause_cons {s : BrokeredServer} {past : List RunGroup.Event} (h : Shows s past)
    {e : RunGroup.Event} (hne : ∀ j, e ≠ .ended j) (hended : ∃ j, .ended j ∈ e :: past) :
    .ended 0 ∈ e :: past ∨ s.doneCh = true := by
  obtain ⟨j, hj⟩ := hended
  rcases List.mem_cons.mp hj with heq | hold
  · exact absurd heq.symm (hne j)
  · exact (h.cause ⟨j, hold⟩).imp_left (List.mem_cons_of_mem e)

/-- The server does not hear of the event. -/
theorem Shows.unheard {s : BrokeredServer} {past : List RunGroup.Event} (h : Shows s past)
    {e : RunGroup.Event} (hquit : e ≠ .interrupts 0) (hstopped : e ≠ .interrupted 0)
    (hcloseCh : e ≠ .interrupts 1)
    (hcause : (∃ j, .ended j ∈ e :: past) → .ended 0 ∈ e :: past ∨ s.doneCh = true) :
    Shows s (e :: past) where
  quit := by simp [h.quit, hquit.symm]
  stopped := by simp [h.stopped, hstopped.symm]
  closeCh := by simp [h.closeCh, hcloseCh.symm]
  drained := h.drained
  cause := hcause

theorem Shows.group {deps : ServeDeps} (hdeps : deps.Sound) {s : AcceptAndServe}
    (h : Held s) {e : RunGroup.Event} (he : goesOn deps s e = true) :
    Shows (s.server.hears e) (e :: s.past) := by
  have hshows := h.shows
  cases e with
  | ended i =>
      refine hshows.unheard (by simp) (by simp) (by simp) fun _ => ?_
      cases i with
      | zero => exact Or.inl List.mem_cons_self
      | succ i =>
          have hends : s.server.doneCh = true ∨ 0 < s.server.closeCh := by
            simpa [ends] using (Bool.and_eq_true_iff.mp he).2
          rcases hends with hdone | hclose
          · exact Or.inr hdone
          · -- `closeCh` is closed after the first actor has returned
            have hcalled : .interrupts 1 ∈ s.past := by
              by_contra hnot
              rw [hshows.closeCh, if_neg hnot] at hclose
              exact Nat.lt_irrefl 0 hclose
            exact (hshows.cause (h.sound.first 1 hcalled)).imp_left (List.mem_cons_of_mem _)
  | interrupts i =>
      obtain ⟨hi, hnew, -⟩ := hdeps.group.interrupts he
      have hcause := hshows.cause_cons (e := .interrupts i) (by simp)
      obtain rfl | rfl : i = 0 ∨ i = 1 := by omega
      · exact ⟨by simp [BrokeredServer.hears], by simp [BrokeredServer.hears, hshows.stopped],
          by simp [BrokeredServer.hears, hshows.closeCh], hshows.drained, hcause⟩
      · exact ⟨by simp [BrokeredServer.hears, hshows.quit],
          by simp [BrokeredServer.hears, hshows.stopped],
          by simp [BrokeredServer.hears, hshows.closeCh, hnew], hshows.drained, hcause⟩
  | interrupted i =>
      have hcause := hshows.cause_cons (e := .interrupted i) (by simp)
      cases i with
      | zero =>
          have hrelieved : deps.gracefulStop s.server = true := (Bool.and_eq_true_iff.mp he).2
          have hdrained := hdeps.waits s.server hrelieved
          exact ⟨by simp [BrokeredServer.hears, hshows.quit], by simp [BrokeredServer.hears],
            by simp [BrokeredServer.hears, hshows.closeCh], fun _ => hdrained, hcause⟩
      | succ i => exact hshows.unheard (by simp) (by simp) (by simp) hcause
  | returns => exact hshows.unheard (by simp) (by simp) (by simp) (hshows.cause_cons (by simp))

theorem Held.next {deps : ServeDeps} (hdeps : deps.Sound) {s s' : AcceptAndServe} {a : Act}
    (h : Held s) (hnext : Next deps s a s') : Held s' := by
  cases hnext with
  | server hserver => exact ⟨h.sound, h.shows.server hserver, h.closed⟩
  | group he =>
      exact ⟨h.sound.next hdeps.group he, .group hdeps h he,
        fun hclosed => List.mem_cons_of_mem _ (h.closed hclosed)⟩
  | close hreturned => exact ⟨h.sound, h.shows, fun _ => hreturned⟩

/-! ### The call returns -/

/-- What the handlers, the group and the call have left to do. -/
def stepsLeft (s : AcceptAndServe) : Nat :=
  tally (fun b => if b then 0 else 1) s.server.rpcs + (7 - s.past.length) +
    if s.closed then 0 else 1

def Act.uses : Act → Nat
  | .server (.handler _) | .group _ | .close => 1
  | _ => 0

def Act.adds : Act → Nat
  | .server .rpc => 1
  | _ => 0

theorem rpcs_hears (s : BrokeredServer) (e : RunGroup.Event) : (s.hears e).rpcs = s.rpcs := by
  unfold BrokeredServer.hears
  split <;> rfl

theorem stepsLeft_next {deps : ServeDeps} (hdeps : deps.Sound) {s s' : AcceptAndServe} {a : Act}
    (h : Held s) (hnext : Next deps s a s') : s'.stepsLeft + a.uses ≤ s.stepsLeft + a.adds := by
  cases hnext with
  | server hserver =>
      cases hserver with
      | rpc =>
          simp only [stepsLeft, tally_append, tally_cons, tally_nil, Act.uses, Act.adds,
            Bool.false_eq_true, if_false]
          omega
      | handler hi =>
          have hset := tally_set (fun b => if b then 0 else 1) true hi
          simp only [if_true, Bool.false_eq_true, if_false] at hset
          simp only [stepsLeft, Act.uses, Act.adds]
          omega
      | listenerFails | brokerCloses => exact Nat.le_refl _
  | @group e he =>
      have hlength := (h.sound.next hdeps.group he).length_le
      rw [List.length_cons] at hlength
      simp only [stepsLeft, rpcs_hears, List.length_cons, Act.uses, Act.adds]
      omega
  | close hreturned hopen =>
      simp only [stepsLeft, hopen, Act.uses, Act.adds, if_true, Bool.false_eq_true, if_false]
      omega

/-- What happens sooner or later if it can; the handlers are taken to return. -/
def Act.due : Act → Bool
  | .server (.handler _) | .group _ | .close => true
  | .server .rpc | .server .listenerFails | .server .brokerCloses => false

def Resting (deps : ServeDeps) (s : AcceptAndServe) : Prop :=
  ∀ a, a.due = true → step deps s a = none

/-- All handlers have returned. -/
theorem Resting.drained {deps : ServeDeps} {s : AcceptAndServe} (h : Resting deps s) :
    s.server.drained = true := by
  rw [BrokeredServer.drained, List.all_eq_true]
  intro b hb
  obtain ⟨i, hi⟩ := List.mem_iff_getElem?.mp hb
  cases b with
  | true => rfl
  | false =>
      have hnone := h (.server (.handler i)) rfl
      simp [step, BrokeredServer.step, hi] at hnone

theorem Resting.goesOn_eq_false {deps : ServeDeps} {s : AcceptAndServe} (h : Resting deps s)
    (e : RunGroup.Event) : goesOn deps s e = false := by
  have hnone := h (.group e) rfl
  simp only [step] at hnone
  split at hnone
  · cases hnone
  · next he => exact Bool.not_eq_true _ ▸ he

theorem closed_of_resting {deps : ServeDeps} (hdeps : deps.Sound) {s : AcceptAndServe}
    (h : Held s) (hrest : Resting deps s)
    (hend : s.server.doneCh = true ∨ s.server.listening = false) : s.closed = true := by
  have hshows := h.shows
  have hreturned : .returns ∈ s.past := by
    rcases h.sound.waits hdeps.group hrest.goesOn_eq_false with
      hmem | ⟨hnone, hends⟩ | ⟨i, hcalled, hblocked⟩ | ⟨i, hi, hdone, hends⟩
    · exact hmem
    · -- one of the two actors can return
      have hquit : s.server.quit = false := by
        by_contra hne
        obtain ⟨j, hj⟩ := h.sound.first 0 (hshows.quit.mp (by simpa using hne))
        exact hnone j hj
      have hserve : deps.serve s.server = false := hends 0 (by decide)
      have hwait : s.server.doneCh = false ∧ s.server.closeCh = 0 := by
        simpa [ends] using hends 1 (by decide)
      rcases hend with hdone | hfails
      · exact Bool.noConfusion (hwait.1.symm.trans hdone)
      · exact Bool.noConfusion (hserve.symm.trans (hdeps.fails _ hquit hfails))
    · -- `GracefulStop` waits for nobody
      cases i with
      | zero =>
          have hstops := hdeps.drains _ (hshows.quit.mpr hcalled) hrest.drained
          exact Bool.noConfusion (hblocked.symm.trans hstops)
      | succ i => cases hblocked
    · -- the interrupt has returned
      obtain rfl | rfl : i = 0 ∨ i = 1 := by omega
      · have hserve := hdeps.stops _ (hshows.stopped.mpr hdone)
        exact Bool.noConfusion (hends.symm.trans hserve)
      · have hone := hshows.closeCh
        rw [if_pos (h.sound.called 1 hdone)] at hone
        simp [ends, hone] at hends
  by_contra hopen
  have hnone := hrest .close rfl
  simp [step, hreturned, hopen] at hnone

/-- **`AcceptAndServe` ends.**  In every run, whatever the order in which calls arrive, handlers
    return, the listener fails and the broker is closed: `GracefulStop` is called only if `Serve`
    has returned or the broker is closed.  A call that has returned has waited for every handler
    and for both of its goroutines, and has closed `closeCh` once.  From any point on it takes a
    bounded number of steps for the RPCs that there are and those that arrive.  And once the broker
    is closed or the listener has failed, it has returned when nothing that is due can happen any
    more. -/
theorem accept_and_serve_ends {deps : ServeDeps} (hdeps : deps.Sound) {doneCh : Bool}
    {run rest : List Act} {s s' : AcceptAndServe}
    (hrun : exec (step deps) (init doneCh) run = some s)
    (hrest : exec (step deps) s rest = some s') :
    (s'.server.quit = true → .ended 0 ∈ s'.past ∨ s'.server.doneCh = true) ∧
    (s'.closed = true → s'.server.drained = true ∧ (∀ i < 2, .ended i ∈ s'.past) ∧
      s'.server.closeCh = 1) ∧
    s'.stepsLeft + tally Act.uses rest ≤ s.stepsLeft + tally Act.adds rest ∧
    (Resting deps s' → (s'.server.doneCh = true ∨ s'.server.listening = false) →
      s'.closed = true) := by
  have hstep : ∀ t a t', Held t → step deps t a = some t' → Held t' :=
    fun _ _ _ ht hst => ht.next hdeps (next_of_step hst)
  have hheld := exec_invariant_of_step hstep (held_init doneCh) hrun
  have hheld' := exec_invariant_of_step hstep hheld hrest
  have hshows := hheld'.shows
  refine ⟨fun hquit => ?_, fun hclosed => ?_, ?_, closed_of_resting hdeps hheld'⟩
  · exact hshows.cause (hheld'.sound.first 0 (hshows.quit.mp hquit))
  · have hall := hheld'.sound.all (hheld'.closed hclosed)
    have hcalled := hheld'.sound.called 1 (hall 1 (by decide)).2
    refine ⟨hshows.drained (hshows.stopped.mpr (hall 0 (by decide)).2),
      fun i hi => (hall i hi).1, ?_⟩
    rw [hshows.closeCh, if_pos hcalled]
  · exact tally_add_le_of_invariant
      (fun t a t' ht hst => ⟨hstep t a t' ht hst, stepsLeft_next hdeps ht (next_of_step hst)⟩)
      hheld hrest

/-- A group that interrupts in order, and a server that stops as soon as it may. -/
def promptDeps : ServeDeps where
  group := RunGroup.inOrder 2
  serve s := s.stopped || (!s.quit && !s.listening)
  gracefulStop s := s.drained

theorem sound_promptDeps : promptDeps.Sound where
  group := RunGroup.conforms_inOrder 2
  waits _ h := h
  drains _ _ h := h
  fails _ hquit hfails := by simp [promptDeps, hquit, hfails]
  stops _ hstopped := by simp [promptDeps, hstopped]

/-- The broker is closed while an RPC is handled. -/
def closesWhileServing : List Act :=
  [.server .rpc, .server .brokerCloses, .group (.ended 1), .group (.interrupts 0),
    .server (.handler 0), .group (.interrupted 0), .group (.interrupts 1), .group (.ended 0),
    .group (.interrupted 1), .group .returns, .close]

theorem accept_and_serve_ends_closes :
    ∃ s', exec (step promptDeps) (init false) closesWhileServing = some s' ∧ s'.closed = true ∧
      s'.server.drained = true ∧ s'.server.closeCh = 1 := by
  obtain ⟨-, hclosed, -, -⟩ :=
    @accept_and_serve_ends promptDeps sound_promptDeps false [] closesWhileServing _ _ rfl rfl
  obtain ⟨hdrained, -, honce⟩ := hclosed rfl
  exact ⟨_, rfl, rfl, hdrained, honce⟩

end AcceptAndServe

end GoPlugin
