import GoPlugin.GRPCBroker
import GoPlugin.ServerListener

/-!
# What a failed `GRPCBroker.Accept` leaves

`Accept` opens a listener or, while multiplexing, enters its id into `serverStreams` and starts a
goroutine.  None of the steps after that undoes it when it fails.  So a failed call leaves nothing
exactly where it fails before it has acquired anything.
-/

namespace GoPlugin

open GoBody LabelledSystem

/-- The broker and the sockets of its process. -/
structure AcceptFrame where
  broker : GRPCBroker
  sockets : Sockets

/-- The broker's fields that `Accept` reads. -/
structure BrokerConfig where
  multiplexed : Bool      -- `muxer.Enabled()`
  group : ByteString      -- `unixSocketCfg.Group`
  translated : Bool       -- `addrTranslator` is not nil
deriving DecidableEq, Repr

/-- What comes of the calls in `Accept`. -/
structure AcceptOutcomes extends ListenOutcomes where
  addr : String × String                       -- network and address of the listener
  hostToPlugin : Option (String × String)
  send : Bool
  muxListener : Bool
deriving DecidableEq, Repr

inductive AcceptError where
  | listen (e : ListenError)
  | hostToPlugin
  | send
  | muxListener
deriving DecidableEq, Repr

/-- The listener that is returned: a socket, or the broker's `j`-th listener. -/
inductive Accepted where
  | socket (n : Nat)
  | muxed (j : Nat)
deriving DecidableEq, Repr

abbrev AcceptBody := Body AcceptFrame (Except AcceptError Accepted)

namespace AcceptBody

/-- Statements that are steps of the broker. -/
def brokerSteps (as : List GRPCBroker.Act) : AcceptBody Unit := do
  let s ← Body.read
  match exec GRPCBroker.step s.broker as with
  | some b => Body.update fun s => { s with broker := b }
  | none => .crash

/-- The address that is sent. -/
def advertise (cfg : BrokerConfig) (o : AcceptOutcomes) : AcceptBody (String × String) :=
  if cfg.translated then
    match o.hostToPlugin with
    | some translated => pure translated
    | none => .ret (.error .hostToPlugin)
  else pure o.addr

/-- `streamer.Send`. -/
def send (o : AcceptOutcomes) (info : ConnInfo) : AcceptBody Unit :=
  if o.send then
    Body.update fun s => { s with broker := { s.broker with out := s.broker.out ++ [⟨info, 0⟩] } }
  else .ret (.error .send)

/-- `Accept` while multiplexing: `getServerStream`, the goroutine and `muxer.Listener`. -/
def acceptMuxed (o : AcceptOutcomes) (id : UInt32) : AcceptBody (Except AcceptError Accepted) := do
  let s ← Body.read
  brokerSteps [.accept id, .listener s.broker.listeners.length .spawn,
    .listener s.broker.listeners.length (.register o.muxListener)]
  if o.muxListener then pure (.ok (.muxed s.broker.listeners.length))
  else .ret (.error .muxListener)

def openListener (cfg : BrokerConfig) (o : AcceptOutcomes) :
    AcceptBody (Except ListenError Nat) :=
  Body.within AcceptFrame.sockets (fun t s => { s with sockets := t })
    (Body.call (ListenerBody.serverListener o.toListenOutcomes cfg.group))

/-- The rest, with an open listener. -/
def announce (cfg : BrokerConfig) (o : AcceptOutcomes) (id : UInt32) (n : Nat) :
    AcceptBody (Except AcceptError Accepted) := do
  let advertised ← advertise cfg o
  send o ⟨id, advertised.1, advertised.2, none⟩
  pure (.ok (.socket n))

def acceptSocket (cfg : BrokerConfig) (o : AcceptOutcomes) (id : UInt32) :
    AcceptBody (Except AcceptError Accepted) := do
  let listener ← openListener cfg o
  match listener with
  | .error e => .ret (.error (.listen e))
  | .ok n => announce cfg o id n

/-- `Accept`. -/
def accept (cfg : BrokerConfig) (o : AcceptOutcomes) (id : UInt32) :
    AcceptBody (Except AcceptError Accepted) :=
  if cfg.multiplexed then acceptMuxed o id else acceptSocket cfg o id

/-- The call has left nothing: every listener that it opened is closed, `serverStreams` has no
    new entry for the id, and every goroutine that it started has returned. -/
structure LeavesNothing (id : UInt32) (s s' : AcceptFrame) : Prop where
  sockets : ∀ n : Nat, s.sockets.length ≤ n → ∀ socket, s'.sockets[n]? = some socket →
    socket.listening = false
  serverStreams : s.broker.serverStreams.entry id = none →
    s'.broker.serverStreams.entry id = none
  listens : ∀ i : Nat, s.broker.listens.length ≤ i → ∀ l, s'.broker.listens[i]? = some l →
    l.pc = .returned

theorem LeavesNothing.refl (id : UInt32) (s : AcceptFrame) : LeavesNothing id s s where
  sockets n hn socket hsocket := by
    rw [List.getElem?_eq_none hn] at hsocket
    cases hsocket
  serverStreams h := h
  listens i hi l hl := by
    rw [List.getElem?_eq_none hi] at hl
    cases hl

/-! ### Where a call fails -/

/-- While multiplexing, the entry is made and the goroutine started before `muxer.Listener` can
    fail. -/
theorem exec_accept {b : GRPCBroker} (hb : b.panicked = false) (id : UInt32) (ok : Bool) :
    exec GRPCBroker.step b [.accept id, .listener b.listeners.length .spawn,
        .listener b.listeners.length (.register ok)] =
      some { b with
        listeners := b.listeners ++
          [⟨id, b.serverStreams.slot id, if ok then .serving else .failed⟩]
        listens := b.listens ++ [⟨id, .starting⟩]
        serverStreams := b.serverStreams.fetch id } := by
  simp [exec, GRPCBroker.step, GRPCBroker.listenerStep, hb]

theorem exec_of_panicked {b : GRPCBroker} (hb : b.panicked = true) (a : GRPCBroker.Act)
    (as : List GRPCBroker.Act) : exec GRPCBroker.step b (a :: as) = none := by
  have hstep : b.step a = none := if_pos hb
  rw [exec, hstep]
  rfl

theorem listens_of_acceptMuxed {o : AcceptOutcomes} {id : UInt32} {s s' : AcceptFrame}
    {r : Except AcceptError Accepted} (h : acceptMuxed o id s = (.ret r, s')) :
    s'.broker.listens = s.broker.listens ++ [⟨id, .starting⟩] := by
  have hsteps : ∀ as : List GRPCBroker.Act, brokerSteps as s =
      match exec GRPCBroker.step s.broker as with
      | some b => (.next (), { s with broker := b })
      | none => (.panic, s) := by
    intro as
    unfold brokerSteps
    rw [Body.read_bind_apply]
    cases exec GRPCBroker.step s.broker as <;> rfl
  unfold acceptMuxed at h
  rw [Body.read_bind_apply] at h
  cases hpanicked : s.broker.panicked with
  | true =>
      rw [Body.bind_of_panic (by rw [hsteps, exec_of_panicked hpanicked])] at h
      cases h
  | false =>
      rw [Body.bind_of_next (by rw [hsteps, exec_accept hpanicked])] at h
      split at h <;> cases h
      rfl

theorem openListener_apply (cfg : BrokerConfig) (o : AcceptOutcomes) (s : AcceptFrame) :
    (o.opens = false ∧ ∃ e, openListener cfg o s = (.next (.error e), s)) ∨
      (o.opens = true ∧ ∃ r, openListener cfg o s =
        (.next r, { s with sockets := s.sockets ++ [o.opened] })) := by
  have hlisten := ListenerBody.within_serverListener (ρ := Except AcceptError Accepted)
    AcceptFrame.sockets (fun t s => { s with sockets := t }) o.toListenOutcomes cfg.group s
  rcases hlisten with ⟨hopens, e, hrun⟩ | ⟨hopens, hgroup, hrun⟩ | ⟨hopens, hgroup, hrun⟩
  · exact Or.inl ⟨hopens, e, hrun⟩
  · exact Or.inr ⟨hopens, _, hrun⟩
  · exact Or.inr ⟨hopens, _, hrun⟩

/-- The address and the message fail without an effect. -/
theorem eq_of_announce {cfg : BrokerConfig} {o : AcceptOutcomes} {id : UInt32} {n : Nat}
    {s s' : AcceptFrame} {r : Except AcceptError Accepted}
    (h : announce cfg o id n s = (.ret r, s')) : s' = s := by
  have hsend : ∀ info : ConnInfo,
      (send o info >>= fun _ => pure (Except.ok (.socket n)) :
        AcceptBody (Except AcceptError Accepted)) s = (.ret r, s') →
        s' = s := by
    intro info hsend
    unfold send at hsend
    cases hok : o.send with
    | true =>
        rw [hok] at hsend
        cases hsend
    | false =>
        rw [hok] at hsend
        cases hsend
        rfl
  unfold announce advertise at h
  cases htranslator : cfg.translated with
  | false =>
      rw [htranslator] at h
      exact hsend _ h
  | true =>
      rw [htranslator] at h
      cases htranslated : o.hostToPlugin with
      | none =>
          rw [htranslated] at h
          cases h
          rfl
      | some translated =>
          rw [htranslated] at h
          exact hsend _ h

/-- Without multiplexing, a call that fails has opened a socket or done nothing. -/
theorem sockets_of_acceptSocket {cfg : BrokerConfig} {o : AcceptOutcomes} {id : UInt32}
    {s s' : AcceptFrame} {r : Except AcceptError Accepted}
    (h : acceptSocket cfg o id s = (.ret r, s')) :
    (o.opens = false ∧ s' = s) ∨
      (o.opens = true ∧ s' = { s with sockets := s.sockets ++ [o.opened] }) := by
  unfold acceptSocket at h
  rcases openListener_apply cfg o s with ⟨hopens, e, hlisten⟩ | ⟨hopens, listener, hlisten⟩
  · rw [Body.bind_of_next hlisten] at h
    cases h
    exact Or.inl ⟨hopens, rfl⟩
  · rw [Body.bind_of_next hlisten] at h
    refine Or.inr ⟨hopens, ?_⟩
    cases listener with
    | error e =>
        cases h
        rfl
    | ok n => exact eq_of_announce h

/-- **What a failed `Accept` leaves.**  It leaves nothing open if and only if the broker does not
    multiplex and the call failed before it had a socket. -/
theorem failed_accept_leaves_nothing_iff (cfg : BrokerConfig) (o : AcceptOutcomes) (id : UInt32)
    {s s' : AcceptFrame} {e : AcceptError} (h : accept cfg o id s = (.ret (.error e), s')) :
    LeavesNothing id s s' ↔ cfg.multiplexed = false ∧ o.opens = false := by
  unfold accept at h
  split at h
  · next hmux =>
      have hlistens := listens_of_acceptMuxed h
      constructor
      · intro hnothing
        have hpc := hnothing.listens s.broker.listens.length (Nat.le_refl _) ⟨id, .starting⟩
          (by rw [hlistens, List.getElem?_concat_length])
        cases hpc
      · rintro ⟨hmux', -⟩
        rw [hmux] at hmux'
        cases hmux'
  · next hmux =>
      rw [Bool.not_eq_true] at hmux
      rcases sockets_of_acceptSocket h with ⟨hopens, rfl⟩ | ⟨hopens, rfl⟩
      · exact iff_of_true (.refl id _) ⟨hmux, hopens⟩
      · constructor
        · intro hnothing
          have hclosed := hnothing.sockets s.sockets.length (Nat.le_refl _) o.opened
            (List.getElem?_concat_length)
          cases hclosed
        · rintro ⟨-, hopens'⟩
          rw [hopens] at hopens'
          cases hopens'

/-- A broker for a runner that translates addresses, and calls that all succeed. -/
def translating : BrokerConfig := ⟨false, [], true⟩

def accepting : AcceptOutcomes where
  windows := false
  listenTCP := true
  createTemp := true
  closeTemp := true
  removeTemp := true
  listen := true
  setGroup := true
  addr := ("unix", "/tmp/plugin1")
  hostToPlugin := some ("unix", "/run/plugin1")
  send := true
  muxListener := true

theorem failed_accept_leaves_nothing_listen :
    ∃ s', accept translating { accepting with listen := false } 5 ⟨.init, []⟩ =
        (.ret (.error (.listen .listen)), s') ∧ LeavesNothing 5 ⟨.init, []⟩ s' :=
  ⟨_, rfl, (failed_accept_leaves_nothing_iff translating { accepting with listen := false } 5
    rfl).mpr (by decide)⟩

/-- The socket stays open where the group cannot be set, where `HostToPlugin` fails and where
    `Send` fails; and while multiplexing, where `muxer.Listener` fails, the entry and the
    goroutine stay. -/
theorem failed_accept_leaves_resources :
    (accept ⟨false, [115], false⟩ { accepting with setGroup := false } 5 ⟨.init, []⟩).2.sockets =
        [⟨true, true⟩] ∧
      (accept translating { accepting with hostToPlugin := none } 5 ⟨.init, []⟩).2.sockets =
        [⟨true, true⟩] ∧
      (accept translating { accepting with send := false } 5 ⟨.init, []⟩).2.sockets =
        [⟨true, true⟩] ∧
      ∃ s', accept ⟨true, [], false⟩ { accepting with muxListener := false } 5 ⟨.init, []⟩ =
          (.ret (.error .muxListener), s') ∧
        s'.broker.serverStreams.entry 5 = some 0 ∧ s'.broker.listens = [⟨5, .starting⟩] :=
  ⟨rfl, rfl, rfl, _, rfl, rfl, rfl⟩

end AcceptBody

end GoPlugin
