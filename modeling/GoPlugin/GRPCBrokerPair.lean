import GoPlugin.GRPCBrokerOrder
import GoPlugin.Sides
import GoPlugin.Streamer

/-!
# Two gRPC brokers without multiplexing

`Accept(id)` opens a listener and sends its address to the peer, whose `Dial(id)` waits for it.
On its way the message passes the sender goroutine, the stream, the receiving half of
`StartStream`, the `Run` loop and the entry for the id.

What is assumed of the stream: what `stream.Send` took without an error arrives once and in
order, until the stream ends, which it may at any time; what it did not take does not arrive.
A stream is opened once.  The address translator is a function of the address.
-/

namespace GoPlugin

open Tally PendingTable LabelledSystem

/-! ### Addresses -/

structure NetAddr where
  network : String
  address : String
deriving DecidableEq, Repr

/-- `runner.AddrTranslator`. -/
structure AddrTranslator where
  pluginToHost : NetAddr → Except String NetAddr
  hostToPlugin : NetAddr → Except String NetAddr

/-- The translator that a broker is made with: the host's is the runner, if there is one, and the
    plugin has none. -/
def translator (tr : Option AddrTranslator) : Side → Option AddrTranslator
  | .host => tr
  | .plugin => none

/-- The address that `Accept` sends for its listener. -/
def advertise (t : Option AddrTranslator) (listener : NetAddr) : Except String NetAddr :=
  match t with
  | some t => t.hostToPlugin listener
  | none => .ok listener

inductive DialError where
  | translate (error : String)
  | unknownType (address : String)
  | resolve (error : String)
deriving DecidableEq, Repr

/-- The address that `DialWithOptions` dials when it has received `c`.  `resolve` is
    `net.ResolveTCPAddr` or `net.ResolveUnixAddr`, by the network. -/
def dialAddr {ρ : Type} (t : Option AddrTranslator) (resolve : NetAddr → Except String ρ)
    (c : ConnInfo) : Except DialError ρ :=
  let translated :=
    match t with
    | some t => t.pluginToHost ⟨c.network, c.address⟩
    | none => .ok ⟨c.network, c.address⟩
  match translated with
  | .error e => .error (.translate e)
  | .ok a =>
      if a.network = "tcp" ∨ a.network = "unix" then
        match resolve a with
        | .ok r => .ok r
        | .error e => .error (.resolve e)
      else .error (.unknownType c.address)

/-- The address of a listener of `accepter`, passed once through the host's translator. -/
def translateOnce (tr : Option AddrTranslator) (accepter : Side) (listener : NetAddr) :
    Except String NetAddr :=
  match tr, accepter with
  | none, _ => .ok listener
  | some t, .host => t.hostToPlugin listener
  | some t, .plugin => t.pluginToHost listener

/-- One side advertises and the other dials, and one of them translates. -/
theorem dialAddr_of_advertise {ρ : Type} {tr : Option AddrTranslator} {accepter : Side}
    {listener a : NetAddr} (h : advertise (translator tr accepter) listener = .ok a)
    {resolve : NetAddr → Except String ρ} {id : UInt32} {knock : Option Knock} {r : ρ}
    (hr : dialAddr (translator tr accepter.peer) resolve ⟨id, a.network, a.address, knock⟩ =
      .ok r) :
    ∃ b, translateOnce tr accepter listener = .ok b ∧ resolve b = .ok r := by
  -- what is resolved without an error gives the address
  have hdial : ∀ {t : Except String NetAddr},
      (match t with
        | .error e => Except.error (DialError.translate e)
        | .ok b =>
            if b.network = "tcp" ∨ b.network = "unix" then
              match resolve b with
              | .ok r => .ok r
              | .error e => .error (.resolve e)
            else .error (.unknownType a.address)) = .ok r → ∃ b, t = .ok b ∧ resolve b = .ok r := by
    intro t ht
    split at ht
    · cases ht
    · next b =>
        split at ht
        · split at ht <;> cases ht
          exact ⟨b, rfl, ‹_›⟩
        · cases ht
  obtain ⟨b, hb, hresolve⟩ := hdial hr
  refine ⟨b, ?_, hresolve⟩
  cases accepter with
  | host =>
      cases hb
      cases tr with
      | none => exact h
      | some t => exact h
  | plugin =>
      cases h
      cases tr with
      | none => exact hb
      | some t => exact hb

/-! ### The model -/

namespace GRPCPair

/-- Where an `Accept` call stands.  `c` is its `Send` call. -/
inductive AcceptPc where
  | translating            -- has a listener, before `HostToPlugin` and `Send`
  | sending (c : Nat)
  | returned (c : Nat)
  | failed (c : Option Nat)
deriving DecidableEq, Repr

def AcceptPc.send : AcceptPc → Option Nat
  | .translating => none
  | .sending c | .returned c => some c
  | .failed c => c

structure AcceptCall where
  id : UInt32
  listener : NetAddr
  pc : AcceptPc
deriving DecidableEq, Repr

/-- Where the receiving half of `StartStream` stands. -/
inductive ReceiverPc where
  | receiving              -- in `stream.Recv`
  | offering (m : Letter)  -- in the select that hands `m` to `Recv`
  | returned
deriving DecidableEq, Repr

/-- A broker and its streamer.  `received` counts how much of the peer's record of `stream.Send`
    has arrived or is lost; a message is numbered by its place there. -/
structure BrokerEnd where
  broker : GRPCBroker
  streamer : Streamer ConnInfo
  receiver : ReceiverPc
  received : Nat
  accepts : List AcceptCall

def BrokerEnd.init : BrokerEnd where
  broker := .init
  streamer := .new
  receiver := .receiving
  received := 0
  accepts := []

def init : Both BrokerEnd := ⟨.init, .init⟩

/-- What happens in one process. -/
inductive EndAct where
  | accept (id : UInt32) (listener : Option NetAddr)   -- `Accept(id)`, up to `serverListener`
  | translate (j : Nat)                                -- up to its `Send`
  | finish (j : Nat)                                   -- `Send` has returned
  | stream (a : Streamer.Act ConnInfo)
  | receive                                            -- `stream.Recv` returns a message
  | lose                                               -- what was not taken does not arrive
  | receiveEnd                                         -- `stream.Recv` fails
  | deliver                                            -- `Run` receives
  | drop                                               -- the stream is over instead
  | broker (a : GRPCBroker.Act)
deriving DecidableEq, Repr

structure Act where
  side : Side
  act : EndAct
deriving DecidableEq, Repr

/-- Everything but `Send`, which `Accept` calls; `StartStream` is called once. -/
def streamPermits (s : Streamer ConnInfo) : Streamer.Act ConnInfo → Bool
  | .send _ => false
  | .startStream => s.senders.isEmpty
  | _ => true

/-- The `Dial` calls, the `timeoutWait` goroutines and what `Run` does with a message.  `Recv`
    fails, and `Run` stops, when the streamer has been closed. -/
def brokerPermits (quit : Bool) : GRPCBroker.Act → Bool
  | .dial _ | .call _ _ | .wait _ _ | .run .lookup | .run .offer | .run .spawn => true
  | .run .stop => quit
  | _ => false

/-- `peer` is the streamer at the other end. -/
def endStep (t : Option AddrTranslator) (peer : Streamer ConnInfo) (e : BrokerEnd) :
    EndAct → Option BrokerEnd
  | .accept _ none => some e
  | .accept id (some a) => some { e with accepts := e.accepts ++ [⟨id, a, .translating⟩] }
  | .translate j =>
      match e.accepts[j]? with
      | some ⟨id, listener, .translating⟩ =>
          match advertise t listener with
          | .error _ => some { e with accepts := e.accepts.set j ⟨id, listener, .failed none⟩ }
          | .ok a =>
              (e.streamer.step (.send ⟨id, a.network, a.address, none⟩)).map fun s =>
                { e with
                  streamer := s
                  accepts := e.accepts.set j ⟨id, listener, .sending e.streamer.sends.length⟩ }
      | _ => none
  | .finish j =>
      match e.accepts[j]? with
      | some ⟨id, listener, .sending c⟩ =>
          match (e.streamer.sends[c]?).map SendCall.pc with
          | some (.returned true) =>
              some { e with accepts := e.accepts.set j ⟨id, listener, .returned c⟩ }
          | some (.returned false) | some .closed =>
              some { e with accepts := e.accepts.set j ⟨id, listener, .failed (some c)⟩ }
          | _ => none
      | _ => none
  | .stream a =>
      if streamPermits e.streamer a then
        (e.streamer.step a).map fun s => { e with streamer := s }
      else none
  | .receive =>
      match e.receiver, peer.sent[e.received]? with
      | .receiving, some (c, true) =>
          (peer.sends[c]?).map fun x =>
            { e with
              receiver := .offering ⟨x.msg, e.received⟩
              received := e.received + 1 }
      | _, _ => none
  | .lose =>
      match peer.sent[e.received]? with
      | some (_, false) => some { e with received := e.received + 1 }
      | _ => none
  | .receiveEnd =>
      match e.receiver with
      | .receiving =>
          (e.streamer.step .close).map fun s => { e with streamer := s, receiver := .returned }
      | _ => none
  | .deliver =>
      match e.receiver with
      | .offering m =>
          (e.broker.step (.run (.recv m))).map fun b =>
            { e with broker := b, receiver := .receiving }
      | _ => none
  | .drop =>
      match e.receiver with
      | .offering _ =>
          (e.streamer.step .close).map fun s => { e with streamer := s, receiver := .returned }
      | _ => none
  | .broker a =>
      if brokerPermits e.streamer.quit a then
        (e.broker.step a).map fun b => { e with broker := b }
      else none

/-- A process that has crashed does nothing more. -/
def step (tr : Option AddrTranslator) (s : Both BrokerEnd) (a : Act) : Option (Both BrokerEnd) :=
  if (s.get a.side).broker.panicked || (s.get a.side).streamer.panicked then none
  else
    (endStep (translator tr a.side) (s.get a.side.peer).streamer (s.get a.side) a.act).map
      (s.set a.side)

/-! ### What one step can do -/

inductive EndMove (t : Option AddrTranslator) (peer : Streamer ConnInfo) (e : BrokerEnd) :
    BrokerEnd → Prop where
  | accept {id a} :
      EndMove t peer e { e with accepts := e.accepts ++ [⟨id, a, .translating⟩] }
  | refuse {j id listener} (hj : e.accepts[j]? = some ⟨id, listener, .translating⟩) :
      EndMove t peer e { e with accepts := e.accepts.set j ⟨id, listener, .failed none⟩ }
  | send {j id listener a s} (hj : e.accepts[j]? = some ⟨id, listener, .translating⟩)
      (ha : advertise t listener = .ok a)
      (hs : e.streamer.Move (.send ⟨id, a.network, a.address, none⟩) s) :
      EndMove t peer e
        { e with
          streamer := s
          accepts := e.accepts.set j ⟨id, listener, .sending e.streamer.sends.length⟩ }
  | finish {j id listener c pc} (hj : e.accepts[j]? = some ⟨id, listener, .sending c⟩)
      (hpc : pc = .returned c ∨ pc = .failed (some c)) :
      EndMove t peer e { e with accepts := e.accepts.set j ⟨id, listener, pc⟩ }
  | stream {a s receiver} (ha : ∀ msg, a ≠ .send msg) (hs : e.streamer.Move a s)
      (hreceiver : receiver = e.receiver ∨ receiver = .returned) :
      EndMove t peer e { e with streamer := s, receiver := receiver }
  | receive {c x} (hsent : peer.sent[e.received]? = some (c, true))
      (hx : peer.sends[c]? = some x) :
      EndMove t peer e
        { e with receiver := .offering ⟨x.msg, e.received⟩, received := e.received + 1 }
  | lose : EndMove t peer e { e with received := e.received + 1 }
  | deliver {m b} (hreceiver : e.receiver = .offering m)
      (hb : e.broker.Move (.run (.recv m)) b) :
      EndMove t peer e { e with broker := b, receiver := .receiving }
  | broker {a b} (ha : ∀ m, a ≠ .run (.recv m)) (hb : e.broker.Move a b) :
      EndMove t peer e { e with broker := b }

theorem endMove_of_endStep {t : Option AddrTranslator} {peer : Streamer ConnInfo}
    {e e' : BrokerEnd} {a : EndAct} (h : endStep t peer e a = some e') :
    e' = e ∨ EndMove t peer e e' := by
  cases a with
  | accept id listener =>
      cases listener with
      | none =>
          cases h
          exact Or.inl rfl
      | some a =>
          cases h
          exact Or.inr .accept
  | translate j =>
      simp only [endStep] at h
      split at h
      · split at h
        · cases h
          exact Or.inr (.refuse ‹_›)
        · obtain ⟨s, hs, rfl⟩ := Option.map_eq_some_iff.mp h
          exact Or.inr (.send ‹_› ‹_› (Streamer.move_of_step hs))
      · cases h
  | finish j =>
      simp only [endStep] at h
      split at h
      · split at h <;> cases h
        · exact Or.inr (.finish ‹_› (Or.inl rfl))
        · exact Or.inr (.finish ‹_› (Or.inr rfl))
        · exact Or.inr (.finish ‹_› (Or.inr rfl))
      · cases h
  | stream a =>
      simp only [endStep] at h
      split at h
      · next hpermits =>
          obtain ⟨s, hs, rfl⟩ := Option.map_eq_some_iff.mp h
          refine Or.inr (.stream ?_ (Streamer.move_of_step hs) (Or.inl rfl))
          rintro msg rfl
          cases hpermits
      · cases h
  | receive =>
      simp only [endStep] at h
      split at h
      · obtain ⟨x, hx, rfl⟩ := Option.map_eq_some_iff.mp h
        exact Or.inr (.receive ‹_› hx)
      · cases h
  | lose =>
      simp only [endStep] at h
      split at h <;> cases h
      exact Or.inr .lose
  | receiveEnd | drop =>
      simp only [endStep] at h
      split at h
      · obtain ⟨s, hs, rfl⟩ := Option.map_eq_some_iff.mp h
        exact Or.inr (.stream (by simp) (Streamer.move_of_step hs) (Or.inr rfl))
      · cases h
  | deliver =>
      simp only [endStep] at h
      split at h
      · obtain ⟨b, hb, rfl⟩ := Option.map_eq_some_iff.mp h
        exact Or.inr (.deliver ‹_› (GRPCBroker.move_of_step hb).2)
      · cases h
  | broker a =>
      simp only [endStep] at h
      split at h
      · next hpermits =>
          obtain ⟨b, hb, rfl⟩ := Option.map_eq_some_iff.mp h
          refine Or.inr (.broker ?_ (GRPCBroker.move_of_step hb).2)
          rintro m rfl
          cases hpermits
      · cases h

section Parts

variable {t : Option AddrTranslator} {peer : Streamer ConnInfo} {e e' : BrokerEnd}

theorem EndMove.streamer (h : EndMove t peer e e') :
    e'.streamer = e.streamer ∨ ∃ a, e.streamer.Move a e'.streamer := by
  cases h with
  | send _ _ hs | stream _ hs => exact Or.inr ⟨_, hs⟩
  | _ => exact Or.inl rfl

theorem EndMove.broker_eq (h : EndMove t peer e e') :
    e'.broker = e.broker ∨ ∃ a, e.broker.Move a e'.broker := by
  cases h with
  | deliver _ hb | broker _ hb => exact Or.inr ⟨_, hb⟩
  | _ => exact Or.inl rfl

end Parts

/-! ### What is sent comes from `Accept` calls -/

/-- Every `Send` call is made by one `Accept` call, for its id and the address of its listener. -/
structure Offered (t : Option AddrTranslator) (e : BrokerEnd) : Prop where
  known : e.streamer.Known
  offered : ∀ (j : Nat) c k, e.accepts[j]? = some c → c.pc.send = some k →
    ∃ x a, e.streamer.sends[k]? = some x ∧ advertise t c.listener = .ok a ∧
      x.msg = ⟨c.id, a.network, a.address, none⟩
  source : ∀ (k : Nat) x, e.streamer.sends[k]? = some x →
    ∃ (j : Nat) (c : AcceptCall), e.accepts[j]? = some c ∧ c.pc.send = some k
  unique : ∀ (i j : Nat) c c' k, e.accepts[i]? = some c → e.accepts[j]? = some c' →
    c.pc.send = some k → c'.pc.send = some k → i = j

theorem offered_init (t : Option AddrTranslator) : Offered t .init := by
  constructor
  case known => exact Streamer.known_new
  all_goals simp [BrokerEnd.init, Streamer.new]

section Offered

variable {t : Option AddrTranslator} {peer : Streamer ConnInfo} {e e' : BrokerEnd}

/-- Steps that leave the calls with the `Send` calls that they have. -/
theorem Offered.keep (h : Offered t e) (hknown : e'.streamer.Known)
    (hnext : ∀ (k : Nat) x, e.streamer.sends[k]? = some x →
      ∃ x', e'.streamer.sends[k]? = some x' ∧ x'.msg = x.msg)
    (hprev : ∀ (k : Nat) x, e'.streamer.sends[k]? = some x → ∃ x₀, e.streamer.sends[k]? = some x₀)
    (hold : ∀ (j : Nat) c k, e'.accepts[j]? = some c → c.pc.send = some k →
      ∃ c₀, e.accepts[j]? = some c₀ ∧ c₀.pc.send = some k ∧ c₀.id = c.id ∧
        c₀.listener = c.listener)
    (hkeep : ∀ (j : Nat) c k, e.accepts[j]? = some c → c.pc.send = some k →
      ∃ c', e'.accepts[j]? = some c' ∧ c'.pc.send = some k) : Offered t e' where
  known := hknown
  offered j c k hc hk := by
    obtain ⟨c₀, hc₀, hk₀, hid, hlistener⟩ := hold j c k hc hk
    obtain ⟨x, a, hx, ha, hmsg⟩ := h.offered j c₀ k hc₀ hk₀
    obtain ⟨x', hx', hmsg'⟩ := hnext k x hx
    exact ⟨x', a, hx', hlistener ▸ ha, hid ▸ hmsg'.trans hmsg⟩
  source k x hx := by
    obtain ⟨x₀, hx₀⟩ := hprev k x hx
    obtain ⟨j, c, hc, hk⟩ := h.source k x₀ hx₀
    obtain ⟨c', hc', hk'⟩ := hkeep j c k hc hk
    exact ⟨j, c', hc', hk'⟩
  unique i j c c' k hc hc' hk hk' := by
    obtain ⟨c₀, hc₀, hk₀, -, -⟩ := hold i c k hc hk
    obtain ⟨c₁, hc₁, hk₁, -, -⟩ := hold j c' k hc' hk'
    exact h.unique i j c₀ c₁ k hc₀ hc₁ hk₀ hk₁

theorem Offered.setAccept (h : Offered t e) {i : Nat} {c₀ c₁ : AcceptCall}
    (hi : e.accepts[i]? = some c₀) (hid : c₀.id = c₁.id) (hlistener : c₀.listener = c₁.listener)
    (hsend : c₀.pc.send = c₁.pc.send) : Offered t { e with accepts := e.accepts.set i c₁ } := by
  refine h.keep h.known (fun _ x hx => ⟨x, hx, rfl⟩) (fun _ x hx => ⟨x, hx⟩) ?_ ?_
  · intro j c k hc hk
    rcases getElem?_set_cases hc with ⟨rfl, rfl⟩ | ⟨-, hold⟩
    · exact ⟨c₀, hi, hsend ▸ hk, hid, hlistener⟩
    · exact ⟨c, hold, hk, rfl, rfl⟩
  · intro j c k hc hk
    rcases getElem?_set_of_some hc i c₁ with ⟨rfl, hnew⟩ | ⟨-, hold⟩
    · cases hi.symm.trans hc
      exact ⟨c₁, hnew, hsend ▸ hk⟩
    · exact ⟨c, hold, hk⟩

theorem Offered.send (h : Offered t e) {i : Nat} {id : UInt32} {listener a : NetAddr}
    {s : Streamer ConnInfo} (hi : e.accepts[i]? = some ⟨id, listener, .translating⟩)
    (ha : advertise t listener = .ok a)
    (hs : e.streamer.Move (.send ⟨id, a.network, a.address, none⟩) s) :
    Offered t { e with
      streamer := s
      accepts := e.accepts.set i ⟨id, listener, .sending e.streamer.sends.length⟩ } := by
  have hlt : ∀ (j : Nat) c k, e.accepts[j]? = some c → c.pc.send = some k →
      k < e.streamer.sends.length := by
    intro j c k hc hk
    obtain ⟨x, -, hx, -⟩ := h.offered j c k hc hk
    exact (List.getElem?_eq_some_iff.mp hx).1
  have hknown := h.known.move hs
  cases hs
  constructor
  · exact hknown
  · intro j c k hc hk
    rcases getElem?_set_cases hc with ⟨rfl, rfl⟩ | ⟨-, hold⟩
    · cases hk
      exact ⟨_, a, List.getElem?_concat_length, ha, rfl⟩
    · obtain ⟨x, a', hx, ha', hmsg⟩ := h.offered j c k hold hk
      exact ⟨x, a', getElem?_concat_of_some hx _, ha', hmsg⟩
  · intro k x hx
    rcases getElem?_concat_cases hx with hold | ⟨rfl, -⟩
    · obtain ⟨j, c, hc, hk⟩ := h.source k x hold
      rcases getElem?_set_of_some hc i ⟨id, listener, .sending e.streamer.sends.length⟩ with
        ⟨rfl, -⟩ | ⟨-, hkeep⟩
      · -- the call that sends now has sent nothing before
        cases hi.symm.trans hc
        cases hk
      · exact ⟨j, c, hkeep, hk⟩
    · exact ⟨i, _, List.getElem?_set_self (List.getElem?_eq_some_iff.mp hi).1, rfl⟩
  · intro j j' c c' k hc hc' hk hk'
    rcases getElem?_set_cases hc with ⟨rfl, rfl⟩ | ⟨-, hold⟩
    · rcases getElem?_set_cases hc' with ⟨rfl, -⟩ | ⟨-, hold'⟩
      · rfl
      · cases hk
        exact absurd (hlt j' c' _ hold' hk') (Nat.lt_irrefl _)
    · rcases getElem?_set_cases hc' with ⟨rfl, rfl⟩ | ⟨-, hold'⟩
      · cases hk'
        exact absurd (hlt j c _ hold hk) (Nat.lt_irrefl _)
      · exact h.unique j j' c c' k hold hold' hk hk'

theorem Offered.move (h : Offered t e) (hmove : EndMove t peer e e') : Offered t e' := by
  cases hmove with
  | accept =>
      refine h.keep h.known (fun _ x hx => ⟨x, hx, rfl⟩) (fun _ x hx => ⟨x, hx⟩) ?_
        fun j c k hc hk => ⟨c, getElem?_concat_of_some hc _, hk⟩
      intro j c k hc hk
      rcases getElem?_concat_cases hc with hold | ⟨-, rfl⟩
      · exact ⟨c, hold, hk, rfl, rfl⟩
      · cases hk
  | refuse hj => exact h.setAccept hj rfl rfl rfl
  | finish hj hpc =>
      refine h.setAccept hj rfl rfl ?_
      rcases hpc with rfl | rfl <;> rfl
  | send hj ha hs => exact h.send hj ha hs
  | stream ha hs =>
      refine h.keep (h.known.move hs) (fun _ x hx => hs.sends_next hx) ?_
        (fun j c k hc hk => ⟨c, hc, hk, rfl, rfl⟩) fun j c k hc hk => ⟨c, hc, hk⟩
      intro k x hx
      rcases hs.sends_cases hx with ⟨x₀, hx₀, -⟩ | ⟨-, hsend⟩
      · exact ⟨x₀, hx₀⟩
      · exact absurd hsend (ha _)
  | receive | lose | deliver | broker => exact ⟨h.known, h.offered, h.source, h.unique⟩

end Offered

/-! ### What arrives was sent, and in order -/

/-- The message is the one at its place in the record of `stream.Send`. -/
def Came (peer : Streamer ConnInfo) (m : Letter) : Prop :=
  ∃ k x, peer.sent[m.origin]? = some (k, true) ∧ peer.sends[k]? = some x ∧ x.msg = m.info

theorem Came.move {peer peer' : Streamer ConnInfo} {a : Streamer.Act ConnInfo} {m : Letter}
    (h : Came peer m) (hs : peer.Move a peer') : Came peer' m := by
  obtain ⟨k, x, hk, hx, hmsg⟩ := h
  obtain ⟨x', hx', hmsg'⟩ := hs.sends_next hx
  exact ⟨k, x', hs.sent_next hk, hx', hmsg'.trans hmsg⟩

theorem Came.info_eq {peer : Streamer ConnInfo} {m m' : Letter} (h : Came peer m)
    (h' : Came peer m') (heq : m.origin = m'.origin) : m.info = m'.info := by
  obtain ⟨k, x, hk, hx, hmsg⟩ := h
  obtain ⟨k', x', hk', hx', hmsg'⟩ := h'
  rw [heq] at hk
  cases hk.symm.trans hk'
  cases hx.symm.trans hx'
  exact hmsg.symm.trans hmsg'

structure Mailed (peer : Streamer ConnInfo) (e : BrokerEnd) : Prop where
  keyed : e.broker.Keyed
  ordered : e.broker.Ordered
  distinct : e.broker.Distinct
  mail : ∀ m, e.broker.Has m → m.origin < e.received ∧ Came peer m
  offering : ∀ m, e.receiver = .offering m → (m.origin < e.received ∧ Came peer m) ∧
    ∀ m', e.broker.Has m' → m'.origin < m.origin

theorem mailed_init (peer : Streamer ConnInfo) : Mailed peer .init := by
  constructor
  case keyed => exact GRPCBroker.keyed_init
  case ordered => exact GRPCBroker.ordered_init
  case distinct => exact GRPCBroker.distinct_init
  case mail =>
    intro m hm
    simp [BrokerEnd.init, GRPCBroker.init, GRPCBroker.Has, GRPCBroker.RunPc.letter,
      GRPCBroker.Placed, GRPCBroker.Taken, PendingTable.ch, PendingTable.empty] at hm
  case offering => simp [BrokerEnd.init]

section Mailed

variable {t : Option AddrTranslator} {peer : Streamer ConnInfo} {e e' : BrokerEnd}

theorem Mailed.movePeer {peer' : Streamer ConnInfo} {a : Streamer.Act ConnInfo} (h : Mailed peer e)
    (hs : peer.Move a peer') : Mailed peer' e :=
  ⟨h.keyed, h.ordered, h.distinct, fun m hm => (h.mail m hm).imp id (Came.move · hs),
    fun m hm => (h.offering m hm).imp (And.imp id (Came.move · hs)) id⟩

theorem Mailed.same (h : Mailed peer e) {p q : Nat} {m m' : Letter} (hp : e.broker.Placed p m)
    (hq : e.broker.Placed q m') (heq : m.origin = m'.origin) : m.info = m'.info :=
  (h.mail m (Or.inr ⟨p, hp⟩)).2.info_eq (h.mail m' (Or.inr ⟨q, hq⟩)).2 heq

theorem Mailed.deliver (h : Mailed peer e) {m : Letter} {b : GRPCBroker}
    (hreceiver : e.receiver = .offering m) (hb : e.broker.Move (.run (.recv m)) b) :
    Mailed peer { e with broker := b, receiver := .receiving } := by
  obtain ⟨hm, hlast⟩ := h.offering m hreceiver
  refine ⟨h.keyed.move hb, h.ordered.move h.keyed ?_ hb,
    h.distinct.move h.ordered (fun _ _ _ _ => h.same) hb, ?_, by simp⟩
  · rintro m' ⟨⟩ p m'' hp
    exact hlast m'' (Or.inr ⟨p, hp⟩)
  · intro m' hm'
    rcases hb.has_cases hm' with hold | heq
    · exact h.mail m' hold
    · cases heq
      exact hm

theorem Mailed.broker (h : Mailed peer e) {a : GRPCBroker.Act} {b : GRPCBroker}
    (ha : ∀ m, a ≠ .run (.recv m)) (hb : e.broker.Move a b) :
    Mailed peer { e with broker := b } := by
  have hold : ∀ m, b.Has m → e.broker.Has m := by
    intro m hm
    exact (hb.has_cases hm).resolve_right (ha m)
  refine ⟨h.keyed.move hb, h.ordered.move h.keyed (fun m hm => absurd hm (ha m)) hb,
    h.distinct.move h.ordered (fun _ _ _ _ => h.same) hb, fun m hm => h.mail m (hold m hm), ?_⟩
  intro m hm
  exact (h.offering m hm).imp id fun hlast m' hm' => hlast m' (hold m' hm')

theorem Mailed.move (h : Mailed peer e) (hmove : EndMove t peer e e') : Mailed peer e' := by
  have hlater : ∀ m, e.broker.Has m → m.origin < e.received + 1 ∧ Came peer m := fun m hm =>
    (h.mail m hm).imp Nat.lt_succ_of_lt id
  cases hmove with
  | accept | refuse | send | finish => exact ⟨h.keyed, h.ordered, h.distinct, h.mail, h.offering⟩
  | stream _ _ hreceiver =>
      refine ⟨h.keyed, h.ordered, h.distinct, h.mail, ?_⟩
      rcases hreceiver with rfl | rfl
      · exact h.offering
      · simp
  | @receive c x hsent hx =>
      refine ⟨h.keyed, h.ordered, h.distinct, hlater, ?_⟩
      rintro m ⟨⟩
      exact ⟨⟨Nat.lt_succ_self _, c, x, hsent, hx, rfl⟩, fun m' hm' => (h.mail m' hm').1⟩
  | lose =>
      refine ⟨h.keyed, h.ordered, h.distinct, hlater, ?_⟩
      exact fun m hm => (h.offering m hm).imp (And.imp Nat.lt_succ_of_lt id) id
  | deliver hreceiver hb => exact h.deliver hreceiver hb
  | broker ha hb => exact h.broker ha hb

end Mailed

/-! ### Both processes -/

/-- Each end is sound, as seen from the other one's streamer. -/
def Sound (tr : Option AddrTranslator) (s : Both BrokerEnd) : Prop :=
  ∀ x, Offered (translator tr x) (s.get x) ∧ Mailed (s.get x.peer).streamer (s.get x)

theorem sound_init (tr : Option AddrTranslator) : Sound tr init := by
  intro x
  cases x <;> exact ⟨offered_init _, mailed_init _⟩

/-- A step is one of one end. -/
theorem move_of_step {tr : Option AddrTranslator} {s s' : Both BrokerEnd} {a : Act}
    (h : step tr s a = some s') :
    ∃ e', s' = s.set a.side e' ∧ (e' = s.get a.side ∨
      EndMove (translator tr a.side) (s.get a.side.peer).streamer (s.get a.side) e') := by
  unfold step at h
  split at h
  · cases h
  · obtain ⟨e', he', rfl⟩ := Option.map_eq_some_iff.mp h
    exact ⟨e', rfl, endMove_of_endStep he'⟩

theorem Sound.step {tr : Option AddrTranslator} {s s' : Both BrokerEnd} {a : Act}
    (h : Sound tr s) (hstep : GRPCPair.step tr s a = some s') : Sound tr s' := by
  obtain ⟨e', rfl, rfl | hmove⟩ := move_of_step hstep
  · intro x
    rcases Side.eq_or_eq_peer a.side x with rfl | rfl
    · simpa using h a.side
    · simpa using h a.side.peer
  · intro x
    rcases Side.eq_or_eq_peer a.side x with rfl | rfl
    · rw [Both.get_set_self, Both.get_set_peer]
      exact ⟨(h a.side).1.move hmove, (h a.side).2.move hmove⟩
    · -- the other end sees a streamer that has moved
      obtain ⟨hoffered, hmailed⟩ := h a.side.peer
      rw [Side.peer_peer] at hmailed
      rw [Both.get_set_peer, Side.peer_peer, Both.get_set_self]
      refine ⟨hoffered, ?_⟩
      rcases hmove.streamer with hsame | ⟨_, hs⟩
      · rw [hsame]
        exact hmailed
      · exact hmailed.movePeer hs

theorem sound_of_exec {tr : Option AddrTranslator} {as : List Act} {s : Both BrokerEnd}
    (hrun : exec (GRPCPair.step tr) init as = some s) : Sound tr s :=
  exec_invariant_of_step (fun _ _ _ h hstep => h.step hstep) (sound_init tr) hrun

/-- The brokers of a step make moves of their own. -/
theorem broker_of_step {tr : Option AddrTranslator} {s s' : Both BrokerEnd} {a : Act}
    (h : step tr s a = some s') (x : Side) :
    (s'.get x).broker = (s.get x).broker ∨ ∃ y, (s.get x).broker.Move y (s'.get x).broker := by
  obtain ⟨e', rfl, hmove⟩ := move_of_step h
  rcases Side.eq_or_eq_peer a.side x with rfl | rfl
  · rw [Both.get_set_self]
    rcases hmove with rfl | hmove
    · exact Or.inl rfl
    · exact hmove.broker_eq
  · rw [Both.get_set_peer]
    exact Or.inl rfl

/-- What a `Dial` call has received, and what it dials. -/
theorem Sound.dial {tr : Option AddrTranslator} {s : Both BrokerEnd} (h : Sound tr s) {x : Side}
    {i p : Nat} {c : GRPCBroker.Call} {m : Letter} (hc : (s.get x).broker.calls[i]? = some c)
    (hl : c.pc.letter = some (p, m)) :
    ∃ (j : Nat) (acc : AcceptCall) (k : Nat), (s.get x.peer).accepts[j]? = some acc ∧
      acc.pc.send = some k ∧ acc.id = c.id ∧
      (s.get x.peer).streamer.sent[m.origin]? = some (k, true) ∧
      ∃ a, advertise (translator tr x.peer) acc.listener = .ok a ∧
        m.info = ⟨c.id, a.network, a.address, none⟩ := by
  obtain ⟨-, hmailed⟩ := h x
  obtain ⟨hoffered, -⟩ := h x.peer
  obtain ⟨-, k, y, hk, hy, hmsg⟩ := hmailed.mail m (Or.inr ⟨p, Or.inr ⟨i, c, hc, hl⟩⟩)
  obtain ⟨j, acc, hacc, hsend⟩ := hoffered.source k y hy
  obtain ⟨y', a, hy', ha, hmsg'⟩ := hoffered.offered j acc k hacc hsend
  cases hy.symm.trans hy'
  have hinfo : m.info = ⟨acc.id, a.network, a.address, none⟩ := hmsg.symm.trans hmsg'
  have hid : acc.id = c.id := by
    rw [← hmailed.ordered.named i c p m hc hl, hinfo]
  exact ⟨j, acc, k, hacc, hsend, hid, hk, a, ha, by rw [hinfo, hid]⟩

theorem since_of_exec {tr : Option AddrTranslator} {s s' : Both BrokerEnd} {bs : List Act}
    {x : Side} {n p : Nat} {m : Letter} (h : Sound tr s) (hsince : (s.get x).broker.Since n p m)
    (hrun : exec (GRPCPair.step tr) s bs = some s') : (s'.get x).broker.Since n p m := by
  have hstep : ∀ u a u', (Sound tr u ∧ (u.get x).broker.Since n p m) →
      GRPCPair.step tr u a = some u' → Sound tr u' ∧ (u'.get x).broker.Since n p m := by
    rintro u a u' ⟨hu, hsu⟩ hst
    refine ⟨hu.step hst, ?_⟩
    rcases broker_of_step hst x with hsame | ⟨y, hb⟩
    · rw [hsame]
      exact hsu
    · exact hsu.move (hu x).2.keyed (hu x).2.ordered hb
  exact (exec_invariant_of_step hstep ⟨h, hsince⟩ hrun).2

/-- **The brokers agree without multiplexing.**  In every run of the two processes:
    * what a `Dial(id)` call has received was sent by one `Accept(id)` call of the peer, and what
      it dials is the address of that call's listener, passed once through the host's translator;
    * two `Dial` calls have received different messages;
    * a `Dial` call that begins after another one for the same id has received its message
      receives one that was sent later. -/
theorem dial_agrees_with_accept {tr : Option AddrTranslator} {as : List Act}
    {s : Both BrokerEnd} (hrun : exec (step tr) init as = some s) (x : Side) :
    (∀ (i : Nat) c p m, (s.get x).broker.calls[i]? = some c → c.pc.letter = some (p, m) →
      ∃ (j : Nat) (acc : AcceptCall) (k : Nat), (s.get x.peer).accepts[j]? = some acc ∧
        acc.pc.send = some k ∧
        (∀ (j' : Nat) acc', (s.get x.peer).accepts[j']? = some acc' →
          acc'.pc.send = some k → j' = j) ∧
        acc.id = c.id ∧ m.info.serviceId = c.id ∧
        (s.get x.peer).streamer.sent[m.origin]? = some (k, true) ∧
        ∀ (ρ : Type) (resolve : NetAddr → Except String ρ) r,
          dialAddr (translator tr x) resolve m.info = .ok r →
          ∃ b, translateOnce tr x.peer acc.listener = .ok b ∧ resolve b = .ok r) ∧
    (∀ (i j : Nat) c c' p q m m', i ≠ j → (s.get x).broker.calls[i]? = some c →
      (s.get x).broker.calls[j]? = some c' → c.pc.letter = some (p, m) →
      c'.pc.letter = some (q, m') → m.origin ≠ m'.origin) ∧
    (∀ (i : Nat) c p m, (s.get x).broker.calls[i]? = some c → c.kind = .dial →
      c.pc.letter = some (p, m) → ∀ bs s', exec (step tr) s bs = some s' →
      ∀ (j : Nat) c' q m', (s.get x).broker.calls.length ≤ j →
        (s'.get x).broker.calls[j]? = some c' → c'.id = c.id → c'.pc.letter = some (q, m') →
        m.origin < m'.origin) := by
  have h := sound_of_exec hrun
  refine ⟨?_, (h x).2.distinct, ?_⟩
  · intro i c p m hc hl
    obtain ⟨j, acc, k, hacc, hsend, hid, hk, a, ha, hinfo⟩ := h.dial hc hl
    refine ⟨j, acc, k, hacc, hsend, ?_, hid, by rw [hinfo], hk, ?_⟩
    · intro j' acc' hacc' hsend'
      exact (h x.peer).1.unique j' j acc' acc k hacc' hacc hsend' hsend
    · intro ρ resolve r hr
      rw [hinfo] at hr
      rw [← Side.peer_peer x] at hr
      exact dialAddr_of_advertise ha hr
  · intro i c p m hc hkind hl bs s' hrun' j c' q m' hj hc' hid hl'
    have hnamed := (h x).2.ordered.named i c p m hc hl
    have hsince : (s.get x).broker.Since (s.get x).broker.calls.length p m := by
      refine ⟨⟨i, c, hc, hkind, hl⟩, ?_, ?_⟩
      · intro j c q hj hc
        rw [List.getElem?_eq_none hj] at hc
        cases hc
      · intro j c q m' hj hc
        rw [List.getElem?_eq_none hj] at hc
        cases hc
    exact (since_of_exec h hsince hrun').letter j c' q m' hj hc' (hid.trans hnamed.symm) hl'

/-- A runner that shows the plugin's sockets to the host under another path. -/
def mounted : AddrTranslator where
  pluginToHost a := .ok ⟨a.network, "/mnt" ++ a.address⟩
  hostToPlugin a := .ok a

/-- The plugin accepts 7 and the host dials it. -/
def dialSeven : List Act :=
  [⟨.plugin, .stream .startStream⟩, ⟨.plugin, .accept 7 (some ⟨"unix", "/a"⟩)⟩,
    ⟨.plugin, .translate 0⟩, ⟨.plugin, .stream (.hand 0 0)⟩,
    ⟨.plugin, .stream (.streamSend 0 true)⟩, ⟨.plugin, .stream (.reply 0)⟩, ⟨.plugin, .finish 0⟩,
    ⟨.host, .receive⟩, ⟨.host, .deliver⟩, ⟨.host, .broker (.run .lookup)⟩,
    ⟨.host, .broker (.run .offer)⟩, ⟨.host, .broker (.run .spawn)⟩, ⟨.host, .broker (.dial 7)⟩,
    ⟨.host, .broker (.call 0 .recv)⟩, ⟨.host, .broker (.call 0 .finish)⟩]

theorem dial_agrees_with_accept_seven :
    ∃ s, exec (step (some mounted)) init dialSeven = some s ∧
      s.host.broker.calls = [⟨.dial, 7, .used 0 ⟨⟨7, "unix", "/a", none⟩, 0⟩⟩] ∧
      dialAddr (some mounted) Except.ok ⟨7, "unix", "/a", none⟩ = .ok ⟨"unix", "/mnt/a"⟩ ∧
      ∃ (j : Nat) (acc : AcceptCall), s.plugin.accepts[j]? = some acc ∧ acc.id = 7 ∧
        ∃ b, translateOnce (some mounted) .plugin acc.listener = .ok b ∧
          (Except.ok b : Except String NetAddr) = .ok ⟨"unix", "/mnt/a"⟩ := by
  obtain ⟨s, hrun⟩ : ∃ s, exec (step (some mounted)) init dialSeven = some s :=
    Option.isSome_iff_exists.mp (by decide)
  have hcalls : (exec (step (some mounted)) init dialSeven).map (fun s => s.host.broker.calls) =
      some [⟨.dial, 7, .used 0 ⟨⟨7, "unix", "/a", none⟩, 0⟩⟩] := by decide
  rw [hrun] at hcalls
  replace hcalls : s.host.broker.calls = _ := Option.some.inj hcalls
  have hcall : (s.get .host).broker.calls[0]? =
      some ⟨.dial, 7, .used 0 ⟨⟨7, "unix", "/a", none⟩, 0⟩⟩ := by
    rw [show (s.get .host) = s.host from rfl, hcalls]
    rfl
  obtain ⟨j, acc, -, hacc, -, -, hid, -, -, haddr⟩ :=
    (dial_agrees_with_accept hrun .host).1 0 _ 0 _ hcall rfl
  exact ⟨s, hrun, hcalls, rfl, j, acc, hacc, hid, haddr NetAddr Except.ok _ rfl⟩

end GRPCPair

end GoPlugin
