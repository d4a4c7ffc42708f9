import GoPlugin.GRPCBroker
import GoPlugin.Sides

/-!
# The gRPC muxers (`internal/grpcmux`) and the multiplexed brokers

A host with a `GRPCBroker` and a `GRPCClientMuxer`, and a plugin with a `GRPCBroker` and a
`GRPCServerMuxer`, joined by one yamux session.

What is assumed of gRPC and yamux: the broker stream delivers each side's messages in the
order in which they were sent, the session delivers the streams of each side in the order
in which they were opened, and neither fails.  The broker stream is a call on the control
connection.  So no message is received before the plugin's gRPC server, which listens on
the default listener, has accepted that connection.
-/

namespace GoPlugin

/-! ### The plugin's muxer -/

/-- A stream that the host opened: the control connection, or the one of its `d`-th
    `muxDial` call, which was for `id`. -/
inductive HostStream where
  | control
  | dialled (d : Nat) (id : UInt32)
deriving DecidableEq, Repr

/-- Where `GRPCServerMuxer.Accept`, which the gRPC server calls in a loop, stands. -/
inductive AcceptLoopPc where
  | accepting                                -- in `session.Accept`
  | routing (s : HostStream)                 -- before the select on `knockCh`
  | sending (s : HostStream) (ln : Nat)      -- in the send on the `acceptCh` of listener `ln`
  | failed                                   -- returned an error: a knock without a listener
deriving DecidableEq, Repr

/-- `GRPCServerMuxer`.  Listeners go by the number that the broker gave them.  `delivered`
    and `defaulted` record what brokered listeners and the default listener received. -/
structure GRPCServerMuxer where
  incoming : List HostStream
  loop : AcceptLoopPc
  knockCh : Option UInt32
  acceptChannels : UInt32 → Option Nat
  delivered : List (HostStream × Nat)
  defaulted : List HostStream

namespace GRPCServerMuxer

def init : GRPCServerMuxer where
  incoming := []
  loop := .accepting
  knockCh := none
  acceptChannels := fun _ => none
  delivered := []
  defaulted := []

/-- `AcceptKnock`: blocks while `knockCh` is full. -/
def acceptKnock (m : GRPCServerMuxer) (id : UInt32) : Option GRPCServerMuxer :=
  match m.knockCh with
  | none => some { m with knockCh := some id }
  | some _ => none

/-- `Listener`. -/
def listener (m : GRPCServerMuxer) (id : UInt32) (ln : Nat) : GRPCServerMuxer :=
  { m with acceptChannels := fun k => if k = id then some ln else m.acceptChannels k }

inductive Act where
  | accept    -- `session.Accept` returns
  | select    -- on `knockCh`
  | deliver   -- an `Accept` on the listener receives from its `acceptCh`
deriving DecidableEq, Repr

/-- `Accept`. -/
def acceptStep (m : GRPCServerMuxer) : Act → Option GRPCServerMuxer
  | .accept =>
      match m.loop, m.incoming with
      | .accepting, s :: rest => some { m with loop := .routing s, incoming := rest }
      | _, _ => none
  | .select =>
      match m.loop with
      | .routing s =>
          match m.knockCh with
          | some id =>
              match m.acceptChannels id with
              | some ln => some { m with loop := .sending s ln, knockCh := none }
              | none => some { m with loop := .failed, knockCh := none }
          | none => some { m with loop := .accepting, defaulted := s :: m.defaulted }
      | _ => none
  | .deliver =>
      match m.loop with
      | .sending s ln =>
          some { m with loop := .accepting, delivered := (s, ln) :: m.delivered }
      | _ => none

end GRPCServerMuxer

/-! ### The host's muxer -/

/-- A stream that the plugin opened in its `dial`-th `muxDial` call, which was for `id`. -/
structure PluginStream where
  dial : Nat
  id : UInt32
deriving DecidableEq, Repr

/-- A `blockedClientListener`; `ln` is the broker's number for it. -/
structure ClientListener where
  id : UInt32
  ln : Nat
  waitCh : Bool
deriving DecidableEq, Repr

/-- Where a call of `blockedClientListener.Accept` stands. -/
inductive ClientAcceptPc where
  | waiting                          -- in the select on `waitCh` and `doneCh`
  | accepting                        -- in `session.Accept`
  | returned (s : PluginStream)
  | closed                           -- returned `io.EOF`
deriving DecidableEq, Repr

/-- An `Accept` call on the `listener`-th client listener. -/
structure ClientAccept where
  listener : Nat
  pc : ClientAcceptPc
deriving DecidableEq, Repr

/-- `GRPCClientMuxer`.  While `acceptMutex` is `some (i, c)` it is held by the `AcceptKnock`
    of the `i`-th `listenForKnocks`, which is about to unblock the `c`-th listener. -/
structure GRPCClientMuxer where
  incoming : List PluginStream
  acceptMutex : Option (Nat × Nat)
  acceptListeners : UInt32 → Option Nat
  listeners : List ClientListener
  accepts : List ClientAccept

namespace GRPCClientMuxer

def init : GRPCClientMuxer where
  incoming := []
  acceptMutex := none
  acceptListeners := fun _ => none
  listeners := []
  accepts := []

/-- The error of `AcceptKnock`. -/
def noListener (id : UInt32) : String := "no listener for id " ++ toString id.toNat

/-- The lookup in `AcceptKnock`, under the lock: keeps the lock to unblock the listener. -/
def lookup (m : GRPCClientMuxer) (i : Nat) (id : UInt32) : Option (Except String GRPCClientMuxer) :=
  match m.acceptMutex with
  | some _ => none
  | none =>
      match m.acceptListeners id with
      | some c => some (.ok { m with acceptMutex := some (i, c) })
      | none => some (.error (noListener id))

/-- `unblock`: blocks while `waitCh` is full.  The lock is released after it. -/
def unblock (m : GRPCClientMuxer) : Option (Nat × GRPCClientMuxer) :=
  match m.acceptMutex with
  | some (i, c) =>
      match m.listeners[c]? with
      | some ⟨id, ln, false⟩ =>
          some (i, { m with acceptMutex := none, listeners := m.listeners.set c ⟨id, ln, true⟩ })
      | _ => none
  | none => none

/-- `Listener`. -/
def listener (m : GRPCClientMuxer) (id : UInt32) (ln : Nat) : Option GRPCClientMuxer :=
  match m.acceptMutex with
  | some _ => none
  | none =>
      some { m with
        listeners := m.listeners ++ [⟨id, ln, false⟩]
        acceptListeners := fun k =>
          if k = id then some m.listeners.length else m.acceptListeners k }

inductive Act where
  | call (c : Nat)      -- a new `Accept` call on the `c`-th listener
  | wait (t : Nat)      -- the `t`-th call receives from `waitCh`
  | close (t : Nat)     -- the `t`-th call finds `doneCh` closed
  | accept (t : Nat)    -- `session.Accept` returns in the `t`-th call
deriving DecidableEq, Repr

/-- `blockedClientListener.Accept`; `done ln` says whether the `doneCh` of the broker's
    listener `ln` is closed. -/
def acceptStep (m : GRPCClientMuxer) (done : Nat → Bool) : Act → Option GRPCClientMuxer
  | .call c =>
      if c < m.listeners.length then some { m with accepts := m.accepts ++ [⟨c, .waiting⟩] }
      else none
  | .wait t =>
      match m.accepts[t]? with
      | some ⟨c, .waiting⟩ =>
          match m.listeners[c]? with
          | some ⟨id, ln, true⟩ =>
              some { m with listeners := m.listeners.set c ⟨id, ln, false⟩
                            accepts := m.accepts.set t ⟨c, .accepting⟩ }
          | _ => none
      | _ => none
  | .close t =>
      match m.accepts[t]? with
      | some ⟨c, .waiting⟩ =>
          match m.listeners[c]? with
          | some ⟨_, ln, _⟩ =>
              if done ln then some { m with accepts := m.accepts.set t ⟨c, .closed⟩ } else none
          | none => none
      | _ => none
  | .accept t =>
      match m.accepts[t]?, m.incoming with
      | some ⟨c, .accepting⟩, s :: rest =>
          some { m with incoming := rest, accepts := m.accepts.set t ⟨c, .returned s⟩ }
      | _, _ => none

end GRPCClientMuxer

/-! ### Both processes -/

/-- Where a `muxDial` call stands once it has `dialMutex`. -/
inductive GRPCDialPc where
  | knocking (k : Nat)    -- in `knock`, the broker's `k`-th call
  | dialing               -- the knock was acked, before `muxer.Dial`
  | returned
  | failed                -- `knock` returned an error
deriving DecidableEq, Repr

/-- A `muxDial(id)` call. -/
structure GRPCDial where
  id : UInt32
  pc : GRPCDialPc
deriving DecidableEq, Repr

/-- The broker's `k`-th call is a `knock` that returned nil. -/
def GRPCBroker.knockAcked (b : GRPCBroker) (k : Nat) : Bool :=
  match b.calls[k]? with
  | some ⟨_, _, .acked _ _⟩ => true
  | _ => false

/-- A broker with its `muxDial` calls; `dialMutex` is the number of the call that has it. -/
structure MuxSide where
  broker : GRPCBroker
  dialMutex : Option Nat
  dials : List GRPCDial

namespace MuxSide

def init : MuxSide := ⟨.init, none, []⟩

/-- `muxDial(id)` gets `dialMutex` and sends its knock. -/
def muxDial (x : MuxSide) (id : UInt32) (ok : Bool) : Option MuxSide :=
  match x.dialMutex with
  | some _ => none
  | none =>
      (x.broker.step (.knock id ok)).map fun b =>
        if ok then
          { broker := b
            dialMutex := some x.dials.length
            dials := x.dials ++ [⟨id, .knocking x.broker.calls.length⟩] }
        else { x with broker := b, dials := x.dials ++ [⟨id, .failed⟩] }

/-- `knock` returns on the message it received. -/
def knockReturns (x : MuxSide) (d : Nat) : Option MuxSide :=
  match x.dials[d]? with
  | some ⟨id, .knocking k⟩ =>
      (x.broker.step (.call k .finish)).map fun b =>
        if b.knockAcked k then { x with broker := b, dials := x.dials.set d ⟨id, .dialing⟩ }
        else { broker := b, dialMutex := none, dials := x.dials.set d ⟨id, .failed⟩ }
  | _ => none

/-- `knock` returns `ErrBrokerTimeout`. -/
def knockTimesOut (x : MuxSide) (d : Nat) : Option MuxSide :=
  match x.dials[d]? with
  | some ⟨id, .knocking k⟩ =>
      (x.broker.step (.call k .reap)).map fun b =>
        { broker := b, dialMutex := none, dials := x.dials.set d ⟨id, .failed⟩ }
  | _ => none

/-- `muxer.Dial` opens a stream, for the returned id, and `muxDial` returns it. -/
def openStream (x : MuxSide) (d : Nat) : Option (UInt32 × MuxSide) :=
  match x.dials[d]? with
  | some ⟨id, .dialing⟩ =>
      some (id, { x with dialMutex := none, dials := x.dials.set d ⟨id, .returned⟩ })
  | _ => none

end MuxSide

structure GRPCMux where
  sides : Both MuxSide
  server : GRPCServerMuxer
  client : GRPCClientMuxer
  controlOpened : Bool

namespace GRPCMux

def init : GRPCMux where
  sides := ⟨.init, .init⟩
  server := .init
  client := .init
  controlOpened := false

/-- The plugin's gRPC server has the control connection. -/
def served (m : GRPCMux) : Bool := m.server.defaulted.contains .control

inductive Act where
  | openControl                                        -- the host dials the control connection
  | muxDial (s : Side) (id : UInt32) (ok : Bool)       -- gets `dialMutex`, sends its knock
  | knockReturns (s : Side) (d : Nat)                  -- `knock` returns on what it received
  | knockTimesOut (s : Side) (d : Nat)                 -- `knock` returns `ErrBrokerTimeout`
  | openStream (s : Side) (d : Nat)                    -- `muxer.Dial`
  | recv (s : Side)                                    -- `Run` receives a message
  | broker (s : Side) (a : GRPCBroker.Act)
  | serverAcceptKnock (i : Nat)                        -- in the plugin's `i`-th `listenForKnocks`
  | serverListener (j : Nat)                           -- in the plugin's `j`-th `Accept`
  | serverAccept (a : GRPCServerMuxer.Act)
  | clientLookup (i : Nat)                             -- in the host's `i`-th `listenForKnocks`
  | clientUnblock
  | clientListener (j : Nat)                           -- in the host's `j`-th `Accept`
  | clientAccept (a : GRPCClientMuxer.Act)
deriving DecidableEq, Repr

/-- The broker's actions that involve neither the peer nor the muxer. -/
def internal : GRPCBroker.Act → Bool
  | .run (.recv _) | .dial _ | .knock _ _ | .call _ .finish | .call _ .reap
  | .listen _ (.knocked _) | .listener _ (.register true) => false
  | _ => true

/-- The side with its broker moved on. -/
def withBroker (m : GRPCMux) (s : Side) (b : GRPCBroker) : Both MuxSide :=
  m.sides.set s { m.sides.get s with broker := b }

/-- The side with `rest` left of the messages it sent. -/
def unqueued (m : GRPCMux) (s : Side) (rest : List Letter) : MuxSide :=
  { m.sides.get s with broker := { (m.sides.get s).broker with out := rest } }

/-- Whether the `doneCh` of the host's listener `ln` is closed. -/
def hostDone (m : GRPCMux) (ln : Nat) : Bool :=
  match m.sides.host.broker.listeners[ln]? with
  | some l => m.sides.host.broker.serverStreams.closed l.p
  | none => false

def step (m : GRPCMux) : Act → Option GRPCMux
  | .openControl =>
      if m.controlOpened then none
      else some { m with
        controlOpened := true
        server := { m.server with incoming := m.server.incoming ++ [.control] } }
  | .muxDial s id ok =>
      ((m.sides.get s).muxDial id ok).map fun x => { m with sides := m.sides.set s x }
  | .knockReturns s d =>
      ((m.sides.get s).knockReturns d).map fun x => { m with sides := m.sides.set s x }
  | .knockTimesOut s d =>
      ((m.sides.get s).knockTimesOut d).map fun x => { m with sides := m.sides.set s x }
  | .openStream .host d =>
      (m.sides.host.openStream d).map fun (id, x) =>
        { m with
          sides := m.sides.set .host x
          server := { m.server with incoming := m.server.incoming ++ [.dialled d id] } }
  | .openStream .plugin d =>
      (m.sides.plugin.openStream d).map fun (id, x) =>
        { m with
          sides := m.sides.set .plugin x
          client := { m.client with incoming := m.client.incoming ++ [⟨d, id⟩] } }
  | .recv s =>
      if m.served then
        match (m.sides.get s.peer).broker.out with
        | [] => none
        | l :: rest =>
            ((m.sides.get s).broker.step (.run (.recv l))).map fun b =>
              { m with sides := (m.withBroker s b).set s.peer (m.unqueued s.peer rest) }
      else none
  | .broker s a =>
      if internal a then
        ((m.sides.get s).broker.step a).map fun b => { m with sides := m.withBroker s b }
      else none
  | .serverAcceptKnock i =>
      match m.sides.plugin.broker.listens[i]? with
      | some ⟨id, .knocking _ _⟩ =>
          (m.server.acceptKnock id).bind fun server =>
            (m.sides.plugin.broker.step (.listen i (.knocked ""))).map fun b =>
              { m with sides := m.withBroker .plugin b, server := server }
      | _ => none
  | .serverListener j =>
      match m.sides.plugin.broker.listeners[j]? with
      | some ⟨id, _, .spawned⟩ =>
          (m.sides.plugin.broker.step (.listener j (.register true))).map fun b =>
            { m with sides := m.withBroker .plugin b, server := m.server.listener id j }
      | _ => none
  | .serverAccept a => (m.server.acceptStep a).map fun server => { m with server := server }
  | .clientLookup i =>
      match m.sides.host.broker.listens[i]? with
      | some ⟨id, .knocking _ _⟩ =>
          match m.client.lookup i id with
          | some (.ok client) => some { m with client := client }
          | some (.error e) =>
              (m.sides.host.broker.step (.listen i (.knocked e))).map fun b =>
                { m with sides := m.withBroker .host b }
          | none => none
      | _ => none
  | .clientUnblock =>
      m.client.unblock.bind fun (i, client) =>
        (m.sides.host.broker.step (.listen i (.knocked ""))).map fun b =>
          { m with sides := m.withBroker .host b, client := client }
  | .clientListener j =>
      match m.sides.host.broker.listeners[j]? with
      | some ⟨id, _, .spawned⟩ =>
          (m.client.listener id j).bind fun client =>
            (m.sides.host.broker.step (.listener j (.register true))).map fun b =>
              { m with sides := m.withBroker .host b, client := client }
      | _ => none
  | .clientAccept a =>
      (m.client.acceptStep m.hostDone a).map fun client => { m with client := client }

end GRPCMux

/-! ### What one step of the system can do -/

/-- The moves of one side that involve neither the peer nor the muxers. -/
inductive MuxSide.Move (s : Side) (x : MuxSide) : GRPCMux.Act → MuxSide → Prop where
  | muxDial {id b} (hfree : x.dialMutex = none) (hb : x.broker.Move (.knock id true) b) :
      Move s x (.muxDial s id true)
        { broker := b
          dialMutex := some x.dials.length
          dials := x.dials ++ [⟨id, .knocking x.broker.calls.length⟩] }
  | muxDialFail {id b} (hfree : x.dialMutex = none)
      (hb : x.broker.Move (.knock id false) b) :
      Move s x (.muxDial s id false) { x with broker := b, dials := x.dials ++ [⟨id, .failed⟩] }
  | acked {d id k b} (hd : x.dials[d]? = some ⟨id, .knocking k⟩)
      (hb : x.broker.Move (.call k .finish) b) (hacked : b.knockAcked k = true) :
      Move s x (.knockReturns s d) { x with broker := b, dials := x.dials.set d ⟨id, .dialing⟩ }
  | refused {d id k b} (hd : x.dials[d]? = some ⟨id, .knocking k⟩)
      (hb : x.broker.Move (.call k .finish) b) (hacked : b.knockAcked k = false) :
      Move s x (.knockReturns s d)
        { broker := b, dialMutex := none, dials := x.dials.set d ⟨id, .failed⟩ }
  | timesOut {d id k b} (hd : x.dials[d]? = some ⟨id, .knocking k⟩)
      (hb : x.broker.Move (.call k .reap) b) :
      Move s x (.knockTimesOut s d)
        { broker := b, dialMutex := none, dials := x.dials.set d ⟨id, .failed⟩ }
  | broker {a b} (ha : GRPCMux.internal a = true) (hb : x.broker.Move a b) :
      Move s x (.broker s a) { x with broker := b }

namespace GRPCMux

inductive Move (m : GRPCMux) : Act → GRPCMux → Prop where
  | openControl (h : m.controlOpened = false) :
      Move m .openControl
        { m with
          controlOpened := true
          server := { m.server with incoming := m.server.incoming ++ [.control] } }
  | side {s a x} (hx : (m.sides.get s).Move s a x) :
      Move m a { m with sides := m.sides.set s x }
  | openHost {d id} (hd : (m.sides.get .host).dials[d]? = some ⟨id, .dialing⟩) :
      Move m (.openStream .host d)
        { m with
          sides := m.sides.set .host
            { m.sides.get .host with
              dialMutex := none, dials := (m.sides.get .host).dials.set d ⟨id, .returned⟩ }
          server := { m.server with incoming := m.server.incoming ++ [.dialled d id] } }
  | openPlugin {d id} (hd : (m.sides.get .plugin).dials[d]? = some ⟨id, .dialing⟩) :
      Move m (.openStream .plugin d)
        { m with
          sides := m.sides.set .plugin
            { m.sides.get .plugin with
              dialMutex := none, dials := (m.sides.get .plugin).dials.set d ⟨id, .returned⟩ }
          client := { m.client with incoming := m.client.incoming ++ [⟨d, id⟩] } }
  | recv {s l rest b} (hserved : m.served = true)
      (hout : (m.sides.get s.peer).broker.out = l :: rest)
      (hb : (m.sides.get s).broker.Move (.run (.recv l)) b) :
      Move m (.recv s)
        { m with sides := (m.withBroker s b).set s.peer (m.unqueued s.peer rest) }
  | serverAcceptKnock {i id p l b}
      (hl : (m.sides.get .plugin).broker.listens[i]? = some ⟨id, .knocking p l⟩)
      (hfree : m.server.knockCh = none)
      (hb : (m.sides.get .plugin).broker.Move (.listen i (.knocked "")) b) :
      Move m (.serverAcceptKnock i)
        { m with sides := m.withBroker .plugin b
                 server := { m.server with knockCh := some id } }
  | serverListener {j id p b}
      (hl : (m.sides.get .plugin).broker.listeners[j]? = some ⟨id, p, .spawned⟩)
      (hb : (m.sides.get .plugin).broker.Move (.listener j (.register true)) b) :
      Move m (.serverListener j)
        { m with sides := m.withBroker .plugin b, server := m.server.listener id j }
  | serverAccept {s rest} (hloop : m.server.loop = .accepting)
      (hin : m.server.incoming = s :: rest) :
      Move m (.serverAccept .accept)
        { m with server := { m.server with loop := .routing s, incoming := rest } }
  | serverRoute {s id ln} (hloop : m.server.loop = .routing s)
      (hknock : m.server.knockCh = some id) (hln : m.server.acceptChannels id = some ln) :
      Move m (.serverAccept .select)
        { m with server := { m.server with loop := .sending s ln, knockCh := none } }
  | serverLost {s id} (hloop : m.server.loop = .routing s)
      (hknock : m.server.knockCh = some id) (hln : m.server.acceptChannels id = none) :
      Move m (.serverAccept .select)
        { m with server := { m.server with loop := .failed, knockCh := none } }
  | serverDefault {s} (hloop : m.server.loop = .routing s) (hknock : m.server.knockCh = none) :
      Move m (.serverAccept .select)
        { m with server :=
            { m.server with loop := .accepting, defaulted := s :: m.server.defaulted } }
  | serverDeliver {s ln} (hloop : m.server.loop = .sending s ln) :
      Move m (.serverAccept .deliver)
        { m with server :=
            { m.server with loop := .accepting, delivered := (s, ln) :: m.server.delivered } }
  | clientLookup {i id p l c}
      (hl : (m.sides.get .host).broker.listens[i]? = some ⟨id, .knocking p l⟩)
      (hfree : m.client.acceptMutex = none) (hc : m.client.acceptListeners id = some c) :
      Move m (.clientLookup i) { m with client := { m.client with acceptMutex := some (i, c) } }
  | clientRefuse {i id p l b}
      (hl : (m.sides.get .host).broker.listens[i]? = some ⟨id, .knocking p l⟩)
      (hfree : m.client.acceptMutex = none)
      (hb : (m.sides.get .host).broker.Move
        (.listen i (.knocked (GRPCClientMuxer.noListener id))) b) :
      Move m (.clientLookup i) { m with sides := m.withBroker .host b }
  | clientUnblock {i c id ln b} (hmutex : m.client.acceptMutex = some (i, c))
      (hc : m.client.listeners[c]? = some ⟨id, ln, false⟩)
      (hb : (m.sides.get .host).broker.Move (.listen i (.knocked "")) b) :
      Move m .clientUnblock
        { m with
          sides := m.withBroker .host b
          client := { m.client with
            acceptMutex := none, listeners := m.client.listeners.set c ⟨id, ln, true⟩ } }
  | clientListener {j id p b}
      (hl : (m.sides.get .host).broker.listeners[j]? = some ⟨id, p, .spawned⟩)
      (hb : (m.sides.get .host).broker.Move (.listener j (.register true)) b) :
      Move m (.clientListener j)
        { m with
          sides := m.withBroker .host b
          client := { m.client with
            listeners := m.client.listeners ++ [⟨id, j, false⟩]
            acceptListeners := fun k =>
              if k = id then some m.client.listeners.length else m.client.acceptListeners k } }
  | clientCall {c} (hc : c < m.client.listeners.length) :
      Move m (.clientAccept (.call c))
        { m with client := { m.client with accepts := m.client.accepts ++ [⟨c, .waiting⟩] } }
  | clientWait {t c id ln} (ht : m.client.accepts[t]? = some ⟨c, .waiting⟩)
      (hc : m.client.listeners[c]? = some ⟨id, ln, true⟩) :
      Move m (.clientAccept (.wait t))
        { m with client := { m.client with
            listeners := m.client.listeners.set c ⟨id, ln, false⟩
            accepts := m.client.accepts.set t ⟨c, .accepting⟩ } }
  | clientClose {t c} (ht : m.client.accepts[t]? = some ⟨c, .waiting⟩) :
      Move m (.clientAccept (.close t))
        { m with client := { m.client with accepts := m.client.accepts.set t ⟨c, .closed⟩ } }
  | clientAccept {t c s rest} (ht : m.client.accepts[t]? = some ⟨c, .accepting⟩)
      (hin : m.client.incoming = s :: rest) :
      Move m (.clientAccept (.accept t))
        { m with client := { m.client with
            incoming := rest, accepts := m.client.accepts.set t ⟨c, .returned s⟩ } }

/-- The broker's action is one that the system takes for it: its knocks are those of the
    `muxDial` calls, and its messages come from the peer. -/
def Allowed (t : Side) (act : Act) : GRPCBroker.Act → Prop
  | .dial _ => False
  | .knock id ok => act = .muxDial t id ok
  | .run (.recv _) => act = .recv t
  | _ => True

/-- What the action does to the broker of side `t`: nothing, a step of its own, or the peer
    takes a message off its stream. -/
inductive Evolves (t : Side) (act : Act) (b : GRPCBroker) : GRPCBroker → Prop where
  | same : Evolves t act b b
  | move {a b'} (h : b.Move a b') (ha : Allowed t act a) : Evolves t act b b'
  | unqueued {rest} (h : act = .recv t.peer) : Evolves t act b { b with out := rest }

theorem allowed_of_internal {t : Side} {act : Act} {a : GRPCBroker.Act}
    (h : internal a = true) : Allowed t act a := by
  unfold Allowed
  split
  · cases h
  · cases h
  · cases h
  · trivial

theorem evolves_set {m : GRPCMux} {s : Side} {act : Act} {x : MuxSide}
    (h : Evolves s act (m.sides.get s).broker x.broker) (t : Side) :
    Evolves t act (m.sides.get t).broker ((m.sides.set s x).get t).broker := by
  rcases Side.eq_or_eq_peer s t with rfl | rfl
  · rwa [Both.get_set_self]
  · rw [Both.get_set_peer]
    exact .same

theorem Move.evolves {m m' : GRPCMux} {a : Act} (h : Move m a m') (t : Side) :
    Evolves t a (m.sides.get t).broker (m'.sides.get t).broker := by
  cases h with
  | side hx =>
      refine evolves_set ?_ t
      cases hx with
      | muxDial hfree hb | muxDialFail hfree hb => exact .move hb rfl
      | acked hd hb | refused hd hb | timesOut hd hb => exact .move hb trivial
      | broker ha hb => exact .move hb (allowed_of_internal ha)
  | openHost hd | openPlugin hd =>
      refine evolves_set ?_ t
      exact .same
  | @recv s l rest b hserved hout hb =>
      rcases Side.eq_or_eq_peer s t with rfl | rfl
      · rw [Both.get_peer_set, withBroker, Both.get_set_self]
        exact .move hb rfl
      · rw [Both.get_set_self]
        exact .unqueued (by rw [Side.peer_peer])
  | serverAcceptKnock hl hfree hb | clientRefuse hl hfree hb | serverListener hl hb
  | clientListener hl hb | clientUnblock hmutex hc hb =>
      refine evolves_set ?_ t
      exact .move hb trivial
  | _ => exact .same

/-- The broker of side `t` in one move, again: the actions that it takes by itself are taken
    as such. -/
inductive Performs (t : Side) (act : Act) (b : GRPCBroker) : GRPCBroker → Prop where
  | same {rest} : Performs t act b { b with out := rest }
  | move {a b'} (h : b.Move a b') (ha : internal a = true → act = .broker t a) :
      Performs t act b b'

theorem performs_set {m : GRPCMux} {s : Side} {act : Act} {x : MuxSide}
    (h : Performs s act (m.sides.get s).broker x.broker) (t : Side) :
    Performs t act (m.sides.get t).broker ((m.sides.set s x).get t).broker := by
  rcases Side.eq_or_eq_peer s t with rfl | rfl
  · rwa [Both.get_set_self]
  · rw [Both.get_set_peer]
    exact .same

theorem Move.performs {m m' : GRPCMux} {a : Act} (h : Move m a m') (t : Side) :
    Performs t a (m.sides.get t).broker (m'.sides.get t).broker := by
  cases h with
  | side hx =>
      refine performs_set ?_ t
      cases hx with
      | muxDial hfree hb | muxDialFail hfree hb | acked hd hb | refused hd hb | timesOut hd hb =>
          exact .move hb nofun
      | broker ha hb => exact .move hb fun _ => rfl
  | openHost hd | openPlugin hd =>
      refine performs_set ?_ t
      exact .same
  | @recv s l rest b hserved hout hb =>
      rcases Side.eq_or_eq_peer s t with rfl | rfl
      · rw [Both.get_peer_set, withBroker, Both.get_set_self]
        exact .move hb nofun
      · rw [Both.get_set_self]
        exact .same
  | serverAcceptKnock hl hfree hb | clientRefuse hl hfree hb | serverListener hl hb
  | clientListener hl hb | clientUnblock hmutex hc hb =>
      refine performs_set ?_ t
      exact .move hb nofun
  | _ => exact .same

theorem move_of_muxDial {m : GRPCMux} {s : Side} {id : UInt32} {ok : Bool} {x : MuxSide}
    (h : (m.sides.get s).muxDial id ok = some x) : (m.sides.get s).Move s (.muxDial s id ok) x := by
  unfold MuxSide.muxDial at h
  split at h
  · cases h
  · obtain ⟨b, hb, rfl⟩ := Option.map_eq_some_iff.mp h
    have hmove := (GRPCBroker.move_of_step hb).2
    cases ok
    · exact .muxDialFail ‹_› hmove
    · exact .muxDial ‹_› hmove

theorem move_of_knockReturns {m : GRPCMux} {s : Side} {d : Nat} {x : MuxSide}
    (h : (m.sides.get s).knockReturns d = some x) :
    (m.sides.get s).Move s (.knockReturns s d) x := by
  unfold MuxSide.knockReturns at h
  split at h
  · obtain ⟨b, hb, rfl⟩ := Option.map_eq_some_iff.mp h
    have hmove := (GRPCBroker.move_of_step hb).2
    split
    · exact .acked ‹_› hmove ‹_›
    · exact .refused ‹_› hmove (Bool.eq_false_iff.mpr ‹_›)
  · cases h

theorem move_of_knockTimesOut {m : GRPCMux} {s : Side} {d : Nat} {x : MuxSide}
    (h : (m.sides.get s).knockTimesOut d = some x) :
    (m.sides.get s).Move s (.knockTimesOut s d) x := by
  unfold MuxSide.knockTimesOut at h
  split at h
  · obtain ⟨b, hb, rfl⟩ := Option.map_eq_some_iff.mp h
    exact .timesOut ‹_› (GRPCBroker.move_of_step hb).2
  · cases h

theorem move_of_openStream {m m' : GRPCMux} {s : Side} {d : Nat}
    (h : m.step (.openStream s d) = some m') : Move m (.openStream s d) m' := by
  cases s <;>
  · simp only [step, Option.map_eq_some_iff, Prod.exists] at h
    obtain ⟨id, x, hx, rfl⟩ := h
    unfold MuxSide.openStream at hx
    split at hx <;> cases hx
    first | exact .openHost ‹_› | exact .openPlugin ‹_›

theorem move_of_serverAccept {m m' : GRPCMux} {a : GRPCServerMuxer.Act}
    (h : m.step (.serverAccept a) = some m') : Move m (.serverAccept a) m' := by
  simp only [step, Option.map_eq_some_iff] at h
  obtain ⟨server, hs, rfl⟩ := h
  cases a with
  | accept =>
      simp only [GRPCServerMuxer.acceptStep] at hs
      split at hs <;> cases hs
      exact .serverAccept ‹_› ‹_›
  | select =>
      simp only [GRPCServerMuxer.acceptStep] at hs
      split at hs
      · split at hs
        · split at hs <;> cases hs
          · exact .serverRoute ‹_› ‹_› ‹_›
          · exact .serverLost ‹_› ‹_› ‹_›
        · cases hs
          exact .serverDefault ‹_› ‹_›
      · cases hs
  | deliver =>
      simp only [GRPCServerMuxer.acceptStep] at hs
      split at hs <;> cases hs
      exact .serverDeliver ‹_›

theorem move_of_clientAccept {m m' : GRPCMux} {a : GRPCClientMuxer.Act}
    (h : m.step (.clientAccept a) = some m') : Move m (.clientAccept a) m' := by
  simp only [step, Option.map_eq_some_iff] at h
  obtain ⟨client, hs, rfl⟩ := h
  cases a with
  | call c =>
      simp only [GRPCClientMuxer.acceptStep] at hs
      split at hs <;> cases hs
      exact .clientCall ‹_›
  | wait t =>
      simp only [GRPCClientMuxer.acceptStep] at hs
      split at hs
      · split at hs <;> cases hs
        exact .clientWait ‹_› ‹_›
      · cases hs
  | close t =>
      simp only [GRPCClientMuxer.acceptStep] at hs
      split at hs
      · split at hs
        · split at hs <;> cases hs
          exact .clientClose ‹_›
        · cases hs
      · cases hs
  | accept t =>
      simp only [GRPCClientMuxer.acceptStep] at hs
      split at hs <;> cases hs
      exact .clientAccept ‹_› ‹_›

/-- Every step of the system is one of the listed moves. -/
theorem move_of_step {m m' : GRPCMux} {a : Act} (h : m.step a = some m') : Move m a m' := by
  cases a with
  | openControl =>
      simp only [step] at h
      split at h <;> cases h
      exact .openControl (Bool.eq_false_iff.mpr ‹_›)
  | muxDial s id ok =>
      obtain ⟨x, hx, rfl⟩ := Option.map_eq_some_iff.mp h
      exact .side (move_of_muxDial hx)
  | knockReturns s d =>
      obtain ⟨x, hx, rfl⟩ := Option.map_eq_some_iff.mp h
      exact .side (move_of_knockReturns hx)
  | knockTimesOut s d =>
      obtain ⟨x, hx, rfl⟩ := Option.map_eq_some_iff.mp h
      exact .side (move_of_knockTimesOut hx)
  | openStream s d => exact move_of_openStream h
  | recv s =>
      simp only [step] at h
      split at h
      · split at h
        · cases h
        · obtain ⟨b, hb, rfl⟩ := Option.map_eq_some_iff.mp h
          exact .recv ‹_› ‹_› (GRPCBroker.move_of_step hb).2
      · cases h
  | broker s a =>
      simp only [step] at h
      split at h
      · obtain ⟨b, hb, rfl⟩ := Option.map_eq_some_iff.mp h
        exact .side (.broker ‹_› (GRPCBroker.move_of_step hb).2)
      · cases h
  | serverAcceptKnock i =>
      simp only [step] at h
      split at h
      · simp only [Option.bind_eq_some_iff, Option.map_eq_some_iff] at h
        obtain ⟨server, hs, b, hb, rfl⟩ := h
        unfold GRPCServerMuxer.acceptKnock at hs
        split at hs <;> cases hs
        exact .serverAcceptKnock ‹_› ‹_› (GRPCBroker.move_of_step hb).2
      · cases h
  | serverListener j =>
      simp only [step] at h
      split at h
      · obtain ⟨b, hb, rfl⟩ := Option.map_eq_some_iff.mp h
        exact .serverListener ‹_› (GRPCBroker.move_of_step hb).2
      · cases h
  | serverAccept a => exact move_of_serverAccept h
  | clientLookup i =>
      simp only [step] at h
      split at h
      · unfold GRPCClientMuxer.lookup at h
        split at h
        · rename_i hlookup
          split at hlookup
          · cases hlookup
          · split at hlookup <;> cases hlookup
            cases h
            exact .clientLookup ‹_› ‹_› ‹_›
        · rename_i hlookup
          split at hlookup
          · cases hlookup
          · split at hlookup <;> cases hlookup
            obtain ⟨b, hb, rfl⟩ := Option.map_eq_some_iff.mp h
            exact .clientRefuse ‹_› ‹_› (GRPCBroker.move_of_step hb).2
        · cases h
      · cases h
  | clientUnblock =>
      simp only [step, Option.bind_eq_some_iff, Option.map_eq_some_iff, Prod.exists] at h
      obtain ⟨i, client, hc, b, hb, rfl⟩ := h
      unfold GRPCClientMuxer.unblock at hc
      split at hc
      · split at hc <;> cases hc
        exact .clientUnblock ‹_› ‹_› (GRPCBroker.move_of_step hb).2
      · cases hc
  | clientListener j =>
      simp only [step] at h
      split at h
      · simp only [Option.bind_eq_some_iff, Option.map_eq_some_iff] at h
        obtain ⟨client, hc, b, hb, rfl⟩ := h
        unfold GRPCClientMuxer.listener at hc
        split at hc <;> cases hc
        exact .clientListener ‹_› (GRPCBroker.move_of_step hb).2
      · cases h
  | clientAccept a => exact move_of_clientAccept h

end GRPCMux

end GoPlugin
