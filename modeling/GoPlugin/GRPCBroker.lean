import GoPlugin.LabelledSystem
import GoPlugin.PendingTable

/-!
# The gRPC broker (`grpc_broker.go`)

One `GRPCBroker` as a labelled system.  Its threads are the `Run` loop, the `Dial` and
`knock` calls, the `timeoutWait` goroutines, and on the accepting side the
`listenForKnocks` goroutines and the listeners that `Accept` makes while multiplexing
is on.  As in the model of the net/rpc broker a critical section is one action, and so
is every channel operation.

The streamer is a queue: `Send` appends to `out`, from where the peer receives, and the
message that `Recv` returns comes with the action.  The muxer is left to the
environment here: what `AcceptKnock` and `Listener` return comes with the action, too.
-/

namespace GoPlugin

/-! ### Messages -/

/-- `ConnInfo_Knock`. -/
structure Knock where
  knock : Bool
  ack : Bool
  error : String
deriving DecidableEq, Repr

structure ConnInfo where
  serviceId : UInt32
  network : String
  address : String
  knock : Option Knock
deriving DecidableEq, Repr

/-- A listen request, as opposed to a message for a waiting `Dial` or `knock`. -/
def ConnInfo.serverKnock (c : ConnInfo) : Bool :=
  match c.knock with
  | some k => k.knock && !k.ack
  | none => false

/-- What `knock` sends. -/
def knockInfo (id : UInt32) : ConnInfo := ⟨id, "", "", some ⟨true, false, ""⟩⟩

/-- What `listenForKnocks` sends back. -/
def ackInfo (id : UInt32) (error : String) : ConnInfo := ⟨id, "", "", some ⟨true, true, error⟩⟩

/-- A message on its way.  `origin` is the number of the `knock` call that sent the
    knock, and that of the knock it answers for an ack.  No step reads it. -/
structure Letter where
  info : ConnInfo
  origin : Nat
deriving DecidableEq, Repr

/-- How `knock` fails on the message it received. -/
inductive KnockError where
  | wrongId (got : UInt32)
  | notAck (got : Option Knock)
  | failed (error : String)
deriving DecidableEq, Repr

/-- The checks `knock(id)` makes on the message it received. -/
def checkAck (id : UInt32) (msg : ConnInfo) : Option KnockError :=
  if msg.serviceId ≠ id then some (.wrongId msg.serviceId)
  else match msg.knock with
    | none => some (.notAck none)
    | some k =>
        if !k.knock || !k.ack then some (.notAck (some k))
        else if k.error ≠ "" then some (.failed k.error)
        else none

/-- The checks `listenForKnocks(id)` makes on the message it received. -/
def checkKnock (id : UInt32) (msg : ConnInfo) : Bool :=
  msg.serviceId = id && msg.serverKnock

namespace GRPCBroker

/-! ### The threads -/

inductive CallKind where
  | dial    -- `DialWithOptions` without multiplexing
  | knock
deriving DecidableEq, Repr

/-- Where a `Dial` or `knock` call stands. -/
inductive CallPc where
  | fetching                             -- before `getClientStream`
  | waiting (p : Nat)                    -- in the select on `p.ch` and the timer
  | took (p : Nat) (m : Letter)          -- received `m`
  | expired (p : Nat)                    -- the timer won, before the critical section
  | used (p : Nat) (m : Letter)          -- `Dial` has closed `p.doneCh` and goes on with `m`
  | acked (p : Nat) (m : Letter)         -- `knock` returned nil
  | refused (p : Nat) (e : KnockError)   -- `knock` returned an error for what it received
  | timedOut                             -- returned `ErrBrokerTimeout`
  | sendFailed                           -- `knock` could not send
deriving DecidableEq, Repr

structure Call where
  kind : CallKind
  id : UInt32
  pc : CallPc
deriving DecidableEq, Repr

def CallPc.finished : CallPc → Bool
  | .used _ _ | .acked _ _ | .refused _ _ | .timedOut | .sendFailed => true
  | .fetching | .waiting _ | .took _ _ | .expired _ => false

/-- The entry a call waits on, or is about to delete after its timer fired. -/
def CallPc.holds : CallPc → Option Nat
  | .waiting p | .expired p => some p
  | _ => none

/-- Where the `Run` loop stands. -/
inductive RunPc where
  | receiving
  | routing (m : Letter)                 -- before `getServerStream` or `getClientStream`
  | offering (m : Letter) (p : Nat)      -- before the select on `p.ch`
  | spawning (id : UInt32) (p : Nat)     -- before `go b.timeoutWait(id, p)`
  | stopped
deriving DecidableEq, Repr

inductive WaitPc where
  | waiting | woken | finished
deriving DecidableEq, Repr

/-- A `timeoutWait(id, p)` goroutine. -/
structure TimeoutWait where
  id : UInt32
  p : Nat
  pc : WaitPc
deriving DecidableEq, Repr

/-- Where a `listenForKnocks` goroutine stands. -/
inductive ListenPc where
  | starting                                           -- before `getServerStream`
  | selecting (p : Nat)                                -- in the select on `p.ch` and `p.doneCh`
  | knocking (p : Nat) (m : Letter)                    -- in `muxer.AcceptKnock`
  | acking (p : Nat) (m : Letter) (error : String)     -- before `Send` of the ack
  | returned
deriving DecidableEq, Repr

structure Listen where
  id : UInt32
  pc : ListenPc
deriving DecidableEq, Repr

/-- Where an `Accept` call, and the listener it made, stands. -/
inductive ListenerPc where
  | fetched       -- before `go listenForKnocks`
  | spawned       -- before `muxer.Listener`
  | serving       -- the listener was returned
  | failed        -- `muxer.Listener` failed
  | closing       -- `Close` has closed `p.doneCh`, before the critical section
  | closed
deriving DecidableEq, Repr

structure Listener where
  id : UInt32
  p : Nat
  pc : ListenerPc
deriving DecidableEq, Repr

end GRPCBroker

open GRPCBroker

structure GRPCBroker where
  clientStreams : PendingTable UInt32 Letter
  serverStreams : PendingTable UInt32 Letter
  run : RunPc
  calls : List Call
  waits : List TimeoutWait
  listens : List Listen
  listeners : List Listener
  out : List Letter
  panicked : Bool

namespace GRPCBroker

/-- `newGRPCBroker`, with `Run` about to receive. -/
def init : GRPCBroker where
  clientStreams := .empty
  serverStreams := .empty
  run := .receiving
  calls := []
  waits := []
  listens := []
  listeners := []
  out := []
  panicked := false

/-! ### Actions -/

inductive RunAct where
  | recv (m : Letter) | lookup | offer | spawn | stop
deriving DecidableEq, Repr

inductive CallAct where
  | fetch | recv | finish | expire | reap
deriving DecidableEq, Repr

inductive WaitAct where
  | done | expire | clean
deriving DecidableEq, Repr

inductive ListenAct where
  | fetch | recv | knocked (error : String) | ack (ok : Bool) | done
deriving DecidableEq, Repr

inductive ListenerAct where
  | spawn | register (ok : Bool) | close | remove
deriving DecidableEq, Repr

inductive Act where
  | run (a : RunAct)
  | dial (id : UInt32)                 -- a new `Dial(id)` call, up to its select
  | knock (id : UInt32) (ok : Bool)    -- a new `knock(id)` call, up to the result of `Send`
  | call (i : Nat) (a : CallAct)
  | wait (w : Nat) (a : WaitAct)
  | listen (i : Nat) (a : ListenAct)
  | accept (id : UInt32)               -- a new `Accept(id)` call, up to `getServerStream`
  | listener (j : Nat) (a : ListenerAct)
deriving DecidableEq, Repr

/-- `GRPCBroker.Run`. -/
def runStep (b : GRPCBroker) : RunAct → Option GRPCBroker
  | .recv m =>
      match b.run with
      | .receiving => some { b with run := .routing m }
      | _ => none
  | .lookup =>
      match b.run with
      | .routing m =>
          if m.info.serverKnock then
            some { b with run := .offering m (b.serverStreams.slot m.info.serviceId)
                          serverStreams := b.serverStreams.fetch m.info.serviceId }
          else
            some { b with run := .offering m (b.clientStreams.slot m.info.serviceId)
                          clientStreams := b.clientStreams.fetch m.info.serviceId }
      | _ => none
  | .offer =>
      match b.run with
      | .offering m p =>
          if m.info.serverKnock then
            match b.serverStreams.ch p with
            | none => some { b with run := .receiving, serverStreams := b.serverStreams.put p m }
            | some _ => some { b with run := .receiving }
          else
            match b.clientStreams.ch p with
            | none =>
                some { b with run := .spawning m.info.serviceId p
                              clientStreams := b.clientStreams.put p m }
            | some _ => some { b with run := .receiving }
      | _ => none
  | .spawn =>
      match b.run with
      | .spawning id p =>
          some { b with run := .receiving, waits := b.waits ++ [⟨id, p, .waiting⟩] }
      | _ => none
  | .stop =>
      match b.run with
      | .receiving => some { b with run := .stopped }
      | _ => none

/-- The rest of the `i`-th `Dial` or `knock` call.  `finish` is `close(p.doneCh)` for
    the one, the checks of the ack for the other. -/
def callStep (b : GRPCBroker) (i : Nat) : CallAct → Option GRPCBroker
  | .fetch =>
      match b.calls[i]? with
      | some ⟨kind, id, .fetching⟩ =>
          some { b with calls := b.calls.set i ⟨kind, id, .waiting (b.clientStreams.slot id)⟩
                        clientStreams := b.clientStreams.fetch id }
      | _ => none
  | .recv =>
      match b.calls[i]? with
      | some ⟨kind, id, .waiting p⟩ =>
          match b.clientStreams.ch p with
          | some m =>
              some { b with calls := b.calls.set i ⟨kind, id, .took p m⟩
                            clientStreams := b.clientStreams.take p }
          | none => none
      | _ => none
  | .finish =>
      match b.calls[i]? with
      | some ⟨.dial, id, .took p m⟩ =>
          if b.clientStreams.closed p then some { b with panicked := true }
          else some { b with calls := b.calls.set i ⟨.dial, id, .used p m⟩
                             clientStreams := b.clientStreams.closeDone p }
      | some ⟨.knock, id, .took p m⟩ =>
          match checkAck id m.info with
          | none => some { b with calls := b.calls.set i ⟨.knock, id, .acked p m⟩ }
          | some e => some { b with calls := b.calls.set i ⟨.knock, id, .refused p e⟩ }
      | _ => none
  | .expire =>
      match b.calls[i]? with
      | some ⟨kind, id, .waiting p⟩ =>
          some { b with calls := b.calls.set i ⟨kind, id, .expired p⟩ }
      | _ => none
  | .reap =>
      match b.calls[i]? with
      | some ⟨kind, id, .expired _⟩ =>
          some { b with calls := b.calls.set i ⟨kind, id, .timedOut⟩
                        clientStreams := b.clientStreams.erase id }
      | _ => none

/-- `GRPCBroker.timeoutWait`. -/
def timeoutWaitStep (b : GRPCBroker) (w : Nat) : WaitAct → Option GRPCBroker
  | .done =>
      match b.waits[w]? with
      | some ⟨id, p, .waiting⟩ =>
          if b.clientStreams.closed p then
            some { b with waits := b.waits.set w ⟨id, p, .woken⟩ }
          else none
      | _ => none
  | .expire =>
      match b.waits[w]? with
      | some ⟨id, p, .waiting⟩ => some { b with waits := b.waits.set w ⟨id, p, .woken⟩ }
      | _ => none
  | .clean =>
      match b.waits[w]? with
      | some ⟨id, p, .woken⟩ =>
          some { b with waits := b.waits.set w ⟨id, p, .finished⟩
                        clientStreams := b.clientStreams.erase id }
      | _ => none

/-- `GRPCBroker.listenForKnocks`. -/
def listenStep (b : GRPCBroker) (i : Nat) : ListenAct → Option GRPCBroker
  | .fetch =>
      match b.listens[i]? with
      | some ⟨id, .starting⟩ =>
          some { b with listens := b.listens.set i ⟨id, .selecting (b.serverStreams.slot id)⟩
                        serverStreams := b.serverStreams.fetch id }
      | _ => none
  | .recv =>
      match b.listens[i]? with
      | some ⟨id, .selecting p⟩ =>
          match b.serverStreams.ch p with
          | some m =>
              some { b with
                listens := b.listens.set i
                  ⟨id, if checkKnock id m.info then .knocking p m else .returned⟩
                serverStreams := b.serverStreams.take p }
          | none => none
      | _ => none
  | .knocked error =>
      match b.listens[i]? with
      | some ⟨id, .knocking p m⟩ =>
          some { b with listens := b.listens.set i ⟨id, .acking p m error⟩ }
      | _ => none
  | .ack ok =>
      match b.listens[i]? with
      | some ⟨id, .acking p m error⟩ =>
          if ok then
            some { b with listens := b.listens.set i ⟨id, .selecting p⟩
                          out := b.out ++ [⟨ackInfo id error, m.origin⟩] }
          else some { b with listens := b.listens.set i ⟨id, .returned⟩ }
      | _ => none
  | .done =>
      match b.listens[i]? with
      | some ⟨id, .selecting p⟩ =>
          if b.serverStreams.closed p then
            some { b with listens := b.listens.set i ⟨id, .returned⟩ }
          else none
      | _ => none

/-- `GRPCBroker.Accept` with multiplexing on, after `getServerStream`, and the `Close` of
    the listener it returns, which may be called again.  `doneCh` is closed under
    `p.once`, so neither a second call nor a second listener on the same entry closes it
    twice. -/
def listenerStep (b : GRPCBroker) (j : Nat) : ListenerAct → Option GRPCBroker
  | .spawn =>
      match b.listeners[j]? with
      | some ⟨id, p, .fetched⟩ =>
          some { b with listeners := b.listeners.set j ⟨id, p, .spawned⟩
                        listens := b.listens ++ [⟨id, .starting⟩] }
      | _ => none
  | .register ok =>
      match b.listeners[j]? with
      | some ⟨id, p, .spawned⟩ =>
          some { b with
            listeners := b.listeners.set j ⟨id, p, if ok then .serving else .failed⟩ }
      | _ => none
  | .close =>
      match b.listeners[j]? with
      | some ⟨id, p, .serving⟩ | some ⟨id, p, .closed⟩ =>
          some { b with listeners := b.listeners.set j ⟨id, p, .closing⟩
                        serverStreams := b.serverStreams.closeDone p }
      | _ => none
  | .remove =>
      match b.listeners[j]? with
      | some ⟨id, p, .closing⟩ =>
          some { b with listeners := b.listeners.set j ⟨id, p, .closed⟩
                        serverStreams := b.serverStreams.erase id }
      | _ => none

def step (b : GRPCBroker) (a : Act) : Option GRPCBroker :=
  if b.panicked then none
  else match a with
    | .run a => b.runStep a
    | .dial id =>
        some { b with calls := b.calls ++ [⟨.dial, id, .waiting (b.clientStreams.slot id)⟩]
                      clientStreams := b.clientStreams.fetch id }
    | .knock id true =>
        some { b with calls := b.calls ++ [⟨.knock, id, .fetching⟩]
                      out := b.out ++ [⟨knockInfo id, b.calls.length⟩] }
    | .knock id false => some { b with calls := b.calls ++ [⟨.knock, id, .sendFailed⟩] }
    | .call i a => b.callStep i a
    | .wait w a => b.timeoutWaitStep w a
    | .listen i a => b.listenStep i a
    | .accept id =>
        some { b with listeners := b.listeners ++ [⟨id, b.serverStreams.slot id, .fetched⟩]
                      serverStreams := b.serverStreams.fetch id }
    | .listener j a => b.listenerStep j a

/-! ### What one step can do

The moves of the `Run` loop, of the dialling side and of the accepting side.  A move of
one side leaves the other side's fields alone. -/

inductive RunMove (b : GRPCBroker) : RunAct → GRPCBroker → Prop where
  | recv {m} (h : b.run = .receiving) : RunMove b (.recv m) { b with run := .routing m }
  | lookupServer {m} (h : b.run = .routing m) (hrole : m.info.serverKnock = true) :
      RunMove b .lookup
        { b with run := .offering m (b.serverStreams.slot m.info.serviceId)
                 serverStreams := b.serverStreams.fetch m.info.serviceId }
  | lookupClient {m} (h : b.run = .routing m) (hrole : m.info.serverKnock = false) :
      RunMove b .lookup
        { b with run := .offering m (b.clientStreams.slot m.info.serviceId)
                 clientStreams := b.clientStreams.fetch m.info.serviceId }
  | queueServer {m p} (h : b.run = .offering m p) (hrole : m.info.serverKnock = true)
      (hch : b.serverStreams.ch p = none) :
      RunMove b .offer { b with run := .receiving, serverStreams := b.serverStreams.put p m }
  | queueClient {m p} (h : b.run = .offering m p) (hrole : m.info.serverKnock = false)
      (hch : b.clientStreams.ch p = none) :
      RunMove b .offer
        { b with run := .spawning m.info.serviceId p
                 clientStreams := b.clientStreams.put p m }
  | dropServer {m p m'} (h : b.run = .offering m p) (hrole : m.info.serverKnock = true)
      (hch : b.serverStreams.ch p = some m') : RunMove b .offer { b with run := .receiving }
  | dropClient {m p m'} (h : b.run = .offering m p) (hrole : m.info.serverKnock = false)
      (hch : b.clientStreams.ch p = some m') : RunMove b .offer { b with run := .receiving }
  | spawn {id p} (h : b.run = .spawning id p) :
      RunMove b .spawn { b with run := .receiving, waits := b.waits ++ [⟨id, p, .waiting⟩] }
  | stop (h : b.run = .receiving) : RunMove b .stop { b with run := .stopped }

inductive CallerMove (b : GRPCBroker) : Act → GRPCBroker → Prop where
  | dial {id} :
      CallerMove b (.dial id)
        { b with calls := b.calls ++ [⟨.dial, id, .waiting (b.clientStreams.slot id)⟩]
                 clientStreams := b.clientStreams.fetch id }
  | knock {id} :
      CallerMove b (.knock id true)
        { b with calls := b.calls ++ [⟨.knock, id, .fetching⟩]
                 out := b.out ++ [⟨knockInfo id, b.calls.length⟩] }
  | knockFail {id} :
      CallerMove b (.knock id false)
        { b with calls := b.calls ++ [⟨.knock, id, .sendFailed⟩] }
  | fetch {i kind id} (h : b.calls[i]? = some ⟨kind, id, .fetching⟩) :
      CallerMove b (.call i .fetch)
        { b with calls := b.calls.set i ⟨kind, id, .waiting (b.clientStreams.slot id)⟩
                 clientStreams := b.clientStreams.fetch id }
  | recv {i kind id p m} (h : b.calls[i]? = some ⟨kind, id, .waiting p⟩)
      (hch : b.clientStreams.ch p = some m) :
      CallerMove b (.call i .recv)
        { b with calls := b.calls.set i ⟨kind, id, .took p m⟩
                 clientStreams := b.clientStreams.take p }
  | closeDone {i id p m} (h : b.calls[i]? = some ⟨.dial, id, .took p m⟩)
      (hopen : b.clientStreams.closed p = false) :
      CallerMove b (.call i .finish)
        { b with calls := b.calls.set i ⟨.dial, id, .used p m⟩
                 clientStreams := b.clientStreams.closeDone p }
  | doubleClose {i id p m} (h : b.calls[i]? = some ⟨.dial, id, .took p m⟩)
      (hclosed : b.clientStreams.closed p = true) :
      CallerMove b (.call i .finish) { b with panicked := true }
  | acked {i id p m} (h : b.calls[i]? = some ⟨.knock, id, .took p m⟩)
      (hcheck : checkAck id m.info = none) :
      CallerMove b (.call i .finish)
        { b with calls := b.calls.set i ⟨.knock, id, .acked p m⟩ }
  | refused {i id p m e} (h : b.calls[i]? = some ⟨.knock, id, .took p m⟩)
      (hcheck : checkAck id m.info = some e) :
      CallerMove b (.call i .finish)
        { b with calls := b.calls.set i ⟨.knock, id, .refused p e⟩ }
  | expire {i kind id p} (h : b.calls[i]? = some ⟨kind, id, .waiting p⟩) :
      CallerMove b (.call i .expire)
        { b with calls := b.calls.set i ⟨kind, id, .expired p⟩ }
  | reap {i kind id p} (h : b.calls[i]? = some ⟨kind, id, .expired p⟩) :
      CallerMove b (.call i .reap)
        { b with calls := b.calls.set i ⟨kind, id, .timedOut⟩
                 clientStreams := b.clientStreams.erase id }
  | waitDone {w id p} (h : b.waits[w]? = some ⟨id, p, .waiting⟩)
      (hclosed : b.clientStreams.closed p = true) :
      CallerMove b (.wait w .done) { b with waits := b.waits.set w ⟨id, p, .woken⟩ }
  | waitExpire {w id p} (h : b.waits[w]? = some ⟨id, p, .waiting⟩) :
      CallerMove b (.wait w .expire) { b with waits := b.waits.set w ⟨id, p, .woken⟩ }
  | clean {w id p} (h : b.waits[w]? = some ⟨id, p, .woken⟩) :
      CallerMove b (.wait w .clean)
        { b with waits := b.waits.set w ⟨id, p, .finished⟩
                 clientStreams := b.clientStreams.erase id }

inductive AccepterMove (b : GRPCBroker) : Act → GRPCBroker → Prop where
  | fetch {i id} (h : b.listens[i]? = some ⟨id, .starting⟩) :
      AccepterMove b (.listen i .fetch)
        { b with listens := b.listens.set i ⟨id, .selecting (b.serverStreams.slot id)⟩
                 serverStreams := b.serverStreams.fetch id }
  | recv {i id p m} (h : b.listens[i]? = some ⟨id, .selecting p⟩)
      (hch : b.serverStreams.ch p = some m) (hcheck : checkKnock id m.info = true) :
      AccepterMove b (.listen i .recv)
        { b with listens := b.listens.set i ⟨id, .knocking p m⟩
                 serverStreams := b.serverStreams.take p }
  | recvBad {i id p m} (h : b.listens[i]? = some ⟨id, .selecting p⟩)
      (hch : b.serverStreams.ch p = some m) (hcheck : checkKnock id m.info = false) :
      AccepterMove b (.listen i .recv)
        { b with listens := b.listens.set i ⟨id, .returned⟩
                 serverStreams := b.serverStreams.take p }
  | knocked {i id p m error} (h : b.listens[i]? = some ⟨id, .knocking p m⟩) :
      AccepterMove b (.listen i (.knocked error))
        { b with listens := b.listens.set i ⟨id, .acking p m error⟩ }
  | ack {i id p m error} (h : b.listens[i]? = some ⟨id, .acking p m error⟩) :
      AccepterMove b (.listen i (.ack true))
        { b with listens := b.listens.set i ⟨id, .selecting p⟩
                 out := b.out ++ [⟨ackInfo id error, m.origin⟩] }
  | ackFail {i id p m error} (h : b.listens[i]? = some ⟨id, .acking p m error⟩) :
      AccepterMove b (.listen i (.ack false))
        { b with listens := b.listens.set i ⟨id, .returned⟩ }
  | done {i id p} (h : b.listens[i]? = some ⟨id, .selecting p⟩)
      (hclosed : b.serverStreams.closed p = true) :
      AccepterMove b (.listen i .done) { b with listens := b.listens.set i ⟨id, .returned⟩ }
  | accept {id} :
      AccepterMove b (.accept id)
        { b with listeners := b.listeners ++ [⟨id, b.serverStreams.slot id, .fetched⟩]
                 serverStreams := b.serverStreams.fetch id }
  | spawn {j id p} (h : b.listeners[j]? = some ⟨id, p, .fetched⟩) :
      AccepterMove b (.listener j .spawn)
        { b with listeners := b.listeners.set j ⟨id, p, .spawned⟩
                 listens := b.listens ++ [⟨id, .starting⟩] }
  | register {j id p ok} (h : b.listeners[j]? = some ⟨id, p, .spawned⟩) :
      AccepterMove b (.listener j (.register ok))
        { b with listeners := b.listeners.set j ⟨id, p, if ok then .serving else .failed⟩ }
  | close {j id p pc} (h : b.listeners[j]? = some ⟨id, p, pc⟩)
      (hpc : pc = .serving ∨ pc = .closed) :
      AccepterMove b (.listener j .close)
        { b with listeners := b.listeners.set j ⟨id, p, .closing⟩
                 serverStreams := b.serverStreams.closeDone p }
  | remove {j id p} (h : b.listeners[j]? = some ⟨id, p, .closing⟩) :
      AccepterMove b (.listener j .remove)
        { b with listeners := b.listeners.set j ⟨id, p, .closed⟩
                 serverStreams := b.serverStreams.erase id }

inductive Move (b : GRPCBroker) : Act → GRPCBroker → Prop where
  | run {a b'} (h : RunMove b a b') : Move b (.run a) b'
  | caller {a b'} (h : CallerMove b a b') : Move b a b'
  | accepter {a b'} (h : AccepterMove b a b') : Move b a b'

section MoveOf

variable {b b' : GRPCBroker} {i : Nat} {id : UInt32} {ok : Bool}

theorem Move.of_run {a : RunAct} (h : Move b (.run a) b') : RunMove b a b' := by
  cases h with
  | run h => exact h
  | caller h => cases h
  | accepter h => cases h

theorem Move.of_knock (h : Move b (.knock id ok) b') : CallerMove b (.knock id ok) b' := by
  cases h with
  | caller h => exact h
  | accepter h => cases h

theorem Move.of_call {a : CallAct} (h : Move b (.call i a) b') : CallerMove b (.call i a) b' := by
  cases h with
  | caller h => exact h
  | accepter h => cases h

end MoveOf

theorem move_of_runStep {b b' : GRPCBroker} {a : RunAct} (h : b.runStep a = some b') :
    RunMove b a b' := by
  cases a with
  | recv m =>
      simp only [runStep] at h
      split at h <;> cases h
      exact .recv ‹_›
  | lookup =>
      simp only [runStep] at h
      split at h
      · split at h <;> cases h
        · exact .lookupServer ‹_› ‹_›
        · exact .lookupClient ‹_› (Bool.eq_false_iff.mpr ‹_›)
      · cases h
  | offer =>
      simp only [runStep] at h
      split at h
      · split at h <;> split at h <;> cases h
        · exact .queueServer ‹_› ‹_› ‹_›
        · exact .dropServer ‹_› ‹_› ‹_›
        · exact .queueClient ‹_› (Bool.eq_false_iff.mpr ‹_›) ‹_›
        · exact .dropClient ‹_› (Bool.eq_false_iff.mpr ‹_›) ‹_›
      · cases h
  | spawn =>
      simp only [runStep] at h
      split at h <;> cases h
      exact .spawn ‹_›
  | stop =>
      simp only [runStep] at h
      split at h <;> cases h
      exact .stop ‹_›

theorem move_of_callStep {b b' : GRPCBroker} {i : Nat} {a : CallAct}
    (h : b.callStep i a = some b') : CallerMove b (.call i a) b' := by
  cases a with
  | fetch =>
      simp only [callStep] at h
      split at h <;> cases h
      exact .fetch ‹_›
  | recv =>
      simp only [callStep] at h
      split at h
      · split at h <;> cases h
        exact .recv ‹_› ‹_›
      · cases h
  | finish =>
      simp only [callStep] at h
      split at h
      · split at h <;> cases h
        · exact .doubleClose ‹_› ‹_›
        · exact .closeDone ‹_› (Bool.eq_false_iff.mpr ‹_›)
      · split at h <;> cases h
        · exact .acked ‹_› ‹_›
        · exact .refused ‹_› ‹_›
      · cases h
  | expire =>
      simp only [callStep] at h
      split at h <;> cases h
      exact .expire ‹_›
  | reap =>
      simp only [callStep] at h
      split at h <;> cases h
      exact .reap ‹_›

theorem move_of_timeoutWaitStep {b b' : GRPCBroker} {w : Nat} {a : WaitAct}
    (h : b.timeoutWaitStep w a = some b') : CallerMove b (.wait w a) b' := by
  cases a with
  | done =>
      simp only [timeoutWaitStep] at h
      split at h
      · split at h <;> cases h
        exact .waitDone ‹_› ‹_›
      · cases h
  | expire =>
      simp only [timeoutWaitStep] at h
      split at h <;> cases h
      exact .waitExpire ‹_›
  | clean =>
      simp only [timeoutWaitStep] at h
      split at h <;> cases h
      exact .clean ‹_›

theorem move_of_listenStep {b b' : GRPCBroker} {i : Nat} {a : ListenAct}
    (h : b.listenStep i a = some b') : AccepterMove b (.listen i a) b' := by
  cases a with
  | fetch =>
      simp only [listenStep] at h
      split at h <;> cases h
      exact .fetch ‹_›
  | recv =>
      simp only [listenStep] at h
      split at h
      · split at h <;> cases h
        rename_i id p hsel _ m hch
        cases hcheck : checkKnock id m.info
        · exact .recvBad hsel hch hcheck
        · exact .recv hsel hch hcheck
      · cases h
  | knocked error =>
      simp only [listenStep] at h
      split at h <;> cases h
      exact .knocked ‹_›
  | ack ok =>
      simp only [listenStep] at h
      split at h
      · cases ok <;> cases h
        · exact .ackFail ‹_›
        · exact .ack ‹_›
      · cases h
  | done =>
      simp only [listenStep] at h
      split at h
      · split at h <;> cases h
        exact .done ‹_› ‹_›
      · cases h

theorem move_of_listenerStep {b b' : GRPCBroker} {j : Nat} {a : ListenerAct}
    (h : b.listenerStep j a = some b') : AccepterMove b (.listener j a) b' := by
  cases a with
  | spawn =>
      simp only [listenerStep] at h
      split at h <;> cases h
      exact .spawn ‹_›
  | register ok =>
      simp only [listenerStep] at h
      split at h <;> cases h
      exact .register ‹_›
  | close =>
      simp only [listenerStep] at h
      split at h <;> cases h
      · exact .close ‹_› (Or.inl rfl)
      · exact .close ‹_› (Or.inr rfl)
  | remove =>
      simp only [listenerStep] at h
      split at h <;> cases h
      exact .remove ‹_›

/-- Every step is one of the listed moves, taken by a process that has not crashed. -/
theorem move_of_step {b b' : GRPCBroker} {a : Act} (h : b.step a = some b') :
    b.panicked = false ∧ Move b a b' := by
  unfold step at h
  split at h
  · cases h
  · refine ⟨Bool.eq_false_iff.mpr ‹_›, ?_⟩
    cases a with
    | run a => exact .run (move_of_runStep h)
    | dial id =>
        cases h
        exact .caller .dial
    | knock id ok =>
        cases ok <;> cases h
        · exact .caller .knockFail
        · exact .caller .knock
    | call i a => exact .caller (move_of_callStep h)
    | wait w a => exact .caller (move_of_timeoutWaitStep h)
    | listen i a => exact .accepter (move_of_listenStep h)
    | accept id =>
        cases h
        exact .accepter .accept
    | listener j a => exact .accepter (move_of_listenerStep h)

/-! ### What a move does to the threads of the dialling side -/

open Tally

/-- How a call moves on. -/
inductive CallStep (b b' : GRPCBroker) : CallAct → Call → Call → Prop where
  | fetch {kind id} (h : b'.clientStreams = b.clientStreams.fetch id) :
      CallStep b b' .fetch ⟨kind, id, .fetching⟩ ⟨kind, id, .waiting (b.clientStreams.slot id)⟩
  | recv {kind id p m} (hch : b.clientStreams.ch p = some m) :
      CallStep b b' .recv ⟨kind, id, .waiting p⟩ ⟨kind, id, .took p m⟩
  | used {id p m} : CallStep b b' .finish ⟨.dial, id, .took p m⟩ ⟨.dial, id, .used p m⟩
  | acked {id p m} (hcheck : checkAck id m.info = none) :
      CallStep b b' .finish ⟨.knock, id, .took p m⟩ ⟨.knock, id, .acked p m⟩
  | refused {id p m e} (hcheck : checkAck id m.info = some e) :
      CallStep b b' .finish ⟨.knock, id, .took p m⟩ ⟨.knock, id, .refused p e⟩
  | expire {kind id p} : CallStep b b' .expire ⟨kind, id, .waiting p⟩ ⟨kind, id, .expired p⟩
  | reap {kind id p} (h : b'.clientStreams = b.clientStreams.erase id) :
      CallStep b b' .reap ⟨kind, id, .expired p⟩ ⟨kind, id, .timedOut⟩

/-- The call that an action makes. -/
inductive CallNew (b b' : GRPCBroker) : Act → Call → Prop where
  | dial {id} (h : b'.clientStreams = b.clientStreams.fetch id) :
      CallNew b b' (.dial id) ⟨.dial, id, .waiting (b.clientStreams.slot id)⟩
  | knock {id} : CallNew b b' (.knock id true) ⟨.knock, id, .fetching⟩
  | knockFail {id} : CallNew b b' (.knock id false) ⟨.knock, id, .sendFailed⟩

/-- What becomes of the calls in one move. -/
inductive CallsNext (b b' : GRPCBroker) (a : Act) : Prop where
  | same (h : b'.calls = b.calls)
  | step {i x c c'} (ha : a = .call i x) (hcall : b.calls[i]? = some c)
      (hstep : CallStep b b' x c c') (h : b'.calls = b.calls.set i c')
  | new {c} (hnew : CallNew b b' a c) (h : b'.calls = b.calls ++ [c])

theorem CallStep.kind_id {b b' : GRPCBroker} {x : CallAct} {c c' : Call}
    (h : CallStep b b' x c c') :
    c'.kind = c.kind ∧ c'.id = c.id := by
  cases h <;> exact ⟨rfl, rfl⟩

theorem CallStep.unfinished {b b' : GRPCBroker} {x : CallAct} {c c' : Call}
    (h : CallStep b b' x c c') :
    c.pc.finished = false := by
  cases h <;> rfl

/-- The accepting side does not touch what the dialling side uses. -/
theorem AccepterMove.client_eq {b b' : GRPCBroker} {a : Act} (h : AccepterMove b a b') :
    b'.clientStreams = b.clientStreams ∧ b'.run = b.run ∧ b'.calls = b.calls ∧
      b'.waits = b.waits ∧ b'.panicked = b.panicked := by
  cases h <;> exact ⟨rfl, rfl, rfl, rfl, rfl⟩

section Threads

variable {b b' : GRPCBroker} {a : Act} {i : Nat} {c : Call}

theorem RunMove.calls_eq {a : RunAct} (h : RunMove b a b') : b'.calls = b.calls := by
  cases h <;> rfl

theorem CallerMove.run_eq (h : CallerMove b a b') : b'.run = b.run := by
  cases h <;> rfl

theorem CallerMove.callsNext (h : CallerMove b a b') : CallsNext b b' a := by
  cases h with
  | dial => exact .new (.dial rfl) rfl
  | knock => exact .new .knock rfl
  | knockFail => exact .new .knockFail rfl
  | fetch hcall => exact .step rfl hcall (.fetch rfl) rfl
  | recv hcall hch => exact .step rfl hcall (.recv hch) rfl
  | closeDone hcall hopen => exact .step rfl hcall .used rfl
  | acked hcall hcheck => exact .step rfl hcall (.acked hcheck) rfl
  | refused hcall hcheck => exact .step rfl hcall (.refused hcheck) rfl
  | expire hcall => exact .step rfl hcall .expire rfl
  | reap hcall => exact .step rfl hcall (.reap rfl) rfl
  | doubleClose | waitDone | waitExpire | clean => exact .same rfl

theorem Move.callsNext (h : Move b a b') : CallsNext b b' a := by
  cases h with
  | run h => exact .same h.calls_eq
  | caller h => exact h.callsNext
  | accepter h => exact .same h.client_eq.2.2.1

/-- Where a call of the state after the move comes from. -/
theorem CallsNext.cases (h : CallsNext b b' a) (hc : b'.calls[i]? = some c) :
    b.calls[i]? = some c ∨
      (∃ x c₀, a = .call i x ∧ b.calls[i]? = some c₀ ∧ CallStep b b' x c₀ c) ∨
      (i = b.calls.length ∧ CallNew b b' a c) := by
  cases h with
  | same h => exact Or.inl (h ▸ hc)
  | step ha hcall hstep h =>
      rw [h] at hc
      rcases getElem?_set_cases hc with ⟨rfl, rfl⟩ | ⟨-, hold⟩
      · exact Or.inr (Or.inl ⟨_, _, ha, hcall, hstep⟩)
      · exact Or.inl hold
  | new hnew h =>
      rw [h] at hc
      rcases getElem?_concat_cases hc with hold | ⟨hi, rfl⟩
      · exact Or.inl hold
      · exact Or.inr (Or.inr ⟨hi, hnew⟩)

/-- Where a call of the state before the move has gone. -/
theorem CallsNext.next (h : CallsNext b b' a) (hc : b.calls[i]? = some c) :
    b'.calls[i]? = some c ∨ ∃ x c', b'.calls[i]? = some c' ∧ CallStep b b' x c c' := by
  cases h with
  | same h => exact Or.inl (h ▸ hc)
  | @step j x c₁ c₂ ha hcall hstep h =>
      rw [h]
      rcases getElem?_set_of_some hc j c₂ with ⟨rfl, hnew⟩ | ⟨-, hold⟩
      · cases hcall.symm.trans hc
        exact Or.inr ⟨_, _, hnew, hstep⟩
      · exact Or.inl hold
  | new hnew h =>
      rw [h]
      exact Or.inl (getElem?_concat_of_some hc _)

/-- A `timeoutWait` keeps its id and its entry, and one that has finished does not change. -/
theorem CallerMove.wait_cases (h : CallerMove b a b') {w : TimeoutWait}
    (hw : b'.waits[i]? = some w) :
    b.waits[i]? = some w ∨ ∃ w₀, b.waits[i]? = some w₀ ∧ w₀.pc ≠ .finished ∧ w.id = w₀.id ∧
      w.p = w₀.p := by
  cases h with
  | waitDone hwait | waitExpire hwait | clean hwait =>
      rcases getElem?_set_cases hw with ⟨rfl, rfl⟩ | ⟨-, hold⟩
      · exact Or.inr ⟨_, hwait, by simp, rfl, rfl⟩
      · exact Or.inl hold
  | _ => exact Or.inl hw

/-- A `timeoutWait` that has not finished goes on, or it removes its id. -/
theorem CallerMove.wait_next (h : CallerMove b a b') {w : TimeoutWait}
    (hw : b.waits[i]? = some w) (hpc : w.pc ≠ .finished) :
    (∃ w', b'.waits[i]? = some w' ∧ w'.p = w.p ∧ w'.pc ≠ .finished) ∨
      b'.clientStreams = b.clientStreams.erase w.id := by
  cases h with
  | @waitDone j id p hwait | @waitExpire j id p hwait =>
      rcases getElem?_set_of_some hw j ⟨id, p, .woken⟩ with ⟨rfl, hnew⟩ | ⟨-, hold⟩
      · cases hwait.symm.trans hw
        exact Or.inl ⟨_, hnew, rfl, by simp⟩
      · exact Or.inl ⟨w, hold, rfl, hpc⟩
  | @clean j id p hwait =>
      rcases getElem?_set_of_some hw j ⟨id, p, .finished⟩ with ⟨rfl, -⟩ | ⟨-, hold⟩
      · cases hwait.symm.trans hw
        exact Or.inr rfl
      · exact Or.inl ⟨w, hold, rfl, hpc⟩
  | _ => exact Or.inl ⟨w, hw, rfl, hpc⟩

end Threads

/-! ### What a move does to the threads of the accepting side -/

/-- What becomes of the `listenForKnocks` goroutines in one move. -/
inductive ListensNext (b b' : GRPCBroker) (a : Act) : Prop where
  | same (h : b'.listens = b.listens)
  | step {i x l} (pc : ListenPc) (ha : a = .listen i x) (hl : b.listens[i]? = some l)
      (h : b'.listens = b.listens.set i { l with pc := pc })
  | new {j l} (ha : a = .listener j .spawn) (hl : b.listeners[j]? = some l)
      (h : b'.listens = b.listens ++ [⟨l.id, .starting⟩])

/-- What becomes of the `Accept` calls and their listeners in one move. -/
inductive ListenersNext (b b' : GRPCBroker) (a : Act) : Prop where
  | same (h : b'.listeners = b.listeners)
  | step {j x l} (pc : ListenerPc) (ha : a = .listener j x) (hl : b.listeners[j]? = some l)
      (h : b'.listeners = b.listeners.set j { l with pc := pc })
  | new {id} (ha : a = .accept id)
      (h : b'.listeners = b.listeners ++ [⟨id, b.serverStreams.slot id, .fetched⟩])

section Threads

variable {b b' : GRPCBroker} {a : Act} {i : Nat}

theorem Move.listensNext (h : Move b a b') : ListensNext b b' a := by
  cases h with
  | run h => cases h <;> exact .same rfl
  | caller h => cases h <;> exact .same rfl
  | accepter h =>
      cases h with
      | fetch hl | recv hl | recvBad hl | knocked hl | ack hl | ackFail hl | done hl =>
          exact .step _ rfl hl rfl
      | spawn hl => exact .new rfl hl rfl
      | accept | register | close | remove => exact .same rfl

theorem Move.listenersNext (h : Move b a b') : ListenersNext b b' a := by
  cases h with
  | run h => cases h <;> exact .same rfl
  | caller h => cases h <;> exact .same rfl
  | accepter h =>
      cases h with
      | spawn hl | register hl | close hl | remove hl => exact .step _ rfl hl rfl
      | accept => exact .new rfl rfl
      | fetch | recv | recvBad | knocked | ack | ackFail | done => exact .same rfl

/-- The goroutines keep their id. -/
theorem Move.listens (h : Move b a b') {l : Listen} (hl : b.listens[i]? = some l) :
    ∃ l', b'.listens[i]? = some l' ∧ l'.id = l.id := by
  cases h.listensNext with
  | same h =>
      rw [h]
      exact ⟨l, hl, rfl⟩
  | @step j x l₀ pc ha hl₀ h =>
      rw [h]
      rcases getElem?_set_of_some hl j { l₀ with pc := pc } with ⟨rfl, hnew⟩ | ⟨-, hold⟩
      · cases hl₀.symm.trans hl
        exact ⟨_, hnew, rfl⟩
      · exact ⟨l, hold, rfl⟩
  | new ha hl₀ h =>
      rw [h]
      exact ⟨l, getElem?_concat_of_some hl _, rfl⟩

/-- Listeners keep their id and their entry. -/
theorem Move.listeners (h : Move b a b') {l : Listener} (hl : b.listeners[i]? = some l) :
    ∃ l', b'.listeners[i]? = some l' ∧ l'.id = l.id ∧ l'.p = l.p := by
  cases h.listenersNext with
  | same h =>
      rw [h]
      exact ⟨l, hl, rfl, rfl⟩
  | @step j x l₀ pc ha hl₀ h =>
      rw [h]
      rcases getElem?_set_of_some hl j { l₀ with pc := pc } with ⟨rfl, hnew⟩ | ⟨-, hold⟩
      · cases hl₀.symm.trans hl
        exact ⟨_, hnew, rfl, rfl⟩
      · exact ⟨l, hold, rfl, rfl⟩
  | new ha h =>
      rw [h]
      exact ⟨l, getElem?_concat_of_some hl _, rfl, rfl⟩

end Threads

end GRPCBroker

end GoPlugin
