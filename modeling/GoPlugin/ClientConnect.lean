import GoPlugin.Config
import GoPlugin.ServerSession

/-!
# Connecting to the plugin (`Client.Client`, `newRPCClient`, `newGRPCClient`, `Client.dialer`)

A client that has been started makes its protocol client in the first `Client` call that succeeds.
With gRPC, `grpc.NewClient` gives a connection that dials in the background, when it is told to and
whenever it has lost its transport, so any number of `dialer` calls run besides the `Client` call
that holds the client's lock.  With `GRPCBrokerMultiplex` all of them go through `getGRPCMuxer`,
whose `grpcMuxerOnce` lets one of them dial; the plugin's muxer makes the first connection that it
accepts its session.

What `net.Dial`, `grpc.NewClient`, `yamux.Client` and `newGRPCStdioClient` give is left to the
environment, and so are connections that come to the plugin from elsewhere.  The client's address is
known: `Client` has called `Start` before.
-/

namespace GoPlugin

open Tally LabelledSystem

structure ConnectConfig where
  protocol : Protocol
  multiplex : Bool
deriving DecidableEq, Repr

/-- Where a connection to the plugin comes from. -/
inductive ConnUse where
  | rpc          -- `newRPCClient`
  | muxer        -- `NewGRPCClientMuxer`
  | direct       -- `netAddrDialer`
  | stranger
deriving DecidableEq, Repr

structure PluginConn where
  use : ConnUse
  closed : Bool
deriving DecidableEq, Repr

/-- The state of `grpcMuxerOnce`. -/
inductive MuxOnce where
  | idle
  | running
  | done
deriving DecidableEq, Repr

/-- Where a `getGRPCMuxer` call stands. -/
inductive GetMuxerPc where
  | entering               -- before `grpcMuxerOnce.Do`
  | dialing                -- it runs the once, in `net.Dial`
  | wrapping (n : Nat)     -- and in `yamux.Client`, on the `n`-th connection
  | returned
deriving DecidableEq, Repr

/-- It is about to dial. -/
def GetMuxerPc.dials : GetMuxerPc → Nat
  | .dialing => 1
  | _ => 0

/-- It runs the once. -/
def GetMuxerPc.runs : GetMuxerPc → Nat
  | .dialing | .wrapping _ => 1
  | _ => 0

/-- Where a `dialer` call of a gRPC connection stands. -/
inductive DialerPc where
  | muxing (pc : GetMuxerPc)
  | opening                      -- in `muxer.Dial` or `net.Dial`
  | returned (n : Option Nat)    -- a stream of the session on the `n`-th connection, or that one
deriving DecidableEq, Repr

/-- A weight of the `getGRPCMuxer` call that a `dialer` call is in. -/
def DialerPc.weigh (f : GetMuxerPc → Nat) : DialerPc → Nat
  | .muxing pc => f pc
  | _ => 0

/-- How a `Client` call ends; `k` is the gRPC connection that it made. -/
inductive ConnectResult where
  | ok (i : Nat)           -- the protocol client that the `i`-th call made
  | noDial
  | noSetup                -- `NewRPCClient`
  | noConn                 -- `grpc.NewClient`
  | noMuxer (k : Nat)
  | noStdio (k : Nat)      -- `newGRPCStdioClient`
deriving DecidableEq, Repr

/-- Where a `Client` call stands. -/
inductive ConnectPc where
  | entering                         -- before `c.l.Lock`
  | locked                           -- before it looks at `c.client`
  | dialing                          -- `newRPCClient`: in `net.Dial`
  | setup (n : Nat)                  -- in `NewRPCClient`
  | newConn                          -- `newGRPCClient`: in `grpc.NewClient`
  | muxing (k : Nat) (pc : GetMuxerPc)
  | stdio (k : Nat)                  -- the broker runs; in `newGRPCStdioClient`
  | returned (r : ConnectResult)
deriving DecidableEq, Repr

namespace ConnectPc

/-- The call has the lock. -/
def holds : ConnectPc → Bool
  | .entering | .returned _ => false
  | _ => true

/-- It makes a protocol client, of the one kind or of the other. -/
def makes : ConnectPc → Option Protocol
  | .dialing | .setup _ => some .netRPC
  | .newConn | .muxing _ _ | .stdio _ => some .grpc
  | _ => none

/-- The gRPC connection that it made is still its own, or lost. -/
def conns : ConnectPc → Nat
  | .muxing _ _ | .stdio _ | .returned (.noMuxer _) | .returned (.noStdio _) => 1
  | _ => 0

/-- And so is a broker with its goroutines. -/
def brokers : ConnectPc → Nat
  | .stdio _ | .returned (.noStdio _) => 1
  | _ => 0

def rpcConns : ConnectPc → Nat
  | .setup _ => 1
  | _ => 0

/-- A weight of the `getGRPCMuxer` call that it is in. -/
def weigh (f : GetMuxerPc → Nat) : ConnectPc → Nat
  | .muxing _ pc => f pc
  | _ => 0

end ConnectPc

/-- A connection of `newRPCClient` that is open. -/
def PluginConn.rpcOpen : PluginConn → Nat
  | ⟨.rpc, false⟩ => 1
  | _ => 0

/-- A connection that the client made. -/
def PluginConn.own (x : PluginConn) : Nat := if x.use = .stranger then 0 else 1

/-- The client, the connections to the plugin in the order in which they were made, and the
    plugin's muxer.  `conns` are the gRPC connections, by the `Client` call that made them, and
    `brokers` those with a broker that runs. -/
structure Connecting where
  lock : Option Nat
  client : Option Nat
  calls : List ConnectPc
  conns : List Nat
  brokers : List Nat
  once : MuxOnce
  muxer : Option Nat
  muxerErr : Bool
  dialers : List DialerPc
  dialled : List PluginConn
  plugin : ServerSession
deriving DecidableEq, Repr

namespace Connecting

def init : Connecting where
  lock := none
  client := none
  calls := []
  conns := []
  brokers := []
  once := .idle
  muxer := none
  muxerErr := false
  dialers := []
  dialled := []
  plugin := .init

inductive Act where
  | client                        -- a goroutine calls `Client`
  | call (i : Nat) (ok : Bool)    -- the `i`-th call goes on
  | dial                          -- a gRPC connection calls `dialer`
  | dialer (d : Nat) (ok : Bool)  -- the `d`-th call goes on
  | stranger
  | plugin (a : ServerSession.Act)
deriving DecidableEq, Repr

/-- A step of `getGRPCMuxer`. -/
def muxNext (s : Connecting) (ok : Bool) : GetMuxerPc → Option (Connecting × GetMuxerPc)
  | .entering =>
      match s.once with
      | .idle => some ({ s with once := .running }, .dialing)
      | .running => none
      | .done => some (s, .returned)
  | .dialing =>
      if ok then
        some ({ s with dialled := s.dialled ++ [⟨.muxer, false⟩] }, .wrapping s.dialled.length)
      else some ({ s with once := .done, muxerErr := true }, .returned)
  | .wrapping n =>
      if ok then some ({ s with once := .done, muxer := some n }, .returned)
      else some ({ s with once := .done, muxerErr := true }, .returned)
  | .returned => none

def setCall (s : Connecting) (i : Nat) (pc : ConnectPc) : Connecting :=
  { s with calls := s.calls.set i pc }

/-- The `i`-th `Client` call returns and gives the lock back. -/
def leave (s : Connecting) (i : Nat) (r : ConnectResult) : Connecting :=
  { s with lock := none, calls := s.calls.set i (.returned r) }

def callStep (cfg : ConnectConfig) (s : Connecting) (i : Nat) (ok : Bool) : Option Connecting :=
  match s.calls[i]? with
  | some .entering =>
      if s.lock = none then some { s.setCall i .locked with lock := some i } else none
  | some .locked =>
      match s.client with
      | some j => some (s.leave i (.ok j))
      | none =>
          match cfg.protocol with
          | .netRPC => some (s.setCall i .dialing)
          | .grpc => some (s.setCall i .newConn)
  | some .dialing =>
      if ok then
        some { s.setCall i (.setup s.dialled.length) with
          dialled := s.dialled ++ [⟨.rpc, false⟩] }
      else some (s.leave i .noDial)
  | some (.setup n) =>
      if ok then some { s.leave i (.ok i) with client := some i }
      else
        some { s.leave i .noSetup with
          dialled := s.dialled.modify n fun x => { x with closed := true } }
  | some .newConn =>
      if ok then
        some { s.setCall i
            (.muxing s.conns.length (if cfg.multiplex then .entering else .returned)) with
          conns := s.conns ++ [i] }
      else some (s.leave i .noConn)
  | some (.muxing k .returned) =>
      if s.muxerErr then some (s.leave i (.noMuxer k))
      else some { s.setCall i (.stdio k) with brokers := s.brokers ++ [k] }
  | some (.muxing k pc) => (s.muxNext ok pc).map fun x => x.1.setCall i (.muxing k x.2)
  | some (.stdio k) =>
      if ok then some { s.leave i (.ok i) with client := some i }
      else some (s.leave i (.noStdio k))
  | some (.returned _) | none => none

def setDialer (s : Connecting) (d : Nat) (pc : DialerPc) : Connecting :=
  { s with dialers := s.dialers.set d pc }

def dialerStep (s : Connecting) (d : Nat) (ok : Bool) : Option Connecting :=
  match s.dialers[d]? with
  | some (.muxing .returned) =>
      if s.muxerErr then some (s.setDialer d (.returned none)) else some (s.setDialer d .opening)
  | some (.muxing pc) => (s.muxNext ok pc).map fun x => x.1.setDialer d (.muxing x.2)
  | some .opening =>
      if ok then
        match s.muxer with
        | some n => some (s.setDialer d (.returned (some n)))
        | none =>
            some { s.setDialer d (.returned (some s.dialled.length)) with
              dialled := s.dialled ++ [⟨.direct, false⟩] }
      else some (s.setDialer d (.returned none))
  | some (.returned _) | none => none

/-- The plugin's listener gives the connections in their order, and its muxer accepts one. -/
def arrives (s : Connecting) : ServerSession.Act → Bool
  | .accept (some n) => n = 0 && !s.dialled.isEmpty
  | _ => true

def step (cfg : ConnectConfig) (s : Connecting) : Act → Option Connecting
  | .client => some { s with calls := s.calls ++ [.entering] }
  | .call i ok => callStep cfg s i ok
  | .dial =>
      if s.conns = [] then none
      else
        some { s with
          dialers := s.dialers ++ [if cfg.multiplex then .muxing .entering else .muxing .returned] }
  | .dialer d ok => s.dialerStep d ok
  | .stranger => some { s with dialled := s.dialled ++ [⟨.stranger, false⟩] }
  | .plugin a =>
      if s.arrives a then (ServerSession.step s.plugin a).map fun p => { s with plugin := p }
      else none

/-! ### What one step can do -/

inductive MuxNext (s : Connecting) : GetMuxerPc → Connecting → GetMuxerPc → Prop where
  | first (h : s.once = .idle) : MuxNext s .entering { s with once := .running } .dialing
  | later (h : s.once = .done) : MuxNext s .entering s .returned
  | dialled :
      MuxNext s .dialing { s with dialled := s.dialled ++ [⟨.muxer, false⟩] }
        (.wrapping s.dialled.length)
  | dialFails : MuxNext s .dialing { s with once := .done, muxerErr := true } .returned
  | wrapped {n} : MuxNext s (.wrapping n) { s with once := .done, muxer := some n } .returned
  | wrapFails {n} : MuxNext s (.wrapping n) { s with once := .done, muxerErr := true } .returned

theorem muxNext_eq_some {s s' : Connecting} {ok : Bool} {pc pc' : GetMuxerPc}
    (h : s.muxNext ok pc = some (s', pc')) : MuxNext s pc s' pc' := by
  cases pc with
  | entering =>
      simp only [muxNext] at h
      split at h
      · next honce =>
          cases h
          exact .first honce
      · cases h
      · next honce =>
          cases h
          exact .later honce
  | dialing =>
      cases ok with
      | true =>
          cases h
          exact .dialled
      | false =>
          cases h
          exact .dialFails
  | wrapping n =>
      cases ok with
      | true =>
          cases h
          exact .wrapped
      | false =>
          cases h
          exact .wrapFails
  | returned => cases h

inductive Next (cfg : ConnectConfig) (s : Connecting) : Act → Connecting → Prop where
  | client : Next cfg s .client { s with calls := s.calls ++ [.entering] }
  | lock {i ok} (hi : s.calls[i]? = some .entering) (h : s.lock = none) :
      Next cfg s (.call i ok) { s with lock := some i, calls := s.calls.set i .locked }
  | cached {i ok j} (hi : s.calls[i]? = some .locked) (h : s.client = some j) :
      Next cfg s (.call i ok) (s.leave i (.ok j))
  | rpc {i ok} (hi : s.calls[i]? = some .locked) (h : s.client = none)
      (hp : cfg.protocol = .netRPC) :
      Next cfg s (.call i ok) { s with calls := s.calls.set i .dialing }
  | grpc {i ok} (hi : s.calls[i]? = some .locked) (h : s.client = none)
      (hp : cfg.protocol = .grpc) :
      Next cfg s (.call i ok) { s with calls := s.calls.set i .newConn }
  | dialled {i} (hi : s.calls[i]? = some .dialing) :
      Next cfg s (.call i true)
        { s with
          calls := s.calls.set i (.setup s.dialled.length)
          dialled := s.dialled ++ [⟨.rpc, false⟩] }
  | setupFails {i n} (hi : s.calls[i]? = some (.setup n)) :
      Next cfg s (.call i false)
        { s.leave i .noSetup with
          dialled := s.dialled.modify n fun x => { x with closed := true } }
  | conn {i} (hi : s.calls[i]? = some .newConn) :
      Next cfg s (.call i true)
        { s with
          calls := s.calls.set i
            (.muxing s.conns.length (if cfg.multiplex then .entering else .returned))
          conns := s.conns ++ [i] }
  | mux {i ok k pc s' pc'} (hi : s.calls[i]? = some (.muxing k pc)) (h : MuxNext s pc s' pc') :
      Next cfg s (.call i ok) { s' with calls := s'.calls.set i (.muxing k pc') }
  | broker {i ok k} (hi : s.calls[i]? = some (.muxing k .returned)) (h : s.muxerErr = false) :
      Next cfg s (.call i ok)
        { s with calls := s.calls.set i (.stdio k), brokers := s.brokers ++ [k] }
  | fails {i ok pc r} (hi : s.calls[i]? = some pc)
      (h : (pc = .dialing ∧ r = .noDial) ∨ (pc = .newConn ∧ r = .noConn) ∨
        (∃ k, pc = .muxing k .returned ∧ s.muxerErr = true ∧ r = .noMuxer k) ∨
        ∃ k, pc = .stdio k ∧ r = .noStdio k) :
      Next cfg s (.call i ok) (s.leave i r)
  | made {i pc} (hi : s.calls[i]? = some pc)
      (h : (∃ n, pc = .setup n) ∨ ∃ k, pc = .stdio k) :
      Next cfg s (.call i true) { s.leave i (.ok i) with client := some i }
  | dial (h : s.conns ≠ []) :
      Next cfg s .dial
        { s with
          dialers := s.dialers ++ [if cfg.multiplex then .muxing .entering else .muxing .returned] }
  | dialerMux {d ok pc s' pc'} (hd : s.dialers[d]? = some (.muxing pc)) (h : MuxNext s pc s' pc') :
      Next cfg s (.dialer d ok) { s' with dialers := s'.dialers.set d (.muxing pc') }
  | opens {d ok} (hd : s.dialers[d]? = some (.muxing .returned)) (h : s.muxerErr = false) :
      Next cfg s (.dialer d ok) { s with dialers := s.dialers.set d .opening }
  | stream {d n} (hd : s.dialers[d]? = some .opening) (h : s.muxer = some n) :
      Next cfg s (.dialer d true) { s with dialers := s.dialers.set d (.returned (some n)) }
  | direct {d} (hd : s.dialers[d]? = some .opening) (h : s.muxer = none) :
      Next cfg s (.dialer d true)
        { s with
          dialers := s.dialers.set d (.returned (some s.dialled.length))
          dialled := s.dialled ++ [⟨.direct, false⟩] }
  | dialerFails {d ok pc} (hd : s.dialers[d]? = some pc)
      (h : (pc = .muxing .returned ∧ s.muxerErr = true) ∨ pc = .opening) :
      Next cfg s (.dialer d ok) { s with dialers := s.dialers.set d (.returned none) }
  | stranger : Next cfg s .stranger { s with dialled := s.dialled ++ [⟨.stranger, false⟩] }
  | plugin {a p} (ha : s.arrives a = true) (h : ServerSession.step s.plugin a = some p) :
      Next cfg s (.plugin a) { s with plugin := p }

theorem next_of_callStep {cfg : ConnectConfig} {s s' : Connecting} {i : Nat} {ok : Bool}
    (h : callStep cfg s i ok = some s') : Next cfg s (.call i ok) s' := by
  unfold callStep at h
  split at h
  · next hi =>
      split at h
      · next hlock =>
          cases h
          exact .lock hi hlock
      · cases h
  · next hi =>
      split at h
      · next j hclient =>
          cases h
          exact .cached hi hclient
      · next hclient =>
          split at h
          · next hp =>
              cases h
              exact .rpc hi hclient hp
          · next hp =>
              cases h
              exact .grpc hi hclient hp
  · next hi =>
      cases ok with
      | true =>
          cases h
          exact .dialled hi
      | false =>
          cases h
          exact .fails hi (Or.inl ⟨rfl, rfl⟩)
  · next n hi =>
      cases ok with
      | true =>
          cases h
          exact .made hi (Or.inl ⟨n, rfl⟩)
      | false =>
          cases h
          exact .setupFails hi
  · next hi =>
      cases ok with
      | true =>
          cases h
          exact .conn hi
      | false =>
          cases h
          exact .fails hi (Or.inr (Or.inl ⟨rfl, rfl⟩))
  · next k hi =>
      split at h
      · next herr =>
          cases h
          exact .fails hi (Or.inr (Or.inr (Or.inl ⟨k, rfl, herr, rfl⟩)))
      · next herr =>
          cases h
          exact .broker hi (by simpa using herr)
  · next k pc _ hi =>
      obtain ⟨⟨s₁, pc'⟩, hnext, rfl⟩ := Option.map_eq_some_iff.mp h
      exact .mux hi (muxNext_eq_some hnext)
  · next k hi =>
      cases ok with
      | true =>
          cases h
          exact .made hi (Or.inr ⟨k, rfl⟩)
      | false =>
          cases h
          exact .fails hi (Or.inr (Or.inr (Or.inr ⟨k, rfl, rfl⟩)))
  · cases h
  · cases h

theorem next_of_dialerStep {cfg : ConnectConfig} {s s' : Connecting} {d : Nat} {ok : Bool}
    (h : s.dialerStep d ok = some s') : Next cfg s (.dialer d ok) s' := by
  unfold dialerStep at h
  split at h
  · next hd =>
      split at h
      · next herr =>
          cases h
          exact .dialerFails hd (Or.inl ⟨rfl, herr⟩)
      · next herr =>
          cases h
          exact .opens hd (by simpa using herr)
  · next pc _ hd =>
      obtain ⟨⟨s₁, pc'⟩, hnext, rfl⟩ := Option.map_eq_some_iff.mp h
      exact .dialerMux hd (muxNext_eq_some hnext)
  · next hd =>
      cases ok with
      | false =>
          cases h
          exact .dialerFails hd (Or.inr rfl)
      | true =>
          rw [if_pos rfl] at h
          split at h
          · next n hmuxer =>
              cases h
              exact .stream hd hmuxer
          · next hmuxer =>
              cases h
              exact .direct hd hmuxer
  · cases h
  · cases h

theorem next_of_step {cfg : ConnectConfig} {s s' : Connecting} {a : Act}
    (h : step cfg s a = some s') : Next cfg s a s' := by
  cases a with
  | client =>
      cases h
      exact .client
  | call i ok => exact next_of_callStep h
  | dial =>
      simp only [step] at h
      split at h
      · cases h
      · next hconns =>
          cases h
          exact .dial hconns
  | dialer d ok => exact next_of_dialerStep h
  | stranger =>
      cases h
      exact .stranger
  | plugin a =>
      simp only [step] at h
      split at h
      · next ha =>
          obtain ⟨p, hp, rfl⟩ := Option.map_eq_some_iff.mp h
          exact .plugin ha hp
      · cases h

/-! ### One client, and what failed calls leave -/

structure Accounted (cfg : ConnectConfig) (s : Connecting) : Prop where
  owner : ∀ i, s.lock = some i → i < s.calls.length
  lock : ∀ (i : Nat) pc, s.calls[i]? = some pc → (pc.holds = true ↔ s.lock = some i)
  makes : ∀ pc ∈ s.calls, ∀ p, pc.makes = some p → s.client = none ∧ p = cfg.protocol
  ok : ∀ j, .returned (.ok j) ∈ s.calls → s.client = some j
  conns : s.conns.length = tally ConnectPc.conns s.calls +
    if cfg.protocol = .grpc ∧ s.client ≠ none then 1 else 0
  brokers : s.brokers.length = tally ConnectPc.brokers s.calls +
    if cfg.protocol = .grpc ∧ s.client ≠ none then 1 else 0
  rpcConns : tally PluginConn.rpcOpen s.dialled = tally ConnectPc.rpcConns s.calls +
    if cfg.protocol = .netRPC ∧ s.client ≠ none then 1 else 0
  setup : ∀ n, .setup n ∈ s.calls → s.dialled[n]? = some ⟨.rpc, false⟩

theorem accounted_init (cfg : ConnectConfig) : Accounted cfg init := by
  constructor <;> simp [init]

/-- The caller that has the lock is one. -/
theorem Accounted.eq_of_holds {cfg : ConnectConfig} {s : Connecting} (h : Accounted cfg s)
    {i j : Nat} {pc pc' : ConnectPc} (hi : s.calls[i]? = some pc) (hj : s.calls[j]? = some pc')
    (hpc : pc.holds = true) (hpc' : pc'.holds = true) : i = j := by
  have hlock := (h.lock i pc hi).mp hpc
  rw [(h.lock j pc' hj).mp hpc'] at hlock
  exact (Option.some.inj hlock).symm

theorem holds_of_makes {pc : ConnectPc} {p : Protocol} (h : pc.makes = some p) :
    pc.holds = true := by
  cases pc with
  | entering | locked | returned => cases h
  | dialing | setup | newConn | muxing | stdio => rfl

/-- What the dialers, the once, strangers and the plugin do is no concern of the calls. -/
theorem Accounted.frame {cfg : ConnectConfig} {s s' : Connecting} (h : Accounted cfg s)
    (hlock : s'.lock = s.lock) (hclient : s'.client = s.client) (hcalls : s'.calls = s.calls)
    (hconns : s'.conns = s.conns) (hbrokers : s'.brokers = s.brokers)
    (hdialled : s'.dialled = s.dialled ∨
      ∃ use, use ≠ .rpc ∧ s'.dialled = s.dialled ++ [⟨use, false⟩]) : Accounted cfg s' := by
  have hrpc : tally PluginConn.rpcOpen s'.dialled = tally PluginConn.rpcOpen s.dialled := by
    rcases hdialled with hsame | ⟨use, huse, hnew⟩
    · rw [hsame]
    · rw [hnew, tally_append, tally_cons, tally_nil]
      cases use with
      | rpc => exact absurd rfl huse
      | muxer | direct | stranger => rfl
  constructor
  · rw [hlock, hcalls]
    exact h.owner
  · rw [hlock, hcalls]
    exact h.lock
  · rw [hclient, hcalls]
    exact h.makes
  · rw [hclient, hcalls]
    exact h.ok
  · rw [hconns, hcalls, hclient]
    exact h.conns
  · rw [hbrokers, hcalls, hclient]
    exact h.brokers
  · rw [hrpc, hcalls, hclient]
    exact h.rpcConns
  · rw [hcalls]
    intro n hn
    have hat := h.setup n hn
    rcases hdialled with hsame | ⟨use, -, hnew⟩
    · rw [hsame]
      exact hat
    · rw [hnew]
      exact getElem?_concat_of_some hat _

/-- The call that has the lock, or gets it, goes on. -/
theorem Accounted.advance {cfg : ConnectConfig} {s s' : Connecting} {i : Nat} {pc pc' : ConnectPc}
    (h : Accounted cfg s) (hi : s.calls[i]? = some pc)
    (hcan : s.lock = none ∨ s.lock = some i) (hpc' : pc'.holds = true)
    (hmakes : ∀ p, pc'.makes = some p → s.client = none ∧ p = cfg.protocol)
    (hlock : s'.lock = some i) (hclient : s'.client = s.client)
    (hcalls : s'.calls = s.calls.set i pc')
    (hconns : s'.conns.length + pc.conns = s.conns.length + pc'.conns)
    (hbrokers : s'.brokers.length + pc.brokers = s.brokers.length + pc'.brokers)
    (hrpc : tally PluginConn.rpcOpen s'.dialled + pc.rpcConns =
      tally PluginConn.rpcOpen s.dialled + pc'.rpcConns)
    (hgrows : ∀ (n : Nat) x, s.dialled[n]? = some x → s'.dialled[n]? = some x)
    (hsetup : ∀ n, pc' = .setup n → s'.dialled[n]? = some ⟨.rpc, false⟩) : Accounted cfg s' := by
  have hset : ∀ f : ConnectPc → Nat, tally f s'.calls + f pc = tally f s.calls + f pc' := by
    intro f
    rw [hcalls]
    exact tally_set f pc' hi
  refine ⟨fun j hj => ?_, fun j q hj => ?_, fun q hq p hp => ?_, fun j hj => ?_, ?_, ?_, ?_,
    fun n hn => ?_⟩
  · rw [hlock] at hj
    cases hj
    rw [hcalls, List.length_set]
    exact (List.getElem?_eq_some_iff.mp hi).1
  · rw [hcalls] at hj
    rw [hlock]
    rcases getElem?_set_cases hj with ⟨rfl, rfl⟩ | ⟨hne, hold⟩
    · simp [hpc']
    · -- another call has the lock neither before nor after
      have hiff := h.lock j q hold
      have hfree : s.lock ≠ some j := by
        rcases hcan with hnone | hsome
        · simp [hnone]
        · rw [hsome]
          exact fun heq => hne (Option.some.inj heq)
      constructor
      · intro hholds
        exact absurd (hiff.mp hholds) hfree
      · intro heq
        exact absurd (Option.some.inj heq) hne
  · rw [hclient]
    rw [hcalls] at hq
    rcases List.mem_or_eq_of_mem_set hq with hold | rfl
    · exact h.makes q hold p hp
    · exact hmakes p hp
  · rw [hclient]
    rw [hcalls] at hj
    rcases List.mem_or_eq_of_mem_set hj with hold | heq
    · exact h.ok j hold
    · rw [← heq] at hpc'
      cases hpc'
  · have hsum := h.conns
    have htally := hset ConnectPc.conns
    rw [hclient]
    omega
  · have hsum := h.brokers
    have htally := hset ConnectPc.brokers
    rw [hclient]
    omega
  · have hsum := h.rpcConns
    have htally := hset ConnectPc.rpcConns
    rw [hclient]
    omega
  · rw [hcalls] at hn
    rcases List.mem_or_eq_of_mem_set hn with hold | heq
    · exact hgrows n _ (h.setup n hold)
    · exact hsetup n heq.symm

/-- The call that has the lock returns. -/
theorem Accounted.leaves {cfg : ConnectConfig} {s s' : Connecting} {i : Nat} {pc : ConnectPc}
    {r : ConnectResult} (h : Accounted cfg s) (hi : s.calls[i]? = some pc)
    (hpc : pc.holds = true) (hlock : s'.lock = none)
    (hcalls : s'.calls = s.calls.set i (.returned r))
    (hclient : s'.client = s.client ∨ s.client = none)
    (hok : ∀ j, r = .ok j → s'.client = some j)
    (hconns : s'.conns.length + pc.conns +
        (if cfg.protocol = .grpc ∧ s.client ≠ none then 1 else 0) =
      s.conns.length + (ConnectPc.returned r).conns +
        if cfg.protocol = .grpc ∧ s'.client ≠ none then 1 else 0)
    (hbrokers : s'.brokers.length + pc.brokers +
        (if cfg.protocol = .grpc ∧ s.client ≠ none then 1 else 0) =
      s.brokers.length + (ConnectPc.returned r).brokers +
        if cfg.protocol = .grpc ∧ s'.client ≠ none then 1 else 0)
    (hrpc : tally PluginConn.rpcOpen s'.dialled + pc.rpcConns +
        (if cfg.protocol = .netRPC ∧ s.client ≠ none then 1 else 0) =
      tally PluginConn.rpcOpen s.dialled + (ConnectPc.returned r).rpcConns +
        if cfg.protocol = .netRPC ∧ s'.client ≠ none then 1 else 0) : Accounted cfg s' := by
  have hset : ∀ f : ConnectPc → Nat,
      tally f s'.calls + f pc = tally f s.calls + f (.returned r) := by
    intro f
    rw [hcalls]
    exact tally_set f (.returned r) hi
  have hother : ∀ {j : Nat} {q : ConnectPc}, j ≠ i → s.calls[j]? = some q → q.holds = false := by
    intro j q hne hj
    by_contra hq
    exact hne (h.eq_of_holds hj hi (by simpa using hq) hpc)
  -- so nobody else makes a client
  have hnone : ∀ q ∈ s'.calls, q.holds = false := by
    intro q hq
    obtain ⟨j, hj⟩ := List.mem_iff_getElem?.mp hq
    rw [hcalls] at hj
    rcases getElem?_set_cases hj with ⟨-, rfl⟩ | ⟨hne, hold⟩
    · rfl
    · exact hother (Ne.symm hne) hold
  refine ⟨fun j hj => ?_, fun j q hj => ?_, fun q hq p hp => ?_, fun j hj => ?_, ?_, ?_, ?_,
    fun n hn => ?_⟩
  · rw [hlock] at hj
    cases hj
  · rw [hlock, hnone q (List.mem_of_getElem? hj)]
    simp
  · have hholds := holds_of_makes hp
    rw [hnone q hq] at hholds
    cases hholds
  · rw [hcalls] at hj
    rcases List.mem_or_eq_of_mem_set hj with hold | heq
    · have hj' := h.ok j hold
      rcases hclient with hsame | hempty
      · rw [hsame, hj']
      · rw [hempty] at hj'
        cases hj'
    · cases heq
      exact hok j rfl
  · have hsum := h.conns
    have htally := hset ConnectPc.conns
    omega
  · have hsum := h.brokers
    have htally := hset ConnectPc.brokers
    omega
  · have hsum := h.rpcConns
    have htally := hset ConnectPc.rpcConns
    omega
  · have hholds := hnone _ hn
    cases hholds

theorem MuxNext.frame {s s' : Connecting} {pc pc' : GetMuxerPc} (h : MuxNext s pc s' pc') :
    s'.lock = s.lock ∧ s'.client = s.client ∧ s'.calls = s.calls ∧ s'.conns = s.conns ∧
      s'.brokers = s.brokers ∧ s'.dialers = s.dialers ∧ s'.plugin = s.plugin ∧
      (s'.dialled = s.dialled ∨ s'.dialled = s.dialled ++ [⟨.muxer, false⟩]) := by
  cases h with
  | dialled => exact ⟨rfl, rfl, rfl, rfl, rfl, rfl, rfl, Or.inr rfl⟩
  | first | later | dialFails | wrapped | wrapFails =>
      exact ⟨rfl, rfl, rfl, rfl, rfl, rfl, rfl, Or.inl rfl⟩

theorem Accounted.next {cfg : ConnectConfig} {s s' : Connecting} {a : Act} (h : Accounted cfg s)
    (hnext : Next cfg s a s') : Accounted cfg s' := by
  have hlocked : ∀ {i : Nat} {pc : ConnectPc}, s.calls[i]? = some pc → pc.holds = true →
      s.lock = some i := fun hi hpc => (h.lock _ _ hi).mp hpc
  have hmakes : ∀ {i : Nat} {pc : ConnectPc} {p : Protocol}, s.calls[i]? = some pc →
      pc.makes = some p → s.client = none ∧ p = cfg.protocol := fun hi hp =>
    h.makes _ (List.mem_of_getElem? hi) _ hp
  cases hnext with
  | client =>
      refine ⟨fun j hj => ?_, fun j q hj => ?_, fun q hq p hp => ?_, fun j hj => ?_, ?_, ?_, ?_,
        fun n hn => ?_⟩
      · have hlt := h.owner j hj
        rw [List.length_append]
        omega
      · rcases getElem?_concat_cases hj with hold | ⟨rfl, rfl⟩
        · exact h.lock j q hold
        · constructor
          · intro hholds
            cases hholds
          · intro hlock
            exact absurd (h.owner _ hlock) (Nat.lt_irrefl _)
      · rcases List.mem_append.mp hq with hold | hnew
        · exact h.makes q hold p hp
        · rw [List.mem_singleton.mp hnew] at hp
          cases hp
      · rcases List.mem_append.mp hj with hold | hnew
        · exact h.ok j hold
        · cases List.mem_singleton.mp hnew
      · simpa [ConnectPc.conns] using h.conns
      · simpa [ConnectPc.brokers] using h.brokers
      · simpa [ConnectPc.rpcConns] using h.rpcConns
      · rcases List.mem_append.mp hn with hold | hnew
        · exact h.setup n hold
        · cases List.mem_singleton.mp hnew
  | lock hi hfree =>
      exact h.advance hi (Or.inl hfree) rfl (by intro p hp; cases hp) rfl rfl rfl rfl rfl rfl
        (fun _ _ hx => hx) (by intro n hn; cases hn)
  | cached hi hclient =>
      refine h.leaves hi rfl rfl rfl (Or.inl rfl) (fun j hj => ?_) rfl rfl rfl
      cases hj
      exact hclient
  | rpc hi hclient hp =>
      have hl := hlocked hi rfl
      refine h.advance hi (Or.inr hl) rfl (fun p hpc => ?_) hl rfl rfl rfl rfl rfl
        (fun _ _ hx => hx) (by intro n hn; cases hn)
      cases hpc
      exact ⟨hclient, hp.symm⟩
  | grpc hi hclient hp =>
      have hl := hlocked hi rfl
      refine h.advance hi (Or.inr hl) rfl (fun p hpc => ?_) hl rfl rfl rfl rfl rfl
        (fun _ _ hx => hx) (by intro n hn; cases hn)
      cases hpc
      exact ⟨hclient, hp.symm⟩
  | dialled hi =>
      have hl := hlocked hi rfl
      refine h.advance hi (Or.inr hl) rfl (fun p hpc => ?_) hl rfl rfl rfl rfl ?_
        (fun _ _ hx => getElem?_concat_of_some hx _) (fun n hn => ?_)
      · cases hpc
        exact hmakes hi rfl
      · rw [tally_append]
        rfl
      · cases hn
        exact List.getElem?_concat_length
  | setupFails hi =>
      have hclient := (hmakes hi rfl).1
      have hat := h.setup _ (List.mem_of_getElem? hi)
      have hmodify := tally_modify PluginConn.rpcOpen (fun x => { x with closed := true }) hat
      simp only [PluginConn.rpcOpen] at hmodify
      refine h.leaves hi rfl rfl rfl (Or.inl rfl) (by intro j hj; cases hj) rfl rfl ?_
      simp only [leave, hclient, ConnectPc.rpcConns, ne_eq, not_true_eq_false, and_false, if_false]
      omega
  | @conn i hi =>
      have hl := hlocked hi rfl
      refine h.advance hi (Or.inr hl) ?_ (fun p hpc => ?_) hl rfl rfl ?_ ?_ ?_
        (fun _ _ hx => hx) (by intro n hn; cases hn)
      · rfl
      · cases hpc
        exact hmakes hi rfl
      · simp [ConnectPc.conns]
      · rfl
      · rfl
  | @mux i ok k pc s₁ pc' hi hmux =>
      obtain ⟨hlock, hclient, hcalls, hconns, hbrokers, -, -, hdialled⟩ := hmux.frame
      have hframe : Accounted cfg s₁ := h.frame hlock hclient hcalls hconns hbrokers
        (hdialled.imp id fun hnew => ⟨.muxer, by simp, hnew⟩)
      have hi₁ : s₁.calls[i]? = some (.muxing k pc) := by rw [hcalls, hi]
      have hl := (hframe.lock i _ hi₁).mp rfl
      refine hframe.advance hi₁ (Or.inr hl) rfl (fun p hpc => ?_) hl rfl rfl rfl rfl rfl
        (fun _ _ hx => hx) (by intro n hn; cases hn)
      cases hpc
      rw [hclient]
      exact hmakes hi rfl
  | broker hi herr =>
      have hl := hlocked hi rfl
      refine h.advance hi (Or.inr hl) rfl (fun p hpc => ?_) hl rfl rfl rfl ?_ rfl
        (fun _ _ hx => hx) (by intro n hn; cases hn)
      · cases hpc
        exact hmakes hi rfl
      · simp [ConnectPc.brokers]
  | fails hi hcase =>
      rcases hcase with ⟨rfl, rfl⟩ | ⟨rfl, rfl⟩ | ⟨k, rfl, -, rfl⟩ | ⟨k, rfl, rfl⟩
      · exact h.leaves hi rfl rfl rfl (Or.inl rfl) (by intro j hj; cases hj) rfl rfl rfl
      · exact h.leaves hi rfl rfl rfl (Or.inl rfl) (by intro j hj; cases hj) rfl rfl rfl
      · exact h.leaves hi rfl rfl rfl (Or.inl rfl) (by intro j hj; cases hj) rfl rfl rfl
      · exact h.leaves hi rfl rfl rfl (Or.inl rfl) (by intro j hj; cases hj) rfl rfl rfl
  | made hi hcase =>
      rcases hcase with ⟨n, rfl⟩ | ⟨k, rfl⟩
      · obtain ⟨hclient, hp⟩ := hmakes hi rfl
        refine h.leaves hi rfl rfl rfl (Or.inr hclient) (fun j hj => ?_) ?_ ?_ ?_
        · cases hj
          rfl
        · simp [← hp, ConnectPc.conns, leave]
        · simp [← hp, ConnectPc.brokers, leave]
        · simp [← hp, hclient, ConnectPc.rpcConns, leave]
      · obtain ⟨hclient, hp⟩ := hmakes hi rfl
        refine h.leaves hi rfl rfl rfl (Or.inr hclient) (fun j hj => ?_) ?_ ?_ ?_
        · cases hj
          rfl
        · simp [← hp, hclient, ConnectPc.conns, leave]
        · simp [← hp, hclient, ConnectPc.brokers, leave]
        · simp [← hp, ConnectPc.rpcConns, leave]
  | dial | opens | stream | dialerFails | plugin =>
      exact h.frame rfl rfl rfl rfl rfl (Or.inl rfl)
  | dialerMux hd hmux =>
      obtain ⟨hlock, hclient, hcalls, hconns, hbrokers, -, -, hdialled⟩ := hmux.frame
      exact h.frame hlock hclient hcalls hconns hbrokers
        (hdialled.imp id fun hnew => ⟨.muxer, by simp, hnew⟩)
  | direct => exact h.frame rfl rfl rfl rfl rfl (Or.inr ⟨.direct, by simp, rfl⟩)
  | stranger => exact h.frame rfl rfl rfl rfl rfl (Or.inr ⟨.stranger, by simp, rfl⟩)

/-- **One protocol client, and what failed calls leave.**  In every run, with any number of `Client`
    calls and of dials in the background: all `Client` calls that succeed return the same client.
    With net/rpc a failed call leaves no connection open.  With gRPC the connections of
    `grpc.NewClient` and the brokers that there are belong to the client or to a call: each call that
    failed behind `grpc.NewClient` leaves its connection behind, and its broker if it got as far. -/
theorem client_calls_account (cfg : ConnectConfig) (run : List Act) {s : Connecting}
    (hrun : exec (step cfg) init run = some s) :
    (∀ i, .returned (.ok i) ∈ s.calls → s.client = some i) ∧
    tally PluginConn.rpcOpen s.dialled = tally ConnectPc.rpcConns s.calls +
      (if cfg.protocol = .netRPC ∧ s.client ≠ none then 1 else 0) ∧
    s.conns.length = tally ConnectPc.conns s.calls +
      (if cfg.protocol = .grpc ∧ s.client ≠ none then 1 else 0) ∧
    s.brokers.length = tally ConnectPc.brokers s.calls +
      (if cfg.protocol = .grpc ∧ s.client ≠ none then 1 else 0) := by
  have h : Accounted cfg s :=
    exec_invariant_of_step (fun _ _ _ h hstep => h.next (next_of_step hstep)) (accounted_init cfg)
      hrun
  exact ⟨h.ok, h.rpcConns, h.conns, h.brokers⟩

/-- The muxer cannot be dialled, so two `Client` calls fail and leave a connection each. -/
def muxerFails : List Act :=
  [.client, .client, .call 0 true, .call 0 true, .call 0 true, .call 0 true, .call 0 false,
    .call 0 true, .call 1 true, .call 1 true, .call 1 true, .call 1 true, .call 1 true]

theorem client_calls_account_muxerFails :
    ∃ s, exec (step ⟨.grpc, true⟩) init muxerFails = some s ∧
      s.calls = [.returned (.noMuxer 0), .returned (.noMuxer 1)] ∧ s.conns.length = 2 :=
  ⟨_, rfl, rfl, (client_calls_account ⟨.grpc, true⟩ muxerFails rfl).2.2.1⟩

/-! ### One muxer, one session -/

/-- The weight of all `getGRPCMuxer` calls. -/
def weighAll (f : GetMuxerPc → Nat) (s : Connecting) : Nat :=
  tally (ConnectPc.weigh f) s.calls + tally (DialerPc.weigh f) s.dialers

/-- A `getGRPCMuxer` call stands there. -/
def At (s : Connecting) (pc : GetMuxerPc) : Prop :=
  (∃ k, .muxing k pc ∈ s.calls) ∨ .muxing pc ∈ s.dialers

/-- The once is run by one call, or by none. -/
def OnceRuns (s : Connecting) : Prop :=
  weighAll GetMuxerPc.runs s = if s.once = .running then 1 else 0

structure OneMuxer (s : Connecting) : Prop where
  single : tally PluginConn.own s.dialled + weighAll GetMuxerPc.dials s +
    (if s.once = .idle then 1 else 0) ≤ 1
  unset : s.once ≠ .done → s.muxer = none ∧ s.muxerErr = false
  set : s.once = .done → s.muxerErr = s.muxer.isNone
  wrapping : ∀ n, s.At (.wrapping n) → s.dialled[n]? = some ⟨.muxer, false⟩
  muxer : ∀ n, s.muxer = some n → s.dialled[n]? = some ⟨.muxer, false⟩
  entered : s.At .returned → s.once = .done
  opening : .opening ∈ s.dialers → s.muxer ≠ none
  streams : ∀ n, .returned (some n) ∈ s.dialers → s.muxer = some n

theorem oneMuxer_init : OneMuxer init := by
  constructor <;> simp [init, weighAll, At]

theorem le_weighAll {s : Connecting} {pc : GetMuxerPc} (h : s.At pc)
    (f : GetMuxerPc → Nat) : f pc ≤ weighAll f s := by
  rcases h with ⟨k, hk⟩ | hd
  · obtain ⟨i, hi⟩ := List.mem_iff_getElem?.mp hk
    have hle := le_tally (ConnectPc.weigh f) hi
    exact Nat.le_trans hle (Nat.le_add_right _ _)
  · obtain ⟨d, hd⟩ := List.mem_iff_getElem?.mp hd
    have hle := le_tally (DialerPc.weigh f) hd
    exact Nat.le_trans hle (Nat.le_add_left _ _)

/-- Whoever runs the once finds it running. -/
theorem OnceRuns.running_of_at {s : Connecting} {pc : GetMuxerPc} (h : OnceRuns s) (hat : s.At pc)
    (hpc : pc.runs = 1) : s.once = .running := by
  by_contra hne
  have hle := le_weighAll hat GetMuxerPc.runs
  rw [h, if_neg hne, hpc] at hle
  cases hle

/-- A `getGRPCMuxer` call goes on from `pc` to `pc'`, and the others stay where they are. -/
structure Passes (s s' : Connecting) (pc pc' : GetMuxerPc) : Prop where
  weigh : ∀ f, weighAll f s' + f pc = weighAll f s + f pc'
  ats : ∀ q, s'.At q → q = pc' ∨ s.At q
  opening : .opening ∈ s'.dialers → .opening ∈ s.dialers
  streams : ∀ n, .returned (some n) ∈ s'.dialers → .returned (some n) ∈ s.dialers

/-- Nobody has passed a once that is not over. -/
theorem OneMuxer.not_passed {s s' : Connecting} {pc pc' : GetMuxerPc} (h : OneMuxer s)
    (hdone : s.once ≠ .done) (hp : Passes s s' pc pc') :
    .opening ∉ s'.dialers ∧ (∀ n, .returned (some n) ∉ s'.dialers) ∧
      (s'.At .returned → pc' = .returned) := by
  have hnone := (h.unset hdone).1
  refine ⟨fun hmem => h.opening (hp.opening hmem) hnone, fun n hn => ?_, fun hret => ?_⟩
  · have hsome := h.streams n (hp.streams n hn)
    rw [hnone] at hsome
    cases hsome
  · rcases hp.ats _ hret with heq | hold
    · exact heq.symm
    · exact absurd (h.entered hold) hdone

/-- The once is over, so the call finds what is set. -/
theorem OneMuxer.later {s s' : Connecting} (h : OneMuxer s) (hdone : s.once = .done)
    (hp : Passes s s' .entering .returned) (honce : s'.once = s.once)
    (hmuxer : s'.muxer = s.muxer) (herr : s'.muxerErr = s.muxerErr)
    (hdialled : s'.dialled = s.dialled) : OneMuxer s' := by
  have hweigh : ∀ f : GetMuxerPc → Nat, f .entering = f .returned →
      weighAll f s' = weighAll f s := by
    intro f hf
    have hsum := hp.weigh f
    omega
  refine ⟨?_, ?_, ?_, fun n hn => ?_, ?_, fun _ => ?_, fun hopen => ?_, fun n hn => ?_⟩
  · rw [honce, hdialled, hweigh _ rfl]
    exact h.single
  · rw [honce, hmuxer, herr]
    exact h.unset
  · rw [honce, hmuxer, herr]
    exact h.set
  · rw [hdialled]
    rcases hp.ats _ hn with heq | hold
    · cases heq
    · exact h.wrapping n hold
  · rw [hmuxer, hdialled]
    exact h.muxer
  · rw [honce, hdone]
  · rw [hmuxer]
    exact h.opening (hp.opening hopen)
  · rw [hmuxer]
    exact h.streams n (hp.streams n hn)

/-- The first call runs the once, and is about to dial. -/
theorem OneMuxer.first {s s' : Connecting} (h : OneMuxer s) (hidle : s.once = .idle)
    (hp : Passes s s' .entering .dialing) (honce : s'.once = .running)
    (hmuxer : s'.muxer = s.muxer) (herr : s'.muxerErr = s.muxerErr)
    (hdialled : s'.dialled = s.dialled) : OneMuxer s' := by
  have hdone : s.once ≠ .done := by simp [hidle]
  obtain ⟨hnone, hfalse⟩ := h.unset hdone
  obtain ⟨hopen, hstream, hreturned⟩ := h.not_passed hdone hp
  have hsingle := h.single
  rw [if_pos hidle] at hsingle
  have hdials := hp.weigh GetMuxerPc.dials
  simp only [GetMuxerPc.dials] at hdials
  refine ⟨?_, fun _ => ?_, fun hd => ?_, fun n hn => ?_, fun n hn => ?_, fun hret => ?_,
    fun hmem => absurd hmem hopen, fun n hn => absurd hn (hstream n)⟩
  · rw [if_neg (by simp [honce]), hdialled]
    omega
  · rw [hmuxer, herr]
    exact ⟨hnone, hfalse⟩
  · rw [honce] at hd
    cases hd
  · rw [hdialled]
    rcases hp.ats _ hn with heq | hold
    · cases heq
    · exact h.wrapping n hold
  · rw [hmuxer, hnone] at hn
    cases hn
  · cases hreturned hret

/-- It has dialled. -/
theorem OneMuxer.dialled {s s' : Connecting} (h : OneMuxer s) (hrun : s.once = .running)
    (hp : Passes s s' .dialing (.wrapping s.dialled.length)) (honce : s'.once = s.once)
    (hmuxer : s'.muxer = s.muxer) (herr : s'.muxerErr = s.muxerErr)
    (hdialled : s'.dialled = s.dialled ++ [⟨.muxer, false⟩]) : OneMuxer s' := by
  have hdone : s.once ≠ .done := by simp [hrun]
  obtain ⟨hnone, hfalse⟩ := h.unset hdone
  obtain ⟨hopen, hstream, hreturned⟩ := h.not_passed hdone hp
  have hsingle := h.single
  rw [if_neg (by simp [hrun])] at hsingle
  have hdials := hp.weigh GetMuxerPc.dials
  simp only [GetMuxerPc.dials] at hdials
  refine ⟨?_, fun _ => ?_, fun hd => ?_, fun n hn => ?_, fun n hn => ?_, fun hret => ?_,
    fun hmem => absurd hmem hopen, fun n hn => absurd hn (hstream n)⟩
  · rw [if_neg (by simp [honce, hrun]), hdialled, tally_append, tally_cons, tally_nil]
    simp only [PluginConn.own, reduceCtorEq, if_false]
    omega
  · rw [hmuxer, herr]
    exact ⟨hnone, hfalse⟩
  · rw [honce] at hd
    exact absurd hd hdone
  · rw [hdialled]
    rcases hp.ats _ hn with heq | hold
    · cases heq
      exact List.getElem?_concat_length
    · exact getElem?_concat_of_some (h.wrapping n hold) _
  · rw [hmuxer, hnone] at hn
    cases hn
  · cases hreturned hret

/-- The once ends, with a muxer or an error. -/
theorem OneMuxer.ends {s s' : Connecting} {pc : GetMuxerPc} (h : OneMuxer s)
    (hrun : s.once = .running) (hp : Passes s s' pc .returned)
    (honce : s'.once = .done) (hset : s'.muxerErr = s'.muxer.isNone)
    (hmuxer : ∀ n, s'.muxer = some n → s.dialled[n]? = some ⟨.muxer, false⟩)
    (hdialled : s'.dialled = s.dialled) : OneMuxer s' := by
  have hdone : s.once ≠ .done := by simp [hrun]
  obtain ⟨hopen, hstream, -⟩ := h.not_passed hdone hp
  have hsingle := h.single
  rw [if_neg (by simp [hrun])] at hsingle
  have hdials : weighAll GetMuxerPc.dials s' + pc.dials = weighAll GetMuxerPc.dials s :=
    hp.weigh GetMuxerPc.dials
  refine ⟨?_, fun hd => absurd honce hd, fun _ => hset, fun n hn => ?_, fun n hn => ?_,
    fun _ => honce, fun hmem => absurd hmem hopen, fun n hn => absurd hn (hstream n)⟩
  · rw [if_neg (by simp [honce]), hdialled]
    omega
  · rw [hdialled]
    rcases hp.ats _ hn with heq | hold
    · cases heq
    · exact h.wrapping n hold
  · rw [hdialled]
    exact hmuxer n hn

theorem OneMuxer.mux {s s₁ s' : Connecting} {pc pc' : GetMuxerPc} (h : OneMuxer s)
    (hruns : OnceRuns s) (hat : s.At pc) (hmux : MuxNext s pc s₁ pc') (honce : s'.once = s₁.once)
    (hmuxer : s'.muxer = s₁.muxer) (herr : s'.muxerErr = s₁.muxerErr)
    (hdialled : s'.dialled = s₁.dialled) (hp : Passes s s' pc pc') : OneMuxer s' := by
  cases hmux with
  | first hidle => exact h.first hidle hp honce hmuxer herr hdialled
  | later hdone => exact h.later hdone hp honce hmuxer herr hdialled
  | dialled => exact h.dialled (hruns.running_of_at hat rfl) hp honce hmuxer herr hdialled
  | dialFails | wrapFails =>
      have hrun := hruns.running_of_at hat rfl
      have hnone := (h.unset (by simp [hrun])).1
      refine h.ends hrun hp honce ?_ (fun n hn => ?_) hdialled
      · rw [herr, hmuxer, hnone]
        rfl
      · rw [hmuxer, hnone] at hn
        cases hn
  | @wrapped m =>
      have hrun := hruns.running_of_at hat rfl
      refine h.ends hrun hp honce ?_ (fun n hn => ?_) hdialled
      · rw [herr, hmuxer]
        exact (h.unset (by simp [hrun])).2
      · rw [hmuxer] at hn
        cases hn
        exact h.wrapping m hat

theorem weighAll_setCall {s s' : Connecting} {i : Nat} {pc : ConnectPc}
    (hi : s.calls[i]? = some pc) {pc' : ConnectPc} (hcalls : s'.calls = s.calls.set i pc')
    (hdialers : s'.dialers = s.dialers) (f : GetMuxerPc → Nat) :
    weighAll f s' + pc.weigh f = weighAll f s + pc'.weigh f := by
  have hset := tally_set (ConnectPc.weigh f) pc' hi
  simp only [weighAll, hcalls, hdialers]
  omega

theorem weighAll_setDialer {s s' : Connecting} {d : Nat} {pc : DialerPc}
    (hd : s.dialers[d]? = some pc) {pc' : DialerPc} (hcalls : s'.calls = s.calls)
    (hdialers : s'.dialers = s.dialers.set d pc') (f : GetMuxerPc → Nat) :
    weighAll f s' + pc.weigh f = weighAll f s + pc'.weigh f := by
  have hset := tally_set (DialerPc.weigh f) pc' hd
  simp only [weighAll, hcalls, hdialers]
  omega

theorem at_setCall {s s' : Connecting} {i : Nat} {pc' : ConnectPc}
    (hcalls : s'.calls = s.calls.set i pc') (hdialers : s'.dialers = s.dialers) {q : GetMuxerPc}
    (h : s'.At q) : (∃ k, pc' = .muxing k q) ∨ s.At q := by
  rcases h with ⟨k, hk⟩ | hd
  · rw [hcalls] at hk
    rcases List.mem_or_eq_of_mem_set hk with hold | heq
    · exact Or.inr (Or.inl ⟨k, hold⟩)
    · exact Or.inl ⟨k, heq.symm⟩
  · rw [hdialers] at hd
    exact Or.inr (Or.inr hd)

theorem at_setDialer {s s' : Connecting} {d : Nat} {pc' : DialerPc} (hcalls : s'.calls = s.calls)
    (hdialers : s'.dialers = s.dialers.set d pc') {q : GetMuxerPc} (h : s'.At q) :
    pc' = .muxing q ∨ s.At q := by
  rcases h with ⟨k, hk⟩ | hd
  · rw [hcalls] at hk
    exact Or.inr (Or.inl ⟨k, hk⟩)
  · rw [hdialers] at hd
    rcases List.mem_or_eq_of_mem_set hd with hold | heq
    · exact Or.inr (Or.inr hold)
    · exact Or.inl heq.symm

theorem passes_call {s s' : Connecting} {i k : Nat} {pc pc' : GetMuxerPc}
    (hi : s.calls[i]? = some (.muxing k pc)) (hcalls : s'.calls = s.calls.set i (.muxing k pc'))
    (hdialers : s'.dialers = s.dialers) : Passes s s' pc pc' := by
  refine ⟨weighAll_setCall hi hcalls hdialers, fun q hq => ?_, fun hmem => hdialers ▸ hmem,
    fun n hn => hdialers ▸ hn⟩
  refine (at_setCall hcalls hdialers hq).imp (fun ⟨m, hm⟩ => ?_) id
  cases hm
  rfl

theorem passes_dialer {s s' : Connecting} {d : Nat} {pc pc' : GetMuxerPc}
    (hd : s.dialers[d]? = some (.muxing pc)) (hcalls : s'.calls = s.calls)
    (hdialers : s'.dialers = s.dialers.set d (.muxing pc')) : Passes s s' pc pc' := by
  have hold : ∀ {q : DialerPc}, q ∈ s'.dialers → q ≠ .muxing pc' → q ∈ s.dialers := by
    intro q hq hne
    rw [hdialers] at hq
    exact (List.mem_or_eq_of_mem_set hq).resolve_right hne
  refine ⟨weighAll_setDialer hd hcalls hdialers, fun q hq => ?_, fun hmem => hold hmem (by simp),
    fun n hn => hold hn (by simp)⟩
  refine (at_setDialer hcalls hdialers hq).imp (fun heq => ?_) id
  cases heq
  rfl

/-- A step that is none of `getGRPCMuxer`. -/
theorem OneMuxer.other {s s' : Connecting} (h : OneMuxer s) (honce : s'.once = s.once)
    (hmuxer : s'.muxer = s.muxer) (herr : s'.muxerErr = s.muxerErr)
    (hdialled : s'.dialled = s.dialled ∨ s'.dialled = s.dialled ++ [⟨.stranger, false⟩])
    (hweigh : ∀ f : GetMuxerPc → Nat, f .entering = 0 → f .returned = 0 →
      weighAll f s' = weighAll f s)
    (hats : ∀ q, s'.At q → q = .entering ∨ s.At q)
    (hopening : .opening ∈ s'.dialers → .opening ∈ s.dialers ∨ s.muxer ≠ none)
    (hstreams : ∀ n, .returned (some n) ∈ s'.dialers →
      .returned (some n) ∈ s.dialers ∨ s.muxer = some n) : OneMuxer s' := by
  have hown : tally PluginConn.own s'.dialled = tally PluginConn.own s.dialled := by
    rcases hdialled with hsame | hnew
    · rw [hsame]
    · rw [hnew, tally_append]
      rfl
  have hkeeps : ∀ {n : Nat} {x : PluginConn}, s.dialled[n]? = some x →
      s'.dialled[n]? = some x := by
    intro n x hx
    rcases hdialled with hsame | hnew
    · rw [hsame, hx]
    · rw [hnew]
      exact getElem?_concat_of_some hx _
  have hold : ∀ {q : GetMuxerPc}, s'.At q → q ≠ .entering → s.At q := fun hq hne =>
    (hats _ hq).resolve_left hne
  refine ⟨?_, ?_, ?_, fun n hn => hkeeps (h.wrapping n (hold hn (by simp))), fun n hn => ?_,
    fun hret => ?_, fun hmem => ?_, fun n hn => ?_⟩
  · rw [hown, honce, hweigh _ rfl rfl]
    exact h.single
  · rw [honce, hmuxer, herr]
    exact h.unset
  · rw [honce, hmuxer, herr]
    exact h.set
  · rw [hmuxer] at hn
    exact hkeeps (h.muxer n hn)
  · rw [honce]
    exact h.entered (hold hret (by simp))
  · rw [hmuxer]
    exact (hopening hmem).elim h.opening id
  · rw [hmuxer]
    exact (hstreams n hn).elim (h.streams n) id

/-- A `Client` call goes on outside `getGRPCMuxer`. -/
theorem OneMuxer.call {s s' : Connecting} {i : Nat} {pc pc' : ConnectPc} (h : OneMuxer s)
    (hi : s.calls[i]? = some pc) (hcalls : s'.calls = s.calls.set i pc')
    (hdialers : s'.dialers = s.dialers) (honce : s'.once = s.once)
    (hmuxer : s'.muxer = s.muxer) (herr : s'.muxerErr = s.muxerErr)
    (hdialled : s'.dialled = s.dialled)
    (hweigh : ∀ f : GetMuxerPc → Nat, f .entering = 0 → f .returned = 0 →
      pc.weigh f = 0 ∧ pc'.weigh f = 0)
    (hat : ∀ k q, pc' = .muxing k q → q = .entering) : OneMuxer s' := by
  refine h.other honce hmuxer herr (Or.inl hdialled) (fun f hf hf' => ?_) (fun q hq => ?_)
    (fun hmem => Or.inl (hdialers ▸ hmem)) (fun n hn => Or.inl (hdialers ▸ hn))
  · obtain ⟨hpc, hpc'⟩ := hweigh f hf hf'
    have hset := weighAll_setCall hi hcalls hdialers f
    omega
  · exact (at_setCall hcalls hdialers hq).imp (fun ⟨k, hk⟩ => hat k q hk) id

/-- And a `dialer` call. -/
theorem OneMuxer.dialer {s s' : Connecting} {d : Nat} {pc pc' : DialerPc} (h : OneMuxer s)
    (hd : s.dialers[d]? = some pc) (hcalls : s'.calls = s.calls)
    (hdialers : s'.dialers = s.dialers.set d pc') (honce : s'.once = s.once)
    (hmuxer : s'.muxer = s.muxer) (herr : s'.muxerErr = s.muxerErr)
    (hdialled : s'.dialled = s.dialled)
    (hweigh : ∀ f : GetMuxerPc → Nat, f .entering = 0 → f .returned = 0 →
      pc.weigh f = 0 ∧ pc'.weigh f = 0)
    (hat : ∀ q, pc' ≠ .muxing q) (hopening : pc' = .opening → s.muxer ≠ none)
    (hstream : ∀ n, pc' = .returned (some n) → s.muxer = some n) : OneMuxer s' := by
  refine h.other honce hmuxer herr (Or.inl hdialled) (fun f hf hf' => ?_) (fun q hq => ?_)
    (fun hmem => ?_) (fun n hn => ?_)
  · obtain ⟨hpc, hpc'⟩ := hweigh f hf hf'
    have hset := weighAll_setDialer hd hcalls hdialers f
    omega
  · exact (at_setDialer hcalls hdialers hq).imp (fun heq => absurd heq (hat q)) id
  · rw [hdialers] at hmem
    rcases List.mem_or_eq_of_mem_set hmem with hold | heq
    · exact Or.inl hold
    · exact Or.inr (hopening heq.symm)
  · rw [hdialers] at hn
    rcases List.mem_or_eq_of_mem_set hn with hold | heq
    · exact Or.inl hold
    · exact Or.inr (hstream n heq.symm)

theorem OneMuxer.next {cfg : ConnectConfig} {s s' : Connecting} {a : Act} (h : OneMuxer s)
    (hruns : OnceRuns s) (hacc : Accounted cfg s) (hgrpc : cfg.protocol = .grpc)
    (hmulti : cfg.multiplex = true) (hnext : Next cfg s a s') : OneMuxer s' := by
  -- nobody makes a net/rpc client
  have hrpc : ∀ {i : Nat} {pc : ConnectPc}, s.calls[i]? = some pc →
      pc.makes ≠ some .netRPC := by
    intro i pc hi hp
    have heq := (hacc.makes pc (List.mem_of_getElem? hi) _ hp).2
    rw [hgrpc] at heq
    cases heq
  cases hnext with
  | client =>
      refine h.other rfl rfl rfl (Or.inl rfl) (fun f _ _ => ?_) (fun q hq => ?_)
        (fun hmem => Or.inl hmem) (fun n hn => Or.inl hn)
      · simp [weighAll, ConnectPc.weigh]
      · rcases hq with ⟨k, hk⟩ | hd
        · exact Or.inr (Or.inl ⟨k, by simpa using hk⟩)
        · exact Or.inr (Or.inr hd)
  | lock hi | cached hi | rpc hi | grpc hi =>
      exact h.call hi rfl rfl rfl rfl rfl rfl (fun _ _ _ => ⟨rfl, rfl⟩)
        (by intro k q hq; cases hq)
  | dialled hi => exact absurd rfl (hrpc hi)
  | setupFails hi => exact absurd rfl (hrpc hi)
  | conn hi =>
      refine h.call hi rfl rfl rfl rfl rfl rfl (fun f hf _ => ⟨rfl, ?_⟩) (fun k q hq => ?_)
      · rw [if_pos hmulti]
        exact hf
      · rw [if_pos hmulti] at hq
        cases hq
        rfl
  | @mux i ok k pc s₁ pc' hi hmux =>
      obtain ⟨-, -, hcalls, -, -, hdialers, -, -⟩ := hmux.frame
      have hset : s₁.calls.set i (.muxing k pc') = s.calls.set i (.muxing k pc') := by rw [hcalls]
      exact h.mux hruns (Or.inl ⟨k, List.mem_of_getElem? hi⟩) hmux rfl rfl rfl rfl
        (passes_call hi hset hdialers)
  | broker hi =>
      exact h.call hi rfl rfl rfl rfl rfl rfl (fun _ _ hf => ⟨hf, rfl⟩) (by intro k q hq; cases hq)
  | fails hi hcase =>
      refine h.call hi rfl rfl rfl rfl rfl rfl (fun f _ hf => ⟨?_, rfl⟩)
        (by intro k q hq; cases hq)
      rcases hcase with ⟨rfl, -⟩ | ⟨rfl, -⟩ | ⟨k, rfl, -, -⟩ | ⟨k, rfl, -⟩
      · rfl
      · rfl
      · exact hf
      · rfl
  | made hi hcase =>
      refine h.call hi rfl rfl rfl rfl rfl rfl (fun f _ hf => ⟨?_, rfl⟩)
        (by intro k q hq; cases hq)
      rcases hcase with ⟨n, rfl⟩ | ⟨k, rfl⟩ <;> rfl
  | dial =>
      rw [if_pos hmulti]
      refine h.other rfl rfl rfl (Or.inl rfl) (fun f hf _ => ?_) (fun q hq => ?_)
        (fun hmem => Or.inl (by simpa using hmem)) (fun n hn => Or.inl (by simpa using hn))
      · simp [weighAll, DialerPc.weigh, hf]
      · rcases hq with hk | hd
        · exact Or.inr (Or.inl hk)
        · rcases List.mem_append.mp hd with hold | hnew
          · exact Or.inr (Or.inr hold)
          · cases List.mem_singleton.mp hnew
            exact Or.inl rfl
  | @dialerMux d ok pc s₁ pc' hd hmux =>
      obtain ⟨-, -, hcalls, -, -, hdialers, -, -⟩ := hmux.frame
      have hset : s₁.dialers.set d (.muxing pc') = s.dialers.set d (.muxing pc') := by
        rw [hdialers]
      exact h.mux hruns (Or.inr (List.mem_of_getElem? hd)) hmux rfl rfl rfl rfl
        (passes_dialer hd hcalls hset)
  | opens hd herr =>
      have hset := h.set (h.entered (Or.inr (List.mem_of_getElem? hd)))
      refine h.dialer hd rfl rfl rfl rfl rfl rfl (fun _ _ hf => ⟨hf, rfl⟩)
        (by intro q hq; cases hq) (fun _ hnone => ?_) (by intro n hn; cases hn)
      rw [herr, hnone] at hset
      cases hset
  | stream hd hmuxer =>
      refine h.dialer hd rfl rfl rfl rfl rfl rfl (fun _ _ _ => ⟨rfl, rfl⟩)
        (by intro q hq; cases hq) (by intro hq; cases hq) (fun n hn => ?_)
      cases hn
      exact hmuxer
  | direct hd hmuxer => exact absurd hmuxer (h.opening (List.mem_of_getElem? hd))
  | dialerFails hd hcase =>
      refine h.dialer hd rfl rfl rfl rfl rfl rfl (fun f _ hf => ⟨?_, rfl⟩)
        (by intro q hq; cases hq) (by intro hq; cases hq) (by intro n hn; cases hn)
      rcases hcase with ⟨rfl, -⟩ | rfl
      · exact hf
      · rfl
  | stranger =>
      exact h.other rfl rfl rfl (Or.inr rfl) (fun _ _ _ => rfl) (fun _ hq => Or.inr hq)
        (fun hmem => Or.inl hmem) (fun n hn => Or.inl hn)
  | plugin =>
      exact h.other rfl rfl rfl (Or.inl rfl) (fun _ _ _ => rfl) (fun _ hq => Or.inr hq)
        (fun hmem => Or.inl hmem) (fun n hn => Or.inl hn)

theorem OnceRuns.mux {s s₁ s' : Connecting} {pc pc' : GetMuxerPc} (h : OnceRuns s)
    (hat : s.At pc) (hmux : MuxNext s pc s₁ pc') (honce : s'.once = s₁.once)
    (hp : Passes s s' pc pc') : OnceRuns s' := by
  have hsum := hp.weigh GetMuxerPc.runs
  have hold := h
  unfold OnceRuns at hold ⊢
  cases hmux with
  | first hidle =>
      rw [hidle, if_neg (by simp)] at hold
      rw [if_pos honce]
      simp only [GetMuxerPc.runs] at hsum
      omega
  | later =>
      rw [honce, ← hold]
      exact hsum
  | dialled =>
      rw [honce, ← hold]
      exact Nat.add_right_cancel hsum
  | dialFails | wrapped | wrapFails =>
      rw [if_pos (h.running_of_at hat rfl)] at hold
      rw [if_neg (by simp [honce])]
      simp only [GetMuxerPc.runs] at hsum
      omega

theorem OnceRuns.next {cfg : ConnectConfig} {s s' : Connecting} {a : Act} (h : OnceRuns s)
    (hnext : Next cfg s a s') : OnceRuns s' := by
  have hsame : ∀ {t : Connecting}, t.once = s.once →
      weighAll GetMuxerPc.runs t = weighAll GetMuxerPc.runs s → OnceRuns t := by
    intro t honce hweigh
    rw [OnceRuns, honce, hweigh]
    exact h
  have hcall : ∀ {t : Connecting} {i : Nat} {pc pc' : ConnectPc}, s.calls[i]? = some pc →
      t.calls = s.calls.set i pc' → t.dialers = s.dialers → t.once = s.once →
      pc.weigh GetMuxerPc.runs = 0 → pc'.weigh GetMuxerPc.runs = 0 → OnceRuns t := by
    intro t i pc pc' hi hcalls hdialers honce hpc hpc'
    have hset := weighAll_setCall hi hcalls hdialers GetMuxerPc.runs
    exact hsame honce (by omega)
  have hdialer : ∀ {t : Connecting} {d : Nat} {pc pc' : DialerPc}, s.dialers[d]? = some pc →
      t.calls = s.calls → t.dialers = s.dialers.set d pc' → t.once = s.once →
      pc.weigh GetMuxerPc.runs = 0 → pc'.weigh GetMuxerPc.runs = 0 → OnceRuns t := by
    intro t d pc pc' hd hcalls hdialers honce hpc hpc'
    have hset := weighAll_setDialer hd hcalls hdialers GetMuxerPc.runs
    exact hsame honce (by omega)
  cases hnext with
  | client => exact hsame rfl (by simp [weighAll, ConnectPc.weigh])
  | lock hi | cached hi | rpc hi | grpc hi | dialled hi | setupFails hi | broker hi =>
      exact hcall hi rfl rfl rfl rfl rfl
  | conn hi =>
      refine hcall hi rfl rfl rfl rfl ?_
      split <;> rfl
  | fails hi hcase =>
      refine hcall hi rfl rfl rfl ?_ rfl
      rcases hcase with ⟨rfl, -⟩ | ⟨rfl, -⟩ | ⟨k, rfl, -, -⟩ | ⟨k, rfl, -⟩ <;> rfl
  | made hi hcase =>
      refine hcall hi rfl rfl rfl ?_ rfl
      rcases hcase with ⟨n, rfl⟩ | ⟨k, rfl⟩ <;> rfl
  | @mux i ok k pc s₁ pc' hi hmux =>
      obtain ⟨-, -, hcalls, -, -, hdialers, -, -⟩ := hmux.frame
      have hset : s₁.calls.set i (.muxing k pc') = s.calls.set i (.muxing k pc') := by rw [hcalls]
      exact h.mux (Or.inl ⟨k, List.mem_of_getElem? hi⟩) hmux rfl (passes_call hi hset hdialers)
  | dial =>
      refine hsame rfl ?_
      cases cfg.multiplex <;> simp [weighAll, DialerPc.weigh, GetMuxerPc.runs]
  | @dialerMux d ok pc s₁ pc' hd hmux =>
      obtain ⟨-, -, hcalls, -, -, hdialers, -, -⟩ := hmux.frame
      have hset : s₁.dialers.set d (.muxing pc') = s.dialers.set d (.muxing pc') := by
        rw [hdialers]
      exact h.mux (Or.inr (List.mem_of_getElem? hd)) hmux rfl (passes_dialer hd hcalls hset)
  | opens hd | stream hd | direct hd => exact hdialer hd rfl rfl rfl rfl rfl
  | dialerFails hd hcase =>
      refine hdialer hd rfl rfl rfl ?_ rfl
      rcases hcase with ⟨rfl, -⟩ | rfl <;> rfl
  | stranger | plugin => exact hsame rfl rfl

/-- The plugin's muxer takes the connection that came first. -/
structure FirstCome (s : Connecting) : Prop where
  sound : ServerSession.Sound s.plugin
  creating : ∀ n, s.plugin.goroutine = .creating n → n = 0
  sess : ∀ n, s.plugin.sess = some n → n = 0

theorem FirstCome.next {cfg : ConnectConfig} {s s' : Connecting} {a : Act} (h : FirstCome s)
    (hnext : Next cfg s a s') : FirstCome s' := by
  cases hnext with
  | @plugin b p ha hstep =>
      have hplugin := ServerSession.next_of_step hstep
      have hsound := h.sound.next hplugin
      cases hplugin with
      | @accept n =>
          refine ⟨hsound, fun m hm => ?_, h.sess⟩
          cases hm
          simp only [arrives, Bool.and_eq_true, decide_eq_true_eq] at ha
          exact ha.1
      | @create n hg =>
          refine ⟨hsound, (by intro m hm; cases hm), fun m hm => ?_⟩
          cases hm
          exact h.creating n hg
      | acceptFails | createFails | close | receive =>
          exact ⟨hsound, (by intro m hm; cases hm), h.sess⟩
      | call | closed | timeout | check => exact ⟨hsound, h.creating, h.sess⟩
  | mux hi hmux | dialerMux hd hmux =>
      obtain ⟨-, -, -, -, -, -, hplugin, -⟩ := hmux.frame
      refine ⟨?_, ?_, ?_⟩
      · exact hplugin ▸ h.sound
      · exact hplugin ▸ h.creating
      · exact hplugin ▸ h.sess
  | _ => exact ⟨h.sound, h.creating, h.sess⟩

/-- Nobody else connects to the plugin. -/
def Act.isStranger : Act → Bool
  | .stranger => true
  | _ => false

theorem own_of_next {cfg : ConnectConfig} {s s' : Connecting} {a : Act}
    (h : ∀ x ∈ s.dialled, x.own = 1) (ha : a.isStranger = false) (hnext : Next cfg s a s') :
    ∀ x ∈ s'.dialled, x.own = 1 := by
  have hconcat : ∀ {use : ConnUse}, use ≠ .stranger →
      ∀ x ∈ s.dialled ++ [⟨use, false⟩], x.own = 1 := by
    intro use huse x hx
    rcases List.mem_append.mp hx with hold | hnew
    · exact h x hold
    · rw [List.mem_singleton.mp hnew]
      simp [PluginConn.own, huse]
  cases hnext with
  | dialled => exact hconcat (by simp)
  | direct => exact hconcat (by simp)
  | stranger => cases ha
  | setupFails hi =>
      intro x hx
      obtain ⟨n, hn⟩ := List.mem_iff_getElem?.mp hx
      dsimp only at hn
      rw [List.getElem?_modify] at hn
      obtain ⟨y, hy, rfl⟩ := Option.map_eq_some_iff.mp hn
      have hown := h y (List.mem_of_getElem? hy)
      split <;> exact hown
  | mux hi hmux | dialerMux hd hmux =>
      obtain ⟨-, -, -, -, -, -, -, hdialled⟩ := hmux.frame
      rcases hdialled with hsame | hnew
      · exact hsame ▸ h
      · exact hnew ▸ hconcat (by simp)
  | _ => exact h

/-- **One muxer, one session.**  With gRPC and `GRPCBrokerMultiplex`, in every run with any number
    of `Client` calls and of dials in the background: the client connects to the plugin at most
    once, and every dial that succeeds opens a stream on this connection.  If nobody else connects
    to the plugin, this is the session that the plugin's `session` calls return. -/
theorem one_session (run : List Act) {s : Connecting}
    (hrun : exec (step ⟨.grpc, true⟩) init run = some s) :
    tally PluginConn.own s.dialled ≤ 1 ∧
    (∀ n, .returned (some n) ∈ s.dialers →
      s.muxer = some n ∧ s.dialled[n]? = some ⟨.muxer, false⟩) ∧
    ((∀ a ∈ run, a.isStranger = false) → ∀ n m, .returned (some n) ∈ s.dialers →
      .returned (.session m) ∈ s.plugin.calls → n = m) := by
  have hstep : ∀ (t : Connecting) a t',
      Accounted ⟨.grpc, true⟩ t ∧ OnceRuns t ∧ OneMuxer t ∧ FirstCome t →
      step ⟨.grpc, true⟩ t a = some t' →
      Accounted ⟨.grpc, true⟩ t' ∧ OnceRuns t' ∧ OneMuxer t' ∧ FirstCome t' := by
    rintro t a t' ⟨hacc, hruns, hone, hfirst⟩ ht
    have hnext := next_of_step ht
    exact ⟨hacc.next hnext, hruns.next hnext, hone.next hruns hacc rfl rfl hnext,
      hfirst.next hnext⟩
  have hinit : FirstCome init :=
    ⟨ServerSession.sound_init, (by intro n hn; cases hn), (by intro n hn; cases hn)⟩
  obtain ⟨-, -, hone, hfirst⟩ :=
    exec_invariant_of_step hstep ⟨accounted_init _, rfl, oneMuxer_init, hinit⟩ hrun
  have hsingle : tally PluginConn.own s.dialled ≤ 1 := by
    have hsum := hone.single
    omega
  refine ⟨hsingle, fun n hn => ?_, fun hguard n m hn hm => ?_⟩
  · have hmuxer := hone.streams n hn
    exact ⟨hmuxer, hone.muxer n hmuxer⟩
  · have hown : ∀ x ∈ s.dialled, x.own = 1 := by
      refine exec_invariant (fun t a t' ht ha hst => own_of_next ht ha (next_of_step hst)) ?_
        (along_of_forall_mem hguard init) hrun
      intro x hx
      cases hx
    have hlength : s.dialled.length ≤ 1 := by
      rw [← tally_eq_length hown]
      exact hsingle
    have hlt := (List.getElem?_eq_some_iff.mp (hone.muxer n (hone.streams n hn))).1
    have hsess : s.plugin.sess = some m := hfirst.sound.fits _ hm
    rw [hfirst.sess m hsess]
    omega

/-- A `Client` call and a dial in the background meet in the once, and the plugin accepts. -/
def connects : List Act :=
  [.client, .call 0 true, .call 0 true, .call 0 true, .dial, .dialer 0 true, .dialer 0 true,
    .dialer 0 true, .call 0 true, .call 0 true, .call 0 true, .dialer 0 true, .dialer 0 true,
    .plugin .call, .plugin (.accept (some 0)), .plugin (.create true), .plugin .close,
    .plugin (.closed 0), .plugin (.check 0)]

theorem one_session_connects :
    ∃ s n m, exec (step ⟨.grpc, true⟩) init connects = some s ∧ s.dialers = [.returned (some n)] ∧
      s.plugin.calls = [.returned (.session m)] ∧ n = m :=
  ⟨_, 0, 0, rfl, rfl, rfl,
    (one_session connects rfl).2.2 (by decide) 0 0 (by decide) (by decide)⟩

/-! ### The calls return -/

end Connecting

def GetMuxerPc.stepsLeft : GetMuxerPc → Nat
  | .entering => 3
  | .dialing => 2
  | .wrapping _ => 1
  | .returned => 0

def ConnectPc.stepsLeft : ConnectPc → Nat
  | .entering => 8
  | .locked => 7
  | .newConn => 6
  | .muxing _ pc => 2 + pc.stepsLeft
  | .dialing => 2
  | .setup _ | .stdio _ => 1
  | .returned _ => 0

def DialerPc.stepsLeft : DialerPc → Nat
  | .muxing pc => 2 + pc.stepsLeft
  | .opening => 1
  | .returned _ => 0

namespace Connecting

/-- What the calls have left to do. -/
def stepsLeft (s : Connecting) : Nat :=
  tally ConnectPc.stepsLeft s.calls + tally DialerPc.stepsLeft s.dialers

def Act.uses : Act → Nat
  | .call _ _ | .dialer _ _ => 1
  | _ => 0

def Act.adds : Act → Nat
  | .client => 8
  | .dial => 5
  | _ => 0

theorem MuxNext.stepsLeft_lt {s s' : Connecting} {pc pc' : GetMuxerPc}
    (h : MuxNext s pc s' pc') : pc'.stepsLeft < pc.stepsLeft := by
  cases h <;> simp [GetMuxerPc.stepsLeft]

theorem stepsLeft_setCall {s s' : Connecting} {i : Nat} {pc pc' : ConnectPc}
    (hi : s.calls[i]? = some pc) (hcalls : s'.calls = s.calls.set i pc')
    (hdialers : s'.dialers = s.dialers) (hless : pc'.stepsLeft < pc.stepsLeft) :
    s'.stepsLeft + 1 ≤ s.stepsLeft := by
  have hset := tally_set ConnectPc.stepsLeft pc' hi
  simp only [stepsLeft, hcalls, hdialers]
  omega

theorem stepsLeft_setDialer {s s' : Connecting} {d : Nat} {pc pc' : DialerPc}
    (hd : s.dialers[d]? = some pc) (hcalls : s'.calls = s.calls)
    (hdialers : s'.dialers = s.dialers.set d pc') (hless : pc'.stepsLeft < pc.stepsLeft) :
    s'.stepsLeft + 1 ≤ s.stepsLeft := by
  have hset := tally_set DialerPc.stepsLeft pc' hd
  simp only [stepsLeft, hcalls, hdialers]
  omega

theorem stepsLeft_next {cfg : ConnectConfig} {s s' : Connecting} {a : Act}
    (h : Next cfg s a s') : s'.stepsLeft + a.uses ≤ s.stepsLeft + a.adds := by
  cases h with
  | client =>
      simp only [stepsLeft, tally_append, tally_cons, tally_nil, ConnectPc.stepsLeft, Act.uses,
        Act.adds]
      omega
  | lock hi | cached hi | rpc hi | grpc hi | dialled hi | setupFails hi =>
      exact stepsLeft_setCall hi rfl rfl (by simp [ConnectPc.stepsLeft])
  | broker hi =>
      exact stepsLeft_setCall hi rfl rfl (by simp [ConnectPc.stepsLeft, GetMuxerPc.stepsLeft])
  | conn hi =>
      refine stepsLeft_setCall hi rfl rfl ?_
      cases cfg.multiplex <;> simp [ConnectPc.stepsLeft, GetMuxerPc.stepsLeft]
  | fails hi hcase =>
      refine stepsLeft_setCall hi rfl rfl ?_
      rcases hcase with ⟨rfl, -⟩ | ⟨rfl, -⟩ | ⟨k, rfl, -, -⟩ | ⟨k, rfl, -⟩ <;>
        simp [ConnectPc.stepsLeft]
  | made hi hcase =>
      refine stepsLeft_setCall hi rfl rfl ?_
      rcases hcase with ⟨n, rfl⟩ | ⟨k, rfl⟩ <;> simp [ConnectPc.stepsLeft]
  | @mux i ok k pc s₁ pc' hi hmux =>
      obtain ⟨-, -, hcalls, -, -, hdialers, -, -⟩ := hmux.frame
      refine stepsLeft_setCall hi (congrArg (·.set i (.muxing k pc')) hcalls) hdialers ?_
      exact Nat.add_lt_add_left hmux.stepsLeft_lt 2
  | dial =>
      simp only [stepsLeft, tally_append, tally_cons, tally_nil, Act.uses, Act.adds]
      cases cfg.multiplex <;> simp [DialerPc.stepsLeft, GetMuxerPc.stepsLeft] <;> omega
  | @dialerMux d ok pc s₁ pc' hd hmux =>
      obtain ⟨-, -, hcalls, -, -, hdialers, -, -⟩ := hmux.frame
      refine stepsLeft_setDialer hd hcalls (congrArg (·.set d (.muxing pc')) hdialers) ?_
      exact Nat.add_lt_add_left hmux.stepsLeft_lt 2
  | opens hd | stream hd | direct hd =>
      exact stepsLeft_setDialer hd rfl rfl
        (by simp [DialerPc.stepsLeft, GetMuxerPc.stepsLeft])
  | dialerFails hd hcase =>
      refine stepsLeft_setDialer hd rfl rfl ?_
      rcases hcase with ⟨rfl, -⟩ | rfl <;> decide
  | stranger | plugin => exact Nat.le_refl _

/-- No call can go on, whatever the environment gives it. -/
def Resting (cfg : ConnectConfig) (s : Connecting) : Prop :=
  (∀ i ok, callStep cfg s i ok = none) ∧ ∀ d ok, s.dialerStep d ok = none

/-- A `Client` call waits for the lock or for the once. -/
theorem waits_of_callStep {cfg : ConnectConfig} {s : Connecting} {i : Nat} {pc : ConnectPc}
    (hi : s.calls[i]? = some pc) (h : callStep cfg s i true = none) :
    (pc = .entering ∧ s.lock ≠ none) ∨ (∃ k, pc = .muxing k .entering ∧ s.once = .running) ∨
      ∃ r, pc = .returned r := by
  unfold callStep at h
  rw [hi] at h
  cases pc with
  | entering =>
      refine Or.inl ⟨rfl, fun hfree => ?_⟩
      simp [hfree] at h
  | locked =>
      cases hclient : s.client with
      | some j => simp [hclient] at h
      | none => cases hp : cfg.protocol <;> simp [hclient, hp] at h
  | dialing | setup | newConn | stdio => simp at h
  | muxing k pc =>
      cases pc with
      | entering =>
          refine Or.inr (Or.inl ⟨k, rfl, ?_⟩)
          cases honce : s.once with
          | running => rfl
          | idle | done => simp [muxNext, honce] at h
      | dialing | wrapping => simp [muxNext] at h
      | returned => cases herr : s.muxerErr <;> simp [herr] at h
  | returned r => exact Or.inr (Or.inr ⟨r, rfl⟩)

/-- And a `dialer` call for the once. -/
theorem waits_of_dialerStep {s : Connecting} {d : Nat} {pc : DialerPc}
    (hd : s.dialers[d]? = some pc) (h : s.dialerStep d true = none) :
    (pc = .muxing .entering ∧ s.once = .running) ∨ ∃ r, pc = .returned r := by
  unfold dialerStep at h
  rw [hd] at h
  cases pc with
  | muxing pc =>
      cases pc with
      | entering =>
          refine Or.inl ⟨rfl, ?_⟩
          cases honce : s.once with
          | running => rfl
          | idle | done => simp [muxNext, honce] at h
      | dialing | wrapping => simp [muxNext] at h
      | returned => cases herr : s.muxerErr <;> simp [herr] at h
  | opening => cases hmuxer : s.muxer <;> simp [hmuxer] at h
  | returned r => exact Or.inr ⟨r, rfl⟩

/-- Whoever runs the once can go on. -/
theorem not_running_of_resting {cfg : ConnectConfig} {s : Connecting} (hruns : OnceRuns s)
    (hrest : Resting cfg s) : s.once ≠ .running := by
  intro hrunning
  have hcalls : tally (ConnectPc.weigh GetMuxerPc.runs) s.calls = 0 := by
    refine tally_eq_zero.mpr fun pc hpc => ?_
    obtain ⟨i, hi⟩ := List.mem_iff_getElem?.mp hpc
    rcases waits_of_callStep hi (hrest.1 i true) with ⟨rfl, -⟩ | ⟨k, rfl, -⟩ | ⟨r, rfl⟩ <;> rfl
  have hdialers : tally (DialerPc.weigh GetMuxerPc.runs) s.dialers = 0 := by
    refine tally_eq_zero.mpr fun pc hpc => ?_
    obtain ⟨d, hd⟩ := List.mem_iff_getElem?.mp hpc
    rcases waits_of_dialerStep hd (hrest.2 d true) with ⟨rfl, -⟩ | ⟨r, rfl⟩ <;> rfl
  rw [OnceRuns, if_pos hrunning, weighAll, hcalls, hdialers] at hruns
  cases hruns

/-- So the once holds nobody up, nor then the lock. -/
theorem returned_of_resting {cfg : ConnectConfig} {s : Connecting} (hacc : Accounted cfg s)
    (hruns : OnceRuns s) (hrest : Resting cfg s) :
    (∀ pc ∈ s.calls, ∃ r, pc = .returned r) ∧ ∀ pc ∈ s.dialers, ∃ r, pc = .returned r := by
  have honce := not_running_of_resting hruns hrest
  have hfree : s.lock = none := by
    by_contra hne
    obtain ⟨i, hlock⟩ := Option.ne_none_iff_exists'.mp hne
    have hi := List.getElem?_eq_getElem (hacc.owner i hlock)
    have hholds := (hacc.lock i _ hi).mpr hlock
    rcases waits_of_callStep hi (hrest.1 i true) with ⟨hpc, -⟩ | ⟨k, -, hrunning⟩ | ⟨r, hpc⟩
    · rw [hpc] at hholds
      cases hholds
    · exact honce hrunning
    · rw [hpc] at hholds
      cases hholds
  constructor
  · intro pc hpc
    obtain ⟨i, hi⟩ := List.mem_iff_getElem?.mp hpc
    rcases waits_of_callStep hi (hrest.1 i true) with ⟨-, hlock⟩ | ⟨k, -, hrunning⟩ | hreturned
    · exact absurd hfree hlock
    · exact absurd hrunning honce
    · exact hreturned
  · intro pc hpc
    obtain ⟨d, hd⟩ := List.mem_iff_getElem?.mp hpc
    exact (waits_of_dialerStep hd (hrest.2 d true)).resolve_left fun hwaits => honce hwaits.2

/-- **`Client` calls and dials return.**  From any point of any run: the steps that the `Client`
    calls and the dials in the background take are bounded by what is left to do, plus eight for
    each new `Client` call and five for each new dial.  And when none of them can go on, all have
    returned: the call that has the client's lock and waits in `grpcMuxerOnce` for a dial, and the
    calls that wait for the lock, never hold each other up. -/
theorem client_calls_return {cfg : ConnectConfig} {run rest : List Act} {s s' : Connecting}
    (hrun : exec (step cfg) init run = some s) (hrest : exec (step cfg) s rest = some s') :
    s'.stepsLeft + tally Act.uses rest ≤ s.stepsLeft + tally Act.adds rest ∧
      (Resting cfg s' → (∀ pc ∈ s'.calls, ∃ r, pc = .returned r) ∧
        ∀ pc ∈ s'.dialers, ∃ r, pc = .returned r) := by
  have hbound : ∀ t a t', step cfg t a = some t' → t'.stepsLeft + a.uses ≤ t.stepsLeft + a.adds :=
    fun _ _ _ hstep => stepsLeft_next (next_of_step hstep)
  have hstep : ∀ (t : Connecting) a t', Accounted cfg t ∧ OnceRuns t → step cfg t a = some t' →
      Accounted cfg t' ∧ OnceRuns t' := fun t a t' ht hst =>
    ⟨ht.1.next (next_of_step hst), ht.2.next (next_of_step hst)⟩
  refine ⟨tally_add_le_of_exec hbound hrest, fun hresting => ?_⟩
  obtain ⟨hacc, hruns⟩ := exec_invariant_of_step hstep
    (exec_invariant_of_step hstep ⟨accounted_init cfg, rfl⟩ hrun) hrest
  exact returned_of_resting hacc hruns hresting

/-- A call that has returned does not go on. -/
theorem resting_of_returned {cfg : ConnectConfig} {s : Connecting}
    (hcalls : ∀ pc ∈ s.calls, pc.stepsLeft = 0) (hdialers : ∀ pc ∈ s.dialers, pc.stepsLeft = 0) :
    Resting cfg s := by
  have hzero : s.stepsLeft = 0 := by
    rw [stepsLeft, tally_eq_zero.mpr hcalls, tally_eq_zero.mpr hdialers]
  constructor
  · intro i ok
    by_contra hne
    obtain ⟨s', hs'⟩ := Option.ne_none_iff_exists'.mp hne
    have hless := stepsLeft_next (next_of_callStep hs')
    simp only [Act.uses, Act.adds] at hless
    omega
  · intro d ok
    by_contra hne
    obtain ⟨s', hs'⟩ := Option.ne_none_iff_exists'.mp hne
    have hless := stepsLeft_next (@next_of_dialerStep cfg _ _ _ _ hs')
    simp only [Act.uses, Act.adds] at hless
    omega

theorem client_calls_return_connects :
    ∃ s s', exec (step ⟨.grpc, true⟩) init (connects.take 5) = some s ∧
      exec (step ⟨.grpc, true⟩) s (connects.drop 5) = some s' ∧
      s'.stepsLeft + tally Act.uses (connects.drop 5) ≤
        s.stepsLeft + tally Act.adds (connects.drop 5) ∧
      ∀ pc ∈ s'.calls, ∃ r, pc = .returned r := by
  obtain ⟨hbound, hreturned⟩ := @client_calls_return ⟨.grpc, true⟩ (connects.take 5)
    (connects.drop 5) _ _ rfl rfl
  exact ⟨_, _, rfl, rfl, hbound, (hreturned (resting_of_returned (by decide) (by decide))).1⟩

end Connecting

end GoPlugin
