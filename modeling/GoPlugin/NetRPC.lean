import GoPlugin.LockedClose
import GoPlugin.Shares
import GoPlugin.StdioForwarding

/-!
# A net/rpc plugin and the hosts connected to it

`RPCServer.Serve` takes connections and runs `ServeConn` for each.  Over a yamux session
`ServeConn` accepts the control stream, one for stdout and one for stderr, and leaves every later
one to a `MuxBroker`; `NewRPCClient` opens them.  Nothing on a stream says what it is for: the two
ends only agree because they take the streams up in the same order.

The output of the plugin is one pair of pipes, which the `copyStream` goroutines of all connections
read.  `RPCClient.Close` calls `Control.Quit`, and `RPCServer.done` then closes the channel that
`Serve` of the plugin waits for; the accept loop calls `done` as well when it ends.

What is assumed of yamux: streams are accepted in the order in which they were opened, a stream
carries bytes in order, and a session may end at any time with what is under way on it.  What is
assumed of net/rpc: a reply reaches the call that it answers, and a call may fail at any time.
-/

namespace GoPlugin

open LabelledSystem Tally LockedClose Shares

/-! ### The streams of a connection -/

/-- What one end of a connection uses a stream for. -/
inductive StreamUse where
  | control
  | stdio (ch : StdStream)
  | broker
deriving DecidableEq, Repr

/-- The place of a stream in the slice `stdstream`. -/
def StdStream.index : StdStream → Nat
  | .out => 0
  | .err => 1

/-- The streams of one end, by their numbers. -/
structure StreamTable where
  control : Option Nat
  stdstream : List Nat
  broker : List Nat
deriving DecidableEq, Repr

namespace StreamTable

def empty : StreamTable := ⟨none, [], []⟩

def stdio (t : StreamTable) (ch : StdStream) : Option Nat := t.stdstream[ch.index]?

def use (t : StreamTable) (n : Nat) : Option StreamUse :=
  if t.control = some n then some .control
  else if t.stdio .out = some n then some (.stdio .out)
  else if t.stdio .err = some n then some (.stdio .err)
  else if n ∈ t.broker then some .broker
  else none

end StreamTable

/-- Where `NewRPCClient` or `ServeConn` stands. -/
inductive SetupPc where
  | control              -- before the control stream
  | stdstream (i : Nat)  -- in the loop over `stdstream`
  | ready                -- the broker runs
  | failed
deriving DecidableEq, Repr

/-- One end of a connection. -/
structure RPCEnd where
  table : StreamTable
  pc : SetupPc
deriving DecidableEq, Repr

namespace RPCEnd

def init : RPCEnd := ⟨.empty, .control⟩

/-- The end has the stream `n` from `mux.Open` or `mux.Accept`. -/
def take (e : RPCEnd) (n : Nat) : Option RPCEnd :=
  match e.pc with
  | .control => some ⟨{ e.table with control := some n }, .stdstream 0⟩
  | .stdstream i =>
      some ⟨{ e.table with stdstream := e.table.stdstream ++ [n] },
        if i + 1 < 2 then .stdstream (i + 1) else .ready⟩
  | .ready => some { e with table := { e.table with broker := e.table.broker ++ [n] } }
  | .failed => none

end RPCEnd

/-- A stream that the host has opened: the output that the host has not read, and the calls and
    replies of net/rpc by their sequence numbers. -/
structure RPCStream where
  toHost : ByteString
  requests : List Nat
  replies : List Nat
deriving DecidableEq, Repr

/-- Where a `copyStream` goroutine stands. -/
inductive CopyStreamPc where
  | idle                        -- not started
  | reading
  | writing (buf : ByteString)
  | returned
deriving DecidableEq, Repr

/-- What it has read and not written. -/
def CopyStreamPc.pending : CopyStreamPc → ByteString
  | .writing buf => buf
  | _ => []

/-- `copyStream` with a reader and a writer that are there or `nil`. -/
def copyStream (src dst : Bool) : CopyStreamPc := if src && dst then .reading else .returned

/-- It has written `n` bytes of `buf`; `io.Copy` ends on an error and on a short write. -/
def CopyStreamPc.wrote (ok : Bool) : CopyStreamPc := if ok then .reading else .returned

/-- Where an `RPCClient.Close` call stands.  `quit` says that the `Control.Quit` call succeeded. -/
inductive ClosePc where
  | calling (seq : Nat)      -- in `control.Call`
  | control (quit : Bool)    -- before `control.Close`
  | stdout (quit : Bool)
  | stderr (quit : Bool)
  | broker (quit : Bool)
  | returned (ok : Bool)     -- whether the error is `nil`
deriving DecidableEq, Repr

/-! ### One connection -/

/-- The readers that the server was given, and the writers that `SyncStreams` was given. -/
structure StdioConfig where
  readers : StdStream → Bool
  writers : StdStream → Bool

/-- A connection with its goroutines on both sides. -/
structure RPCConn where
  live : Bool                        -- the session has not ended
  streams : List RPCStream
  accepted : Nat                     -- how many of the streams the plugin has accepted
  client : RPCEnd
  server : RPCEnd
  sent : StdStream → CopyStreamPc    -- `copyStream` of `ServeConn`
  synced : StdStream → CopyStreamPc  -- `copyStream` of `SyncStreams`
  written : StdStream → ByteString   -- to `SyncStdout` and `SyncStderr`
  seq : Nat
  closes : List ClosePc
  controlClosed : Bool
  stdoutClosed : Bool
  stderrClosed : Bool

namespace RPCConn

def init : RPCConn where
  live := true
  streams := []
  accepted := 0
  client := .init
  server := .init
  sent _ := .idle
  synced _ := .idle
  written _ := []
  seq := 0
  closes := []
  controlClosed := false
  stdoutClosed := false
  stderrClosed := false

inductive Act where
  | openStream (ok : Bool)                       -- `mux.Open` of `NewRPCClient`, then of the broker
  | acceptStream (ok : Bool)                     -- `mux.Accept` of `ServeConn`, then of the broker
  | syncStreams
  | send (ch : StdStream) (n : Nat) (ok : Bool)  -- the plugin's `copyStream` writes `n` bytes
  | sendEnds (ch : StdStream)                    -- its read fails
  | receive (ch : StdStream) (n : Nat)           -- the host's `copyStream` reads `n` bytes
  | receiveEnds (ch : StdStream)
  | write (ch : StdStream) (n : Nat) (ok : Bool) -- and writes
  | close (ok : Bool)                            -- `Close` sends the `Control.Quit` call
  | closeNext (i : Nat) (ok : Bool)              -- the `i`-th `Close` call goes on
  | hangUp                                       -- the session ends
deriving DecidableEq, Repr

def openStream (s : RPCConn) (ok : Bool) : Option RPCConn :=
  if ok then
    if s.live then
      (s.client.take s.streams.length).map fun e =>
        { s with client := e, streams := s.streams ++ [⟨[], [], []⟩] }
    else none
  else
    match s.client.pc with
    | .control | .stdstream _ =>
        some { s with client := { s.client with pc := .failed }, live := false }
    | .ready | .failed => none

def acceptStream (cfg : StdioConfig) (s : RPCConn) (ok : Bool) : Option RPCConn :=
  if ok then
    if s.accepted < s.streams.length then
      (s.server.take s.accepted).map fun e =>
        { s with
          server := e
          accepted := s.accepted + 1
          -- the goroutines start when the loop over `stdstream` ends
          sent := if s.server.pc ≠ .ready ∧ e.pc = .ready then
            fun ch => copyStream (cfg.readers ch) true else s.sent }
    else none
  else
    match s.server.pc with
    | .failed => none
    | _ => some { s with server := { s.server with pc := .failed }, live := false }

/-- A step of the `i`-th `Close` call, which stands at `pc`. -/
def closeStep (s : RPCConn) (i : Nat) (ok : Bool) : ClosePc → Option RPCConn
  | .calling seq =>
      if ok then
        match s.client.table.control.bind (s.streams[·]?) with
        | some stream =>
            if stream.replies.contains seq then
              some { s with closes := s.closes.set i (.control true) }
            else none
        | none => none
      else some { s with closes := s.closes.set i (.control false) }
  | .control quit =>
      -- `rpc.Client.Close` returns `ErrShutdown` where it was called before
      some { s with
        controlClosed := true
        closes := s.closes.set i
          (if ok && !s.controlClosed then .stdout quit else .returned false) }
  | .stdout quit =>
      some { s with
        stdoutClosed := true
        closes := s.closes.set i (if ok then .stderr quit else .returned false) }
  | .stderr quit =>
      some { s with
        stderrClosed := true
        closes := s.closes.set i (if ok then .broker quit else .returned false) }
  | .broker quit =>
      some { s with live := false, closes := s.closes.set i (.returned (ok && quit)) }
  | .returned _ => none

def step (cfg : StdioConfig) (s : RPCConn) : Act → Option RPCConn
  | .openStream ok => s.openStream ok
  | .acceptStream ok => acceptStream cfg s ok
  | .syncStreams =>
      if s.client.pc = .ready ∧ s.synced .out = .idle ∧ s.synced .err = .idle then
        some { s with synced := fun ch => copyStream true (cfg.writers ch) }
      else none
  | .send ch n ok =>
      match s.sent ch, s.server.table.stdio ch with
      | .writing buf, some i =>
          if n ≤ buf.length ∧ (ok → n = buf.length) ∧ (s.live = false → n = 0 ∧ ok = false) then
            some { s with
              streams := s.streams.modify i fun x => { x with toHost := x.toHost ++ buf.take n }
              sent := Function.update s.sent ch (.wrote ok) }
          else none
      | _, _ => none
  | .sendEnds ch =>
      match s.sent ch with
      | .reading => some { s with sent := Function.update s.sent ch .returned }
      | _ => none
  | .receive ch n =>
      match s.synced ch, s.client.table.stdio ch with
      | .reading, some i =>
          match s.streams[i]? with
          | some x =>
              if 0 < n ∧ n ≤ x.toHost.length then
                some { s with
                  streams := s.streams.set i { x with toHost := x.toHost.drop n }
                  synced := Function.update s.synced ch (.writing (x.toHost.take n)) }
              else none
          | none => none
      | _, _ => none
  | .receiveEnds ch =>
      match s.synced ch with
      | .reading => some { s with synced := Function.update s.synced ch .returned }
      | _ => none
  | .write ch n ok =>
      match s.synced ch with
      | .writing buf =>
          if n ≤ buf.length ∧ (ok → n = buf.length) then
            some { s with
              written := Function.update s.written ch (s.written ch ++ buf.take n)
              synced := Function.update s.synced ch (.wrote ok) }
          else none
      | _ => none
  | .close ok =>
      if s.client.pc = .ready then
        if ok && s.live && !s.controlClosed then
          s.client.table.control.map fun i =>
            { s with
              streams := s.streams.modify i fun x => { x with requests := x.requests ++ [s.seq] }
              seq := s.seq + 1
              closes := s.closes ++ [.calling s.seq] }
        else some { s with closes := s.closes ++ [.control false] }
      else none
  | .closeNext i ok =>
      match s.closes[i]? with
      | some pc => s.closeStep i ok pc
      | none => none
  | .hangUp => some { s with live := false }

/-- The control server reads a `Control.Quit` call. -/
def request (s : RPCConn) : Option (Nat × RPCConn) :=
  if s.server.pc = .ready then
    match s.server.table.control with
    | some i =>
        match s.streams[i]? with
        | some ⟨toHost, seq :: requests, replies⟩ =>
            some (seq, { s with streams := s.streams.set i ⟨toHost, requests, replies⟩ })
        | _ => none
    | none => none
  else none

/-- It writes the reply, which is lost where the session has ended. -/
def reply (s : RPCConn) (seq : Nat) : RPCConn :=
  match s.live, s.server.table.control with
  | true, some i =>
      { s with streams := s.streams.modify i fun x => { x with replies := x.replies ++ [seq] } }
  | _, _ => s

/-- The plugin's `copyStream` has read `chunk`. -/
def feed (s : RPCConn) (ch : StdStream) (chunk : ByteString) : RPCConn :=
  { s with sent := Function.update s.sent ch (.writing chunk) }

/-! ### What one step of a connection can do -/

/-- A step of a `Close` call, from where it stands to the next place. -/
inductive CloseNext (s : RPCConn) (i : Nat) : ClosePc → RPCConn → Prop where
  | answered {seq n stream} (hn : s.client.table.control = some n)
      (hstream : s.streams[n]? = some stream) (hseq : seq ∈ stream.replies) :
      CloseNext s i (.calling seq) { s with closes := s.closes.set i (.control true) }
  | unanswered {seq} :
      CloseNext s i (.calling seq) { s with closes := s.closes.set i (.control false) }
  | control {quit} :
      CloseNext s i (.control quit)
        { s with controlClosed := true, closes := s.closes.set i (.stdout quit) }
  | stdout {quit} :
      CloseNext s i (.stdout quit)
        { s with stdoutClosed := true, closes := s.closes.set i (.stderr quit) }
  | stderr {quit} :
      CloseNext s i (.stderr quit)
        { s with stderrClosed := true, closes := s.closes.set i (.broker quit) }
  | broker {quit ok} :
      CloseNext s i (.broker quit)
        { s with live := false, closes := s.closes.set i (.returned (ok && quit)) }
  | fail {pc c o e} (hc : s.controlClosed = true → c = true)
      (ho : s.stdoutClosed = true → o = true) (he : s.stderrClosed = true → e = true) :
      CloseNext s i pc
        { s with
          controlClosed := c
          stdoutClosed := o
          stderrClosed := e
          closes := s.closes.set i (.returned false) }

inductive Next (cfg : StdioConfig) (s : RPCConn) : RPCConn → Prop where
  | opened {e} (he : s.client.take s.streams.length = some e) :
      Next cfg s { s with client := e, streams := s.streams ++ [⟨[], [], []⟩] }
  | openFails :
      Next cfg s { s with client := { s.client with pc := .failed }, live := false }
  | accepted {e} (hlt : s.accepted < s.streams.length) (he : s.server.take s.accepted = some e) :
      Next cfg s
        { s with
          server := e
          accepted := s.accepted + 1
          sent := if s.server.pc ≠ .ready ∧ e.pc = .ready then
            fun ch => copyStream (cfg.readers ch) true else s.sent }
  | acceptFails :
      Next cfg s { s with server := { s.server with pc := .failed }, live := false }
  | syncStreams (hout : s.synced .out = .idle) (herr : s.synced .err = .idle) :
      Next cfg s { s with synced := fun ch => copyStream true (cfg.writers ch) }
  | send {ch n ok buf i} (hsent : s.sent ch = .writing buf)
      (hi : s.server.table.stdio ch = some i) (hok : ok = true → n = buf.length) :
      Next cfg s
        { s with
          streams := s.streams.modify i fun x => { x with toHost := x.toHost ++ buf.take n }
          sent := Function.update s.sent ch (.wrote ok) }
  | sendEnds {ch} (hsent : s.sent ch = .reading) :
      Next cfg s { s with sent := Function.update s.sent ch .returned }
  | receive {ch n i x} (hsynced : s.synced ch = .reading) (hi : s.client.table.stdio ch = some i)
      (hx : s.streams[i]? = some x) :
      Next cfg s
        { s with
          streams := s.streams.set i { x with toHost := x.toHost.drop n }
          synced := Function.update s.synced ch (.writing (x.toHost.take n)) }
  | receiveEnds {ch} (hsynced : s.synced ch = .reading) :
      Next cfg s { s with synced := Function.update s.synced ch .returned }
  | write {ch n ok buf} (hsynced : s.synced ch = .writing buf)
      (hok : ok = true → n = buf.length) :
      Next cfg s
        { s with
          written := Function.update s.written ch (s.written ch ++ buf.take n)
          synced := Function.update s.synced ch (.wrote ok) }
  | quit {i} :
      Next cfg s
        { s with
          streams := s.streams.modify i fun x => { x with requests := x.requests ++ [s.seq] }
          seq := s.seq + 1
          closes := s.closes ++ [.calling s.seq] }
  | quitFails : Next cfg s { s with closes := s.closes ++ [.control false] }
  | close {i pc s'} (hpc : s.closes[i]? = some pc) (h : CloseNext s i pc s') : Next cfg s s'
  | hangUp : Next cfg s { s with live := false }

theorem closeNext_of_closeStep {s s' : RPCConn} {i : Nat} {ok : Bool} {pc : ClosePc}
    (h : s.closeStep i ok pc = some s') : CloseNext s i pc s' := by
  cases pc with
  | calling seq =>
      cases ok with
      | false =>
          cases h
          exact .unanswered
      | true =>
          simp only [closeStep, if_true] at h
          split at h
          · next stream hstream =>
              obtain ⟨n, hn, hget⟩ := Option.bind_eq_some_iff.mp hstream
              split at h
              · next hseq =>
                  cases h
                  exact .answered hn hget (List.contains_iff_mem.mp hseq)
              · cases h
          · cases h
  | control quit =>
      cases h
      cases hok : ok && !s.controlClosed with
      | false => exact .fail (fun _ => rfl) (fun h => h) (fun h => h)
      | true => exact .control
  | stdout quit =>
      cases h
      cases ok with
      | false => exact .fail (fun h => h) (fun _ => rfl) (fun h => h)
      | true => exact .stdout
  | stderr quit =>
      cases h
      cases ok with
      | false => exact .fail (fun h => h) (fun h => h) (fun _ => rfl)
      | true => exact .stderr
  | broker quit =>
      cases h
      exact .broker
  | returned ok => cases h

theorem next_of_step {cfg : StdioConfig} {s s' : RPCConn} {a : Act} (h : s.step cfg a = some s') :
    Next cfg s s' := by
  cases a with
  | openStream ok =>
      simp only [step, openStream] at h
      split at h
      · split at h
        · obtain ⟨e, he, rfl⟩ := Option.map_eq_some_iff.mp h
          exact .opened he
        · cases h
      · split at h <;> cases h
        · exact .openFails
        · exact .openFails
  | acceptStream ok =>
      simp only [step, acceptStream] at h
      split at h
      · split at h
        · next hlt =>
            obtain ⟨e, he, rfl⟩ := Option.map_eq_some_iff.mp h
            exact .accepted hlt he
        · cases h
      · split at h <;> cases h
        exact .acceptFails
  | syncStreams =>
      simp only [step] at h
      split at h
      · next hready =>
          cases h
          exact .syncStreams hready.2.1 hready.2.2
      · cases h
  | send ch n ok =>
      simp only [step] at h
      split at h
      · next buf i hsent hi =>
          split at h
          · next hn =>
              cases h
              exact .send hsent hi hn.2.1
          · cases h
      · cases h
  | sendEnds ch =>
      simp only [step] at h
      split at h
      · next hsent =>
          cases h
          exact .sendEnds hsent
      · cases h
  | receive ch n =>
      simp only [step] at h
      split at h
      · next i hsynced hi =>
          split at h
          · next x hx =>
              split at h
              · cases h
                exact .receive hsynced hi hx
              · cases h
          · cases h
      · cases h
  | receiveEnds ch =>
      simp only [step] at h
      split at h
      · next hsynced =>
          cases h
          exact .receiveEnds hsynced
      · cases h
  | write ch n ok =>
      simp only [step] at h
      split at h
      · next buf hsynced =>
          split at h
          · next hn =>
              cases h
              exact .write hsynced hn.2
          · cases h
      · cases h
  | close ok =>
      simp only [step] at h
      split at h
      · split at h
        · obtain ⟨i, -, rfl⟩ := Option.map_eq_some_iff.mp h
          exact .quit
        · cases h
          exact .quitFails
      · cases h
  | closeNext i ok =>
      simp only [step] at h
      split at h
      · next pc hpc => exact .close hpc (closeNext_of_closeStep h)
      · cases h
  | hangUp =>
      cases h
      exact .hangUp

end RPCConn

/-! ### The plugin -/

/-- Who called `done`. -/
inductive DoneOrigin where
  | serve                    -- the deferred call of `RPCServer.Serve`
  | quit (c seq : Nat)       -- the `Control.Quit` call `seq` of the `c`-th connection
  | replied                  -- such a call that has been answered
deriving DecidableEq, Repr

/-- Where `Serve` of the plugin stands after `go server.Serve(listener)`. -/
inductive MainPc where
  | selecting      -- in the select on the context and `doneCh`
  | cancelled      -- the context is done and the listener closed: in `<-doneCh`
  | returned
deriving DecidableEq, Repr

/-- The plugin's process and all connections to it.  `chunks` records what the `copyStream`
    goroutines have read from the pipes, and for which connection. -/
structure NetRPC where
  unread : StdStream → ByteString
  chunks : StdStream → List (Nat × ByteString)
  conns : List RPCConn
  listening : Bool
  accepting : Bool             -- the loop of `RPCServer.Serve`
  doneCh : Guarded
  origins : List DoneOrigin    -- of the callers of `done`
  main : MainPc

namespace NetRPC

def init : NetRPC where
  unread _ := []
  chunks _ := []
  conns := []
  listening := true
  accepting := true
  doneCh := .init
  origins := []
  main := .selecting

inductive Act where
  | print (ch : StdStream) (bytes : ByteString)
  | connect                                       -- `lis.Accept` gives a connection
  | acceptFails
  | conn (c : Nat) (a : RPCConn.Act)
  | copyRead (c : Nat) (ch : StdStream) (n : Nat) -- `copyStream` reads `n` bytes of the pipe
  | request (c : Nat)
  | done (k : Nat)                                -- the `k`-th `done` call goes on
  | reply (k : Nat)
  | cancel                                        -- the context is done, in test mode
  | main                                          -- `Serve` receives from `doneCh`
deriving DecidableEq, Repr

def step (cfg : StdioConfig) (s : NetRPC) : Act → Option NetRPC
  | .print ch bytes =>
      some { s with unread := Function.update s.unread ch (s.unread ch ++ bytes) }
  | .connect =>
      if s.accepting ∧ s.listening then some { s with conns := s.conns ++ [.init] } else none
  | .acceptFails =>
      if s.accepting then
        some { s with
          accepting := false, doneCh := s.doneCh.enter, origins := s.origins ++ [.serve] }
      else none
  | .conn c a =>
      (s.conns[c]?).bind fun conn =>
        (conn.step cfg a).map fun conn' => { s with conns := s.conns.set c conn' }
  | .copyRead c ch n =>
      match s.conns[c]? with
      | some conn =>
          if conn.sent ch = .reading ∧ 0 < n ∧ n ≤ (s.unread ch).length then
            some { s with
              unread := Function.update s.unread ch ((s.unread ch).drop n)
              chunks := give s.chunks ch c ((s.unread ch).take n)
              conns := s.conns.set c (conn.feed ch ((s.unread ch).take n)) }
          else none
      | none => none
  | .request c =>
      (s.conns[c]?).bind fun conn =>
        conn.request.map fun x =>
          { s with
            conns := s.conns.set c x.2
            doneCh := s.doneCh.enter
            origins := s.origins ++ [.quit c x.1] }
  | .done k => (s.doneCh.step k).map fun g => { s with doneCh := g }
  | .reply k =>
      match s.doneCh.callers[k]?, s.origins[k]? with
      | some .returned, some (.quit c seq) =>
          (s.conns[c]?).map fun conn =>
            { s with
              conns := s.conns.set c (conn.reply seq)
              origins := s.origins.set k .replied }
      | _, _ => none
  | .cancel =>
      if s.main = .selecting then some { s with main := .cancelled, listening := false } else none
  | .main =>
      if s.main ≠ .returned ∧ 0 < s.doneCh.closed then
        some { s with main := .returned, listening := false }
      else none

/-! ### What one step can do -/

inductive Next (cfg : StdioConfig) (s : NetRPC) : Act → NetRPC → Prop where
  | print {ch bytes} :
      Next cfg s (.print ch bytes)
        { s with unread := Function.update s.unread ch (s.unread ch ++ bytes) }
  | connect : Next cfg s .connect { s with conns := s.conns ++ [.init] }
  | acceptFails (haccepting : s.accepting = true) :
      Next cfg s .acceptFails
        { s with accepting := false, doneCh := s.doneCh.enter, origins := s.origins ++ [.serve] }
  | conn {c a conn conn'} (hc : s.conns[c]? = some conn) (h : RPCConn.Next cfg conn conn') :
      Next cfg s (.conn c a) { s with conns := s.conns.set c conn' }
  | copyRead {c ch n conn} (hc : s.conns[c]? = some conn) (hsent : conn.sent ch = .reading) :
      Next cfg s (.copyRead c ch n)
        { s with
          unread := Function.update s.unread ch ((s.unread ch).drop n)
          chunks := give s.chunks ch c ((s.unread ch).take n)
          conns := s.conns.set c (conn.feed ch ((s.unread ch).take n)) }
  | request {c conn seq conn'} (hc : s.conns[c]? = some conn)
      (h : conn.request = some (seq, conn')) :
      Next cfg s (.request c)
        { s with
          conns := s.conns.set c conn'
          doneCh := s.doneCh.enter
          origins := s.origins ++ [.quit c seq] }
  | done {k g} (h : s.doneCh.step k = some g) : Next cfg s (.done k) { s with doneCh := g }
  | reply {k c seq conn} (hk : s.doneCh.callers[k]? = some .returned)
      (hc : s.conns[c]? = some conn) :
      Next cfg s (.reply k)
        { s with conns := s.conns.set c (conn.reply seq), origins := s.origins.set k .replied }
  | cancel : Next cfg s .cancel { s with main := .cancelled, listening := false }
  | main (hmain : s.main ≠ .returned) (hclosed : 0 < s.doneCh.closed) :
      Next cfg s .main { s with main := .returned, listening := false }

theorem next_of_step {cfg : StdioConfig} {s s' : NetRPC} {a : Act} (h : s.step cfg a = some s') :
    Next cfg s a s' := by
  cases a with
  | print ch bytes =>
      cases h
      exact .print
  | connect =>
      simp only [step] at h
      split at h <;> cases h
      exact .connect
  | acceptFails =>
      simp only [step] at h
      split at h
      · next haccepting =>
          cases h
          exact .acceptFails haccepting
      · cases h
  | conn c a =>
      obtain ⟨conn, hc, hmap⟩ := Option.bind_eq_some_iff.mp h
      obtain ⟨conn', hstep, rfl⟩ := Option.map_eq_some_iff.mp hmap
      exact .conn hc (RPCConn.next_of_step hstep)
  | copyRead c ch n =>
      simp only [step] at h
      split at h
      · next conn hc =>
          split at h
          · next hsent =>
              cases h
              exact .copyRead hc hsent.1
          · cases h
      · cases h
  | request c =>
      obtain ⟨conn, hc, hmap⟩ := Option.bind_eq_some_iff.mp h
      obtain ⟨⟨seq, conn'⟩, hreq, rfl⟩ := Option.map_eq_some_iff.mp hmap
      exact .request hc hreq
  | done k =>
      obtain ⟨g, hg, rfl⟩ := Option.map_eq_some_iff.mp h
      exact .done hg
  | reply k =>
      simp only [step] at h
      split at h
      · next c seq hk horigin =>
          obtain ⟨conn, hc, rfl⟩ := Option.map_eq_some_iff.mp h
          exact .reply hk hc
      · cases h
  | cancel =>
      simp only [step] at h
      split at h <;> cases h
      exact .cancel
  | main =>
      simp only [step] at h
      split at h
      · next hmain =>
          cases h
          exact .main hmain.1 hmain.2
      · cases h

/-- A property of connections that all steps keep. -/
structure ConnInvariant (cfg : StdioConfig) (P : RPCConn → Prop) : Prop where
  init : P .init
  next : ∀ s s', P s → RPCConn.Next cfg s s' → P s'
  request : ∀ s seq s', P s → s.request = some (seq, s') → P s'
  reply : ∀ s seq, P s → P (s.reply seq)
  feed : ∀ s ch chunk, P s → P (s.feed ch chunk)

theorem ConnInvariant.step {cfg : StdioConfig} {P : RPCConn → Prop} (hP : ConnInvariant cfg P)
    {s s' : NetRPC} {a : Act} (h : ∀ conn ∈ s.conns, P conn) (hnext : Next cfg s a s') :
    ∀ conn ∈ s'.conns, P conn := by
  -- one connection is replaced
  have hset : ∀ {c : Nat} {x : RPCConn}, P x → ∀ conn ∈ s.conns.set c x, P conn := by
    intro c x hx conn hconn
    rcases List.mem_or_eq_of_mem_set hconn with hold | rfl
    · exact h conn hold
    · exact hx
  cases hnext with
  | print | acceptFails | done | cancel | main => exact h
  | connect =>
      intro conn hconn
      rcases List.mem_append.mp hconn with hold | hnew
      · exact h conn hold
      · rw [List.mem_singleton.mp hnew]
        exact hP.init
  | conn hc hconn => exact hset (hP.next _ _ (h _ (List.mem_of_getElem? hc)) hconn)
  | copyRead hc => exact hset (hP.feed _ _ _ (h _ (List.mem_of_getElem? hc)))
  | request hc hreq => exact hset (hP.request _ _ _ (h _ (List.mem_of_getElem? hc)) hreq)
  | reply hk hc => exact hset (hP.reply _ _ (h _ (List.mem_of_getElem? hc)))

/-- The invariant rule for connections. -/
theorem ConnInvariant.of_exec {cfg : StdioConfig} {P : RPCConn → Prop} (hP : ConnInvariant cfg P)
    {run : List Act} {s : NetRPC}
    (hrun : exec (NetRPC.step cfg) NetRPC.init run = some s) : ∀ conn ∈ s.conns, P conn := by
  have hstep : ∀ (s : NetRPC) a s', (∀ conn ∈ s.conns, P conn) → s.step cfg a = some s' →
      ∀ conn ∈ s'.conns, P conn := fun s a s' h hs => hP.step h (next_of_step hs)
  exact exec_invariant_of_step hstep (by simp [NetRPC.init]) hrun

end NetRPC

/-! ### Both ends agree on what a stream is for -/

/-- What the `i`-th stream of a connection is for. -/
def StreamUse.ofIndex : Nat → StreamUse
  | 0 => .control
  | 1 => .stdio .out
  | 2 => .stdio .err
  | _ => .broker

namespace RPCEnd

/-- The table of an end that has taken up `n` streams. -/
def tableAt : Nat → StreamTable
  | 0 => .empty
  | 1 => ⟨some 0, [], []⟩
  | 2 => ⟨some 0, [1], []⟩
  | n + 3 => ⟨some 0, [1, 2], List.range' 3 n⟩

def pcAt : Nat → SetupPc
  | 0 => .control
  | 1 => .stdstream 0
  | 2 => .stdstream 1
  | _ + 3 => .ready

structure At (e : RPCEnd) (n : Nat) : Prop where
  table : e.table = tableAt n
  pc : e.pc = pcAt n ∨ e.pc = .failed

theorem use_tableAt (n i : Nat) :
    (tableAt n).use i = if i < n then some (.ofIndex i) else none := by
  match n with
  | 0 => simp [tableAt, StreamTable.use, StreamTable.stdio, StreamTable.empty]
  | 1 =>
      cases i with
      | zero => rfl
      | succ i => simp [tableAt, StreamTable.use, StreamTable.stdio]
  | 2 =>
      match i with
      | 0 => rfl
      | 1 => rfl
      | i + 2 => simp [tableAt, StreamTable.use, StreamTable.stdio, StdStream.index]
  | n + 3 =>
      match i with
      | 0 => simp [tableAt, StreamTable.use, StreamUse.ofIndex]
      | 1 => simp [tableAt, StreamTable.use, StreamTable.stdio, StdStream.index,
          StreamUse.ofIndex]
      | 2 => simp [tableAt, StreamTable.use, StreamTable.stdio, StdStream.index,
          StreamUse.ofIndex]
      | i + 3 =>
          have hmem : i + 3 ∈ List.range' 3 n ↔ i + 3 < n + 3 := by
            rw [List.mem_range'_1]
            omega
          simp [tableAt, StreamTable.use, StreamTable.stdio, StdStream.index,
            StreamUse.ofIndex, hmem]

/-- The output streams have their place after the control stream. -/
theorem stdio_tableAt {n i : Nat} {ch : StdStream} (h : (tableAt n).stdio ch = some i) :
    i = ch.index + 1 ∧ i < n := by
  match n with
  | 0 => simp [tableAt, StreamTable.stdio, StreamTable.empty] at h
  | 1 => simp [tableAt, StreamTable.stdio] at h
  | 2 =>
      cases ch with
      | out =>
          cases h
          exact ⟨rfl, by decide⟩
      | err => simp [tableAt, StreamTable.stdio, StdStream.index] at h
  | n + 3 =>
      cases ch with
      | out =>
          cases h
          exact ⟨rfl, by omega⟩
      | err =>
          cases h
          exact ⟨rfl, by omega⟩

theorem At.take {e e' : RPCEnd} {n : Nat} (h : e.At n) (htake : e.take n = some e') :
    e'.At (n + 1) := by
  obtain ⟨table, pc⟩ := e
  obtain ⟨rfl, hpc⟩ := h
  rcases hpc with rfl | rfl
  · match n with
    | 0 | 1 | 2 =>
        cases htake
        exact ⟨rfl, Or.inl rfl⟩
    | n + 3 =>
        cases htake
        refine ⟨?_, Or.inl rfl⟩
        simp [tableAt, List.range'_concat, Nat.add_comm]
  · cases htake

theorem At.fail {e : RPCEnd} {n : Nat} (h : e.At n) : ({ e with pc := .failed } : RPCEnd).At n :=
  ⟨h.table, Or.inr rfl⟩

end RPCEnd

namespace RPCConn

/-- The host has opened its streams in the order in which the plugin accepts them. -/
structure Wired (s : RPCConn) : Prop where
  accepted : s.accepted ≤ s.streams.length
  client : s.client.At s.streams.length
  server : s.server.At s.accepted

theorem wired_init : Wired init where
  accepted := Nat.le_refl _
  client := ⟨rfl, Or.inl rfl⟩
  server := ⟨rfl, Or.inl rfl⟩

/-- The content of the streams does not matter. -/
theorem Wired.congr {s s' : RPCConn} (h : Wired s) (hstreams : s'.streams.length = s.streams.length)
    (haccepted : s'.accepted = s.accepted) (hclient : s'.client = s.client)
    (hserver : s'.server = s.server) : Wired s' := by
  refine ⟨?_, ?_, ?_⟩
  · rw [hstreams, haccepted]
    exact h.accepted
  · rw [hstreams, hclient]
    exact h.client
  · rw [haccepted, hserver]
    exact h.server

theorem Wired.next {cfg : StdioConfig} {s s' : RPCConn} (h : Wired s) (hnext : Next cfg s s') :
    Wired s' := by
  cases hnext with
  | opened he =>
      refine ⟨?_, ?_, h.server⟩
      · have := h.accepted
        simp
        omega
      · rw [List.length_append, List.length_singleton]
        exact h.client.take he
  | openFails => exact ⟨h.accepted, h.client.fail, h.server⟩
  | accepted hlt he => exact ⟨hlt, h.client, h.server.take he⟩
  | acceptFails => exact ⟨h.accepted, h.client, h.server.fail⟩
  | syncStreams | sendEnds | receiveEnds | write | quitFails | hangUp =>
      exact h.congr rfl rfl rfl rfl
  | send => exact h.congr (List.length_modify ..) rfl rfl rfl
  | receive => exact h.congr List.length_set rfl rfl rfl
  | quit => exact h.congr (List.length_modify ..) rfl rfl rfl
  | close hpc hclose =>
      cases hclose <;> exact h.congr rfl rfl rfl rfl

theorem request_eq_some {s s' : RPCConn} {seq : Nat} (h : s.request = some (seq, s')) :
    ∃ i x requests, s.streams[i]? = some x ∧
      s' = { s with streams := s.streams.set i { x with requests := requests } } := by
  unfold request at h
  split at h
  · split at h
    · next i hi =>
        split at h
        · next toHost seq' requests replies hx =>
            cases h
            exact ⟨i, _, requests, hx, rfl⟩
        · cases h
    · cases h
  · cases h

theorem reply_cases (s : RPCConn) (seq : Nat) :
    s.reply seq = s ∨ ∃ i, s.server.table.control = some i ∧ s.reply seq = { s with
      streams := s.streams.modify i fun x => { x with replies := x.replies ++ [seq] } } := by
  unfold reply
  split
  · next i _ hi => exact Or.inr ⟨i, hi, rfl⟩
  · exact Or.inl rfl

theorem invariant_wired (cfg : StdioConfig) : NetRPC.ConnInvariant cfg Wired where
  init := wired_init
  next _ _ h hnext := h.next hnext
  request _ _ _ h hreq := by
    obtain ⟨i, x, requests, -, rfl⟩ := request_eq_some hreq
    exact h.congr List.length_set rfl rfl rfl
  reply s seq h := by
    rcases reply_cases s seq with heq | ⟨i, -, heq⟩
    · rw [heq]
      exact h
    · rw [heq]
      exact h.congr (List.length_modify ..) rfl rfl rfl
  feed _ _ _ h := h.congr rfl rfl rfl rfl

end RPCConn

namespace NetRPC

/-- **Agreement on the streams.**  In every run with any number of connections, what a plugin uses
    a stream for is what the host opened it for: the control calls, one of the two outputs, or the
    broker. -/
theorem streams_agree (cfg : StdioConfig) (run : List Act) {s : NetRPC}
    (hrun : exec (step cfg) init run = some s) {c : Nat} {conn : RPCConn}
    (hc : s.conns[c]? = some conn) {i : Nat} {u : StreamUse}
    (hu : conn.server.table.use i = some u) : conn.client.table.use i = some u := by
  have hwired := (RPCConn.invariant_wired cfg).of_exec hrun conn (List.mem_of_getElem? hc)
  rw [hwired.server.table, RPCEnd.use_tableAt] at hu
  rw [hwired.client.table, RPCEnd.use_tableAt]
  split at hu
  · next hlt =>
      rw [if_pos (Nat.lt_of_lt_of_le hlt hwired.accepted)]
      exact hu
  · cases hu

/-- A host connects and its broker dials once, all of which the plugin accepts. -/
def connected : List Act :=
  [.connect, .conn 0 (.openStream true), .conn 0 (.acceptStream true), .conn 0 (.openStream true),
    .conn 0 (.openStream true), .conn 0 (.acceptStream true), .conn 0 (.acceptStream true),
    .conn 0 .syncStreams, .conn 0 (.openStream true), .conn 0 (.acceptStream true)]

def allStdio : StdioConfig := ⟨fun _ => true, fun _ => true⟩

theorem streams_agree_connected :
    ∃ s conn, exec (step allStdio) init connected = some s ∧ s.conns[0]? = some conn ∧
      conn.client.table.use 2 = some (.stdio .err) ∧ conn.client.table.use 3 = some .broker := by
  refine ⟨_, _, rfl, rfl, ?_, ?_⟩
  · exact streams_agree allStdio connected rfl (c := 0) rfl rfl
  · exact streams_agree allStdio connected rfl (c := 0) rfl rfl

end NetRPC

end GoPlugin
