import GoPlugin.Reattach
import GoPlugin.ServerListener
import GoPlugin.TransportMode

/-!
# The body of `Serve`

`Serve` from the check of the cookie to its end, in test mode or not.  A deferred function closes
the variable `listener`, which may by then hold a TLS listener or a `GRPCServerMuxer`.  The first
passes the call on to the socket, the second does not.
-/

namespace GoPlugin

open ByteString Environ GoMap GoBody

structure ServeTestConfig where
  context : Bool               -- `Context` is not nil
  reattachConfigCh : Bool
  closeCh : Bool
deriving DecidableEq, Repr

/-- How `server.Init` comes out; the plugins' own functions run in it. -/
inductive InitOutcome where
  | ok | error | panic
deriving DecidableEq, Repr

/-- The session of a `GRPCServerMuxer`: nobody has connected, accepting it failed, or it is
    there. -/
inductive MuxSession where
  | pending | failed | established | closed
deriving DecidableEq, Repr

/-- What comes of the calls in `Serve`, and of the server while it runs. -/
structure ServeOutcomes extends ListenOutcomes where
  addr : Addr
  cert : Option Base64         -- `generateCert` and `X509KeyPair`
  pipes : Bool                 -- both calls of `os.Pipe`
  session : MuxSession
  init : InitOutcome
  pid : Int64
  cancelled : Bool             -- the context is done before the server is
  closes : Nat                 -- how often the server closes its listener

/-- The variables of `Serve`, and what it does to the outside. -/
structure ServeFrame where
  sockets : Sockets
  listener : Option NetListener
  session : MuxSession
  exitCode : Int
  line : Option ByteString                -- printed on standard output
  reattach : Option ReattachConfig        -- sent to `ReattachConfigCh`
  closeCh : Bool                          -- `CloseCh` is closed

/-- A call of `Serve` in a process with these sockets. -/
def ServeFrame.init (sockets : Sockets) : ServeFrame :=
  ⟨sockets, none, .pending, -1, none, none, false⟩

/-- `listener.Close()`, for the value that the variable has. -/
def ServeFrame.closeListener (s : ServeFrame) : ServeFrame :=
  match s.listener with
  | none => s
  | some (.muxer _) =>
      { s with session := if s.session = .established then .closed else s.session }
  | some l => { s with sockets := l.close s.sockets }

abbrev ServeBody := Body ServeFrame Unit

namespace ServeBody

/-- `exitCode = 1` and the return. -/
def fail {α : Type} : ServeBody α := do
  Body.update fun s => { s with exitCode := 1 }
  .ret ()

def rebind (wrap : NetListener → NetListener) : ServeBody Unit :=
  Body.update fun s => { s with listener := s.listener.map wrap }

def initServer (o : ServeOutcomes) : ServeBody Unit :=
  match o.init with
  | .ok => pure ()
  | .error => .ret ()
  | .panic => .crash

def preparePipes (o : ServeOutcomes) : ServeBody Unit := if o.pipes then pure () else .exit

/-- The server runs until it is done or the context is; `Stop` of a `GRPCServer` closes the
    listener once more. -/
def run (test : Option ServeTestConfig) (o : ServeOutcomes) (proto : Protocol) :
    ServeBody Unit := do
  Body.update ServeFrame.closeListener^[o.closes]
  if test.any (·.context) && o.cancelled then
    Body.update ServeFrame.closeListener
    if proto = .grpc then Body.update ServeFrame.closeListener else pure ()
  else pure ()

section

variable (opts : ServeConfig) (test : Option ServeTestConfig) (env : List ByteString)
  (order : RangeOrder Int64 PluginSet) (setOrder : Int64 → RangeOrder ByteString Plugin)
  (o : ServeOutcomes)

def checkCookie : ServeBody Unit :=
  if test.isSome then pure ()
  else if opts.magicCookieKey = [] ∨ opts.magicCookieValue = [] then fail
  else if getenv env opts.magicCookieKey ≠ opts.magicCookieValue then fail
  else pure ()

def obtainListener : ServeBody Unit := do
  let r ← Body.within ServeFrame.sockets (fun t s => { s with sockets := t })
    (Body.call (ListenerBody.serverListener o.toListenOutcomes (getenv env envUnixSocketGroup)))
  match r with
  | .error _ => .ret ()
  | .ok n => Body.update fun s => { s with listener := some (.socket n) }

/-- Whether there is a TLS configuration, and the certificate for the line. -/
def configureTLS : ServeBody (Bool × ByteString) :=
  match opts.providedTLS with
  | none => .ret ()
  | some provided =>
      if provided = true ∧ getenv env envClientCert ≠ [] then fail
      else if provided = false ∧ getenv env envClientCert ≠ [] then
        match o.cert with
        | none => .crash
        | some cert => pure (true, cert.text)
      else pure (provided, [])

/-- The listener for the protocol. -/
def buildServer (tls : Bool) (proto : Protocol) : ServeBody Unit :=
  match proto with
  | .netRPC => if tls then rebind .tls else pure ()
  | .grpc =>
      if parseBool (getenv env envMultiplexGRPC) = some true then do
        Body.update fun s => { s with session := o.session }
        rebind .muxer
      else pure ()

/-- The `ReattachConfig` that a test gets. -/
def reattachConfig (served : Served) : ReattachConfig where
  protocol := served.proto.text
  protocolVersion := served.version
  addr := some o.addr
  pid := o.pid
  reattachFunc := false
  test := true

def announce (served : Served) (serverCert : ByteString) : ServeBody Unit :=
  match test with
  | none => Body.update fun s => { s with line := some (protocolLine served.version o.addr
      served.proto serverCert (getenv env envMultiplexGRPC ≠ [])) }
  | some test =>
      if test.reattachConfigCh then
        Body.update fun s => { s with reattach := some (reattachConfig o served) }
      else pure ()

/-- From the construction of the server on. -/
def serveWith (tls : Bool) (serverCert : ByteString) : ServeBody Unit := do
  let served := protocolVersion opts env order setOrder
  buildServer env o tls served.proto
  initServer o
  announce test env o served serverCert
  run test o served.proto

/-- `Serve` with a listener. -/
def serveOn : ServeBody Unit := do
  let tls ← configureTLS opts env o
  preparePipes o
  serveWith opts test env order setOrder o tls.1 tls.2

/-- The deferred function of the first statement: it exits, or it closes `CloseCh`. -/
def finish (x : ServeBody Unit) : ServeBody Unit := fun s =>
  match x s with
  | (.exit, s') => (.exit, s')
  | (flow, s') =>
      if test = none ∧ 0 ≤ s'.exitCode then (.exit, s')
      else (flow, { s' with closeCh := test.any (·.closeCh) })

def serve : ServeBody Unit :=
  finish test do
    checkCookie opts test env
    obtainListener env o
    Body.withDefer (fun _ s => s.closeListener) (serveOn opts test env order setOrder o)

end

/-! ### What the deferred call closes -/

/-- The variable holds a listener that shuts the `n`-th socket. -/
structure Shuts (n : Nat) (s : ServeFrame) : Prop where
  listener : s.listener.bind NetListener.shuts = some n
  opened : n < s.sockets.length

/-- The variable holds a muxer, and the `n`-th socket is there. -/
structure Muxed (n : Nat) (socket : Socket) (s : ServeFrame) : Prop where
  listener : ∃ inner, s.listener = some (.muxer inner)
  socket : s.sockets[n]? = some socket

/-- A property of the sockets and the listener, which closing the listener keeps. -/
structure Stable (P : ServeFrame → Prop) : Prop where
  congr : ∀ s s' : ServeFrame, s'.sockets = s.sockets → s'.listener = s.listener → P s → P s'
  close : ∀ s : ServeFrame, P s → P s.closeListener

@[simp] theorem listener_closeListener (s : ServeFrame) :
    s.closeListener.listener = s.listener := by
  unfold ServeFrame.closeListener
  split <;> rfl

theorem Shuts.sockets_closeListener {n : Nat} {s : ServeFrame} (h : Shuts n s) :
    s.closeListener.sockets = s.sockets.set n ⟨false, false⟩ := by
  have hlistener := h.listener
  unfold ServeFrame.closeListener
  split
  · next heq =>
      rw [heq] at hlistener
      cases hlistener
  · next heq =>
      rw [heq] at hlistener
      cases hlistener
  · next l _ heq =>
      rw [heq] at hlistener
      exact NetListener.close_of_shuts hlistener _

theorem Muxed.sockets_closeListener {n : Nat} {socket : Socket} {s : ServeFrame}
    (h : Muxed n socket s) : s.closeListener.sockets = s.sockets := by
  obtain ⟨inner, hlistener⟩ := h.listener
  unfold ServeFrame.closeListener
  rw [hlistener]

theorem stable_shuts (n : Nat) : Stable (Shuts n) where
  congr s s' hsockets hlistener h := ⟨hlistener ▸ h.listener, hsockets ▸ h.opened⟩
  close s h :=
    ⟨by rw [listener_closeListener]; exact h.listener,
      by rw [h.sockets_closeListener, List.length_set]; exact h.opened⟩

theorem stable_muxed (n : Nat) (socket : Socket) : Stable (Muxed n socket) where
  congr s s' hsockets hlistener h := ⟨hlistener ▸ h.listener, hsockets ▸ h.socket⟩
  close s h :=
    ⟨by rw [listener_closeListener]; exact h.listener,
      by rw [h.sockets_closeListener]; exact h.socket⟩

section

variable {opts : ServeConfig} {test : Option ServeTestConfig} {env : List ByteString}
  {order : RangeOrder Int64 PluginSet} {setOrder : Int64 → RangeOrder ByteString Plugin}
  {o : ServeOutcomes} {P : ServeFrame → Prop}

theorem Stable.keeps_fail {α : Type} (hP : Stable P) : Body.Keeps P (fail (α := α)) :=
  .bind (.update fun s h => hP.congr s _ rfl rfl h) fun _ _ _ _ => .ret ()

theorem keeps_run (hclose : ∀ s : ServeFrame, P s → P s.closeListener) (proto : Protocol) :
    Body.Keeps P (run test o proto) := by
  unfold run
  refine .bind (.update fun s h => ?_) fun _ _ _ _ => ?_
  · exact Function.Iterate.rec P h hclose o.closes
  · split
    · refine .bind (.update hclose) fun _ _ _ _ => ?_
      split
      · exact .update hclose
      · exact .pure ()
    · exact .pure ()

theorem Stable.keeps_announce (hP : Stable P) (served : Served) (serverCert : ByteString) :
    Body.Keeps P (announce test env o served serverCert) := by
  unfold announce
  split
  · exact .update fun s h => hP.congr s _ rfl rfl h
  · split
    · exact .update fun s h => hP.congr s _ rfl rfl h
    · exact .pure ()

theorem keeps_initServer : Body.Keeps P (initServer o) := by
  unfold initServer
  split
  · exact .pure ()
  · exact .ret ()
  · exact .crash

theorem Stable.keeps_configureTLS (hP : Stable P) :
    Body.Keeps P (configureTLS opts env o) := by
  unfold configureTLS
  split
  · exact .ret ()
  · split
    · exact hP.keeps_fail
    · split
      · split
        · exact .crash
        · exact .pure _
      · exact .pure _

/-- `server.Init` and what comes after it. -/
theorem Stable.keeps_serving (hP : Stable P) (served : Served) (serverCert : ByteString) :
    Body.Keeps P (do
      initServer o
      announce test env o served serverCert
      run test o served.proto) :=
  .bind keeps_initServer fun _ _ _ _ =>
    .bind (hP.keeps_announce served serverCert) fun _ _ _ _ => keeps_run hP.close served.proto

/-! ### When it is the socket -/

end

/-- The cookie is not checked, or it is right. -/
def cookieHolds (opts : ServeConfig) (test : Option ServeTestConfig) (env : List ByteString) :
    Bool :=
  test.isSome || (opts.magicCookieKey ≠ [] && opts.magicCookieValue ≠ [] &&
    getenv env opts.magicCookieKey = opts.magicCookieValue)

/-- `Serve` gets past the TLS configuration. -/
def tlsConfigured (opts : ServeConfig) (env : List ByteString) (cert : Option Base64) : Bool :=
  match opts.providedTLS with
  | none => false
  | some provided => getenv env envClientCert = [] || (!provided && cert.isSome)

/-- The plugin serves gRPC, and its environment asks for multiplexing. -/
def multiplexes (opts : ServeConfig) (env : List ByteString)
    (order : RangeOrder Int64 PluginSet) (setOrder : Int64 → RangeOrder ByteString Plugin) :
    Bool :=
  (protocolVersion opts env order setOrder).proto = .grpc &&
    parseBool (getenv env envMultiplexGRPC) = some true

section

variable {opts : ServeConfig} {test : Option ServeTestConfig} {env : List ByteString}
  {order : RangeOrder Int64 PluginSet} {setOrder : Int64 → RangeOrder ByteString Plugin}
  {o : ServeOutcomes}

theorem checkCookie_of_cookieHolds (h : cookieHolds opts test env = true) :
    checkCookie opts test env = pure () := by
  simp only [cookieHolds, Bool.or_eq_true, Bool.and_eq_true, decide_eq_true_eq] at h
  unfold checkCookie
  split
  · rfl
  · next htest =>
      obtain ⟨⟨hkey, hvalue⟩, hcookie⟩ := h.resolve_left htest
      rw [if_neg (not_or.mpr ⟨hkey, hvalue⟩), if_neg (not_not.mpr hcookie)]

/-- `Serve` goes on with the socket, or it returns. -/
theorem obtainListener_apply (env : List ByteString) (o : ServeOutcomes) (s : ServeFrame) :
    if o.opens && o.groups (getenv env envUnixSocketGroup) then
      obtainListener env o s = (.next (), { s with
        sockets := s.sockets ++ [o.opened]
        listener := some (.socket s.sockets.length) })
    else ∃ t, obtainListener env o s = (.ret (), { s with sockets := t }) := by
  have hlisten := ListenerBody.within_serverListener (ρ := Unit) ServeFrame.sockets
    (fun t s => { s with sockets := t }) o.toListenOutcomes (getenv env envUnixSocketGroup) s
  rcases hlisten with ⟨hopens, e, hrun⟩ | ⟨hopens, hgroups, hrun⟩ | ⟨hopens, hgroups, hrun⟩
  · rw [hopens]
    exact ⟨_, Body.bind_of_next hrun⟩
  · rw [hopens, hgroups]
    exact ⟨_, Body.bind_of_next hrun⟩
  · rw [hopens, hgroups]
    exact Body.bind_of_next hrun

theorem configureTLS_apply (h : tlsConfigured opts env o.cert = true) (s : ServeFrame) :
    ∃ tls, configureTLS opts env o s = (.next tls, s) := by
  unfold tlsConfigured at h
  unfold configureTLS
  cases htls : opts.providedTLS with
  | none =>
      rw [htls] at h
      cases h
  | some provided =>
      rw [htls] at h
      dsimp only
      simp only [Bool.or_eq_true, decide_eq_true_eq, Bool.and_eq_true, Bool.not_eq_true'] at h
      rcases h with hcert | ⟨rfl, hcert⟩
      · rw [if_neg fun h => h.2 hcert, if_neg fun h => h.2 hcert]
        exact ⟨_, rfl⟩
      · rw [if_neg (by simp)]
        split
        · obtain ⟨cert, hcert⟩ := Option.isSome_iff_exists.mp hcert
          rw [hcert]
          exact ⟨_, rfl⟩
        · exact ⟨_, rfl⟩

theorem tlsConfigured_of_configureTLS {s s' : ServeFrame} {tls : Bool × ByteString}
    (h : configureTLS opts env o s = (.next tls, s')) : tlsConfigured opts env o.cert = true := by
  unfold configureTLS at h
  unfold tlsConfigured
  cases htls : opts.providedTLS with
  | none =>
      rw [htls] at h
      cases h
  | some provided =>
      rw [htls] at h
      dsimp only at h ⊢
      by_cases hclient : getenv env envClientCert = []
      · simp [hclient]
      · cases provided with
        | true =>
            rw [if_pos ⟨rfl, hclient⟩] at h
            cases h
        | false =>
            rw [if_neg (by simp), if_pos ⟨rfl, hclient⟩] at h
            cases hcert : o.cert with
            | none =>
                rw [hcert] at h
                cases h
            | some cert => simp

/-- Without a muxer the listener of the protocol shuts the same socket. -/
theorem keeps_buildServer {n : Nat} {proto : Protocol} (tls : Bool)
    (hmux : (proto = .grpc && parseBool (getenv env envMultiplexGRPC) = some true) = false) :
    Body.Keeps (Shuts n) (buildServer env o tls proto) := by
  cases proto with
  | netRPC =>
      unfold buildServer
      dsimp only
      split
      · refine .update ?_
        intro s hs
        refine ⟨?_, hs.opened⟩
        have hlistener := hs.listener
        cases hl : s.listener with
        | none =>
            rw [hl] at hlistener
            cases hlistener
        | some l =>
            rw [hl] at hlistener
            exact hlistener
      · exact .pure ()
  | grpc =>
      simp only [decide_true, Bool.true_and, decide_eq_false_iff_not] at hmux
      unfold buildServer
      dsimp only
      rw [if_neg hmux]
      exact .pure ()

theorem keeps_serveOn (test : Option ServeTestConfig) (hpipes : o.pipes = true)
    (h : tlsConfigured opts env o.cert = true → multiplexes opts env order setOrder = false)
    (n : Nat) : Body.Keeps (Shuts n) (serveOn opts test env order setOrder o) := by
  unfold serveOn
  refine .bind (stable_shuts n).keeps_configureTLS fun s s' tls hnext => ?_
  have hmux := h (tlsConfigured_of_configureTLS hnext)
  unfold preparePipes
  rw [if_pos hpipes]
  refine .bind (.pure ()) fun _ _ _ _ => ?_
  exact .bind (keeps_buildServer tls.1 hmux) fun _ _ _ _ => (stable_shuts n).keeps_serving _ _

/-- With a muxer the socket stays as it is. -/
theorem muxed_serveOn (test : Option ServeTestConfig) (hpipes : o.pipes = true)
    (htls : tlsConfigured opts env o.cert = true)
    (hmux : multiplexes opts env order setOrder = true) {s : ServeFrame} {l : NetListener}
    (hlistener : s.listener = some l) {n : Nat} {socket : Socket}
    (hsocket : s.sockets[n]? = some socket) :
    (serveOn opts test env order setOrder o s).1.exits = false ∧
      Muxed n socket (serveOn opts test env order setOrder o s).2 := by
  simp only [multiplexes, Bool.and_eq_true, decide_eq_true_eq] at hmux
  obtain ⟨tls, hnext⟩ := configureTLS_apply htls s
  have hbuild : buildServer env o tls.1 (protocolVersion opts env order setOrder).proto s =
      (.next (), { s with session := o.session, listener := s.listener.map .muxer }) := by
    unfold buildServer
    rw [hmux.1]
    dsimp only
    rw [if_pos hmux.2]
    rfl
  have hpipe : preparePipes o s = (.next (), s) := by
    unfold preparePipes
    rw [if_pos hpipes]
    rfl
  have hserveOn : serveOn opts test env order setOrder o s = _ :=
    ((Body.bind_of_next hnext).trans (Body.bind_of_next hpipe)).trans (Body.bind_of_next hbuild)
  rw [hserveOn]
  refine (stable_muxed n socket).keeps_serving _ _ _ ⟨⟨l, ?_⟩, hsocket⟩
  rw [hlistener]
  rfl

/-- The first deferred function only closes `CloseCh`. -/
theorem finish_frame (test : Option ServeTestConfig) (x : ServeBody Unit) (s : ServeFrame) :
    ∃ closeCh, (finish test x s).2 = { (x s).2 with closeCh := closeCh } := by
  unfold finish
  split
  · next heq =>
      rw [heq]
      exact ⟨_, rfl⟩
  · next heq =>
      rw [heq]
      split
      · exact ⟨_, rfl⟩
      · exact ⟨_, rfl⟩

theorem serve_frame (test : Option ServeTestConfig) (s : ServeFrame) :
    ∃ closeCh, (serve opts test env order setOrder o s).2 = { ((do
      checkCookie opts test env
      obtainListener env o
      Body.withDefer (fun _ s => s.closeListener)
        (serveOn opts test env order setOrder o) : ServeBody Unit) s).2 with
      closeCh := closeCh } :=
  finish_frame test _ s

/-- The sockets after `Serve` has obtained its listener. -/
theorem sockets_serve (hcookie : cookieHolds opts test env = true) (hopens : o.opens = true)
    (hgroups : o.groups (getenv env envUnixSocketGroup) = true) {sockets : Sockets}
    {s : ServeFrame} (hs : s = { ServeFrame.init sockets with
      sockets := sockets ++ [o.opened], listener := some (.socket sockets.length) })
    (hexits : (serveOn opts test env order setOrder o s).1.exits = false) :
    (serve opts test env order setOrder o (.init sockets)).2.sockets =
      (serveOn opts test env order setOrder o s).2.closeListener.sockets := by
  have hlistener : obtainListener env o (.init sockets) = (.next (), s) := by
    have happly := obtainListener_apply env o (.init sockets)
    rw [hopens, hgroups] at happly
    rw [hs]
    exact happly
  obtain ⟨flow, r, hdefer⟩ :=
    Body.withDefer_of_exits (fun _ s => ServeFrame.closeListener s) hexits
  obtain ⟨closeCh, hserve⟩ := serve_frame (o := o) test (.init sockets)
  rw [hserve, checkCookie_of_cookieHolds hcookie, Body.pure_bind_apply,
    Body.bind_of_next hlistener, hdefer]

/-- **What `Serve` releases.**  However it ends once it has a listener, the socket is closed and
    its file removed, unless the variable was set to a `GRPCServerMuxer`.  (Where `os.Pipe` fails
    the process exits, which is no return.) -/
theorem serve_releases_iff (hcookie : cookieHolds opts test env = true) (hopens : o.opens = true)
    (hgroups : o.groups (getenv env envUnixSocketGroup) = true) (hpipes : o.pipes = true)
    (sockets : Sockets) :
    (serve opts test env order setOrder o (.init sockets)).2.sockets[sockets.length]? =
        some ⟨false, false⟩ ↔
      (tlsConfigured opts env o.cert = true → multiplexes opts env order setOrder = false) := by
  constructor
  · intro hreleased htls
    rw [← Bool.not_eq_true]
    intro hmux
    obtain ⟨hexits, hmuxed⟩ := muxed_serveOn test hpipes htls hmux
      (s := { ServeFrame.init sockets with
        sockets := sockets ++ [o.opened], listener := some (.socket sockets.length) }) rfl
      List.getElem?_concat_length
    rw [sockets_serve hcookie hopens hgroups rfl hexits, hmuxed.sockets_closeListener,
      hmuxed.socket] at hreleased
    cases hreleased
  · intro h
    obtain ⟨hexits, hshuts⟩ := keeps_serveOn test hpipes h sockets.length
      { ServeFrame.init sockets with
        sockets := sockets ++ [o.opened], listener := some (.socket sockets.length) }
      ⟨rfl, by simp⟩
    rw [sockets_serve hcookie hopens hgroups rfl hexits, hshuts.sockets_closeListener,
      List.getElem?_set_self hshuts.opened]

end

/-- Calls that all succeed, for a plugin whose host has connected. -/
def servingOutcomes : ServeOutcomes where
  windows := false
  listenTCP := true
  createTemp := true
  closeTemp := true
  removeTemp := true
  listen := true
  setGroup := true
  addr := socketAddr
  cert := some someCert
  pipes := true
  session := .established
  init := .ok
  pid := 42
  cancelled := false
  closes := 1

/-- The environment of the plugin, where the host multiplexes. -/
def muxEnv : List ByteString := [ascii "COOKIE=chocolate", ascii "PLUGIN_MULTIPLEX_GRPC=true"]

theorem serve_releases_plain :
    (serve kvServer none [ascii "COOKIE=chocolate"] .stored (fun _ => .stored) servingOutcomes
      (.init [])).2.sockets[0]? = some ⟨false, false⟩ :=
  (serve_releases_iff (by decide) rfl rfl rfl []).mpr (by decide)

/-- A plugin that multiplexes returns from `Serve` with its socket open and the file in place,
    whether or not there ever was a session, and also where it fails in `server.Init`. -/
theorem serve_with_muxer_keeps_socket :
    (serve kvServer none muxEnv .stored (fun _ => .stored) servingOutcomes (.init [])).1 =
        .ret () ∧
      (serve kvServer none muxEnv .stored (fun _ => .stored) servingOutcomes
        (.init [])).2.sockets = [⟨true, true⟩] ∧
      (serve kvServer none muxEnv .stored (fun _ => .stored) servingOutcomes
        (.init [])).2.session = .closed ∧
      (serve kvServer none muxEnv .stored (fun _ => .stored)
        { servingOutcomes with session := .pending, init := .error } (.init [])).1 = .ret () ∧
      (serve kvServer none muxEnv .stored (fun _ => .stored)
        { servingOutcomes with session := .pending, init := .error } (.init [])).2.sockets =
          [⟨true, true⟩] :=
  ⟨rfl, rfl, rfl, rfl, rfl⟩

section

variable {opts : ServeConfig} {test : Option ServeTestConfig} {env : List ByteString}
  {order : RangeOrder Int64 PluginSet} {setOrder : Int64 → RangeOrder ByteString Plugin}
  {o : ServeOutcomes}

/-! ### The line -/

@[simp] theorem line_closeListener (s : ServeFrame) : s.closeListener.line = s.line := by
  unfold ServeFrame.closeListener
  split <;> rfl

theorem line_withDefer (x : ServeBody Unit) (s : ServeFrame) :
    (Body.withDefer (fun _ s => s.closeListener) x s).2.line = (x s).2.line := by
  unfold Body.withDefer
  split <;> simp_all

theorem buildServer_apply (env : List ByteString) (o : ServeOutcomes) (tls : Bool)
    (proto : Protocol) (s : ServeFrame) :
    ∃ s', buildServer env o tls proto s = (.next (), s') ∧ s'.line = s.line := by
  unfold buildServer
  cases proto with
  | netRPC =>
      dsimp only
      split
      · exact ⟨_, rfl, rfl⟩
      · exact ⟨_, rfl, rfl⟩
  | grpc =>
      dsimp only
      split
      · exact ⟨_, rfl, rfl⟩
      · exact ⟨_, rfl, rfl⟩

/-- The printed line, where the TLS configuration is settled. -/
theorem line_serveWith (tls : Bool) (serverCert : ByteString) {s : ServeFrame}
    (hs : s.line = none) :
    (serveWith opts none env order setOrder o tls serverCert s).2.line =
      let served := protocolVersion opts env order setOrder
      if o.init = .ok then some (protocolLine served.version o.addr served.proto serverCert
        (getenv env envMultiplexGRPC ≠ []))
      else none := by
  obtain ⟨s', hbuild, hline⟩ := buildServer_apply env o tls
    (protocolVersion opts env order setOrder).proto s
  have hserve : serveWith opts none env order setOrder o tls serverCert s = _ :=
    Body.bind_of_next hbuild
  rw [hserve]
  cases hinit : o.init with
  | ok =>
      have hok : initServer o s' = (.next (), s') := by
        unfold initServer
        rw [hinit]
        rfl
      have hkeeps : Body.Keeps (fun t => t.line = some (protocolLine
          (protocolVersion opts env order setOrder).version o.addr
          (protocolVersion opts env order setOrder).proto serverCert
          (getenv env envMultiplexGRPC ≠ [])))
          (run none o (protocolVersion opts env order setOrder).proto) := by
        refine keeps_run ?_ _
        intro t ht
        rw [line_closeListener]
        exact ht
      rw [Body.bind_of_next hok]
      exact (hkeeps _ rfl).2
  | error =>
      have herror : initServer o s' = (.ret (), s') := by
        unfold initServer
        rw [hinit]
        rfl
      rw [Body.bind_of_ret herror]
      exact hline.trans hs
  | panic =>
      have hpanic : initServer o s' = (.panic, s') := by
        unfold initServer
        rw [hinit]
        rfl
      rw [Body.bind_of_panic hpanic]
      exact hline.trans hs

/-- The line is the one of the handshake. -/
theorem line_serveOn (hpipes : o.pipes = true) {cert : Base64} (hcert : o.cert = some cert)
    {s : ServeFrame} (hs : s.line = none) :
    (serveOn opts none env order setOrder o s).2.line =
      (opts.providedTLS.bind fun provided =>
        if provided = true ∧ getenv env envClientCert ≠ [] then none
        else if o.init = .ok then
          some (serving opts env order setOrder o.addr provided cert).line
        else none) := by
  have hpipe : ∀ t, preparePipes o t = (.next (), t) := by
    intro t
    unfold preparePipes
    rw [if_pos hpipes]
    rfl
  cases htls : opts.providedTLS with
  | none =>
      have hconfigure : configureTLS opts env o s = (.ret (), s) := by
        unfold configureTLS
        rw [htls]
        rfl
      have hserve : serveOn opts none env order setOrder o s = _ := Body.bind_of_ret hconfigure
      rw [hserve]
      exact hs
  | some provided =>
      rw [Option.bind_some]
      split
      · next hmixed =>
          have hconfigure : configureTLS opts env o s = (.ret (), { s with exitCode := 1 }) := by
            unfold configureTLS
            rw [htls]
            dsimp only
            rw [if_pos hmixed]
            rfl
          have hserve : serveOn opts none env order setOrder o s = _ :=
            Body.bind_of_ret hconfigure
          rw [hserve]
          exact hs
      · next hmixed =>
          obtain ⟨tls, hconfigure⟩ : ∃ tls, configureTLS opts env o s = (.next (tls,
              (serving opts env order setOrder o.addr provided cert).serverCert), s) := by
            unfold configureTLS serving
            rw [htls, hcert]
            dsimp only
            rw [if_neg hmixed]
            by_cases hauto : provided = false ∧ getenv env envClientCert ≠ []
            · rw [if_pos hauto, if_pos (decide_eq_true hauto)]
              exact ⟨true, rfl⟩
            · rw [if_neg hauto, if_neg fun h => hauto (of_decide_eq_true h)]
              exact ⟨provided, rfl⟩
          have hserve : serveOn opts none env order setOrder o s = _ :=
            (Body.bind_of_next hconfigure).trans (Body.bind_of_next (hpipe s))
          rw [hserve, line_serveWith _ _ hs]
          rfl

/-- Outside of test mode `Serve` prints the line that the handshake goes by. -/
theorem line_serve (hpipes : o.pipes = true) {cert : Base64} (hcert : o.cert = some cert)
    (sockets : Sockets) :
    (serve opts none env order setOrder o (.init sockets)).2.line =
      (GoPlugin.serve opts env order setOrder
        (if o.opens && o.groups (getenv env envUnixSocketGroup) then some o.addr else none) cert
        (o.init = .ok)).map Serving.line := by
  have hfail : ∀ x : Unit → ServeBody Unit,
      ((fail >>= x) (ServeFrame.init sockets)).2.line = none := fun _ => rfl
  obtain ⟨closeCh, hserve⟩ := serve_frame (o := o) none (.init sockets)
  rw [hserve]
  unfold GoPlugin.serve checkCookie
  dsimp only
  rw [if_neg (by simp)]
  split
  · exact hfail _
  split
  · exact hfail _
  rw [Body.pure_bind_apply]
  have happly := obtainListener_apply env o (.init sockets)
  cases hlistens : o.opens && o.groups (getenv env envUnixSocketGroup) with
  | false =>
      rw [hlistens] at happly
      obtain ⟨t, hret⟩ := happly
      rw [Body.bind_of_ret hret]
      rfl
  | true =>
      rw [hlistens] at happly
      rw [Body.bind_of_next happly, line_withDefer, line_serveOn hpipes hcert rfl]
      cases opts.providedTLS with
      | none => rfl
      | some provided =>
          simp only [Option.bind_some, if_true]
          split
          · rfl
          · split
            · simp_all
            · simp_all

end

end ServeBody

end GoPlugin
