import GoPlugin.ServeBody
import GoPlugin.StartTrust
import GoPlugin.StdoutDrain
import GoPlugin.TransportMode

/-!
# From `Start` to `Serve` and back

A launch from end to end: `Start` makes the plugin's environment, `Serve` prints its line, the pipe
carries it in whatever pieces, the scanner's goroutine finds it, and the rest of `Start` acts on it.
Host and plugin run the same version of the library, on one machine, with the default runner.
-/

namespace GoPlugin

open ByteString Environ GoMap GoBody LabelledSystem Bufio

/-- `addrTranslator.PluginToHost`, of the default runner. -/
def pluginToHost (network address : ByteString) : Option (ByteString × ByteString) :=
  some (network, address)

/-! ### The line, field by field -/

/-- What `Start` makes of the line that `Serve` prints. -/
theorem handshakeOn_protocolLine (c : ClientConfig) (order : RangeOrder Int64 PluginSet)
    (deps : HandshakeDeps) (version : Int64) (addr : Addr) (proto : Protocol)
    (cert : Option ByteString) (multiplexSet : Bool) (rest : ByteString)
    (hbar : bar ∉ addr.address) (hnewline : newline ∉ addr.address)
    (hlen : (protocolLine version addr proto (certText cert) multiplexSet).length <
      maxScanTokenSize) :
    handshakeOn c order deps
        (protocolLine version addr proto (certText cert) multiplexSet ++ newline :: rest) =
      Announcement.outcome c order deps ⟨itoa coreProtocolVersion, itoa version,
        addr.network.text, addr.address, proto.text, certField (some (certText cert)),
        if multiplexSet then some (ascii "true") else none⟩ := by
  obtain ⟨line, hscan, hsplit⟩ :=
    scanLine_protocolLine version addr proto cert multiplexSet rest hnewline hlen
  rw [fields_protocolLine version addr proto cert multiplexSet rest hbar hnewline] at hsplit
  have hfields : announcement line = some ⟨itoa coreProtocolVersion, itoa version,
      addr.network.text, addr.address, proto.text, certField (some (certText cert)),
      if multiplexSet then some (ascii "true") else none⟩ := by
    unfold announcement
    rw [hsplit]
    cases multiplexSet <;> rfl
  rw [handshakeOn, hscan]
  dsimp only
  rw [handshake_eq_outcome, hfields]

/-! ### The two sides -/

/-- A host, the plugin it launches, and what each of them meets on the way. -/
structure Launching where
  host : ClientConfig
  plugin : ServeConfig
  hostEnv : List ByteString
  certPEM : ByteString               -- the host's certificate, for `AutoMTLS`
  socketDir : ByteString
  tls : TLSConfig                    -- what the caller configured, if it did
  startOrder : RangeOrder Int64 PluginSet
  serveOrder : RangeOrder Int64 PluginSet
  checkOrder : RangeOrder Int64 PluginSet
  setOrder : Int64 → RangeOrder ByteString Plugin
  outcomes : ServeOutcomes
  deps : StartDeps

namespace Launching

/-- The environment that `Start` makes for the plugin. -/
def env (l : Launching) : List ByteString :=
  l.host.startEnv l.hostEnv l.startOrder l.certPEM l.socketDir

/-- What the plugin has chosen to serve. -/
def served (l : Launching) : Served :=
  protocolVersion l.plugin l.env l.serveOrder l.setOrder

/-- The line that `Serve` prints, if it gets that far. -/
def printed (l : Launching) (sockets : Sockets) : Option ByteString :=
  (ServeBody.serve l.plugin none l.env l.serveOrder l.setOrder l.outcomes (.init sockets)).2.line

/-- What the plugin has set up when it prints the line, with the certificate it generated. -/
def serving (l : Launching) (cert : Base64) : Serving :=
  GoPlugin.serving l.plugin l.env l.serveOrder l.setOrder l.outcomes.addr false cert

/-- `Start` from the `select` on; `version` and `protocol` are what an earlier call left. -/
def start (l : Launching) (version : Int64) (protocol : ByteString) (event : StartEvent) :
    Flow StartResults StartResults × StartFrame :=
  StartBody.start l.host l.checkOrder l.deps event
    (.launched l.host l.tls l.certPEM version protocol)

/-- The certificate in the line: the plugin's under `AutoMTLS`, and else none. -/
def lineCert (l : Launching) (der : ByteString) : Option ByteString :=
  if l.host.autoMTLS then some der else none

/-- An orderly launch: the plugin inherits neither a certificate nor multiplexing and has no TLS
    configuration of its own, the address can be printed, and the standard library does its part
    with what it is given.  `der` is the certificate that the plugin generates and `x509` what the
    host parses it to. -/
structure Orderly (l : Launching) (cert : Base64) (der x509 resolved : ByteString) : Prop where
  supplied : l.plugin.supplied.Nonempty
  noProvider : l.plugin.tlsProvider = none
  noCert : getenv (l.host.inheritedEnv l.hostEnv) envClientCert = []
  noMultiplex : getenv (l.host.inheritedEnv l.hostEnv) envMultiplexGRPC = []
  hostCert : l.certPEM ≠ []
  pipes : l.outcomes.pipes = true
  pluginCert : l.outcomes.cert = some cert
  encoded : cert.text = base64Encode der
  long : 50 < (base64Encode der).length
  parses : l.deps.parseCertificate der = some x509
  noBar : bar ∉ l.outcomes.addr.address
  noNewline : newline ∉ l.outcomes.addr.address
  translates : l.deps.pluginToHost = pluginToHost
  resolves : l.deps.resolve l.outcomes.addr.network l.outcomes.addr.address = some resolved

section

variable {l : Launching} {cert : Base64} {der x509 resolved : ByteString}

/-! ### What the plugin finds -/

theorem Orderly.getenv_clientCert (h : l.Orderly cert der x509 resolved) :
    getenv l.env envClientCert = if l.host.autoMTLS then l.certPEM else [] := by
  rw [env, ClientConfig.getenv_startEnv_clientCert, h.noCert]

theorem Orderly.getenv_multiplex (h : l.Orderly cert der x509 resolved) :
    getenv l.env envMultiplexGRPC = if l.host.grpcBrokerMultiplex then ascii "true" else [] := by
  rw [env, ClientConfig.getenv_startEnv_multiplex, h.noMultiplex]

/-- What the plugin was asked for is what the host has. -/
theorem common_eq (l : Launching) :
    l.plugin.supplied ∩ advertised (getenv l.env envProtocolVersions) =
      l.host.supplied ∩ l.plugin.supplied := by
  rw [env, ClientConfig.getenv_startEnv_versions, advertised_versionString, Set.inter_comm]

/-- The host has the version that is served exactly where there is a common one. -/
theorem Orderly.version_mem_iff (h : l.Orderly cert der x509 resolved) :
    l.served.version ∈ l.host.supplied ↔ (l.host.supplied ∩ l.plugin.supplied).Nonempty := by
  constructor
  · intro hmem
    by_contra hnone
    rw [Set.not_nonempty_iff_eq_empty, ← common_eq] at hnone
    have hleast := protocolVersion_isLeast l.plugin l.env l.serveOrder l.setOrder h.supplied hnone
    have hboth : l.served.version ∈ l.host.supplied ∩ l.plugin.supplied := ⟨hmem, hleast.1⟩
    rw [← common_eq, hnone] at hboth
    exact hboth
  · intro hcommon
    rw [← common_eq] at hcommon
    have hgreatest := protocolVersion_isGreatest l.plugin l.env l.serveOrder l.setOrder hcommon
    rw [common_eq] at hgreatest
    exact hgreatest.1.1

theorem isGreatest_version (hcommon : (l.host.supplied ∩ l.plugin.supplied).Nonempty) :
    IsGreatest (l.host.supplied ∩ l.plugin.supplied) l.served.version := by
  rw [← common_eq] at hcommon ⊢
  exact protocolVersion_isGreatest l.plugin l.env l.serveOrder l.setOrder hcommon

theorem Orderly.line_serving (h : l.Orderly cert der x509 resolved) :
    (l.serving cert).line = protocolLine l.served.version l.outcomes.addr l.served.proto
      (certText (l.lineCert der)) l.host.grpcBrokerMultiplex := by
  have hmux : decide (getenv l.env envMultiplexGRPC ≠ []) = l.host.grpcBrokerMultiplex := by
    rw [h.getenv_multiplex]
    cases l.host.grpcBrokerMultiplex <;> decide
  have hfield : (if decide (false = false ∧ getenv l.env envClientCert ≠ []) then cert.text
      else []) = certText (l.lineCert der) := by
    rw [h.getenv_clientCert, h.encoded, lineCert]
    cases l.host.autoMTLS with
    | false => rfl
    | true => simp [h.hostCert, certText]
  unfold serving GoPlugin.serving
  dsimp only
  rw [hfield, hmux]
  rfl

/-- The line, where one is printed. -/
theorem Orderly.printed_eq (h : l.Orderly cert der x509 resolved) {sockets : Sockets}
    {line : ByteString} (hprinted : l.printed sockets = some line) :
    line = (l.serving cert).line := by
  rw [printed, ServeBody.line_serve h.pipes h.pluginCert] at hprinted
  obtain ⟨x, hserve, rfl⟩ := Option.map_eq_some_iff.mp hprinted
  obtain ⟨addr, provided, haddr, hprovided, rfl⟩ := serve_eq_some hserve
  have hfalse : provided = false := by
    simpa [ServeConfig.providedTLS, h.noProvider] using hprovided.symm
  have hlistener : addr = l.outcomes.addr := by
    split at haddr
    · exact (Option.some.inj haddr).symm
    · cases haddr
  rw [hfalse, hlistener]
  rfl

/-! ### What the host makes of it -/

theorem Orderly.resolveAddr_eq (h : l.Orderly cert der x509 resolved) :
    resolveAddr l.deps.toHandshakeDeps l.outcomes.addr.network.text l.outcomes.addr.address =
      .ok ⟨l.outcomes.addr.network, resolved⟩ := by
  have hresolves := h.resolves
  have hunix : Network.unix.text ≠ Network.tcp.text := by decide
  unfold resolveAddr StartDeps.toHandshakeDeps
  rw [h.translates]
  dsimp only [pluginToHost]
  cases hnetwork : l.outcomes.addr.network with
  | tcp =>
      rw [hnetwork] at hresolves
      rw [if_pos rfl, hresolves]
  | unix =>
      rw [hnetwork] at hresolves
      rw [if_neg hunix, if_pos rfl, hresolves]

/-- The certificate that the host loads is the one that the plugin generated. -/
theorem Orderly.loadServerCert_eq (h : l.Orderly cert der x509 resolved) :
    loadServerCert l.host l.deps.toHandshakeDeps (some (certText (l.lineCert der))) =
      .ok (if l.host.autoMTLS then some x509 else none) := by
  have hparse : l.deps.toHandshakeDeps.parseCert (base64Encode der) = some x509 := by
    dsimp only [StartDeps.toHandshakeDeps]
    rw [base64Decode_encode, Option.bind_some, h.parses]
  unfold lineCert
  cases hauto : l.host.autoMTLS with
  | false => rfl
  | true =>
      unfold loadServerCert
      simp [certText, h.long, hparse, hauto]

theorem checkMultiplex_eq (l : Launching) (protocol : ByteString) :
    checkMultiplex l.host protocol
      (if l.host.grpcBrokerMultiplex then some (ascii "true") else none) = .ok () := by
  have htrue : parseBool (ascii "true") = some true := by decide
  unfold checkMultiplex
  cases l.host.grpcBrokerMultiplex with
  | false => rfl
  | true =>
      simp only [if_true, htrue, ite_self]

/-- What a handshake on the line leaves in the client. -/
def started (l : Launching) (x509 resolved : ByteString) (plugins : PluginSet) : Started where
  version := l.served.version
  plugins := plugins
  addr := ⟨l.outcomes.addr.network, resolved⟩
  protocol := l.served.proto.text
  rootCA := if l.host.autoMTLS then some x509 else none

/-- The host can use what the plugin serves. -/
def Compatible (l : Launching) : Prop :=
  (l.host.supplied ∩ l.plugin.supplied).Nonempty ∧
    l.host.allowedProtocols.contains l.served.proto.text = true

section

variable (h : l.Orderly cert der x509 resolved)
  (hlen : (l.serving cert).line.length < maxScanTokenSize) (rest : ByteString)
include h hlen

/-- The host's checks, one after the other. -/
theorem Orderly.handshakeOn_eq :
    handshakeOn l.host l.checkOrder l.deps.toHandshakeDeps
        ((l.serving cert).line ++ newline :: rest) =
      (checkVersion l.host l.checkOrder (itoa l.served.version)).bind fun (version, plugins) =>
        if l.host.allowedProtocols.contains l.served.proto.text then
          .ok { l.started x509 resolved plugins with version }
        else .error (.unsupportedProtocol l.served.proto.text) := by
  have hcore : checkCore (itoa coreProtocolVersion) = .ok () := by decide
  rw [h.line_serving] at hlen ⊢
  rw [handshakeOn_protocolLine _ _ _ _ _ _ _ _ _ h.noBar h.noNewline hlen]
  unfold Announcement.outcome
  dsimp only
  rw [hcore, h.resolveAddr_eq, loadServerCert_certField, h.loadServerCert_eq, checkMultiplex_eq]
  rfl

theorem Orderly.handshakeOn_of_compatible (hcompatible : l.Compatible) :
    ∃ plugins, l.host.startVersions.lookup l.served.version = some plugins ∧
      handshakeOn l.host l.checkOrder l.deps.toHandshakeDeps
        ((l.serving cert).line ++ newline :: rest) = .ok (l.started x509 resolved plugins) := by
  obtain ⟨hcommon, hallowed⟩ := hcompatible
  obtain ⟨plugins, hlookup, hcheck⟩ :=
    checkProtoVersion_of_mem l.checkOrder (h.version_mem_iff.mpr hcommon)
  refine ⟨plugins, hlookup, ?_⟩
  rw [h.handshakeOn_eq hlen, checkVersion, hcheck]
  dsimp only [Outcome.bind]
  rw [if_pos hallowed]
  rfl

theorem Orderly.handshakeOn_of_not_compatible (hcompatible : ¬l.Compatible) :
    ∃ e, handshakeOn l.host l.checkOrder l.deps.toHandshakeDeps
      ((l.serving cert).line ++ newline :: rest) = .error e := by
  rw [h.handshakeOn_eq hlen, checkVersion]
  by_cases hmem : l.served.version ∈ l.host.supplied
  · obtain ⟨plugins, -, hcheck⟩ := checkProtoVersion_of_mem l.checkOrder hmem
    rw [hcheck]
    dsimp only [Outcome.bind]
    rw [if_neg fun hallowed => hcompatible ⟨h.version_mem_iff.mp hmem, hallowed⟩]
    exact ⟨_, rfl⟩
  · rw [checkProtoVersion_of_notMem l.checkOrder hmem]
    exact ⟨_, rfl⟩

end

/-! ### Agreement -/

/-- Host and plugin agree: on where the plugin listens, on the greatest version that both have and
    on the host's plugins for it, on the protocol and whether it is multiplexed, and on whom each
    of them trusts.  The client's fields are those of `s`, the plugin's are in `x`. -/
structure Agreed (l : Launching) (x : Serving) (x509 resolved : ByteString) (s : StartFrame) :
    Prop where
  address : s.address = some ⟨x.addr.network, resolved⟩
  version : s.negotiatedVersion = x.served.version
  greatest : IsGreatest (l.host.supplied ∩ l.plugin.supplied) s.negotiatedVersion
  plugins : l.host.startVersions.lookup s.negotiatedVersion = some s.plugins
  protocol : s.protocol = x.served.proto.text
  muxer : x.muxer = true ↔ s.protocol = Protocol.grpc.text ∧ l.host.grpcBrokerMultiplex = true
  autoMTLS : x.autoMTLS = l.host.autoMTLS
  verified : l.host.autoMTLS = true → getenv l.env envClientCert = l.certPEM ∧
    ∃ t, s.tlsConfig = some t ∧ t.certificates = [l.certPEM] ∧ t.rootCAs = some [x509]
  supplied : l.host.autoMTLS = false → s.tlsConfig = l.host.suppliedTLS l.tls

theorem Orderly.muxer_iff (h : l.Orderly cert der x509 resolved) :
    (l.serving cert).muxer = true ↔
      l.served.proto.text = Protocol.grpc.text ∧ l.host.grpcBrokerMultiplex = true := by
  have hempty : parseBool [] ≠ some true := by decide
  rw [serving, env, muxer_serving, h.noMultiplex, or_iff_left hempty, Protocol.text_eq_grpc]
  rfl

theorem Orderly.autoMTLS_eq (h : l.Orderly cert der x509 resolved) :
    (l.serving cert).autoMTLS = l.host.autoMTLS := by
  rw [Bool.eq_iff_iff, serving, env, autoMTLS_serving _ _ _ _ _ _ _ _ _ _ h.hostCert, h.noCert]
  simp

theorem Orderly.agreed (h : l.Orderly cert der x509 resolved)
    (hcommon : (l.host.supplied ∩ l.plugin.supplied).Nonempty) {plugins : PluginSet}
    (hplugins : l.host.startVersions.lookup l.served.version = some plugins)
    (version : Int64) (protocol : ByteString) :
    l.Agreed (l.serving cert) x509 resolved
      { StartBody.afterHandshake (.launched l.host l.tls l.certPEM version protocol)
          (l.started x509 resolved plugins) with
        address := some (l.started x509 resolved plugins).addr } where
  address := rfl
  version := rfl
  greatest := isGreatest_version hcommon
  plugins := hplugins
  protocol := rfl
  muxer := h.muxer_iff
  autoMTLS := h.autoMTLS_eq
  verified hauto := by
    refine ⟨?_, ?_⟩
    · rw [h.getenv_clientCert, if_pos hauto]
    · dsimp only [StartBody.afterHandshake, StartFrame.launched, started, ClientConfig.launchTLS]
      rw [if_pos hauto, if_pos hauto]
      exact ⟨_, rfl, rfl, rfl⟩
  supplied hauto := by
    dsimp only [StartBody.afterHandshake, StartFrame.launched, started, ClientConfig.launchTLS]
    rw [hauto]
    rfl

section

variable (h : l.Orderly cert der x509 resolved)
  (hlen : (l.serving cert).line.length < maxScanTokenSize) {text rest : ByteString}
  (hline : handshake l.host l.checkOrder l.deps.toHandshakeDeps text true =
    handshakeOn l.host l.checkOrder l.deps.toHandshakeDeps
      ((l.serving cert).line ++ newline :: rest))
  (version : Int64) (protocol : ByteString)
include h hlen hline

theorem Orderly.start_of_compatible (hcompatible : l.Compatible) :
    ∃ addr s, l.start version protocol (.line text) = (.ret (addr, none), s) ∧
      addr = s.address ∧ l.Agreed (l.serving cert) x509 resolved s := by
  obtain ⟨plugins, hlookup, hok⟩ := h.handshakeOn_of_compatible hlen rest hcompatible
  have hawait : StartBody.await l.host l.checkOrder l.deps (.line text) =
      StartBody.receive l.host l.checkOrder l.deps text true := rfl
  have htls := StartBody.isSome_launchTLS l.host l.tls l.certPEM
  have hstart := StartBody.start_of_ok (s := .launched l.host l.tls l.certPEM version protocol)
    hawait htls (hline.trans hok)
  exact ⟨_, _, hstart, rfl, h.agreed hcompatible.1 hlookup version protocol⟩

theorem Orderly.start_of_not_compatible (hcompatible : ¬l.Compatible) :
    ∃ addr e s, l.start version protocol (.line text) = (.ret (addr, some e), s) := by
  obtain ⟨e, herror⟩ := h.handshakeOn_of_not_compatible hlen rest hcompatible
  have hawait : StartBody.await l.host l.checkOrder l.deps (.line text) =
      StartBody.receive l.host l.checkOrder l.deps text true := rfl
  have htls := StartBody.isSome_launchTLS l.host l.tls l.certPEM
  obtain ⟨addr, s, hstart, -⟩ :=
    StartBody.start_of_error (s := .launched l.host l.tls l.certPEM version protocol) hawait htls
      (hline.trans herror)
  exact ⟨addr, _, s, hstart⟩

end

/-- **A launch from end to end.**  The plugin prints the line that `Serve` makes of the environment
    that `Start` made, and the pipe carries it in whatever pieces, with whatever follows.  `Start`
    never finds stdout closed; it succeeds exactly where the line comes before the timer and before
    the plugin's end, both have a version in common, and the host allows the plugin's protocol; and
    when it succeeds, host and plugin agree. -/
theorem launch_agrees (l : Launching) (cert : Base64) (der x509 resolved : ByteString)
    (h : l.Orderly cert der x509 resolved) (sockets : Sockets) (line : ByteString)
    (hprinted : l.printed sockets = some line) (hlen : line.length < maxScanTokenSize)
    (stdout : Source) (hlively : stdout.Lively) (rest : ByteString)
    (hstdout : stdout.rest = line ++ newline :: rest) (run : List StdoutState.Act)
    (s : StdoutState) (hrun : exec StdoutState.step (.launched stdout) run = some s)
    (event : StartEvent) (hevent : s.start = .handling event) (version : Int64)
    (protocol : ByteString) :
    event ≠ .closed ∧
      ((∃ addr, (l.start version protocol event).1 = .ret (addr, none)) ↔
        (∃ text, event = .line text) ∧ l.Compatible) ∧
      ∀ addr, (l.start version protocol event).1 = .ret (addr, none) →
        addr = (l.start version protocol event).2.address ∧
          l.Agreed (l.serving cert) x509 resolved (l.start version protocol event).2 := by
  have hserving := h.printed_eq hprinted
  rw [hserving] at hlen hstdout
  have hends : newline ∈ stdout.rest := by
    rw [hstdout]
    exact List.mem_append_right _ List.mem_cons_self
  have hfails : ∀ addr e s, l.start version protocol event = (.ret (addr, some e), s) →
      ∀ addr, (l.start version protocol event).1 ≠ .ret (addr, none) := by
    intro addr e s hstart addr' hret
    rw [hstart] at hret
    cases hret
  cases event with
  | timeout | exited =>
      have hnot := hfails none _ _ rfl
      refine ⟨StartEvent.noConfusion, ⟨?_, ?_⟩, fun addr hret => absurd hret (hnot addr)⟩
      · rintro ⟨addr, hret⟩
        exact absurd hret (hnot addr)
      · rintro ⟨⟨text, htext⟩, -⟩
        cases htext
  | closed =>
      -- the scanner finds the line, so that the channel is not closed first
      have hfirst : (newScanner stdout).scan.1 = scanLine stdout.rest :=
        (Scanner.sound_newScanner hlively).scanned_scan.eq_scanLine rfl (Or.inl hends)
      rw [(StdoutState.awaits_of_exec hrun).closed hevent, hstdout, h.line_serving] at hfirst
      rw [h.line_serving] at hlen
      obtain ⟨found, hscan, -⟩ := scanLine_protocolLine l.served.version l.outcomes.addr
        l.served.proto (l.lineCert der) l.host.grpcBrokerMultiplex rest h.noNewline hlen
      cases hfirst.trans hscan
  | line text =>
      have hline := (StdoutState.handshake_of_exec l.host l.checkOrder l.deps.toHandshakeDeps
        hlively (Or.inl hends) hrun).1 text hevent
      rw [hstdout] at hline
      refine ⟨StartEvent.noConfusion, ?_⟩
      by_cases hcompatible : l.Compatible
      · obtain ⟨addr, t, hstart, haddr, hagreed⟩ :=
          h.start_of_compatible hlen hline version protocol hcompatible
        rw [hstart]
        refine ⟨⟨fun _ => ⟨⟨text, rfl⟩, hcompatible⟩, fun _ => ⟨addr, rfl⟩⟩, ?_⟩
        intro addr' hret
        cases hret
        exact ⟨haddr, hagreed⟩
      · obtain ⟨addr, e, t, hstart⟩ :=
          h.start_of_not_compatible hlen hline version protocol hcompatible
        have hnot := hfails addr e t hstart
        refine ⟨⟨?_, fun hboth => absurd hboth.2 hcompatible⟩,
          fun addr hret => absurd hret (hnot addr)⟩
        rintro ⟨addr, hret⟩
        exact absurd hret (hnot addr)

end

/-! ### A launch with `AutoMTLS` and multiplexing -/

def mtlsLaunch : Launching where
  host := mtlsMuxHost
  plugin := kvServer
  hostEnv := [ascii "HOME=/root"]
  certPEM := ascii "PEM"
  socketDir := []
  tls := StartBody.ownTLS
  startOrder := .stored
  serveOrder := .stored
  checkOrder := .stored
  setOrder _ := .stored
  outcomes := ServeBody.servingOutcomes
  deps := StartBody.acceptAll

theorem orderly_mtlsLaunch :
    mtlsLaunch.Orderly someCert certDER certDER (ascii "/tmp/plugin1") where
  supplied := ⟨1, PluginConfig.mem_serveVersions.mp (by decide)⟩
  noProvider := rfl
  noCert := by decide
  noMultiplex := by decide
  hostCert := by decide
  pipes := rfl
  pluginCert := rfl
  encoded := rfl
  long := by decide +kernel
  parses := rfl
  noBar := by decide
  noNewline := by decide
  translates := rfl
  resolves := rfl

theorem compatible_mtlsLaunch : mtlsLaunch.Compatible :=
  ⟨⟨1, PluginConfig.mem_startVersions.mp (by decide),
    PluginConfig.mem_serveVersions.mp (by decide)⟩, by decide⟩

/-- The line and a line of the plugin's own, in pieces of nine bytes at first. -/
def mtlsStdout : Source :=
  ⟨(mtlsLaunch.serving someCert).line ++ newline :: ascii "ready", [⟨1, 9, false⟩], .eof⟩

/-- What the scanner's goroutine sends to `Start`. -/
def mtlsRun : List StdoutState.Act := [.scan, .select (.line (mtlsLaunch.serving someCert).line)]

set_option maxRecDepth 8000 in
theorem launch_agrees_mtls :
    ∃ s, exec StdoutState.step (.launched mtlsStdout) mtlsRun = some s ∧
      s.start = .handling (.line (mtlsLaunch.serving someCert).line) ∧
      (∃ addr, (mtlsLaunch.start 0 [] (.line (mtlsLaunch.serving someCert).line)).1 =
        .ret (addr, none)) ∧
      mtlsLaunch.Agreed (mtlsLaunch.serving someCert) certDER (ascii "/tmp/plugin1")
        (mtlsLaunch.start 0 [] (.line (mtlsLaunch.serving someCert).line)).2 := by
  have hlively : mtlsStdout.Lively := by
    intro p hp
    cases List.mem_singleton.mp hp
    decide
  obtain ⟨s, hrun, hevent⟩ : ∃ s,
      exec StdoutState.step (.launched mtlsStdout) mtlsRun = some s ∧
        s.start = .handling (.line (mtlsLaunch.serving someCert).line) := ⟨_, rfl, rfl⟩
  obtain ⟨-, hiff, hagreed⟩ := launch_agrees mtlsLaunch someCert certDER certDER
    (ascii "/tmp/plugin1") orderly_mtlsLaunch [] _ rfl (by decide) mtlsStdout hlively
    (ascii "ready") rfl mtlsRun s hrun _ hevent 0 []
  obtain ⟨addr, hret⟩ := hiff.mpr ⟨⟨_, rfl⟩, compatible_mtlsLaunch⟩
  exact ⟨s, hrun, hevent, ⟨addr, hret⟩, (hagreed addr hret).2⟩

end Launching

end GoPlugin
