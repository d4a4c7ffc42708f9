import GoPlugin.PluginSets

/-!
# The handshake

`Serve` prints one line on its standard output, and `Start` reads it: the core version, the
negotiated version, network and address of the listener, the protocol, the server's
certificate, and whether the broker can be multiplexed.

What the standard library and the runner do is left open: the address of the listener, the
certificates, and whether an address resolves or a certificate parses are parameters.
-/

namespace GoPlugin

open ByteString Environ GoMap

/-- The separator of the fields. -/
def bar : UInt8 := 124

def coreProtocolVersion : Int64 := 1

inductive Network where
  | tcp | unix
deriving DecidableEq, Repr

def Network.text : Network → ByteString
  | .tcp => ascii "tcp"
  | .unix => ascii "unix"

/-- `net.Addr`. -/
structure Addr where
  network : Network
  address : ByteString
deriving DecidableEq, Repr

/-! ### The plugin -/

/-- The alphabet of `base64.RawStdEncoding`. -/
def isBase64 (c : UInt8) : Bool :=
  (48 ≤ c && c ≤ 57) || (65 ≤ c && c ≤ 90) || (97 ≤ c && c ≤ 122) || c == 43 || c == 47

/-- A string that `base64.RawStdEncoding` can produce. -/
structure Base64 where
  text : ByteString
  valid : ∀ c ∈ text, isBase64 c = true

/-- What `Serve` has set up when it prints its line. -/
structure Serving where
  served : Served
  addr : Addr
  autoMTLS : Bool        -- the TLS configuration is the one for the host's `PLUGIN_CLIENT_CERT`
  muxer : Bool           -- the listener is a `GRPCServerMuxer`
  serverCert : ByteString
  line : ByteString

/-- What `TLSProvider` gives; `none` where it fails. -/
def ServeConfig.providedTLS (opts : ServeConfig) : Option Bool :=
  match opts.tlsProvider with
  | none => some false
  | some (.ok provided) => some provided
  | some (.error _) => none

/-- The line that `Serve` prints; the last field is only there where the environment variable
    for multiplexing is set. -/
def protocolLine (version : Int64) (addr : Addr) (proto : Protocol) (serverCert : ByteString)
    (multiplexSet : Bool) : ByteString :=
  itoa coreProtocolVersion ++ bar :: (itoa version ++ bar :: (addr.network.text ++ bar ::
    (addr.address ++ bar :: (proto.text ++ bar :: (serverCert ++
      if multiplexSet then bar :: ascii "true" else [])))))

/-- What `Serve` sets up on a listener, before `server.Init`; `cert` is the certificate that
    `generateCert` made. -/
def serving (opts : ServeConfig) (env : List ByteString) (order : RangeOrder Int64 PluginSet)
    (setOrder : Int64 → RangeOrder ByteString Plugin) (addr : Addr) (provided : Bool)
    (cert : Base64) : Serving :=
  let served := protocolVersion opts env order setOrder
  let clientCert := getenv env envClientCert
  let multiplex := getenv env envMultiplexGRPC
  let autoMTLS : Bool := provided = false ∧ clientCert ≠ []
  let serverCert := if autoMTLS then cert.text else []
  { served := served
    addr := addr
    autoMTLS := autoMTLS
    muxer := served.proto = .grpc ∧ parseBool multiplex = some true
    serverCert := serverCert
    line := protocolLine served.version addr served.proto serverCert (multiplex ≠ []) }

/-- `Serve` up to the line that it prints, not in test mode; `none` where it ends before.
    `listener` is the address of the listener, if there is one, and `init` whether
    `server.Init` succeeded. -/
def serve (opts : ServeConfig) (env : List ByteString) (order : RangeOrder Int64 PluginSet)
    (setOrder : Int64 → RangeOrder ByteString Plugin) (listener : Option Addr) (cert : Base64)
    (init : Bool) : Option Serving :=
  if opts.magicCookieKey = [] ∨ opts.magicCookieValue = [] then none
  else if getenv env opts.magicCookieKey ≠ opts.magicCookieValue then none
  else
    match listener, opts.providedTLS with
    | some addr, some provided =>
        if provided = true ∧ getenv env envClientCert ≠ [] then none
        else if init then some (serving opts env order setOrder addr provided cert)
        else none
    | _, _ => none

theorem serve_eq_some {opts : ServeConfig} {env : List ByteString}
    {order : RangeOrder Int64 PluginSet} {setOrder : Int64 → RangeOrder ByteString Plugin}
    {listener : Option Addr} {cert : Base64} {init : Bool} {x : Serving}
    (h : serve opts env order setOrder listener cert init = some x) :
    ∃ addr provided, listener = some addr ∧ opts.providedTLS = some provided ∧
      x = serving opts env order setOrder addr provided cert := by
  unfold serve at h
  split at h
  · cases h
  split at h
  · cases h
  split at h
  · next addr provided htls =>
      split at h
      · cases h
      split at h
      · exact ⟨addr, provided, rfl, htls, (Option.some.inj h).symm⟩
      · cases h
  · cases h

/-! ### The host -/

/-- How `Start` fails on the plugin's output. -/
inductive StartError where
  | unrecognized (line : ByteString) (read : Bool)   -- fewer than four fields; nothing was read
  | coreParse (field : ByteString)
  | coreVersion (field : ByteString)
  | protoVersion (e : ProtoVersionError)
  | pluginToHost
  | resolve
  | unknownAddressType (address : ByteString)
  | unsupportedProtocol (protocol : ByteString)
  | serverCert
  | muxNotSupported
  | muxParse (field : ByteString)
deriving DecidableEq, Repr

/-- How a piece of `Start` ends. -/
inductive Outcome (α : Type) where
  | ok (a : α)
  | error (e : StartError)
  | panic
deriving DecidableEq, Repr

namespace Outcome

variable {α β : Type}

def bind (x : Outcome α) (f : α → Outcome β) : Outcome β :=
  match x with
  | .ok a => f a
  | .error e => .error e
  | .panic => .panic

theorem bind_eq_ok {x : Outcome α} {f : α → Outcome β} {b : β} :
    x.bind f = .ok b ↔ ∃ a, x = .ok a ∧ f a = .ok b := by
  cases x <;> simp [bind]

end Outcome

/-- What the handshake asks of the runner and of the standard library. -/
structure HandshakeDeps where
  pluginToHost : ByteString → ByteString → Option (ByteString × ByteString)
  resolve : Network → ByteString → Option ByteString
  parseCert : ByteString → Option ByteString      -- base64, then x509

/-- What a successful handshake leaves in the client. -/
structure Started where
  version : Int64
  plugins : PluginSet
  addr : Addr
  protocol : ByteString
  rootCA : Option ByteString      -- the server's certificate, where it was loaded

def checkCore (field : ByteString) : Outcome Unit :=
  match atoi field with
  | none => .error (.coreParse field)
  | some n => if n = coreProtocolVersion then .ok () else .error (.coreVersion field)

def checkVersion (c : ClientConfig) (order : RangeOrder Int64 PluginSet) (field : ByteString) :
    Outcome (Int64 × PluginSet) :=
  match checkProtoVersion c order field with
  | .ok x => .ok x
  | .error e => .error (.protoVersion e)

/-- `PluginToHost` and the switch on the network. -/
def resolveAddr (deps : HandshakeDeps) (network address : ByteString) : Outcome Addr :=
  match deps.pluginToHost network address with
  | none => .error .pluginToHost
  | some (network, address) =>
      if network = Network.tcp.text then
        match deps.resolve .tcp address with
        | some a => .ok ⟨.tcp, a⟩
        | none => .error .resolve
      else if network = Network.unix.text then
        match deps.resolve .unix address with
        | some a => .ok ⟨.unix, a⟩
        | none => .error .resolve
      else .error (.unknownAddressType address)

/-- `loadServerCert`, for a field of more than 50 bytes.  It writes to `TLSConfig`, which is
    nil unless `AutoMTLS` or the caller has set it. -/
def loadServerCert (c : ClientConfig) (deps : HandshakeDeps) (field : Option ByteString) :
    Outcome (Option ByteString) :=
  match field with
  | none => .ok none
  | some cert =>
      if 50 < cert.length then
        match deps.parseCert cert with
        | none => .error .serverCert
        | some x509 => if c.autoMTLS || c.tlsConfig then .ok (some x509) else .panic
      else .ok none

/-- The check that the plugin can multiplex, where the client is going to. -/
def checkMultiplex (c : ClientConfig) (protocol : ByteString) (field : Option ByteString) :
    Outcome Unit :=
  if c.grpcBrokerMultiplex = true ∧ protocol = Protocol.grpc.text then
    match field with
    | none => .error .muxNotSupported
    | some f =>
        match parseBool f with
        | none => .error (.muxParse f)
        | some false => .error .muxNotSupported
        | some true => .ok ()
  else .ok ()

/-- What `Start` does with the line that it received; `read` is false where the scanner ended
    without one. -/
def handshake (c : ClientConfig) (order : RangeOrder Int64 PluginSet) (deps : HandshakeDeps)
    (line : ByteString) (read : Bool) : Outcome Started :=
  match split bar (trimSpace line) with
  | core :: version :: network :: address :: rest =>
      (checkCore core).bind fun _ =>
        (checkVersion c order version).bind fun (version, plugins) =>
          (resolveAddr deps network address).bind fun addr =>
            let protocol := rest[0]?.getD Protocol.netRPC.text
            if c.allowedProtocols.contains protocol then
              (loadServerCert c deps rest[1]?).bind fun rootCA =>
                (checkMultiplex c protocol rest[2]?).bind fun _ =>
                  .ok ⟨version, plugins, addr, protocol, rootCA⟩
            else .error (.unsupportedProtocol protocol)
  | _ => .error (.unrecognized (trimSpace line) read)

/-- The handshake on what the plugin wrote to its standard output. -/
def handshakeOn (c : ClientConfig) (order : RangeOrder Int64 PluginSet) (deps : HandshakeDeps)
    (stdout : ByteString) : Outcome Started :=
  match scanLine stdout with
  | some line => handshake c order deps line true
  | none => handshake c order deps [] false

/-- Whether `getGRPCMuxer` gives the client a muxer. -/
def ClientConfig.usesMuxer (c : ClientConfig) (started : Started) : Bool :=
  started.protocol = Protocol.grpc.text ∧ c.grpcBrokerMultiplex = true

/-! ### What the host reads -/

/-- The fields of what the plugin writes, but for the space in front of them. -/
def fields (stdout : ByteString) : List ByteString :=
  split bar (trimRight (dropCR (firstLine stdout)))

/-- Trimming and the end of the line only concern the last field. -/
theorem fields_append {s : ByteString} (h : newline ∉ s) (t : ByteString) :
    fields (s ++ bar :: t) = split bar s ++ fields t := by
  have hline : firstLine (s ++ bar :: t) = s ++ bar :: firstLine t := by
    have hbar : newline ∉ s ++ [bar] := by simp [h, show newline ≠ bar by decide]
    simpa using firstLine_append hbar t
  rw [fields, hline, dropCR_append_cons (by decide), trimRight_append_cons (by decide),
    split_append_cons]
  rfl

theorem fields_append_of_mem {s : ByteString} (h : newline ∈ s) (t : ByteString) :
    fields (s ++ t) = fields s := by
  rw [fields, firstLine_append_of_mem h]
  rfl

/-- The protocol is the fifth field, or net/rpc where there is none. -/
theorem protocol_of_handshake {c : ClientConfig} {order : RangeOrder Int64 PluginSet}
    {deps : HandshakeDeps} {line : ByteString} {read : Bool} {started : Started}
    (h : handshake c order deps line read = .ok started) :
    started.protocol = (split bar (trimSpace line))[4]?.getD Protocol.netRPC.text := by
  unfold handshake at h
  split at h
  · next core version network address rest hsplit =>
      simp only [Outcome.bind_eq_ok] at h
      obtain ⟨_, -, _, -, _, -, h⟩ := h
      split at h
      · simp only [Outcome.bind_eq_ok, Outcome.ok.injEq] at h
        obtain ⟨_, -, _, -, rfl⟩ := h
        simp [hsplit]
      · cases h
  · cases h

/-- What the host splits are the fields, where nothing has to be trimmed in front of them. -/
theorem split_trimSpace_of_scanLine {stdout line : ByteString}
    (hstdout : ∃ d s, stdout = d :: s ∧ printable d) (h : scanLine stdout = some line) :
    split bar (trimSpace line) = fields stdout := by
  obtain ⟨d, s, rfl, hd⟩ := hstdout
  have hline : dropCR (firstLine (d :: s)) = d :: dropCR (firstLine s) := by
    have hnewline : newline ∉ [d] := by
      rintro hmem
      rw [← List.mem_singleton.mp hmem] at hd
      revert hd
      decide
    have hcr : d ≠ 13 := by
      rintro rfl
      revert hd
      decide
    have hfirst : firstLine (d :: s) = d :: firstLine s := firstLine_append hnewline s
    rw [hfirst]
    exact dropCR_append_cons hcr [] _
  rw [scanLine] at h
  split at h
  · rw [← Option.some.inj h, fields, hline, trimSpace, trimLeft_cons hd]
  · cases h

theorem protocol_of_handshakeOn {c : ClientConfig} {order : RangeOrder Int64 PluginSet}
    {deps : HandshakeDeps} {stdout : ByteString} {started : Started}
    (hstdout : ∃ d s, stdout = d :: s ∧ printable d)
    (h : handshakeOn c order deps stdout = .ok started) :
    started.protocol = (fields stdout)[4]?.getD Protocol.netRPC.text := by
  unfold handshakeOn at h
  split at h
  · next line hscan =>
      rw [← split_trimSpace_of_scanLine hstdout hscan]
      exact protocol_of_handshake h
  · cases h

/-- The line names its protocol after the address, which can have a bar or a line break in
    it. -/
def heardProtocol (address : ByteString) (proto : Protocol) : ByteString :=
  if newline ∈ address then (fields address)[1]?.getD Protocol.netRPC.text
  else (split bar address)[1]?.getD proto.text

theorem split_ne_nil (sep : UInt8) (s : ByteString) : split sep s ≠ [] :=
  List.splitOn_ne_nil _ _

/-- What the host makes of the protocol in the plugin's line. -/
theorem protocol_of_protocolLine {c : ClientConfig} {order : RangeOrder Int64 PluginSet}
    {deps : HandshakeDeps} {version : Int64} {addr : Addr} {proto : Protocol}
    {serverCert : ByteString} {multiplexSet : Bool} {started : Started}
    (h : handshakeOn c order deps
      (protocolLine version addr proto serverCert multiplexSet ++ [newline]) = .ok started) :
    started.protocol = heardProtocol addr.address proto := by
  set rest : ByteString := serverCert ++ (if multiplexSet then bar :: ascii "true" else [])
    ++ [newline] with hrest
  have hline : protocolLine version addr proto serverCert multiplexSet ++ [newline] =
      itoa coreProtocolVersion ++ bar :: (itoa version ++ bar :: (addr.network.text ++ bar ::
        (addr.address ++ bar :: (proto.text ++ bar :: rest)))) := by
    simp [protocolLine, hrest]
  have hitoa : ∀ n : Int64, ∀ c : UInt8, ¬(c = 45 ∨ (48 ≤ c.toNat ∧ c.toNat ≤ 57)) →
      c ∉ itoa n := fun n c hc hmem => hc (mem_itoa hmem)
  have hnet : newline ∉ addr.network.text ∧ bar ∉ addr.network.text := by
    cases addr.network <;> decide
  have hproto : newline ∉ proto.text ∧ bar ∉ proto.text := by cases proto <;> decide
  have hfields : fields (protocolLine version addr proto serverCert multiplexSet ++ [newline]) =
      [itoa coreProtocolVersion, itoa version, addr.network.text] ++
        fields (addr.address ++ bar :: (proto.text ++ bar :: rest)) := by
    rw [hline, fields_append (by decide), fields_append (hitoa _ _ (by decide)),
      fields_append hnet.1, split_of_notMem (hitoa _ _ (by decide)),
      split_of_notMem (hitoa _ _ (by decide)), split_of_notMem hnet.2]
    rfl
  rw [protocol_of_handshakeOn ⟨49, _, hline, by decide⟩ h, hfields, heardProtocol]
  split
  · next hmem =>
      rw [fields_append_of_mem hmem]
      simp
  · next hmem =>
      rw [fields_append hmem, fields_append hproto.1, split_of_notMem hproto.2]
      match hsplit : split bar addr.address with
      | [] => exact absurd hsplit (split_ne_nil _ _)
      | [_] => simp
      | _ :: _ :: _ => simp

end GoPlugin
