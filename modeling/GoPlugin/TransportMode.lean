import GoPlugin.Handshake
import GoPlugin.RawBase64

/-!
# The transport mode

Whether the connection is multiplexed and whether it has automatic mTLS is decided twice: the
client goes by its configuration, and the plugin by its environment.  `Start` sets the
variables for what is configured, but it does not clear those that the plugin inherits.
-/

namespace GoPlugin

open ByteString Environ GoMap

/-- Host and plugin have the same transport mode. -/
def SameMode (c : ClientConfig) (started : Started) (x : Serving) : Prop :=
  (x.muxer = true ↔ c.usesMuxer started = true) ∧ (x.autoMTLS = true ↔ c.autoMTLS = true)

/-- What the listener's address puts where the host looks for the protocol: nothing, unless it has
    a bar or a line break in it. -/
def addressProtocol (address : ByteString) : Option ByteString :=
  if newline ∈ address then some ((fields address)[1]?.getD Protocol.netRPC.text)
  else (split bar address)[1]?

/-- Nothing that the plugin inherits asks for a mode that is not configured, and the listener's
    address does not name another protocol. -/
def ModeConveyed (c : ClientConfig) (hostEnv : List ByteString) (address : ByteString)
    (proto : Protocol) : Prop :=
  (c.autoMTLS = false → getenv (c.inheritedEnv hostEnv) envClientCert = []) ∧
    if c.grpcBrokerMultiplex then
      ∀ named ∈ addressProtocol address, (named = Protocol.grpc.text ↔ proto = .grpc)
    else proto = .grpc → parseBool (getenv (c.inheritedEnv hostEnv) envMultiplexGRPC) ≠ some true

instance (c : ClientConfig) (hostEnv : List ByteString) (address : ByteString)
    (proto : Protocol) : Decidable (ModeConveyed c hostEnv address proto) := by
  unfold ModeConveyed
  split <;> infer_instance

/-- An address without bars and line breaks names no protocol. -/
theorem addressProtocol_of_plain {address : ByteString} (hbar : bar ∉ address)
    (hnewline : newline ∉ address) : addressProtocol address = none := by
  simp [addressProtocol, hnewline, split_of_notMem hbar]

theorem Protocol.text_eq_grpc {proto : Protocol} :
    proto.text = Protocol.grpc.text ↔ proto = .grpc := by
  cases proto <;> decide

/-- The host hears what the address names, and else what the plugin serves. -/
theorem heardProtocol_eq_grpc_iff (address : ByteString) (proto : Protocol) :
    (heardProtocol address proto = Protocol.grpc.text ↔ proto = .grpc) ↔
      ∀ named ∈ addressProtocol address, (named = Protocol.grpc.text ↔ proto = .grpc) := by
  have hheard : heardProtocol address proto = (addressProtocol address).getD proto.text := by
    unfold heardProtocol addressProtocol
    split <;> rfl
  rw [hheard]
  cases addressProtocol address with
  | none => simp [Protocol.text_eq_grpc]
  | some named => simp

/-- Without inherited variables and with a plain address, the mode is conveyed. -/
theorem modeConveyed_of_clean {c : ClientConfig} {hostEnv : List ByteString}
    {address : ByteString} (hbar : bar ∉ address) (hnewline : newline ∉ address)
    (hcert : getenv (c.inheritedEnv hostEnv) envClientCert = [])
    (hmux : getenv (c.inheritedEnv hostEnv) envMultiplexGRPC = []) (proto : Protocol) :
    ModeConveyed c hostEnv address proto := by
  refine ⟨fun _ => hcert, ?_⟩
  split
  · simp [addressProtocol_of_plain hbar hnewline]
  · rw [hmux]
    exact fun _ => by decide

section Modes

variable (c : ClientConfig) (opts : ServeConfig) (hostEnv : List ByteString)
  (certPEM socketDir : ByteString) (startOrder serveOrder : RangeOrder Int64 PluginSet)
  (setOrder : Int64 → RangeOrder ByteString Plugin) (addr : Addr) (cert : Base64)

theorem muxer_serving (provided : Bool) :
    (serving opts (c.startEnv hostEnv startOrder certPEM socketDir) serveOrder setOrder addr
      provided cert).muxer = true ↔
      (protocolVersion opts (c.startEnv hostEnv startOrder certPEM socketDir) serveOrder
        setOrder).proto = .grpc ∧
        (c.grpcBrokerMultiplex = true ∨
          parseBool (getenv (c.inheritedEnv hostEnv) envMultiplexGRPC) = some true) := by
  have htrue : parseBool (ascii "true") = some true := by decide
  simp only [serving, decide_eq_true_eq, ClientConfig.getenv_startEnv_multiplex]
  cases c.grpcBrokerMultiplex <;> simp [htrue]

theorem autoMTLS_serving (hcert : certPEM ≠ []) :
    (serving opts (c.startEnv hostEnv startOrder certPEM socketDir) serveOrder setOrder addr false
      cert).autoMTLS = true ↔
      (c.autoMTLS = true ∨ getenv (c.inheritedEnv hostEnv) envClientCert ≠ []) := by
  simp only [serving, ClientConfig.getenv_startEnv_clientCert, true_and, decide_eq_true_eq]
  cases c.autoMTLS <;> simp [hcert]

end Modes

/-- **When host and plugin have the same transport mode.**  After a successful handshake they
    do exactly where the plugin does not inherit a mode that the client does not have. -/
theorem sameMode_iff_modeConveyed (c : ClientConfig) (opts : ServeConfig)
    (htls : opts.tlsProvider = none) (hostEnv : List ByteString) (certPEM socketDir : ByteString)
    (hcert : certPEM ≠ []) (startOrder serveOrder checkOrder : RangeOrder Int64 PluginSet)
    (setOrder : Int64 → RangeOrder ByteString Plugin) (addr : Addr) (cert : Base64) (init : Bool)
    (deps : HandshakeDeps) (x : Serving) (started : Started)
    (hserve : serve opts (c.startEnv hostEnv startOrder certPEM socketDir) serveOrder setOrder
      (some addr) cert init = some x)
    (hstart : handshakeOn c checkOrder deps (x.line ++ [newline]) = .ok started) :
    SameMode c started x ↔ ModeConveyed c hostEnv addr.address
      (protocolVersion opts (c.startEnv hostEnv startOrder certPEM socketDir) serveOrder
        setOrder).proto := by
  obtain ⟨_, provided, haddr, hprovided, rfl⟩ := serve_eq_some hserve
  cases haddr
  have hfalse : provided = false := by
    simpa [ServeConfig.providedTLS, htls] using hprovided.symm
  subst hfalse
  have hproto : started.protocol = heardProtocol addr.address
      (protocolVersion opts (c.startEnv hostEnv startOrder certPEM socketDir) serveOrder
        setOrder).proto := protocol_of_protocolLine hstart
  have hmux := muxer_serving c opts hostEnv certPEM socketDir startOrder serveOrder setOrder addr
    cert false
  have hauto := autoMTLS_serving c opts hostEnv certPEM socketDir startOrder serveOrder setOrder
    addr cert hcert
  rw [SameMode, hmux, hauto, ModeConveyed, and_comm]
  refine and_congr ?_ ?_
  · cases c.autoMTLS <;> simp
  · simp only [ClientConfig.usesMuxer, hproto, decide_eq_true_eq]
    cases c.grpcBrokerMultiplex with
    | true =>
        rw [if_pos rfl, ← heardProtocol_eq_grpc_iff]
        simpa using iff_comm
    | false => simp

/-- A host of the plugin that asks for nothing. -/
def plainHost : ClientConfig where
  protocolVersion := 1
  magicCookieKey := ascii "COOKIE"
  magicCookieValue := ascii "chocolate"
  plugins := grpcPlugin
  versionedPlugins := none
  launch := .cmd []
  minPort := 10000
  maxPort := 25000
  grpcBrokerMultiplex := false
  skipHostEnv := false
  autoMTLS := false
  tlsConfig := false
  unixSocketGroup := []
  allowedProtocols := [Protocol.grpc.text]

/-- A host that asks for multiplexing and automatic mTLS. -/
def mtlsMuxHost : ClientConfig :=
  { plainHost with grpcBrokerMultiplex := true, autoMTLS := true }

def kvServer : ServeConfig where
  protocolVersion := 1
  magicCookieKey := ascii "COOKIE"
  magicCookieValue := ascii "chocolate"
  plugins := grpcPlugin
  versionedPlugins := none
  grpcServer := true
  tlsProvider := none

def socketAddr : Addr := ⟨.unix, ascii "/tmp/plugin1"⟩

/-- A self-signed certificate for `CN=localhost` with an Ed25519 key, in DER. -/
def certDER : ByteString :=
  [48, 129, 209, 48, 129, 132, 2, 1, 1, 48, 5, 6, 3, 43, 101, 112, 48, 20, 49, 18, 48, 16, 6, 3, 85,
    4, 3, 12, 9, 108, 111, 99, 97, 108, 104, 111, 115, 116, 48, 32, 23, 13, 50, 54, 49, 49, 49, 53,
    50, 51, 51, 48, 50, 54, 90, 24, 15, 50, 48, 53, 54, 49, 49, 48, 55, 50, 51, 51, 48, 50, 54, 90,
    48, 20, 49, 18, 48, 16, 6, 3, 85, 4, 3, 12, 9, 108, 111, 99, 97, 108, 104, 111, 115, 116, 48,
    42, 48, 5, 6, 3, 43, 101, 112, 3, 33, 0, 122, 225, 55, 201, 77, 96, 213, 31, 45, 179, 101, 11,
    96, 185, 2, 180, 255, 203, 65, 90, 1, 27, 64, 172, 210, 162, 105, 194, 215, 36, 68, 210, 48, 5,
    6, 3, 43, 101, 112, 3, 65, 0, 29, 199, 227, 254, 77, 180, 224, 156, 122, 81, 96, 250, 15, 11,
    155, 194, 238, 186, 180, 10, 65, 80, 5, 102, 71, 199, 125, 69, 187, 210, 167, 231, 60, 252, 12,
    16, 11, 53, 120, 206, 26, 53, 55, 90, 119, 78, 43, 111, 125, 249, 114, 237, 48, 174, 217, 117,
    115, 84, 164, 215, 54, 159, 172, 7]

theorem isBase64_of_mem_encode {s : ByteString} {c : UInt8} (h : c ∈ base64Encode s) :
    isBase64 c = true := by
  have hsymbols : ∀ n < 64, isBase64 (base64Symbol n) = true := by decide
  obtain ⟨n, hn, rfl⟩ := mem_base64Encode h
  exact hsymbols n hn

/-- The certificate as it stands in the line. -/
def someCert : Base64 := ⟨base64Encode certDER, fun _ hc => isBase64_of_mem_encode hc⟩

/-- A command runner, a resolver and a parser that accept everything. -/
def plainDeps : HandshakeDeps := ⟨fun n a => some (n, a), fun _ a => some a, some⟩

set_option maxRecDepth 4000 in
theorem sameMode_iff_modeConveyed_mtlsMux :
    ∃ x started,
      serve kvServer (mtlsMuxHost.startEnv [ascii "HOME=/root"] .stored (ascii "PEM") []) .stored
        (fun _ => .stored) (some socketAddr) someCert true = some x ∧
      handshakeOn mtlsMuxHost .stored plainDeps (x.line ++ [newline]) = .ok started ∧
      SameMode mtlsMuxHost started x :=
  ⟨_, _, rfl, rfl, (sameMode_iff_modeConveyed mtlsMuxHost kvServer rfl [ascii "HOME=/root"]
    (ascii "PEM") [] (by decide) .stored .stored .stored (fun _ => .stored) socketAddr someCert true
    plainDeps _ _ rfl rfl).mpr (by decide)⟩

/-- A host that is itself a multiplexed plugin passes `PLUGIN_MULTIPLEX_GRPC` on: the plugin
    runs the muxer, and the client does not. -/
theorem inherited_multiplex_not_sameMode :
    ∃ x started,
      serve kvServer (plainHost.startEnv [ascii "PLUGIN_MULTIPLEX_GRPC=true"] .stored
        (ascii "PEM") []) .stored (fun _ => .stored) (some socketAddr) someCert true = some x ∧
      handshakeOn plainHost .stored plainDeps (x.line ++ [newline]) = .ok started ∧
      x.muxer = true ∧ plainHost.usesMuxer started = false :=
  ⟨_, _, rfl, rfl, rfl, rfl⟩

end GoPlugin
