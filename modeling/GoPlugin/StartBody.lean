import GoPlugin.GoBody
import GoPlugin.HandshakeLine

/-!
# `Start` from the launch on

The body of `Start` after `runner.Start` has succeeded, statement by statement: the wait, the
handshake with its index expressions, the writes to the client, the named results and the
deferred function that kills the runner.

`handshake` says what becomes of a line without these; the body does just that, and until its
end it leaves `c.address` alone.
-/

namespace GoPlugin

open ByteString GoMap GoBody

/-! ### The state -/

/-- `tls.ClientAuthType`, as far as it occurs. -/
inductive ClientAuth where
  | noClientCert
  | requireAndVerifyClientCert
  | other
deriving DecidableEq, Repr

/-- `tls.Config`; a pool of certificates may be nil. -/
structure TLSConfig where
  certificates : List ByteString
  clientAuth : ClientAuth
  minVersion : UInt16
  serverName : ByteString
  rootCAs : Option (List ByteString)
  clientCAs : Option (List ByteString)
deriving DecidableEq, Repr

/-- The configuration for `AutoMTLS`, with the client's own certificate. -/
def autoTLS (cert : ByteString) : TLSConfig where
  certificates := [cert]
  clientAuth := .requireAndVerifyClientCert
  minVersion := 771    -- `tls.VersionTLS12`
  serverName := ascii "localhost"
  rootCAs := none
  clientCAs := none

/-- The caller's `TLSConfig`, where it points to `tls`: what the caller has put there, or what an
    earlier `Start` call from the same configuration has left. -/
def ClientConfig.suppliedTLS (c : ClientConfig) (tls : TLSConfig) : Option TLSConfig :=
  if c.tlsConfig then some tls else none

/-- `TLSConfig` when the plugin is launched. -/
def ClientConfig.launchTLS (c : ClientConfig) (tls : TLSConfig) (cert : ByteString) :
    Option TLSConfig :=
  if c.autoMTLS then some (autoTLS cert) else c.suppliedTLS tls

/-- Why `Start` fails after the launch. -/
inductive StartFailure where
  | timeout
  | exited
  | rejected (e : StartError)
deriving DecidableEq, Repr

/-- The results `addr` and `err`. -/
abbrev StartResults := Option Addr × Option StartFailure

/-- The client's fields that the body writes, the named results as variables, and how often it
    has called `runner.Kill`. -/
structure StartFrame where
  plugins : PluginSet
  negotiatedVersion : Int64
  protocol : ByteString
  tlsConfig : Option TLSConfig
  address : Option Addr
  addr : Option Addr
  err : Option StartFailure
  kills : Nat

/-- The frame after the launch; `version` and `protocol` are what an earlier call left, and `tls`
    is what the caller's `TLSConfig` points to now. -/
def StartFrame.launched (c : ClientConfig) (tls : TLSConfig) (cert : ByteString)
    (version : Int64) (protocol : ByteString) : StartFrame where
  plugins := c.plugins
  negotiatedVersion := version
  protocol := protocol
  tlsConfig := c.launchTLS tls cert
  address := none
  addr := none
  err := none
  kills := 0

/-- What the body asks of the runner and of the standard library. -/
structure StartDeps where
  pluginToHost : ByteString → ByteString → Option (ByteString × ByteString)
  resolve : Network → ByteString → Option ByteString
  parseCertificate : ByteString → Option ByteString

def StartDeps.toHandshakeDeps (deps : StartDeps) : HandshakeDeps where
  pluginToHost := deps.pluginToHost
  resolve := deps.resolve
  parseCert field := (base64Decode field).bind deps.parseCertificate

/-- What ends the wait: the timer, the context, a line, or the end of the lines. -/
inductive StartEvent where
  | timeout
  | exited
  | line (line : ByteString)
  | closed
deriving DecidableEq, Repr

/-! ### The body -/

abbrev StartBody := Body StartFrame StartResults

namespace StartBody

/-- `return addr, err` with an error. -/
def fail {α : Type} (addr : Option Addr) (e : StartError) : StartBody α :=
  .ret (addr, some (.rejected e))

/-- `parts[i]`. -/
def index (parts : List ByteString) (i : Nat) : StartBody ByteString :=
  match parts[i]? with
  | some part => pure part
  | none => .crash

/-- The core version; `err` is still the result here. -/
def readCore (field : ByteString) : StartBody Unit :=
  match atoi field with
  | none => fail none (.coreParse field)
  | some n => do
      Body.update fun s => { s with err := none }
      if n = coreProtocolVersion then pure () else fail none (.coreVersion field)

def readVersion (c : ClientConfig) (order : RangeOrder Int64 PluginSet) (field : ByteString) :
    StartBody Unit :=
  match checkProtoVersion c order field with
  | .ok (version, plugins) =>
      Body.update fun s => { s with plugins := plugins, negotiatedVersion := version }
  | .error e => do
      let s ← Body.read
      fail s.addr (.protoVersion e)

def assignAddr (network : Network) (resolved : Option ByteString) : StartBody Unit :=
  match resolved with
  | some address => Body.update fun s => { s with addr := some ⟨network, address⟩ }
  | none => fail none .resolve

def readAddr (deps : StartDeps) (network address : ByteString) : StartBody Unit :=
  match deps.pluginToHost network address with
  | none => do
      let s ← Body.read
      fail s.addr .pluginToHost
  | some (network, address) =>
      if network = Network.tcp.text then assignAddr .tcp (deps.resolve .tcp address)
      else if network = Network.unix.text then assignAddr .unix (deps.resolve .unix address)
      else fail none (.unknownAddressType address)

/-- The protocol, net/rpc by default. -/
def recordProtocol (parts : List ByteString) : StartBody Unit := do
  Body.update fun s => { s with protocol := Protocol.netRPC.text }
  if 5 ≤ parts.length then do
    let protocol ← index parts 4
    Body.update fun s => { s with protocol := protocol }
  else pure ()

def readProtocol (c : ClientConfig) (parts : List ByteString) : StartBody Unit := do
  recordProtocol parts
  let s ← Body.read
  if c.allowedProtocols.contains s.protocol then pure ()
  else fail s.addr (.unsupportedProtocol s.protocol)

/-- A write to the configuration that `TLSConfig` points to. -/
def writeTLS {ρ : Type} (f : TLSConfig → TLSConfig) : Body StartFrame ρ Unit := do
  let s ← Body.read
  match s.tlsConfig with
  | some tls => Body.update fun s => { s with tlsConfig := some (f tls) }
  | none => .crash

/-- `loadServerCert`; the result says whether there is an error. -/
def loadServerCert (deps : StartDeps) (cert : ByteString) : Body StartFrame Bool Bool :=
  match base64Decode cert with
  | none => .ret true
  | some asn1 =>
      match deps.parseCertificate asn1 with
      | none => .ret true
      | some x509Cert => do
          writeTLS fun tls => { tls with rootCAs := some [x509Cert] }
          writeTLS fun tls => { tls with clientCAs := some [x509Cert] }
          pure false

def takeCert (deps : StartDeps) (cert : ByteString) : StartBody Unit := do
  let failed ← Body.call (loadServerCert deps cert)
  if failed then fail none .serverCert else pure ()

def readCert (deps : StartDeps) (parts : List ByteString) : StartBody Unit :=
  if 6 ≤ parts.length then do
    let cert ← index parts 5
    if 50 < cert.length then takeCert deps cert else pure ()
  else pure ()

def demandMultiplex (parts : List ByteString) : StartBody Unit :=
  if parts.length ≤ 6 then fail none .muxNotSupported
  else do
    let field ← index parts 6
    match parseBool field with
    | none => fail none (.muxParse field)
    | some false => fail none .muxNotSupported
    | some true => pure ()

def readMultiplex (c : ClientConfig) (parts : List ByteString) : StartBody Unit := do
  let s ← Body.read
  if c.grpcBrokerMultiplex = true ∧ s.protocol = Protocol.grpc.text then demandMultiplex parts
  else pure ()

/-- The `select` case for a line. -/
def receive (c : ClientConfig) (order : RangeOrder Int64 PluginSet) (deps : StartDeps)
    (line : ByteString) (ok : Bool) : StartBody Unit :=
  let line := trimSpace line
  let parts := split bar line
  if parts.length < 4 then fail none (.unrecognized line ok)
  else do
    let core ← index parts 0
    readCore core
    let version ← index parts 1
    readVersion c order version
    let network ← index parts 2
    let address ← index parts 3
    readAddr deps network address
    readProtocol c parts
    readCert deps parts
    readMultiplex c parts

/-- The `select` statement. -/
def await (c : ClientConfig) (order : RangeOrder Int64 PluginSet) (deps : StartDeps) :
    StartEvent → StartBody Unit
  | .timeout => Body.update fun s => { s with err := some .timeout }
  | .exited => Body.update fun s => { s with err := some .exited }
  | .line line => receive c order deps line true
  | .closed => receive c order deps [] false

/-- The deferred function, which panics again where it has recovered. -/
def cleanup (results : Option StartResults) (s : StartFrame) : StartFrame :=
  match results with
  | some (_, none) => s
  | _ => { s with kills := s.kills + 1 }

/-- `Start` after the launch. -/
def start (c : ClientConfig) (order : RangeOrder Int64 PluginSet) (deps : StartDeps)
    (event : StartEvent) : StartBody StartResults :=
  Body.withDefer cleanup do
    await c order deps event
    Body.update fun s => { s with address := s.addr }
    let s ← Body.read
    pure (s.addr, s.err)

/-! ### The body does what `handshake` says -/

/-- Up to the end, the body neither reports the client as started nor kills the runner, and the
    result `err` stays nil. -/
structure Kept (s s' : StartFrame) : Prop where
  address : s'.address = s.address
  kills : s'.kills = s.kills
  err : s.err = none → s'.err = none

theorem Kept.refl (s : StartFrame) : Kept s s := ⟨rfl, rfl, id⟩

theorem Kept.trans {s s' s'' : StartFrame} (h : Kept s s') (h' : Kept s' s'') : Kept s s'' :=
  ⟨h'.address.trans h.address, h'.kills.trans h.kills, fun he => h'.err (h.err he)⟩

/-- The piece of the body ends as the outcome says, with `post` where it goes on. -/
def Meets {α : Type} (x : StartBody Unit) (o : Outcome α) (s : StartFrame)
    (post : α → StartFrame → Prop) : Prop :=
  match o with
  | .ok a => ∃ s', x s = (.next (), s') ∧ Kept s s' ∧ post a s'
  | .error e => ∃ r s', x s = (.ret (r, some (.rejected e)), s') ∧ Kept s s'
  | .panic => ∃ s', x s = (.panic, s') ∧ Kept s s'

section Meets

variable {α β : Type} {x y : StartBody Unit} {o : Outcome α} {f : α → Outcome β}
  {s t : StartFrame} {post : α → StartFrame → Prop} {post' : β → StartFrame → Prop}

/-- Only what the piece does on this frame counts. -/
theorem Meets.of_apply (hxy : x s = y s) (h : Meets y o s post) : Meets x o s post := by
  unfold Meets at h ⊢
  rw [hxy]
  exact h

theorem Meets.bind (h : Meets x o s post)
    (h' : ∀ a s', Kept s s' → post a s' → Meets y (f a) s' post') :
    Meets (x >>= fun _ => y) (o.bind f) s post' := by
  cases o with
  | ok a =>
      obtain ⟨s', hx, hkept, hpost⟩ := h
      have hy := h' a s' hkept hpost
      have hbind : (x >>= fun _ => y) s = y s' := Body.bind_of_next hx
      unfold Outcome.bind
      dsimp only
      cases hf : f a with
      | ok b =>
          rw [hf] at hy
          obtain ⟨s'', hy, hkept', hpost'⟩ := hy
          exact ⟨s'', hbind.trans hy, hkept.trans hkept', hpost'⟩
      | error e =>
          rw [hf] at hy
          obtain ⟨r, s'', hy, hkept'⟩ := hy
          exact ⟨r, s'', hbind.trans hy, hkept.trans hkept'⟩
      | panic =>
          rw [hf] at hy
          obtain ⟨s'', hy, hkept'⟩ := hy
          exact ⟨s'', hbind.trans hy, hkept.trans hkept'⟩
  | error e =>
      obtain ⟨r, s', hx, hkept⟩ := h
      exact ⟨r, s', Body.bind_of_ret hx, hkept⟩
  | panic =>
      obtain ⟨s', hx, hkept⟩ := h
      exact ⟨s', Body.bind_of_panic hx, hkept⟩

theorem Meets.guard {b : Prop} [Decidable b] {e : StartError} {o : Outcome β}
    (h : Meets x (if b then .ok () else .error e) s fun _ s' => s' = t)
    (h' : Meets y o t post') :
    Meets (x >>= fun _ => y) (if b then o else .error e) s post' := by
  have hbind : (if b then o else .error e) =
      (if b then .ok () else .error e : Outcome Unit).bind fun _ => o := by
    split <;> rfl
  rw [hbind]
  refine h.bind ?_
  rintro _ s' - rfl
  exact h'

theorem Meets.ok {g : α → β} (h : Meets x o s post)
    (h' : ∀ a s', post a s' → post' (g a) s') : Meets x (o.bind fun a => .ok (g a)) s post' := by
  cases o with
  | ok a =>
      obtain ⟨s', hx, hkept, hpost⟩ := h
      exact ⟨s', hx, hkept, h' a s' hpost⟩
  | error e => exact h
  | panic => exact h

end Meets

theorem meets_readCore (field : ByteString) (s : StartFrame) :
    Meets (readCore field) (checkCore field) s fun _ s' => s' = { s with err := none } := by
  unfold readCore checkCore
  cases atoi field with
  | none => exact ⟨none, s, rfl, .refl s⟩
  | some n =>
      dsimp only
      split
      · exact ⟨_, rfl, ⟨rfl, rfl, fun _ => rfl⟩, rfl⟩
      · exact ⟨none, _, rfl, ⟨rfl, rfl, fun _ => rfl⟩⟩

theorem meets_readVersion (c : ClientConfig) (order : RangeOrder Int64 PluginSet)
    (field : ByteString) (s : StartFrame) :
    Meets (readVersion c order field) (checkVersion c order field) s fun x s' =>
      s' = { s with plugins := x.2, negotiatedVersion := x.1 } := by
  unfold readVersion checkVersion
  cases checkProtoVersion c order field with
  | ok x => exact ⟨_, rfl, ⟨rfl, rfl, id⟩, rfl⟩
  | error e => exact ⟨s.addr, s, rfl, .refl s⟩

theorem meets_readAddr (deps : StartDeps) (network address : ByteString) (s : StartFrame) :
    Meets (readAddr deps network address) (resolveAddr deps.toHandshakeDeps network address) s
      fun addr s' => s' = { s with addr := some addr } := by
  unfold readAddr resolveAddr StartDeps.toHandshakeDeps
  dsimp only
  cases deps.pluginToHost network address with
  | none => exact ⟨s.addr, s, rfl, .refl s⟩
  | some translated =>
      obtain ⟨network, address⟩ := translated
      dsimp only
      split
      · cases deps.resolve .tcp address with
        | none => exact ⟨none, s, rfl, .refl s⟩
        | some a => exact ⟨_, rfl, ⟨rfl, rfl, id⟩, rfl⟩
      · split
        · cases deps.resolve .unix address with
          | none => exact ⟨none, s, rfl, .refl s⟩
          | some a => exact ⟨_, rfl, ⟨rfl, rfl, id⟩, rfl⟩
        · exact ⟨none, s, rfl, .refl s⟩

theorem index_of_getElem? {parts : List ByteString} {i : Nat} {part : ByteString}
    (h : parts[i]? = some part) : index parts i = pure part := by
  rw [index, h]

theorem recordProtocol_apply (parts : List ByteString) (s : StartFrame) :
    recordProtocol parts s =
      (.next (), { s with protocol := parts[4]?.getD Protocol.netRPC.text }) := by
  unfold recordProtocol
  rw [Body.update_bind_apply]
  split
  · next hlen =>
      have hpart : parts[4]? = some parts[4] := List.getElem?_eq_getElem hlen
      rw [index_of_getElem? hpart, hpart]
      rfl
  · next hlen =>
      rw [List.getElem?_eq_none (Nat.not_lt.mp hlen)]
      rfl

theorem meets_readProtocol (c : ClientConfig) (parts : List ByteString) (s : StartFrame) :
    Meets (readProtocol c parts)
      (if c.allowedProtocols.contains (parts[4]?.getD Protocol.netRPC.text) then .ok ()
        else .error (.unsupportedProtocol (parts[4]?.getD Protocol.netRPC.text))) s
      fun _ s' => s' = { s with protocol := parts[4]?.getD Protocol.netRPC.text } := by
  have hrun : readProtocol c parts s = _ := Body.bind_of_next (recordProtocol_apply parts s)
  simp only [Body.read_bind_apply] at hrun
  split
  · next hallowed =>
      rw [if_pos hallowed] at hrun
      exact ⟨_, hrun, ⟨rfl, rfl, id⟩, rfl⟩
  · next hallowed =>
      rw [if_neg hallowed] at hrun
      exact ⟨s.addr, _, hrun, ⟨rfl, rfl, id⟩⟩

/-- What loading a certificate leaves of the TLS configuration. -/
def trusting (rootCA : Option ByteString) (tls : Option TLSConfig) : Option TLSConfig :=
  match rootCA with
  | none => tls
  | some cert => tls.map fun t => { t with rootCAs := some [cert], clientCAs := some [cert] }

/-- The certificate goes into the TLS configuration that is there. -/
theorem meets_takeCert (c : ClientConfig) (deps : StartDeps) (cert : ByteString) (s : StartFrame)
    (htls : s.tlsConfig.isSome = (c.autoMTLS || c.tlsConfig)) :
    Meets (takeCert deps cert)
      (match deps.toHandshakeDeps.parseCert cert with
        | none => .error .serverCert
        | some x509 => if c.autoMTLS || c.tlsConfig then .ok (some x509) else .panic) s
      fun rootCA s' => s' = { s with tlsConfig := trusting rootCA s.tlsConfig } := by
  rw [← htls]
  unfold takeCert loadServerCert StartDeps.toHandshakeDeps
  dsimp only
  cases base64Decode cert with
  | none => exact ⟨none, s, rfl, .refl s⟩
  | some asn1 =>
      dsimp only [Option.bind_some]
      cases deps.parseCertificate asn1 with
      | none => exact ⟨none, s, rfl, .refl s⟩
      | some x509Cert =>
          dsimp only
          obtain ⟨plugins, version, protocol, tls, address, addr, err, kills⟩ := s
          cases tls with
          | none => exact ⟨_, rfl, .refl _⟩
          | some tls => exact ⟨_, rfl, ⟨rfl, rfl, id⟩, rfl⟩

theorem meets_readCert (c : ClientConfig) (deps : StartDeps) (parts : List ByteString)
    (s : StartFrame) (htls : s.tlsConfig.isSome = (c.autoMTLS || c.tlsConfig)) :
    Meets (readCert deps parts) (GoPlugin.loadServerCert c deps.toHandshakeDeps parts[5]?) s
      fun rootCA s' => s' = { s with tlsConfig := trusting rootCA s.tlsConfig } := by
  unfold readCert
  split
  · next hlen =>
      have hpart : parts[5]? = some parts[5] := List.getElem?_eq_getElem hlen
      rw [index_of_getElem? hpart, hpart]
      show Meets (if 50 < parts[5].length then takeCert deps parts[5] else pure ()) _ s _
      unfold GoPlugin.loadServerCert
      dsimp only
      split
      · exact meets_takeCert c deps parts[5] s htls
      · exact ⟨s, rfl, .refl s, rfl⟩
  · next hlen =>
      rw [List.getElem?_eq_none (Nat.not_lt.mp hlen)]
      exact ⟨s, rfl, .refl s, rfl⟩

theorem meets_readMultiplex (c : ClientConfig) (parts : List ByteString) {s : StartFrame}
    {protocol : ByteString} (hprotocol : s.protocol = protocol) :
    Meets (readMultiplex c parts) (checkMultiplex c protocol parts[6]?) s
      fun _ s' => s' = s := by
  subst hprotocol
  have hread : readMultiplex c parts s =
      (if c.grpcBrokerMultiplex = true ∧ s.protocol = Protocol.grpc.text
        then demandMultiplex parts else pure ()) s := rfl
  refine Meets.of_apply hread ?_
  unfold checkMultiplex
  split
  · unfold demandMultiplex
    split
    · next hlen =>
        rw [List.getElem?_eq_none hlen]
        exact ⟨none, s, rfl, .refl s⟩
    · next hlen =>
        obtain ⟨field, hpart⟩ : ∃ field, parts[6]? = some field :=
          ⟨_, List.getElem?_eq_getElem (Nat.not_le.mp hlen)⟩
        rw [index_of_getElem? hpart, hpart]
        dsimp only
        cases hbool : parseBool field with
        | none => exact ⟨none, s, by rw [Body.pure_bind_apply, hbool]; rfl, .refl s⟩
        | some supported =>
            cases supported with
            | false => exact ⟨none, s, by rw [Body.pure_bind_apply, hbool]; rfl, .refl s⟩
            | true => exact ⟨s, by rw [Body.pure_bind_apply, hbool]; rfl, .refl s, rfl⟩
  · exact ⟨s, rfl, .refl s, rfl⟩

/-- What a successful handshake leaves in the frame. -/
def afterHandshake (s : StartFrame) (started : Started) : StartFrame :=
  { s with
    plugins := started.plugins
    negotiatedVersion := started.version
    protocol := started.protocol
    tlsConfig := trusting started.rootCA s.tlsConfig
    addr := some started.addr
    err := none }

/-- **The body does what `handshake` says,** where the client has a TLS configuration exactly when
    `AutoMTLS` or the caller has set one. -/
theorem meets_receive (c : ClientConfig) (order : RangeOrder Int64 PluginSet) (deps : StartDeps)
    (line : ByteString) (ok : Bool) (s : StartFrame)
    (htls : s.tlsConfig.isSome = (c.autoMTLS || c.tlsConfig)) :
    Meets (receive c order deps line ok) (handshake c order deps.toHandshakeDeps line ok) s
      fun started s' => s' = afterHandshake s started := by
  unfold receive handshake
  dsimp only
  rcases hparts : split bar (trimSpace line) with
    _ | ⟨core, _ | ⟨version, _ | ⟨network, _ | ⟨address, rest⟩⟩⟩⟩
  · exact ⟨none, s, rfl, .refl s⟩
  · exact ⟨none, s, rfl, .refl s⟩
  · exact ⟨none, s, rfl, .refl s⟩
  · exact ⟨none, s, rfl, .refl s⟩
  rw [if_neg (by simp)]
  -- the first four fields are there
  refine Meets.of_apply (y := do
    readCore core
    readVersion c order version
    readAddr deps network address
    readProtocol c (core :: version :: network :: address :: rest)
    readCert deps (core :: version :: network :: address :: rest)
    readMultiplex c (core :: version :: network :: address :: rest)) rfl ?_
  refine Meets.bind (meets_readCore core s) ?_
  intro _ s₁ _ h₁
  refine Meets.bind (meets_readVersion c order version s₁) ?_
  rintro ⟨negotiated, plugins⟩ s₂ _ h₂
  refine Meets.bind (meets_readAddr deps network address s₂) ?_
  intro addr s₃ _ h₃
  refine Meets.guard
    (meets_readProtocol c (core :: version :: network :: address :: rest) s₃) ?_
  have htls₃ : s₃.tlsConfig.isSome = (c.autoMTLS || c.tlsConfig) := by
    rw [h₃, h₂, h₁]
    exact htls
  refine Meets.bind
    (meets_readCert c deps (core :: version :: network :: address :: rest) _ htls₃) ?_
  intro rootCA s₄ _ h₄
  refine Meets.ok (meets_readMultiplex c (core :: version :: network :: address :: rest)
    (congrArg StartFrame.protocol h₄)) ?_
  intro _ s₅ h₅
  rw [h₅, h₄, h₃, h₂, h₁]
  rfl

end StartBody

end GoPlugin
