import GoPlugin.ClientLifecycle
import GoPlugin.StartBody
import GoPlugin.TransportMode

/-!
# How `Start` ends

On every path after the launch, `Start` either has an address and lets the plugin run, or it has
killed the runner.  The certificate field decides about two more things, without a look at
`AutoMTLS`: whether `Start` panics, and whom the client trusts.

The TLS configuration of the caller is written to where it is.  What a `Start` call leaves there
stays for the next call from the same configuration, also where the call fails behind
`loadServerCert`.
-/

namespace GoPlugin

open ByteString GoMap GoBody

namespace StartBody

variable {c : ClientConfig} {order : RangeOrder Int64 PluginSet} {deps : StartDeps}
  {event : StartEvent} {line : ByteString} {ok : Bool} {s : StartFrame}

/-! ### From the handshake to the end -/

theorem isSome_launchTLS (c : ClientConfig) (tls : TLSConfig) (cert : ByteString) :
    (c.launchTLS tls cert).isSome = (c.autoMTLS || c.tlsConfig) := by
  unfold ClientConfig.launchTLS ClientConfig.suppliedTLS
  cases c.autoMTLS <;> cases c.tlsConfig <;> rfl

/-- The statements after the `select`, and the deferred function. -/
theorem start_of_next {s' : StartFrame} (h : await c order deps event s = (.next (), s')) :
    start c order deps event s =
      (.ret (s'.addr, s'.err),
        cleanup (some (s'.addr, s'.err)) { s' with address := s'.addr }) := by
  unfold start Body.withDefer
  rw [Body.bind_of_next h]
  rfl

theorem start_of_ret {r : StartResults} {s' : StartFrame}
    (h : await c order deps event s = (.ret r, s')) :
    start c order deps event s = (.ret r, cleanup (some r) s') := by
  unfold start Body.withDefer
  rw [Body.bind_of_ret h]

theorem start_of_panic {s' : StartFrame} (h : await c order deps event s = (.panic, s')) :
    start c order deps event s = (.panic, cleanup none s') := by
  unfold start Body.withDefer
  rw [Body.bind_of_panic h]

section Received

variable (hawait : await c order deps event = receive c order deps line ok)
  (htls : s.tlsConfig.isSome = (c.autoMTLS || c.tlsConfig))
include hawait htls

theorem start_of_ok {started : Started}
    (h : handshake c order deps.toHandshakeDeps line ok = .ok started) :
    start c order deps event s = (.ret (some started.addr, none),
      { afterHandshake s started with address := some started.addr }) := by
  have hmeets := meets_receive c order deps line ok s htls
  rw [h] at hmeets
  obtain ⟨s', hrun, -, rfl⟩ := hmeets
  exact start_of_next (hawait ▸ hrun)

theorem start_of_error {e : StartError}
    (h : handshake c order deps.toHandshakeDeps line ok = .error e) :
    ∃ addr s', start c order deps event s = (.ret (addr, some (.rejected e)), s') ∧
      s'.address = s.address ∧ s'.kills = s.kills + 1 := by
  have hmeets := meets_receive c order deps line ok s htls
  rw [h] at hmeets
  obtain ⟨addr, s', hrun, hkept⟩ := hmeets
  exact ⟨addr, _, start_of_ret (hawait ▸ hrun), hkept.address, congrArg (· + 1) hkept.kills⟩

theorem start_of_handshake_panic
    (h : handshake c order deps.toHandshakeDeps line ok = .panic) :
    ∃ s', start c order deps event s = (.panic, s') ∧
      s'.address = s.address ∧ s'.kills = s.kills + 1 := by
  have hmeets := meets_receive c order deps line ok s htls
  rw [h] at hmeets
  obtain ⟨s', hrun, hkept⟩ := hmeets
  exact ⟨_, start_of_panic (hawait ▸ hrun), hkept.address, congrArg (· + 1) hkept.kills⟩

end Received

/-! ### A plugin that runs, or a runner that was killed -/

/-- `Start` has succeeded and let the plugin run, or it has failed and killed the runner. -/
def Settles (x : Flow StartResults StartResults × StartFrame) : Prop :=
  (∃ addr, x.1 = .ret (some addr, none) ∧ x.2.address = some addr ∧ x.2.kills = 0) ∨
    ((x.1 = .panic ∨ ∃ addr e, x.1 = .ret (addr, some e)) ∧ x.2.kills = 1 ∧ x.2.address = none)

theorem settles_of_receive (line : ByteString) (ok : Bool)
    (hawait : await c order deps event = receive c order deps line ok)
    (tls : TLSConfig) (cert : ByteString) (version : Int64) (protocol : ByteString) :
    Settles (start c order deps event (.launched c tls cert version protocol)) := by
  have htls := isSome_launchTLS c tls cert
  cases h : handshake c order deps.toHandshakeDeps line ok with
  | ok started =>
      rw [start_of_ok hawait htls h]
      exact Or.inl ⟨started.addr, rfl, rfl, rfl⟩
  | error e =>
      obtain ⟨addr, s', hrun, haddress, hkills⟩ :=
        start_of_error (s := .launched c tls cert version protocol) hawait htls h
      rw [hrun]
      exact Or.inr ⟨Or.inr ⟨addr, _, rfl⟩, hkills, haddress⟩
  | panic =>
      obtain ⟨s', hrun, haddress, hkills⟩ :=
        start_of_handshake_panic (s := .launched c tls cert version protocol) hawait htls h
      rw [hrun]
      exact Or.inr ⟨Or.inl rfl, hkills, haddress⟩

/-- **A failed `Start` leaves no plugin behind.**  Whatever ends the wait and whatever comes of the
    steps after it, `Start` returns an address, which it has recorded, and has not killed the
    runner; or it returns an error or panics, has killed the runner once, and the client has no
    address. -/
theorem start_settles (c : ClientConfig) (order : RangeOrder Int64 PluginSet) (deps : StartDeps)
    (event : StartEvent) (tls : TLSConfig) (cert : ByteString) (version : Int64)
    (protocol : ByteString) :
    Settles (start c order deps event (.launched c tls cert version protocol)) := by
  cases event with
  | timeout => exact Or.inr ⟨Or.inr ⟨none, _, rfl⟩, rfl, rfl⟩
  | exited => exact Or.inr ⟨Or.inr ⟨none, _, rfl⟩, rfl, rfl⟩
  | line line => exact settles_of_receive line true rfl tls cert version protocol
  | closed => exact settles_of_receive [] false rfl tls cert version protocol

/-- The outcome in the life of the client, for a runner with the given id. -/
def outcome (id : ByteString) : Flow StartResults StartResults → Client.StartOutcome
  | .ret (_, none) => .ok id
  | _ => .noHandshake id

/-- The body does to the client what the `Start` step of its life does: it sets the address, or
    calls `runner.Kill` once. -/
theorem launch_outcome {cfg : LaunchConfig} {k k' : Client} {id : ByteString}
    {x : Flow StartResults StartResults × StartFrame} (hx : Settles x) (hk : k.address = none)
    (h : Client.launch cfg k (outcome id x.1) = some k') :
    (k'.address.isSome = x.2.address.isSome) ∧
      k'.commands = k.commands ++ List.replicate x.2.kills (.kill k.runners.length) := by
  obtain ⟨flow, s⟩ := x
  rcases hx with ⟨addr, rfl, haddress, hkills⟩ | ⟨hflow, hkills, haddress⟩
  · obtain ⟨k₁, hnew, rfl⟩ := Option.map_eq_some_iff.mp h
    obtain ⟨_, _, _, _, rfl, -⟩ := Client.newRunner_eq_some hnew
    rw [haddress, hkills]
    exact ⟨rfl, (List.append_nil _).symm⟩
  · have hout : outcome id flow = .noHandshake id := by
      rcases hflow with rfl | ⟨addr, e, rfl⟩ <;> rfl
    rw [hout] at h
    obtain ⟨k₁, hnew, rfl⟩ := Option.map_eq_some_iff.mp h
    obtain ⟨_, _, _, _, rfl, -⟩ := Client.newRunner_eq_some hnew
    rw [haddress, hkills]
    exact ⟨congrArg Option.isSome hk, rfl⟩

/-! ### The certificate that a line brings -/

/-- Whether `PluginToHost` and the resolvers make an address of the two fields. -/
def resolves (deps : HandshakeDeps) (network address : ByteString) : Bool :=
  match deps.pluginToHost network address with
  | none => false
  | some (network, address) =>
      if network = Network.tcp.text then (deps.resolve .tcp address).isSome
      else if network = Network.unix.text then (deps.resolve .unix address).isSome
      else false

/-- The fields in front of the certificate are such that `Start` goes on to it. -/
def passes (c : ClientConfig) (deps : HandshakeDeps) (a : Announcement) : Bool :=
  decide (atoi a.core = some coreProtocolVersion) &&
    ((atoi a.version).any (fun v => decide (v ∈ c.startVersions)) &&
      (resolves deps a.network a.address && c.allowedProtocols.contains a.protocol))

/-- The certificate field of a line. -/
def lineCert (line : ByteString) : Option ByteString := (announcement line).bind Announcement.cert

/-- The certificate that `loadServerCert` finds in a line. -/
def carriedCert (c : ClientConfig) (deps : HandshakeDeps) (line : ByteString) :
    Option ByteString :=
  (announcement line).bind fun a => if passes c deps a then a.cert.bind deps.parseCert else none

/-- The certificate that comes with what ends the wait. -/
def carried (c : ClientConfig) (deps : StartDeps) : StartEvent → Option ByteString
  | .line line => carriedCert c deps.toHandshakeDeps line
  | .timeout | .exited | .closed => none

/-- The checks in front of the certificate. -/
def checked (c : ClientConfig) (order : RangeOrder Int64 PluginSet) (deps : HandshakeDeps)
    (a : Announcement) : Outcome (Int64 × PluginSet × Addr) :=
  (checkCore a.core).bind fun _ =>
    (checkVersion c order a.version).bind fun (version, plugins) =>
      (resolveAddr deps a.network a.address).bind fun addr =>
        if c.allowedProtocols.contains a.protocol then .ok (version, plugins, addr)
        else .error (.unsupportedProtocol a.protocol)

theorem outcome_eq_checked (deps : HandshakeDeps) (a : Announcement) :
    a.outcome c order deps = (checked c order deps a).bind fun x =>
      (GoPlugin.loadServerCert c deps a.cert).bind fun rootCA =>
        (checkMultiplex c a.protocol a.multiplex).bind fun _ =>
          .ok ⟨x.1, x.2.1, x.2.2, a.protocol, rootCA⟩ := by
  unfold Announcement.outcome checked
  cases checkCore a.core with
  | error e => rfl
  | panic => rfl
  | ok _ =>
      cases checkVersion c order a.version with
      | error e => rfl
      | panic => rfl
      | ok x =>
          cases resolveAddr deps a.network a.address with
          | error e => rfl
          | panic => rfl
          | ok addr =>
              dsimp only [Outcome.bind]
              split <;> rfl

/-- A piece does not panic, and goes on exactly where `b` holds. -/
def GoesOn {α : Type} (b : Bool) : Outcome α → Prop
  | .ok _ => b = true
  | .error _ => b = false
  | .panic => False

theorem GoesOn.bind {α β : Type} {b b' : Bool} {x : Outcome α} {f : α → Outcome β}
    (hx : GoesOn b x) (hf : ∀ a, GoesOn b' (f a)) : GoesOn (b && b') (x.bind f) := by
  cases x with
  | ok a =>
      rw [show b = true from hx, Bool.true_and]
      exact hf a
  | error e =>
      rw [show b = false from hx, Bool.false_and]
      exact rfl
  | panic => exact hx.elim

theorem goesOn_checkCore (field : ByteString) :
    GoesOn (decide (atoi field = some coreProtocolVersion)) (checkCore field) := by
  unfold checkCore
  cases atoi field with
  | none => rfl
  | some n =>
      by_cases hn : n = coreProtocolVersion
      · simp [GoesOn, hn]
      · simp [GoesOn, hn]

theorem goesOn_checkVersion (c : ClientConfig) (order : RangeOrder Int64 PluginSet)
    (field : ByteString) :
    GoesOn ((atoi field).any fun v => decide (v ∈ c.startVersions))
      (checkVersion c order field) := by
  unfold checkVersion
  cases hcheck : checkProtoVersion c order field with
  | ok x =>
      obtain ⟨v, set⟩ := x
      obtain ⟨hatoi, hlookup⟩ := lookup_of_checkProtoVersion hcheck
      have hmem : v ∈ c.startVersions := AList.lookup_isSome.mp (by simp [hlookup])
      simp [GoesOn, hatoi, hmem]
  | error e =>
      cases hatoi : atoi field with
      | none => rfl
      | some v =>
          have hnot : v ∉ c.startVersions := by
            intro hmem
            obtain ⟨set, -, hok⟩ :=
              checkProtoVersion_of_atoi order hatoi (PluginConfig.mem_startVersions.mp hmem)
            rw [hcheck] at hok
            cases hok
          simp [GoesOn, hnot]

theorem goesOn_resolveAddr (deps : HandshakeDeps) (network address : ByteString) :
    GoesOn (resolves deps network address) (resolveAddr deps network address) := by
  unfold resolveAddr resolves
  cases deps.pluginToHost network address with
  | none => rfl
  | some translated =>
      dsimp only
      split
      · cases deps.resolve .tcp translated.2 <;> rfl
      · split
        · cases deps.resolve .unix translated.2 <;> rfl
        · rfl

/-- `Start` goes on to the certificate exactly where the fields in front of it pass. -/
theorem goesOn_checked (c : ClientConfig) (order : RangeOrder Int64 PluginSet)
    (deps : HandshakeDeps) (a : Announcement) :
    GoesOn (passes c deps a) (checked c order deps a) := by
  refine (goesOn_checkCore a.core).bind fun _ => ?_
  refine (goesOn_checkVersion c order a.version).bind fun x => ?_
  refine (goesOn_resolveAddr deps a.network a.address).bind fun addr => ?_
  split
  · next hallowed => exact hallowed
  · next hallowed => exact Bool.eq_false_iff.mpr hallowed

/-! ### Panics -/

theorem length_of_cert {a : Announcement} {cert : ByteString} (ha : announcement line = some a)
    (hcert : a.cert = some cert) : 50 < cert.length := by
  unfold announcement at ha
  split at ha
  · cases ha
    simpa using (Option.filter_eq_some_iff.mp hcert).2
  · cases ha

/-- A field of more than 50 bytes is a certificate, or the handshake fails. -/
theorem loadServerCert_of_long (c : ClientConfig) (deps : HandshakeDeps) {cert : ByteString}
    (h : 50 < cert.length) :
    GoPlugin.loadServerCert c deps (some cert) =
      match deps.parseCert cert with
      | none => .error .serverCert
      | some x509 => if c.autoMTLS || c.tlsConfig then .ok (some x509) else .panic :=
  if_pos h

theorem bind_checkMultiplex_ne_panic {α : Type} (c : ClientConfig) (protocol : ByteString)
    (field : Option ByteString) (a : α) :
    ((checkMultiplex c protocol field).bind fun _ => .ok a) ≠ .panic := by
  unfold checkMultiplex
  repeat' split
  all_goals simp [Outcome.bind]

/-- Only a certificate makes the handshake panic, where there is no TLS configuration for it. -/
theorem handshake_eq_panic_iff (c : ClientConfig) (order : RangeOrder Int64 PluginSet)
    (deps : HandshakeDeps) (line : ByteString) (read : Bool) :
    handshake c order deps line read = .panic ↔
      (c.autoMTLS || c.tlsConfig) = false ∧ (carriedCert c deps line).isSome = true := by
  rw [handshake_eq_outcome, carriedCert]
  cases hline : announcement line with
  | none => simp
  | some a =>
      have hgoes := goesOn_checked c order deps a
      dsimp only [Option.bind_some]
      rw [outcome_eq_checked]
      cases hchecked : checked c order deps a with
      | panic =>
          rw [hchecked] at hgoes
          exact hgoes.elim
      | error e =>
          rw [hchecked] at hgoes
          rw [show passes c deps a = false from hgoes]
          simp [Outcome.bind]
      | ok x =>
          rw [hchecked] at hgoes
          have hmux := bind_checkMultiplex_ne_panic (α := Started) c a.protocol a.multiplex
          rw [show passes c deps a = true from hgoes, if_pos rfl]
          dsimp only [Outcome.bind] at hmux ⊢
          cases hcert : a.cert with
          | none => simp [GoPlugin.loadServerCert, hmux]
          | some cert =>
              rw [loadServerCert_of_long c deps (length_of_cert hline hcert), Option.bind_some]
              cases deps.parseCert cert with
              | none => simp
              | some x509 => cases c.autoMTLS || c.tlsConfig <;> simp [hmux]

theorem carriedCert_nil (c : ClientConfig) (deps : HandshakeDeps) : carriedCert c deps [] = none :=
  rfl

/-- Whether `Start` returns, for what it receives from the scanner. -/
theorem returns_iff_of_receive (line : ByteString) (ok : Bool)
    (hawait : await c order deps event = receive c order deps line ok)
    (htls : s.tlsConfig.isSome = (c.autoMTLS || c.tlsConfig)) :
    (∃ results s', start c order deps event s = (.ret results, s') ∧
      (results.1.isSome = true ∨ results.2.isSome = true)) ↔
      c.autoMTLS = true ∨ c.tlsConfig = true ∨
        carriedCert c deps.toHandshakeDeps line = none := by
  have hpanic : handshake c order deps.toHandshakeDeps line ok = .panic ↔
      ¬(c.autoMTLS = true ∨ c.tlsConfig = true ∨
        carriedCert c deps.toHandshakeDeps line = none) := by
    rw [handshake_eq_panic_iff, Option.isSome_iff_ne_none]
    cases c.autoMTLS <;> cases c.tlsConfig <;> simp
  cases hline : handshake c order deps.toHandshakeDeps line ok with
  | ok started =>
      refine iff_of_true ⟨_, _, start_of_ok hawait htls hline, Or.inl rfl⟩ ?_
      rw [hline] at hpanic
      exact not_not.mp fun hnot => by cases hpanic.mpr hnot
  | error e =>
      obtain ⟨addr, s', hrun, -⟩ := start_of_error hawait htls hline
      refine iff_of_true ⟨_, s', hrun, Or.inr rfl⟩ ?_
      rw [hline] at hpanic
      exact not_not.mp fun hnot => by cases hpanic.mpr hnot
  | panic =>
      obtain ⟨s', hrun, -⟩ := start_of_handshake_panic hawait htls hline
      refine iff_of_false ?_ (hpanic.mp hline)
      rintro ⟨results, s'', hret, -⟩
      rw [hrun] at hret
      cases hret

/-- **When `Start` returns.**  Whatever ends the wait, `Start` returns an address or an error
    exactly where the client has a TLS configuration, from the caller or for `AutoMTLS`, or the
    line does not bring a certificate as far as `loadServerCert`. -/
theorem start_returns_iff (c : ClientConfig) (order : RangeOrder Int64 PluginSet)
    (deps : StartDeps) (event : StartEvent) (tls : TLSConfig) (cert : ByteString)
    (version : Int64) (protocol : ByteString) :
    (∃ results s, start c order deps event (.launched c tls cert version protocol) =
        (.ret results, s) ∧ (results.1.isSome = true ∨ results.2.isSome = true)) ↔
      c.autoMTLS = true ∨ c.tlsConfig = true ∨ carried c deps event = none := by
  have htls := isSome_launchTLS c tls cert
  cases event with
  | timeout | exited => exact iff_of_true ⟨_, _, rfl, Or.inr rfl⟩ (Or.inr (Or.inr rfl))
  | line line => exact returns_iff_of_receive line true rfl htls
  | closed =>
      rw [returns_iff_of_receive [] false rfl htls, carriedCert_nil]
      rfl

/-- A runner, a resolver and a parser that accept everything. -/
def acceptAll : StartDeps := ⟨fun n a => some (n, a), fun _ a => some a, some⟩

/-- A TLS configuration of the caller, with a root of its own. -/
def ownTLS : TLSConfig where
  certificates := []
  clientAuth := .noClientCert
  minVersion := 772
  serverName := ascii "plugin"
  rootCAs := some [ascii "ROOT"]
  clientCAs := none

/-- The line of a plugin that sends a certificate. -/
def certLine : ByteString := protocolLine 1 socketAddr .grpc someCert.text false

set_option maxRecDepth 4000 in
/-- A plugin sends a certificate to a client without TLS. -/
theorem unsolicited_cert_panics :
    (start plainHost .stored acceptAll (.line certLine)
      (.launched plainHost ownTLS [] 0 [])).1 = .panic := rfl

/-! ### What a call leaves of the TLS configuration -/

section Pieces

variable {tls : Option TLSConfig}

theorem keeps_fail {α : Type} (addr : Option Addr) (e : StartError) :
    Body.Keeps (fun s => s.tlsConfig = tls) (fail addr e : StartBody α) := .ret _

theorem keeps_readCore (field : ByteString) :
    Body.Keeps (fun s => s.tlsConfig = tls) (readCore field) := by
  unfold readCore
  split
  · exact keeps_fail _ _
  · apply Body.Keeps.bind
    · exact .update fun _ hs => hs
    · intro _ _ _ _
      split
      · exact .pure _
      · exact keeps_fail _ _

theorem keeps_readVersion (c : ClientConfig) (order : RangeOrder Int64 PluginSet)
    (field : ByteString) :
    Body.Keeps (fun s => s.tlsConfig = tls) (readVersion c order field) := by
  unfold readVersion
  split
  · exact .update fun _ hs => hs
  · intro s hs
    exact ⟨rfl, hs⟩

theorem keeps_readAddr (deps : StartDeps) (network address : ByteString) :
    Body.Keeps (fun s => s.tlsConfig = tls) (readAddr deps network address) := by
  have hassign : ∀ n resolved,
      Body.Keeps (fun s => s.tlsConfig = tls) (assignAddr n resolved) := by
    intro n resolved
    cases resolved with
    | none => exact keeps_fail _ _
    | some a => exact .update fun _ hs => hs
  unfold readAddr
  split
  · intro s hs
    exact ⟨rfl, hs⟩
  · split
    · exact hassign _ _
    · split
      · exact hassign _ _
      · exact keeps_fail _ _

theorem keeps_readProtocol (c : ClientConfig) (parts : List ByteString) :
    Body.Keeps (fun s => s.tlsConfig = tls) (readProtocol c parts) := by
  intro s hs
  have hrun : readProtocol c parts s = _ := Body.bind_of_next (recordProtocol_apply parts s)
  rw [hrun, Body.read_bind_apply]
  split
  · exact ⟨rfl, hs⟩
  · exact ⟨rfl, hs⟩

theorem keeps_index (parts : List ByteString) (i : Nat) :
    Body.Keeps (fun s => s.tlsConfig = tls) (index parts i) := by
  unfold index
  split
  · exact .pure _
  · exact .crash

theorem keeps_readMultiplex (c : ClientConfig) (parts : List ByteString) :
    Body.Keeps (fun s => s.tlsConfig = tls) (readMultiplex c parts) := by
  have hdemand : Body.Keeps (fun s => s.tlsConfig = tls) (demandMultiplex parts) := by
    unfold demandMultiplex
    split
    · exact keeps_fail _ _
    · refine (keeps_index parts 6).bind fun _ _ field _ => ?_
      split
      · exact keeps_fail _ _
      · exact keeps_fail _ _
      · exact .pure _
  intro s hs
  have hread : readMultiplex c parts s =
      (if c.grpcBrokerMultiplex = true ∧ s.protocol = Protocol.grpc.text
        then demandMultiplex parts else pure ()) s := rfl
  rw [hread]
  split
  · exact hdemand s hs
  · exact ⟨rfl, hs⟩

/-- What the second piece leaves is what the first one has left. -/
theorem tlsConfig_bind {x y : StartBody Unit}
    (hy : ∀ tls, Body.Keeps (fun s => s.tlsConfig = tls) y) (s : StartFrame) :
    ((x >>= fun _ => y) s).2.tlsConfig = (x s).2.tlsConfig := by
  show (Body.andThen x (fun _ => y) s).2.tlsConfig = _
  unfold Body.andThen
  split
  · next heq =>
      rw [heq]
      exact (hy _ _ rfl).2
  · next heq => rw [heq]
  · next heq => rw [heq]
  · next heq => rw [heq]

theorem tlsConfig_takeCert (deps : StartDeps) (cert : ByteString) (s : StartFrame) :
    (takeCert deps cert s).2.tlsConfig =
      trusting (deps.toHandshakeDeps.parseCert cert) s.tlsConfig := by
  unfold takeCert loadServerCert StartDeps.toHandshakeDeps
  dsimp only
  cases base64Decode cert with
  | none => rfl
  | some asn1 =>
      dsimp only [Option.bind_some]
      cases deps.parseCertificate asn1 with
      | none => rfl
      | some x509 =>
          obtain ⟨plugins, version, protocol, tls, address, addr, err, kills⟩ := s
          cases tls with
          | none => rfl
          | some tls => rfl

theorem tlsConfig_readCert (deps : StartDeps) (parts : List ByteString) (s : StartFrame) :
    (readCert deps parts s).2.tlsConfig =
      trusting ((certField parts[5]?).bind deps.toHandshakeDeps.parseCert) s.tlsConfig := by
  unfold readCert
  split
  · next hlen =>
      have hpart : parts[5]? = some parts[5] := List.getElem?_eq_getElem hlen
      rw [index_of_getElem? hpart, hpart, Body.pure_bind_apply]
      by_cases hlong : 50 < parts[5].length
      · have hfield : certField (some parts[5]) = some parts[5] := by
          simp [certField, Option.filter, hlong]
        rw [if_pos hlong, hfield]
        exact tlsConfig_takeCert deps parts[5] s
      · have hfield : certField (some parts[5]) = none := by
          simp [certField, Option.filter, hlong]
        rw [if_neg hlong, hfield]
        rfl
  · next hlen =>
      rw [List.getElem?_eq_none (Nat.not_lt.mp hlen)]
      rfl

/-- The statements of `receive` in front of the certificate. -/
def receiveFront (c : ClientConfig) (order : RangeOrder Int64 PluginSet) (deps : StartDeps)
    (core version network address : ByteString) (parts : List ByteString) : StartBody Unit := do
  readCore core
  readVersion c order version
  readAddr deps network address
  readProtocol c parts

theorem keeps_receiveFront (c : ClientConfig) (order : RangeOrder Int64 PluginSet)
    (deps : StartDeps) (core version network address : ByteString) (parts : List ByteString) :
    Body.Keeps (fun s => s.tlsConfig = tls)
      (receiveFront c order deps core version network address parts) := by
  refine (keeps_readCore core).bind fun _ _ _ _ => ?_
  refine (keeps_readVersion c order version).bind fun _ _ _ _ => ?_
  refine (keeps_readAddr deps network address).bind fun _ _ _ _ => ?_
  exact keeps_readProtocol c parts

end Pieces

theorem meets_receiveFront (c : ClientConfig) (order : RangeOrder Int64 PluginSet)
    (deps : StartDeps) (a : Announcement) (parts : List ByteString)
    (hprotocol : parts[4]?.getD Protocol.netRPC.text = a.protocol) (s : StartFrame) :
    Meets (receiveFront c order deps a.core a.version a.network a.address parts)
      (checked c order deps.toHandshakeDeps a) s fun _ _ => True := by
  refine Meets.bind (meets_readCore a.core s) ?_
  intro _ s₁ _ _
  refine Meets.bind (meets_readVersion c order a.version s₁) ?_
  rintro ⟨negotiated, plugins⟩ s₂ _ _
  refine Meets.bind (meets_readAddr deps a.network a.address s₂) ?_
  intro addr s₃ _ _
  have hmeets := meets_readProtocol c parts s₃
  rw [hprotocol] at hmeets
  split
  · next hallowed =>
      rw [if_pos hallowed] at hmeets
      obtain ⟨s', hrun, hkept, -⟩ := hmeets
      exact ⟨s', hrun, hkept, trivial⟩
  · next hallowed =>
      rw [if_neg hallowed] at hmeets
      exact hmeets

theorem receive_of_parts {core version network address : ByteString} {rest : List ByteString}
    (hparts : split bar (trimSpace line) = core :: version :: network :: address :: rest) :
    receive c order deps line ok = (do
      receiveFront c order deps core version network address
        (core :: version :: network :: address :: rest)
      readCert deps (core :: version :: network :: address :: rest)
      readMultiplex c (core :: version :: network :: address :: rest)) := by
  unfold receive
  dsimp only
  rw [hparts, if_neg (by simp)]
  simp only [receiveFront, bind_assoc]
  rfl

/-- The same for a line with at least four fields. -/
theorem tlsConfig_parts (c : ClientConfig) (order : RangeOrder Int64 PluginSet)
    (deps : StartDeps) (a : Announcement) (parts : List ByteString)
    (hprotocol : parts[4]?.getD Protocol.netRPC.text = a.protocol)
    (hcert : certField parts[5]? = a.cert) (s : StartFrame) :
    ((do
      receiveFront c order deps a.core a.version a.network a.address parts
      readCert deps parts
      readMultiplex c parts : StartBody Unit) s).2.tlsConfig =
        trusting (if passes c deps.toHandshakeDeps a then
          a.cert.bind deps.toHandshakeDeps.parseCert else none) s.tlsConfig := by
  have hkeeps := (@keeps_receiveFront s.tlsConfig c order deps a.core a.version a.network a.address
    parts s rfl).2
  have hmeets := meets_receiveFront c order deps a parts hprotocol s
  have hgoes := goesOn_checked c order deps.toHandshakeDeps a
  cases hchecked : checked c order deps.toHandshakeDeps a with
  | panic =>
      rw [hchecked] at hgoes
      exact hgoes.elim
  | error e =>
      rw [hchecked] at hgoes hmeets
      obtain ⟨r, s', hrun, -⟩ := hmeets
      rw [hrun] at hkeeps
      rw [Body.bind_of_ret hrun, show passes c deps.toHandshakeDeps a = false from hgoes]
      exact hkeeps
  | ok x =>
      rw [hchecked] at hgoes hmeets
      obtain ⟨s', hrun, -⟩ := hmeets
      rw [hrun] at hkeeps
      rw [Body.bind_of_next hrun, tlsConfig_bind fun _ => keeps_readMultiplex c parts,
        tlsConfig_readCert, hcert, show passes c deps.toHandshakeDeps a = true from hgoes]
      exact congrArg _ hkeeps

/-- However the handling of a line ends, its certificate is in the TLS configuration if the line
    has brought it as far as `loadServerCert`, and else nothing has changed. -/
theorem tlsConfig_receive (c : ClientConfig) (order : RangeOrder Int64 PluginSet)
    (deps : StartDeps) (line : ByteString) (ok : Bool) (s : StartFrame) :
    (receive c order deps line ok s).2.tlsConfig =
      trusting (carriedCert c deps.toHandshakeDeps line) s.tlsConfig := by
  by_cases hshort : (split bar (trimSpace line)).length < 4
  · have hreceive : receive c order deps line ok = fail none (.unrecognized (trimSpace line) ok) :=
      if_pos hshort
    have hnone : announcement line = none := by
      unfold announcement
      split
      · next hparts =>
          rw [hparts] at hshort
          simp only [List.length_cons] at hshort
          omega
      · rfl
    rw [hreceive, carriedCert, hnone]
    rfl
  · obtain ⟨core, version, network, address, rest, hparts⟩ :
        ∃ core version network address rest, split bar (trimSpace line) =
          core :: version :: network :: address :: rest := by
      rcases hparts : split bar (trimSpace line) with
        _ | ⟨core, _ | ⟨version, _ | ⟨network, _ | ⟨address, rest⟩⟩⟩⟩
      · simp [hparts] at hshort
      · simp [hparts] at hshort
      · simp [hparts] at hshort
      · simp [hparts] at hshort
      · exact ⟨core, version, network, address, rest, rfl⟩
    have hline : announcement line = some ⟨core, version, network, address,
        rest[0]?.getD Protocol.netRPC.text, certField rest[1]?, rest[2]?⟩ := by
      rw [announcement, hparts]
    rw [receive_of_parts hparts, carriedCert, hline, Option.bind_some]
    exact tlsConfig_parts c order deps ⟨core, version, network, address,
      rest[0]?.getD Protocol.netRPC.text, certField rest[1]?, rest[2]?⟩ _ rfl rfl s

theorem tlsConfig_start (c : ClientConfig) (order : RangeOrder Int64 PluginSet)
    (deps : StartDeps) (event : StartEvent) (s : StartFrame) :
    (start c order deps event s).2.tlsConfig = trusting (carried c deps event) s.tlsConfig := by
  have hcleanup : ∀ r s, (cleanup r s).tlsConfig = s.tlsConfig := by
    intro r s
    unfold cleanup
    split <;> rfl
  have hend : (start c order deps event s).2.tlsConfig =
      (await c order deps event s).2.tlsConfig := by
    show (Body.withDefer cleanup (Body.andThen _ _) s).2.tlsConfig = _
    unfold Body.withDefer Body.andThen
    rcases await c order deps event s with ⟨_ | _ | _ | _, s'⟩
    · exact hcleanup _ _
    · exact hcleanup _ _
    · exact hcleanup _ _
    · rfl
  rw [hend]
  cases event with
  | timeout | exited => rfl
  | line line => exact tlsConfig_receive c order deps line true s
  | closed => exact tlsConfig_receive c order deps [] false s

/-! ### Trust -/

/-- A `Start` call that gets as far as its wait: the order in which maps are visited, the runner
    and the standard library, what ends the wait, the client's own certificate for `AutoMTLS`, and
    what an earlier call of the same client has left. -/
structure StartCall where
  order : RangeOrder Int64 PluginSet
  deps : StartDeps
  event : StartEvent
  cert : ByteString
  version : Int64
  protocol : ByteString

/-- A configuration with what its `TLSConfig` of the caller points to.  Clients that are made from
    it share both. -/
structure SharedConfig where
  config : ClientConfig
  tls : TLSConfig

namespace SharedConfig

/-- `Start` on a client of the configuration. -/
def start (x : SharedConfig) (a : StartCall) : Flow StartResults StartResults × StartFrame :=
  StartBody.start x.config a.order a.deps a.event
    (.launched x.config x.tls a.cert a.version a.protocol)

/-- What the call leaves: the merged versions, the set that was chosen, and the pools.  For
    `AutoMTLS` the configuration gets another `TLSConfig`, and the caller's is left alone. -/
def after (x : SharedConfig) (a : StartCall) : SharedConfig where
  config := { x.config with
    plugins := (x.start a).2.plugins
    versionedPlugins := some x.config.startVersions }
  tls := if x.config.autoMTLS then x.tls else (x.start a).2.tlsConfig.getD x.tls

/-- What one call after the other leaves. -/
def afterAll (x : SharedConfig) (as : List StartCall) : SharedConfig := as.foldl after x

/-- The last certificate that a line of the calls brings to `loadServerCert`. -/
def lastCarried (x : SharedConfig) : List StartCall → Option ByteString
  | [] => none
  | a :: as => ((x.after a).lastCarried as).or (carried x.config a.deps a.event)

theorem lastCarried_concat (x : SharedConfig) (as : List StartCall) (a : StartCall) :
    x.lastCarried (as ++ [a]) =
      (carried (x.afterAll as).config a.deps a.event).or (x.lastCarried as) := by
  induction as generalizing x with
  | nil => simp [lastCarried, afterAll]
  | cons b as ih =>
      simp only [List.cons_append, lastCarried, ih (x.after b), Option.or_assoc]
      rfl

end SharedConfig

/-- The TLS configuration after a certificate has been loaded. -/
def trust (rootCA : Option ByteString) (tls : TLSConfig) : TLSConfig :=
  match rootCA with
  | none => tls
  | some cert => { tls with rootCAs := some [cert], clientCAs := some [cert] }

theorem trusting_some (rootCA : Option ByteString) (tls : TLSConfig) :
    trusting rootCA (some tls) = some (trust rootCA tls) := by
  cases rootCA <;> rfl

/-- Of several certificates the last one counts. -/
theorem trust_trust (x y : Option ByteString) (tls : TLSConfig) :
    trust y (trust x tls) = trust (y.or x) tls := by
  cases y with
  | none => rfl
  | some y => cases x <;> rfl

theorem trust_eq_self_iff (rootCA : Option ByteString) (tls : TLSConfig) :
    trust rootCA tls = tls ↔
      ∀ x ∈ rootCA, tls.rootCAs = some [x] ∧ tls.clientCAs = some [x] := by
  cases rootCA with
  | none => simp [trust]
  | some cert =>
      obtain ⟨certificates, clientAuth, minVersion, serverName, rootCAs, clientCAs⟩ := tls
      simp [trust, eq_comm]

theorem tlsConfig_sharedStart (x : SharedConfig) (a : StartCall) :
    (x.start a).2.tlsConfig =
      trusting (carried x.config a.deps a.event) (x.config.launchTLS x.tls a.cert) :=
  tlsConfig_start x.config a.order a.deps a.event _

theorem launchTLS_of_supplied {c : ClientConfig} (hauto : c.autoMTLS = false)
    (htls : c.tlsConfig = true) (tls : TLSConfig) (cert : ByteString) :
    c.launchTLS tls cert = some tls := by
  simp [ClientConfig.launchTLS, ClientConfig.suppliedTLS, hauto, htls]

/-- Without `AutoMTLS`, the calls leave the pools of the last certificate. -/
theorem afterAll_tls (x : SharedConfig) (hauto : x.config.autoMTLS = false)
    (htls : x.config.tlsConfig = true) (as : List StartCall) :
    (x.afterAll as).tls = trust (x.lastCarried as) x.tls := by
  induction as generalizing x with
  | nil => rfl
  | cons a as ih =>
      have hnext : (x.after a).tls = trust (carried x.config a.deps a.event) x.tls := by
        have hstart := tlsConfig_sharedStart x a
        rw [launchTLS_of_supplied hauto htls, trusting_some] at hstart
        simp [SharedConfig.after, hauto, hstart]
      have hrest := ih (x.after a) hauto htls
      rw [hnext, trust_trust] at hrest
      exact hrest

/-- `AutoMTLS` and the presence of the caller's `TLSConfig` are not written to. -/
theorem afterAll_config (x : SharedConfig) (as : List StartCall) :
    (x.afterAll as).config.autoMTLS = x.config.autoMTLS ∧
      (x.afterAll as).config.tlsConfig = x.config.tlsConfig := by
  induction as generalizing x with
  | nil => exact ⟨rfl, rfl⟩
  | cons a as ih => exact ih (x.after a)

/-- What a successful handshake has loaded is the certificate field. -/
theorem carriedCert_of_ok {deps : HandshakeDeps} {started : Started}
    (h : handshake c order deps line ok = .ok started) :
    carriedCert c deps line = (lineCert line).bind deps.parseCert ∧
      (lineCert line).isSome = (carriedCert c deps line).isSome := by
  rw [handshake_eq_outcome] at h
  cases hline : announcement line with
  | none =>
      rw [hline] at h
      cases h
  | some a =>
      rw [hline] at h
      dsimp only at h
      rw [outcome_eq_checked, Outcome.bind_eq_ok] at h
      obtain ⟨x, hchecked, h⟩ := h
      have hgoes := goesOn_checked c order deps a
      rw [hchecked] at hgoes
      have hcarried : carriedCert c deps line = (lineCert line).bind deps.parseCert := by
        rw [carriedCert, lineCert, hline, Option.bind_some, Option.bind_some,
          show passes c deps a = true from hgoes, if_pos rfl]
      refine ⟨hcarried, ?_⟩
      rw [hcarried, lineCert, hline, Option.bind_some]
      cases hcert : a.cert with
      | none => rfl
      | some cert =>
          rw [hcert, loadServerCert_of_long c deps (length_of_cert hline hcert),
            Outcome.bind_eq_ok] at h
          obtain ⟨rootCA, hload, -⟩ := h
          rw [Option.bind_some]
          cases hparse : deps.parseCert cert with
          | none =>
              rw [hparse] at hload
              cases hload
          | some x509 => rfl

theorem handshake_of_start {c : ClientConfig} {order : RangeOrder Int64 PluginSet}
    {deps : StartDeps} {line : ByteString} {tls : TLSConfig} {cert : ByteString}
    {version : Int64} {protocol : ByteString} {addr : Option Addr} {s : StartFrame}
    (h : start c order deps (.line line) (.launched c tls cert version protocol) =
      (.ret (addr, none), s)) :
    ∃ started, handshake c order deps.toHandshakeDeps line true = .ok started := by
  have hawait : await c order deps (.line line) = receive c order deps line true := rfl
  have htls := isSome_launchTLS c tls cert
  cases hline : handshake c order deps.toHandshakeDeps line true with
  | ok started => exact ⟨started, rfl⟩
  | error e =>
      obtain ⟨addr, s', hrun, -⟩ :=
        start_of_error (s := .launched c tls cert version protocol) hawait htls hline
      rw [hrun] at h
      cases h
  | panic =>
      obtain ⟨s', hrun, -⟩ :=
        start_of_handshake_panic (s := .launched c tls cert version protocol) hawait htls hline
      rw [hrun] at h
      cases h

/-- Whom the client is to trust after a line: under `AutoMTLS` the certificate in the line and no
    other, and else whom the caller has told it to. -/
def TrustsRight (c : ClientConfig) (tls : TLSConfig) (deps : StartDeps) (line : ByteString)
    (s : StartFrame) : Prop :=
  if c.autoMTLS then
    ∃ field asn1 x509 config, lineCert line = some field ∧ base64Decode field = some asn1 ∧
      deps.parseCertificate asn1 = some x509 ∧ s.tlsConfig = some config ∧
      config.rootCAs = some [x509]
  else s.tlsConfig = c.suppliedTLS tls

/-- The line has a certificate field under `AutoMTLS`.  Else, where the caller has a `TLSConfig`,
    no line has brought a certificate, or the last one that a line has brought is the only one in
    the caller's pools anyway. -/
def CertsExpected (c : ClientConfig) (tls : TLSConfig) (as : List StartCall) (a : StartCall)
    (line : ByteString) : Prop :=
  if c.autoMTLS then (lineCert line).isSome = true
  else c.tlsConfig = true → ∀ x ∈ SharedConfig.lastCarried ⟨c, tls⟩ (as ++ [a]),
    tls.rootCAs = some [x] ∧ tls.clientCAs = some [x]

instance (c : ClientConfig) (tls : TLSConfig) (as : List StartCall) (a : StartCall)
    (line : ByteString) : Decidable (CertsExpected c tls as a line) := by
  unfold CertsExpected
  infer_instance

/-- **Whom the client trusts after the handshake.**  Let any `Start` calls have been made from the
    configuration, with any outcome, and let `Start` return without error on a line.  Then the
    client trusts whom it is to trust exactly where certificates have come as expected. -/
theorem start_trusts_iff (c : ClientConfig) (tls : TLSConfig) (as : List StartCall)
    (a : StartCall) (line : ByteString) (hline : a.event = .line line) (addr : Option Addr)
    (s : StartFrame)
    (hstart : (SharedConfig.afterAll ⟨c, tls⟩ as).start a = (.ret (addr, none), s)) :
    TrustsRight c tls a.deps line s ↔ CertsExpected c tls as a line := by
  set x : SharedConfig := SharedConfig.afterAll ⟨c, tls⟩ as with hx
  obtain ⟨hauto, htls⟩ : x.config.autoMTLS = c.autoMTLS ∧ x.config.tlsConfig = c.tlsConfig :=
    afterAll_config ⟨c, tls⟩ as
  have hconfig := tlsConfig_sharedStart x a
  rw [hstart] at hconfig
  dsimp only at hconfig
  have hok : ∃ started, handshake x.config a.order a.deps.toHandshakeDeps line true =
      .ok started := by
    unfold SharedConfig.start at hstart
    rw [hline] at hstart
    exact handshake_of_start hstart
  obtain ⟨started, hok⟩ := hok
  obtain ⟨hcarried, hsome⟩ := carriedCert_of_ok hok
  have hcarries : carried x.config a.deps a.event =
      (lineCert line).bind a.deps.toHandshakeDeps.parseCert := by
    rw [hline]
    exact hcarried
  unfold TrustsRight CertsExpected
  cases hmtls : c.autoMTLS with
  | true =>
      rw [if_pos rfl, if_pos rfl]
      constructor
      · rintro ⟨field, -, -, -, hfield, -⟩
        rw [hfield]
        rfl
      · intro hfield
        obtain ⟨field, hfield⟩ := Option.isSome_iff_exists.mp hfield
        rw [hcarried, hfield, Option.bind_some] at hsome
        obtain ⟨x509, hparse⟩ := Option.isSome_iff_exists.mp hsome.symm
        obtain ⟨asn1, hasn1, hx509⟩ := Option.bind_eq_some_iff.mp hparse
        rw [hcarries, hfield, Option.bind_some, hparse, ClientConfig.launchTLS, hauto, hmtls]
          at hconfig
        exact ⟨field, asn1, x509, _, hfield, hasn1, hx509, hconfig, rfl⟩
  | false =>
      rw [if_neg (by simp), if_neg (by simp)]
      cases hsupplied : c.tlsConfig with
      | false =>
          -- there is nothing to be written to
          refine iff_of_true ?_ (fun h => by cases h)
          rw [hconfig, ClientConfig.launchTLS, ClientConfig.suppliedTLS, ClientConfig.suppliedTLS,
            hauto, htls, hmtls, hsupplied]
          cases carried x.config a.deps a.event <;> rfl
      | true =>
          have hleft := afterAll_tls ⟨c, tls⟩ hmtls hsupplied as
          rw [launchTLS_of_supplied (hauto.trans hmtls) (htls.trans hsupplied), trusting_some,
            hleft, trust_trust, ← SharedConfig.lastCarried_concat] at hconfig
          rw [hconfig, ClientConfig.suppliedTLS, hsupplied, if_pos rfl, Option.some.injEq,
            trust_eq_self_iff]
          exact ⟨fun h _ => h, fun h => h rfl⟩

/-- A host with `AutoMTLS` alone, and one with a TLS configuration of its own. -/
def mtlsHost : ClientConfig := { plainHost with autoMTLS := true }
def tlsHost : ClientConfig := { plainHost with tlsConfig := true }

/-- The latter with a `RunnerFunc`, so that `Start` can be called again, and multiplexing. -/
def retryHost : ClientConfig := { tlsHost with launch := .runner, grpcBrokerMultiplex := true }

/-- `Start` on a line, with a certificate of the client. -/
def onLine (line : ByteString) : StartCall := ⟨.stored, acceptAll, .line line, ascii "PEM", 0, []⟩

set_option maxRecDepth 4000 in
theorem start_trusts_iff_mtls :
    ∃ s, (SharedConfig.afterAll ⟨mtlsHost, ownTLS⟩ [onLine []]).start (onLine certLine) =
        (.ret (some socketAddr, none), s) ∧
      TrustsRight mtlsHost ownTLS acceptAll certLine s :=
  ⟨_, rfl, (start_trusts_iff mtlsHost ownTLS [onLine []] (onLine certLine) certLine rfl _ _
    rfl).mpr (by decide +kernel)⟩

/-- A line without a certificate. -/
def plainLine (multiplex : Bool) : ByteString := protocolLine 1 socketAddr .grpc [] multiplex

set_option maxRecDepth 4000 in
/-- Under `AutoMTLS`, a plugin that sends no certificate leaves the client without roots of its
    own; one that sends a certificate to a client without `AutoMTLS` replaces the roots that the
    caller has chosen; and they stay replaced where the call fails and another one succeeds. -/
theorem cert_field_decides_trust :
    ((SharedConfig.start ⟨mtlsHost, ownTLS⟩ (onLine (plainLine false))).1 =
        .ret (some socketAddr, none) ∧
      (SharedConfig.start ⟨mtlsHost, ownTLS⟩ (onLine (plainLine false))).2.tlsConfig =
        some (autoTLS (ascii "PEM")) ∧
      (autoTLS (ascii "PEM")).rootCAs = none) ∧
    ((SharedConfig.start ⟨tlsHost, ownTLS⟩ (onLine certLine)).1 = .ret (some socketAddr, none) ∧
      (SharedConfig.start ⟨tlsHost, ownTLS⟩ (onLine certLine)).2.tlsConfig =
        some { ownTLS with rootCAs := some [certDER], clientCAs := some [certDER] }) ∧
    (SharedConfig.start ⟨retryHost, ownTLS⟩ (onLine certLine)).1 =
        .ret (none, some (.rejected .muxNotSupported)) ∧
      ((SharedConfig.after ⟨retryHost, ownTLS⟩ (onLine certLine)).start
        (onLine (plainLine true))).1 = .ret (some socketAddr, none) ∧
      ((SharedConfig.after ⟨retryHost, ownTLS⟩ (onLine certLine)).start
        (onLine (plainLine true))).2.tlsConfig =
        some { ownTLS with rootCAs := some [certDER], clientCAs := some [certDER] } := by
  decide +kernel

end StartBody

end GoPlugin
