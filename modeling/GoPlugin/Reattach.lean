import GoPlugin.StartAttempts

/-!
# Reattaching to a running plugin

`ReattachConfig` exports what a client knows of its plugin, and `Start` with a `Reattach`
configuration takes it over without another handshake.  The launch finds the plugin set before
the version is negotiated, by `ProtocolVersion`; reattaching finds it afterwards, by the
negotiated version.
-/

namespace GoPlugin

open ByteString Environ GoMap

structure ReattachConfig where
  protocol : ByteString
  protocolVersion : Int64
  addr : Option Addr
  pid : Int64
  reattachFunc : Bool      -- `ReattachFunc` is not nil
  test : Bool
deriving DecidableEq, Repr

/-- The fields of `ClientConfig` that decide how `Start` goes about it.  `cmd` is the process of
    `Cmd`: there is none before it is started. -/
structure Options extends PluginConfig where
  cmd : Option (Option Int64)
  runnerFunc : Bool
  reattach : Option ReattachConfig
  secureConfig : Bool
  grpcBrokerMultiplex : Bool

inductive OptionsError where
  | notExactlyOne
  | secureConfigAndReattach
  | multiplexAndReattach
  | addrRequired
  | pidOrFuncRequired
  | attach                 -- the reattach function failed
deriving DecidableEq, Repr

/-- The fields of a client that `Start` writes. -/
structure ClientState where
  address : Option Addr
  protocol : ByteString
  negotiatedVersion : Int64
  plugins : PluginSet
  versionedPlugins : GoMap Int64 PluginSet
  runner : Bool            -- `runner` is not nil

namespace Options

/-- `mutuallyExclusiveOptions`. -/
def mutuallyExclusiveOptions (o : Options) : Nat :=
  o.cmd.isSome.toNat + o.reattach.isSome.toNat + o.runnerFunc.toNat

/-- The checks at the start of `Start`. -/
def check (o : Options) : Except OptionsError Unit :=
  if o.mutuallyExclusiveOptions ≠ 1 then .error .notExactlyOne
  else
    match o.reattach with
    | none => .ok ()
    | some r =>
        if o.secureConfig then .error .secureConfigAndReattach
        else if o.grpcBrokerMultiplex then .error .multiplexAndReattach
        else if r.addr = none then .error .addrRequired
        else if r.reattachFunc = false ∧ r.pid = 0 then .error .pidOrFuncRequired
        else .ok ()

/-- `VersionedPlugins` as `reattach` leaves it. -/
def reattachVersions (o : Options) (version : Int64) : GoMap Int64 PluginSet :=
  let m := o.versionedPlugins.getD ∅
  if version ∉ m ∧ o.plugins.isSome = true then m.insert version o.plugins else m

/-- `reattach`; `attached` is whether the reattach function succeeds. -/
def reattached (o : Options) (r : ReattachConfig) (attached : Bool) :
    Except OptionsError ClientState :=
  if attached then
    let versions := o.reattachVersions r.protocolVersion
    .ok
      { address := r.addr
        protocol := if r.protocol = [] then Protocol.netRPC.text else r.protocol
        negotiatedVersion := r.protocolVersion
        plugins := (versions.lookup r.protocolVersion).getD o.plugins
        versionedPlugins := versions
        runner := !r.test }
  else .error .attach

/-- `Start` of a client without an address, up to the launch; `none` where it launches. -/
def startReattach (o : Options) (attached : Bool) : Option (Except OptionsError ClientState) :=
  match o.check with
  | .error e => some (.error e)
  | .ok _ => o.reattach.map fun r => o.reattached r attached

/-- `ReattachConfig`. -/
def reattachConfig (o : Options) (client : ClientState) : Option ReattachConfig :=
  if client.address = none then none
  else if o.cmd = some none then none
  else
    match o.reattach with
    | some r => some r
    | none => some
        { protocol := client.protocol
          protocolVersion := client.negotiatedVersion
          addr := client.address
          pid := (o.cmd.bind id).getD 0
          reattachFunc := false
          test := false }

/-- The options of a fresh client that reattaches; `func` is whether the caller gives it a
    `ReattachFunc`. -/
def reattaching (o : Options) (r : ReattachConfig) (func : Bool) : Options :=
  { o with cmd := none, runnerFunc := false, reattach := some { r with reattachFunc := func } }

end Options

/-- The options of a client that launches its plugin; `process` is that of `Cmd`. -/
def ClientConfig.options (c : ClientConfig) (process : Option Int64) : Options where
  toPluginConfig := c.toPluginConfig
  cmd := match c.launch with
    | .cmd _ => some process
    | .runner => none
  runnerFunc := c.launch = .runner
  reattach := none
  secureConfig := false
  grpcBrokerMultiplex := c.grpcBrokerMultiplex

/-- The client after a launch. -/
def ClientConfig.launched (c : ClientConfig) (started : Started) : ClientState where
  address := some started.addr
  protocol := started.protocol
  negotiatedVersion := started.version
  plugins := started.plugins
  versionedPlugins := c.startVersions
  runner := true

/-! ### The two ways to a plugin set -/

/-- Reattaching finds the set that the launch found. -/
theorem lookup_reattachVersions {o : Options} {v : Int64} {set : PluginSet}
    (h : o.startVersions.lookup v = some set) : (o.reattachVersions v).lookup v = some set := by
  rw [PluginConfig.lookup_startVersions] at h
  simp only [Options.reattachVersions]
  cases hset : o.versionedSet v with
  | some a =>
      -- the set is in `VersionedPlugins`, which neither of the two overwrites
      have hmem : v ∈ o.versionedPlugins.getD ∅ := AList.lookup_isSome.mp (by
        change (o.versionedSet v).isSome = true
        simp [hset])
      rw [if_neg fun hmerge => hmerge.1 hmem]
      rw [hset, Option.some_or] at h
      exact hset.trans h
  | none =>
      -- it is `Plugins`, so the negotiated version is `ProtocolVersion`
      rw [hset, Option.none_or] at h
      unfold PluginConfig.legacySet at h
      split at h
      · next hlegacy =>
          have hmem : v ∉ o.versionedPlugins.getD ∅ := AList.lookup_eq_none.mp hset
          rw [if_pos ⟨hmem, hlegacy.2⟩, AList.lookup_insert]
          exact h
      · cases h

/-- What a successful handshake says of the started client. -/
theorem lookup_of_handshake {c : ClientConfig} {order : RangeOrder Int64 PluginSet}
    {deps : HandshakeDeps} {line : ByteString} {read : Bool} {started : Started}
    (h : handshake c order deps line read = .ok started) :
    c.startVersions.lookup started.version = some started.plugins ∧
      started.protocol ∈ c.allowedProtocols := by
  have hneg : negotiate c order line read = .ok (started.version, started.plugins) ∧
      started.protocol ∈ c.allowedProtocols := by
    unfold handshake at h
    split at h
    · next hsplit =>
        simp only [Outcome.bind_eq_ok] at h
        obtain ⟨_, hcore, _, hversion, _, -, h⟩ := h
        split at h
        · next hallowed =>
            simp only [Outcome.bind_eq_ok, Outcome.ok.injEq] at h
            obtain ⟨_, -, _, -, rfl⟩ := h
            simp only [negotiate, hsplit, Outcome.bind_eq_ok]
            exact ⟨⟨_, hcore, hversion⟩, by simpa using hallowed⟩
        · cases h
    · cases h
  exact ⟨lookup_of_negotiate hneg.1, hneg.2⟩

/-- The exported configuration passes the checks. -/
theorem check_reattaching {c : ClientConfig} {process : Option Int64} {r : ReattachConfig}
    {func : Bool} (hmux : c.grpcBrokerMultiplex = false) (haddr : r.addr ≠ none)
    (hfunc : func = true ∨ r.pid ≠ 0) :
    ((c.options process).reattaching r func).check = .ok () := by
  have hpid : ¬(func = false ∧ r.pid = 0) := by
    rintro ⟨hfalse, hzero⟩
    rcases hfunc with htrue | hne
    · rw [htrue] at hfalse
      cases hfalse
    · exact hne hzero
  simp [Options.check, Options.mutuallyExclusiveOptions, Options.reattaching,
    ClientConfig.options, hmux, haddr, hpid]

/-- **Reattaching reproduces the started client.**  After a successful handshake, a fresh
    client with the same fields and the exported `ReattachConfig` gets the same address,
    protocol, version and plugin set. -/
theorem reattach_reproduces (c : ClientConfig) (hprotocols : [] ∉ c.allowedProtocols)
    (hmux : c.grpcBrokerMultiplex = false) (order : RangeOrder Int64 PluginSet)
    (deps : HandshakeDeps) (line : ByteString) (read : Bool) (started : Started)
    (hstart : handshake c order deps line read = .ok started) (process : Option Int64)
    (r : ReattachConfig)
    (hr : (c.options process).reattachConfig (c.launched started) = some r) (func : Bool)
    (hfunc : func = true ∨ r.pid ≠ 0) :
    ∃ client, ((c.options process).reattaching r func).startReattach true = some (.ok client) ∧
      client.address = some started.addr ∧ client.protocol = started.protocol ∧
      client.negotiatedVersion = started.version ∧ client.plugins = started.plugins := by
  obtain ⟨hset, hallowed⟩ := lookup_of_handshake hstart
  have hprotocol : started.protocol ≠ [] := fun hnil => hprotocols (hnil ▸ hallowed)
  obtain ⟨hp, hv, ha⟩ : r.protocol = started.protocol ∧ r.protocolVersion = started.version ∧
      r.addr = some started.addr := by
    unfold Options.reattachConfig at hr
    split at hr
    · cases hr
    split at hr
    · cases hr
    · cases hr
      exact ⟨rfl, rfl, rfl⟩
  have hcheck : ((c.options process).reattaching r func).check = .ok () :=
    check_reattaching hmux (by simp [ha]) hfunc
  have hplugins : (((c.options process).reattaching r func).reattachVersions
      r.protocolVersion).lookup r.protocolVersion = some started.plugins := by
    apply lookup_reattachVersions
    rw [hv]
    exact hset
  refine ⟨_, by simp only [Options.startReattach, hcheck]; rfl, ha, ?_, hv, ?_⟩
  · simp only [hp, if_neg hprotocol]
  · simp only [hplugins, Option.getD_some]

/-- The launch of version 3 over a Unix socket, and the configuration it exports. -/
theorem reattach_reproduces_three :
    ∃ started r client,
      handshake hostTwoThree .stored ⟨fun n a => some (n, a), fun _ a => some a, some⟩
        (ascii "1|3|unix|/tmp/plugin1|grpc") true = .ok started ∧
      (hostTwoThree.options (some 42)).reattachConfig (hostTwoThree.launched started) = some r ∧
      ((hostTwoThree.options (some 42)).reattaching r false).startReattach true =
        some (.ok client) ∧
      client.address = some started.addr ∧ client.protocol = started.protocol ∧
      client.negotiatedVersion = started.version ∧ client.plugins = started.plugins := by
  obtain ⟨client, hclient⟩ := reattach_reproduces hostTwoThree (by decide) rfl .stored
    ⟨fun n a => some (n, a), fun _ a => some a, some⟩ (ascii "1|3|unix|/tmp/plugin1|grpc") true _
    rfl (some 42) _ rfl false (Or.inr (by decide))
  exact ⟨_, _, client, rfl, rfl, hclient⟩

end GoPlugin
