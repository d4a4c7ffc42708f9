import GoPlugin.Environ
import GoPlugin.GoStrings
import Mathlib.Data.List.AList

/-!
# Configurations, and the environment that `Client.Start` makes

The fields of `ClientConfig` and `ServeConfig` that version negotiation and the handshake
read, and the environment with which `Start` launches the plugin.  The client's fields are
those that `NewClient` leaves after it has put in its defaults.

A non-nil Go map is a finite map.  A `range` statement visits its entries once each, in an order
that the language leaves open: it is a parameter of every model with such a statement, and
results hold for every order.
-/

/-! ### Go maps and the order of `range` -/

universe u v

/-- A non-nil Go map. -/
abbrev GoMap (κ : Type u) (α : Type v) := AList fun _ : κ => α

namespace GoMap

variable {κ : Type u} {α : Type v}

/-- The order in which a `range` statement visits the entries of maps. -/
structure RangeOrder (κ : Type u) (α : Type v) where
  order : GoMap κ α → List (Sigma fun _ : κ => α)
  perm : ∀ m, (order m).Perm m.entries

/-- The order in which the entries happen to be stored. -/
def RangeOrder.stored : RangeOrder κ α := ⟨fun m => m.entries, fun _ => .rfl⟩

/-- The keys in the order of the visit. -/
def RangeOrder.keys (o : RangeOrder κ α) (m : GoMap κ α) : List κ := (o.order m).map Sigma.fst

theorem RangeOrder.mem_order [DecidableEq κ] (o : RangeOrder κ α) {m : GoMap κ α} {k : κ} {a : α} :
    ⟨k, a⟩ ∈ o.order m ↔ m.lookup k = some a := by
  rw [(o.perm m).mem_iff]
  exact (AList.mem_lookup_iff (s := m)).symm

theorem RangeOrder.mem_keys (o : RangeOrder κ α) {m : GoMap κ α} {k : κ} :
    k ∈ o.keys m ↔ k ∈ m := by
  rw [RangeOrder.keys, ((o.perm m).map Sigma.fst).mem_iff, AList.mem_keys]
  rfl

end GoMap

namespace GoPlugin

open ByteString Environ GoMap

/-! ### Plugins -/

/-- A `Plugin` value: which object it is, and whether it implements `GRPCPlugin`. -/
structure Plugin where
  impl : Nat
  grpc : Bool
deriving DecidableEq, Repr

/-- `PluginSet`; the nil map is `none`. -/
abbrev PluginSet := Option (GoMap ByteString Plugin)

/-- The protocols that a plugin serves. -/
inductive Protocol where
  | netRPC | grpc
deriving DecidableEq, Repr

/-- The string constants `ProtocolNetRPC` and `ProtocolGRPC`. -/
def Protocol.text : Protocol → ByteString
  | .netRPC => ascii "netrpc"
  | .grpc => ascii "grpc"

/-! ### Configurations -/

structure HandshakeConfig where
  protocolVersion : UInt64
  magicCookieKey : ByteString
  magicCookieValue : ByteString

/-- What `ClientConfig` and `ServeConfig` have in common. -/
structure PluginConfig extends HandshakeConfig where
  plugins : PluginSet
  versionedPlugins : Option (GoMap Int64 PluginSet)

/-- How the plugin is launched: `Cmd`, with the environment it came with, or `RunnerFunc`. -/
inductive Launch where
  | cmd (env : List ByteString)
  | runner
deriving DecidableEq, Repr

structure ClientConfig extends PluginConfig where
  launch : Launch
  minPort : UInt64
  maxPort : UInt64
  grpcBrokerMultiplex : Bool
  skipHostEnv : Bool
  autoMTLS : Bool
  tlsConfig : Bool                 -- `TLSConfig` is not nil
  unixSocketGroup : ByteString     -- `UnixSocketConfig.Group`, empty without a `UnixSocketConfig`
  allowedProtocols : List ByteString

/-- What `TLSProvider` returns: a configuration (`true`), none, or an error. -/
abbrev TLSProvider := Except Unit Bool

structure ServeConfig extends PluginConfig where
  grpcServer : Bool                -- `GRPCServer` is not nil
  tlsProvider : Option TLSProvider

namespace PluginConfig

/-- `int(ProtocolVersion)`. -/
def version (c : PluginConfig) : Int64 := c.protocolVersion.toInt64

/-- The versions that the user supplied: the keys of `VersionedPlugins`, and
    `ProtocolVersion` where `Plugins` is set. -/
def supplied (c : PluginConfig) : Set Int64 :=
  {v | (∃ m ∈ c.versionedPlugins, v ∈ m) ∨ (c.plugins.isSome = true ∧ v = c.version)}

/-- `VersionedPlugins` as `Start` leaves it: `Plugins` does not replace a set that is there. -/
def startVersions (c : PluginConfig) : GoMap Int64 PluginSet :=
  let m := c.versionedPlugins.getD ∅
  if c.version ∉ m ∧ c.plugins.isSome = true then m.insert c.version c.plugins else m

/-- `VersionedPlugins` as `protocolVersion` leaves it: `Plugins` does. -/
def serveVersions (c : PluginConfig) : GoMap Int64 PluginSet :=
  let m := c.versionedPlugins.getD ∅
  if c.plugins.isSome = true then m.insert c.version c.plugins else m

theorem mem_getD_versionedPlugins {c : PluginConfig} {v : Int64} :
    v ∈ c.versionedPlugins.getD ∅ ↔ ∃ m ∈ c.versionedPlugins, v ∈ m := by
  cases c.versionedPlugins with
  | none => simp
  | some m => simp

theorem mem_startVersions {c : PluginConfig} {v : Int64} :
    v ∈ c.startVersions ↔ v ∈ c.supplied := by
  simp only [startVersions, supplied, Set.mem_ofPred_eq, ← mem_getD_versionedPlugins]
  split
  · next h => simp [h.2, or_comm]
  · next h => grind

theorem mem_serveVersions {c : PluginConfig} {v : Int64} :
    v ∈ c.serveVersions ↔ v ∈ c.supplied := by
  simp only [serveVersions, supplied, Set.mem_ofPred_eq, ← mem_getD_versionedPlugins]
  split
  · next h => simp [h, or_comm]
  · next h => simp [h]

end PluginConfig

/-! ### Environment variables -/

def envProtocolVersions : ByteString := ascii "PLUGIN_PROTOCOL_VERSIONS"
def envMultiplexGRPC : ByteString := ascii "PLUGIN_MULTIPLEX_GRPC"
def envClientCert : ByteString := ascii "PLUGIN_CLIENT_CERT"
def envMinPort : ByteString := ascii "PLUGIN_MIN_PORT"
def envMaxPort : ByteString := ascii "PLUGIN_MAX_PORT"
def envUnixSocketDir : ByteString := ascii "PLUGIN_UNIX_SOCKET_DIR"
def envUnixSocketGroup : ByteString := ascii "PLUGIN_UNIX_SOCKET_GROUP"

/-- The separator of `PLUGIN_PROTOCOL_VERSIONS`. -/
def comma : UInt8 := 44

namespace ClientConfig

/-- `PLUGIN_PROTOCOL_VERSIONS`, with the versions in the order of the `range` statement. -/
def versionString (c : ClientConfig) (order : RangeOrder Int64 PluginSet) : ByteString :=
  join comma ((order.keys c.startVersions).map itoa)

/-- The command's environment before `Start` adds its own variables. -/
def baseEnv (c : ClientConfig) (hostEnv : List ByteString) : List ByteString :=
  (match c.launch with
    | .cmd env => env
    | .runner => [])
    ++ if c.skipHostEnv then [] else hostEnv

/-- The variables that `Start` always sets. -/
def handshakeEnv (c : ClientConfig) (order : RangeOrder Int64 PluginSet) : List ByteString :=
  [entry c.magicCookieKey c.magicCookieValue,
    entry envMinPort (formatUint c.minPort.toNat),
    entry envMaxPort (formatUint c.maxPort.toNat),
    entry envProtocolVersions (c.versionString order)]

/-- The variables that depend on the configuration. -/
def modeEnv (c : ClientConfig) (certPEM socketDir : ByteString) : List ByteString :=
  (if c.grpcBrokerMultiplex then [entry envMultiplexGRPC (ascii "true")] else [])
    ++ (if c.autoMTLS then [entry envClientCert certPEM] else [])
    ++ (if c.unixSocketGroup = [] then [] else [entry envUnixSocketGroup c.unixSocketGroup])
    ++ match c.launch with
      | .cmd _ => []
      | .runner => [entry envUnixSocketDir socketDir]

/-- The environment of the plugin; `certPEM` is the certificate that `generateCert` made, and
    `socketDir` the directory that was made for a runner. -/
def startEnv (c : ClientConfig) (hostEnv : List ByteString) (order : RangeOrder Int64 PluginSet)
    (certPEM socketDir : ByteString) : List ByteString :=
  c.baseEnv hostEnv ++ c.handshakeEnv order ++ c.modeEnv certPEM socketDir

/-- What the plugin sees of a variable that `Start` does not set: the environment of the host
    and of the command, and whatever the cookie's key makes of its entry. -/
def inheritedEnv (c : ClientConfig) (hostEnv : List ByteString) : List ByteString :=
  c.baseEnv hostEnv ++ [entry c.magicCookieKey c.magicCookieValue]

section Lookup

variable (c : ClientConfig) (hostEnv : List ByteString) (order : RangeOrder Int64 PluginSet)
  (certPEM socketDir : ByteString)

theorem lookup_modeEnv (key : ByteString) :
    lookup key (c.modeEnv certPEM socketDir) =
      (if c.launch = .runner ∧ envUnixSocketDir = key then some socketDir else none).or
        ((if c.unixSocketGroup ≠ [] ∧ envUnixSocketGroup = key then some c.unixSocketGroup
            else none).or
          ((if c.autoMTLS = true ∧ envClientCert = key then some certPEM else none).or
            (if c.grpcBrokerMultiplex = true ∧ envMultiplexGRPC = key then some (ascii "true")
              else none))) := by
  have hdir := @valueOf_entry key envUnixSocketDir (by decide)
  have hgroup := @valueOf_entry key envUnixSocketGroup (by decide)
  have hcert := @valueOf_entry key envClientCert (by decide)
  have hmux := @valueOf_entry key envMultiplexGRPC (by decide)
  simp only [modeEnv, lookup_append]
  congr 1
  · cases c.launch <;> simp [hdir]
  · congr 1
    · split_ifs <;> simp_all
    · congr 1 <;> split_ifs <;> simp_all

/-- A variable that is not always set is inherited where the configuration does not set it. -/
theorem getenv_startEnv {key : ByteString}
    (h : key ∉ [[], envMinPort, envMaxPort, envProtocolVersions]) :
    getenv (c.startEnv hostEnv order certPEM socketDir) key =
      (lookup key (c.modeEnv certPEM socketDir)).getD (getenv (c.inheritedEnv hostEnv) key) := by
  simp only [List.mem_cons, List.not_mem_nil, or_false, not_or] at h
  obtain ⟨hne, hmin, hmax, hversions⟩ := h
  have hminPort := @valueOf_entry key envMinPort (by decide)
  have hmaxPort := @valueOf_entry key envMaxPort (by decide)
  have hvers := @valueOf_entry key envProtocolVersions (by decide)
  simp only [getenv, if_neg hne, startEnv, handshakeEnv, inheritedEnv, lookup_append, lookup_cons,
    lookup_nil, hminPort, hmaxPort, hvers, if_neg (Ne.symm hmin), if_neg (Ne.symm hmax),
    if_neg (Ne.symm hversions), Option.none_or]
  cases lookup key (c.modeEnv certPEM socketDir) <;> simp

theorem getenv_startEnv_multiplex :
    getenv (c.startEnv hostEnv order certPEM socketDir) envMultiplexGRPC =
      if c.grpcBrokerMultiplex then ascii "true"
      else getenv (c.inheritedEnv hostEnv) envMultiplexGRPC := by
  rw [getenv_startEnv _ _ _ _ _ (by decide), lookup_modeEnv]
  simp only [show envUnixSocketDir ≠ envMultiplexGRPC by decide,
    show envUnixSocketGroup ≠ envMultiplexGRPC by decide,
    show envClientCert ≠ envMultiplexGRPC by decide]
  cases c.grpcBrokerMultiplex <;> simp

theorem getenv_startEnv_clientCert :
    getenv (c.startEnv hostEnv order certPEM socketDir) envClientCert =
      if c.autoMTLS then certPEM else getenv (c.inheritedEnv hostEnv) envClientCert := by
  rw [getenv_startEnv _ _ _ _ _ (by decide), lookup_modeEnv]
  simp only [show envUnixSocketDir ≠ envClientCert by decide,
    show envUnixSocketGroup ≠ envClientCert by decide,
    show envMultiplexGRPC ≠ envClientCert by decide]
  cases c.autoMTLS <;> simp

theorem lookup_modeEnv_of_notMem {key : ByteString}
    (h : key ∉ [envUnixSocketDir, envUnixSocketGroup, envClientCert, envMultiplexGRPC]) :
    lookup key (c.modeEnv certPEM socketDir) = none := by
  simp only [List.mem_cons, List.not_mem_nil, or_false, not_or] at h
  obtain ⟨hdir, hgroup, hcert, hmux⟩ := h
  rw [lookup_modeEnv]
  simp [Ne.symm hdir, Ne.symm hgroup, Ne.symm hcert, Ne.symm hmux]

/-- The plugin reads the ports that `Start` wrote. -/
theorem getenv_startEnv_minPort :
    getenv (c.startEnv hostEnv order certPEM socketDir) envMinPort =
      formatUint c.minPort.toNat := by
  have hmin := @valueOf_entry envMinPort envMinPort (by decide) (formatUint c.minPort.toNat)
  have hmax := @valueOf_entry envMinPort envMaxPort (by decide) (formatUint c.maxPort.toNat)
  have hversions := @valueOf_entry envMinPort envProtocolVersions (by decide)
    (c.versionString order)
  rw [if_neg (by decide)] at hmax hversions
  rw [getenv, if_neg (by decide)]
  simp [startEnv, handshakeEnv, lookup_modeEnv_of_notMem c certPEM socketDir
    (show envMinPort ∉ _ by decide), hmin, hmax, hversions]

/-- The plugin reads the versions that `Start` wrote. -/
theorem getenv_startEnv_versions :
    getenv (c.startEnv hostEnv order certPEM socketDir) envProtocolVersions =
      c.versionString order := by
  have hversions := @valueOf_entry envProtocolVersions envProtocolVersions (by decide)
    (c.versionString order)
  rw [getenv, if_neg (by decide)]
  simp [startEnv, handshakeEnv, lookup_modeEnv_of_notMem c certPEM socketDir
    (show envProtocolVersions ∉ _ by decide), hversions]

end Lookup

end ClientConfig

end GoPlugin
