import GoPlugin.VersionNegotiation

/-!
# Which plugin set belongs to a version

A version can have a set in `VersionedPlugins`, and `ProtocolVersion` can have one in `Plugins`.
`Start` and `protocolVersion` merge the two fields separately: `Start` keeps what is in the map,
and `protocolVersion` overwrites it.
-/

namespace GoPlugin

open ByteString Environ GoMap

namespace PluginConfig

variable {c : PluginConfig} {v : Int64}

/-- The set that `VersionedPlugins` has for a version. -/
def versionedSet (c : PluginConfig) (v : Int64) : Option PluginSet :=
  (c.versionedPlugins.getD ∅).lookup v

/-- The set that `Plugins` is for a version. -/
def legacySet (c : PluginConfig) (v : Int64) : Option PluginSet :=
  if v = c.version ∧ c.plugins.isSome = true then some c.plugins else none

/-- Both fields have a set for the version, and they are different ones. -/
def Conflict (c : PluginConfig) (v : Int64) : Prop :=
  ∃ a ∈ c.versionedSet v, ∃ b ∈ c.legacySet v, a ≠ b

instance decidableConflict (c : PluginConfig) (v : Int64) : Decidable (c.Conflict v) :=
  match ha : c.versionedSet v, hb : c.legacySet v with
  | some a, some b => decidable_of_iff (a ≠ b) (by simp [Conflict, ha, hb])
  | none, _ => isFalse (by simp [Conflict, ha])
  | some _, none => isFalse (by simp [Conflict, hb])

/-- `Start` prefers the map. -/
theorem lookup_startVersions :
    c.startVersions.lookup v = (c.versionedSet v).or (c.legacySet v) := by
  simp only [startVersions]
  split
  · next h =>
      by_cases hv : v = c.version
      · subst hv
        have hnone : c.versionedSet c.version = none := AList.lookup_eq_none.mpr h.1
        simp [hnone, legacySet, h.2]
      · rw [AList.lookup_insert_ne hv]
        simp [versionedSet, legacySet, hv]
  · next h =>
      cases hset : c.versionedSet v with
      | some set => exact hset
      | none =>
          have hlegacy : c.legacySet v = none := by
            refine if_neg fun hv => h ⟨?_, hv.2⟩
            exact hv.1 ▸ AList.lookup_eq_none.mp hset
          rw [hlegacy]
          exact hset

/-- `protocolVersion` prefers `Plugins`. -/
theorem lookup_serveVersions :
    c.serveVersions.lookup v = (c.legacySet v).or (c.versionedSet v) := by
  simp only [serveVersions]
  split
  · next h =>
      by_cases hv : v = c.version
      · subst hv
        simp [legacySet, h]
      · rw [AList.lookup_insert_ne hv]
        simp [versionedSet, legacySet, hv]
  · next h => simp [versionedSet, legacySet, h]

/-- The two merges agree on a version exactly where there is no conflict. -/
theorem lookup_startVersions_eq_iff :
    c.startVersions.lookup v = c.serveVersions.lookup v ↔ ¬c.Conflict v := by
  rw [lookup_startVersions, lookup_serveVersions, Conflict]
  cases c.versionedSet v with
  | none => simp
  | some a =>
      cases c.legacySet v with
      | none => simp
      | some b => simp

end PluginConfig

/-- The set is the one that the merged map has for the version. -/
def Served.Resolved (opts : ServeConfig) (x : Served) : Prop :=
  x.set = (opts.serveVersions.lookup x.version).getD none

theorem resolved_selectVersion {opts : ServeConfig}
    {setOrder : Int64 → RangeOrder ByteString Plugin} {clientVersions versions : List Int64}
    {cur : Served} (h : versions = [] → cur.Resolved opts) :
    (selectVersion opts setOrder clientVersions versions cur).Resolved opts := by
  induction versions generalizing cur with
  | nil => exact h rfl
  | cons v versions ih =>
      simp only [selectVersion]
      split
      · rfl
      · apply ih
        intro _
        rfl

/-- A plugin that has a version at all serves the set that its merged map has for it. -/
theorem resolved_protocolVersion {s : ServeConfig} (hs : s.supplied.Nonempty)
    (env : List ByteString) (order : RangeOrder Int64 PluginSet)
    (setOrder : Int64 → RangeOrder ByteString Plugin) :
    (protocolVersion s env order setOrder).Resolved s := by
  apply resolved_selectVersion
  intro hnil
  obtain ⟨v, hv⟩ := hs
  have hmem := (mem_descending_keys s order).mpr hv
  rw [hnil] at hmem
  cases hmem

/-- What a successful `checkProtoVersion` found. -/
theorem lookup_of_checkProtoVersion {c : ClientConfig} {order : RangeOrder Int64 PluginSet}
    {field : ByteString} {v : Int64} {set : PluginSet}
    (h : checkProtoVersion c order field = .ok (v, set)) :
    atoi field = some v ∧ c.startVersions.lookup v = some set := by
  unfold checkProtoVersion at h
  split at h
  · cases h
  · next serverVersion hatoi =>
      split at h
      · next version plugins hfind =>
          cases h
          have hkey : serverVersion = v := by simpa using List.find?_some hfind
          exact ⟨hkey ▸ hatoi, order.mem_order.mp (List.mem_of_find?_eq_some hfind)⟩
      · cases h

/-- **When host and plugin resolve a version to the same set.**  Let both have the same three
    fields, and let the host accept the version that the plugin picked, whatever it was asked
    for.  Then the set that the host installs is the one that the plugin serves exactly where
    `Plugins` does not stand against another set in `VersionedPlugins`. -/
theorem installed_eq_served_iff (c : ClientConfig) (s : ServeConfig)
    (hversion : s.protocolVersion = c.protocolVersion) (hplugins : s.plugins = c.plugins)
    (hversioned : s.versionedPlugins = c.versionedPlugins) (env : List ByteString)
    (serveOrder checkOrder : RangeOrder Int64 PluginSet)
    (setOrder : Int64 → RangeOrder ByteString Plugin) (v : Int64) (set : PluginSet)
    (hchecked : checkProtoVersion c checkOrder
      (itoa (protocolVersion s env serveOrder setOrder).version) = .ok (v, set)) :
    set = (protocolVersion s env serveOrder setOrder).set ↔ ¬c.Conflict v := by
  obtain ⟨hatoi, hlookup⟩ := lookup_of_checkProtoVersion hchecked
  rw [atoi_itoa, Option.some.injEq] at hatoi
  have hmem : v ∈ c.supplied :=
    PluginConfig.mem_startVersions.mp (AList.lookup_isSome.mp (by simp [hlookup]))
  have hserve : s.serveVersions = c.serveVersions := by
    simp only [PluginConfig.serveVersions, PluginConfig.version, hversion, hplugins, hversioned]
  have hsupplied : s.supplied.Nonempty := by
    refine ⟨v, PluginConfig.mem_serveVersions.mp ?_⟩
    rw [hserve]
    exact PluginConfig.mem_serveVersions.mpr hmem
  obtain ⟨served, hserved⟩ : ∃ served, c.serveVersions.lookup v = some served :=
    Option.isSome_iff_exists.mp (AList.lookup_isSome.mpr (PluginConfig.mem_serveVersions.mpr hmem))
  have hset : (protocolVersion s env serveOrder setOrder).set = served := by
    rw [resolved_protocolVersion hsupplied env serveOrder setOrder, hatoi, hserve, hserved]
    rfl
  rw [hset, ← PluginConfig.lookup_startVersions_eq_iff, hlookup, hserved, Option.some.injEq]

/-- The plugin of a host: it serves what the host asks for. -/
def ClientConfig.served (c : ClientConfig) : ServeConfig :=
  { c.toPluginConfig with grpcServer := true, tlsProvider := none }

/-- Sets with one plugin each. -/
def netRPCPlugin : PluginSet := some (List.toAList [⟨ascii "kv", ⟨0, false⟩⟩])

def grpcPlugin : PluginSet := some (List.toAList [⟨ascii "kv", ⟨0, true⟩⟩])

/-- A host with `Plugins` for version 3, next to another set for version 2. -/
def hostLegacyThree : ClientConfig :=
  { hostTwoThree with
    protocolVersion := 3
    plugins := grpcPlugin
    versionedPlugins := some (List.toAList [⟨2, netRPCPlugin⟩]) }

theorem installed_eq_served_iff_three :
    let served := protocolVersion hostLegacyThree.served (hostLegacyThree.startEnv [] .stored [] [])
      .stored fun _ => .stored
    checkProtoVersion hostLegacyThree .stored (itoa served.version) = .ok (3, grpcPlugin) ∧
      grpcPlugin = served.set :=
  ⟨by rfl, (installed_eq_served_iff hostLegacyThree hostLegacyThree.served rfl rfl rfl
    (hostLegacyThree.startEnv [] .stored [] []) .stored .stored (fun _ => .stored) 3 grpcPlugin
    (by rfl)).mpr (by decide)⟩

/-- A host with a real version 0 next to the legacy `Plugins`. -/
def hostVersionZero : ClientConfig :=
  { hostTwoThree with
    plugins := netRPCPlugin
    versionedPlugins := some (List.toAList [⟨0, grpcPlugin⟩]) }

/-- The host takes the set of the map and the plugin serves `Plugins`, over another protocol. -/
theorem hostVersionZero_resolves_differently :
    let served := protocolVersion hostVersionZero.served (hostVersionZero.startEnv [] .stored [] [])
      .stored fun _ => .stored
    checkProtoVersion hostVersionZero .stored (itoa served.version) = .ok (0, grpcPlugin) ∧
      served.set = netRPCPlugin ∧ served.proto = .netRPC :=
  ⟨by rfl, by rfl, by rfl⟩

end GoPlugin
