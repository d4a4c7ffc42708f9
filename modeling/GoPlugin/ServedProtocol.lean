import GoPlugin.PluginSets

/-!
# Over which protocol a plugin set is served

`protocolVersion` tries one version after the other and keeps the protocol in a variable.  A round
writes to it only where the set of its version has a plugin, so a set without plugins is served
over the protocol of a version that was tried before.
-/

namespace GoPlugin

open ByteString Environ GoMap

/-- The set has the plugin under this name; a nil map has none. -/
def Holds (set : PluginSet) (name : ByteString) (p : Plugin) : Prop :=
  (set.getD ∅).lookup name = some p

/-- All plugins of the set are gRPC plugins, or none is. -/
def Uniform (set : PluginSet) : Prop := ∃ grpc, ∀ name p, Holds set name p → p.grpc = grpc

/-- The two sets have the same plugins. -/
def SamePlugins (set set' : PluginSet) : Prop := ∀ name p, Holds set name p ↔ Holds set' name p

/-- Every set that can be served is uniform. -/
def ServeConfig.UniformSets (opts : ServeConfig) : Prop :=
  ∀ v, Uniform ((opts.serveVersions.lookup v).getD none)

/-! ### The protocol of a set -/

section

variable {grpcServer : Bool} {order : RangeOrder ByteString Plugin} {set : PluginSet}

theorem holds_of_mem_order {m : GoMap ByteString Plugin} {name : ByteString} {p : Plugin}
    (h : ⟨name, p⟩ ∈ order.order m) : Holds (some m) name p :=
  order.mem_order.mp h

/-- A set with a plugin decides. -/
theorem setProtocol_of_holds {name : ByteString} {p : Plugin} (hp : Holds set name p)
    {grpc : Bool} (hgrpc : ∀ name p, Holds set name p → p.grpc = grpc) (proto : Protocol) :
    setProtocol true order set proto = if grpc then .grpc else .netRPC := by
  cases set with
  | none => cases hp
  | some m =>
      have hmem : ⟨name, p⟩ ∈ order.order m := order.mem_order.mpr hp
      rw [setProtocol, if_pos rfl]
      split
      · next hnil =>
          rw [hnil] at hmem
          cases hmem
      · next name' q rest hcons =>
          have hq : Holds (some m) name' q := holds_of_mem_order (hcons ▸ List.mem_cons_self)
          rw [hgrpc name' q hq]

/-- A set without plugins does not. -/
theorem setProtocol_of_not_holds (h : ∀ name p, ¬Holds set name p) (proto : Protocol) :
    setProtocol grpcServer order set proto = proto := by
  unfold setProtocol
  split
  · split
    · rfl
    · next m =>
        split
        · rfl
        · next name p rest hcons =>
            exact absurd (holds_of_mem_order (hcons ▸ List.mem_cons_self)) (h name p)
  · rfl

end

/-! ### The protocol that is served -/

/-- The protocol is that of the set, or else the one that was there before; without a `GRPCServer`
    it is net/rpc. -/
def Served.Spoken (opts : ServeConfig) (setOrder : Int64 → RangeOrder ByteString Plugin)
    (x : Served) : Prop :=
  ∃ proto, x.proto = setProtocol opts.grpcServer (setOrder x.version) x.set proto ∧
    (opts.grpcServer = false → proto = .netRPC)

section

variable {opts : ServeConfig} {setOrder : Int64 → RangeOrder ByteString Plugin}

theorem Served.Spoken.netRPC {x : Served} (h : x.Spoken opts setOrder)
    (hserver : opts.grpcServer = false) : x.proto = .netRPC := by
  obtain ⟨proto, hproto, hnone⟩ := h
  rw [hproto, hserver]
  exact hnone hserver

theorem spoken_selectVersion {clientVersions versions : List Int64} {cur : Served}
    (hlast : versions = [] → cur.Spoken opts setOrder)
    (hnone : opts.grpcServer = false → cur.proto = .netRPC) :
    (selectVersion opts setOrder clientVersions versions cur).Spoken opts setOrder := by
  induction versions generalizing cur with
  | nil => exact hlast rfl
  | cons v versions ih =>
      have hround : Served.Spoken opts setOrder ⟨v, setProtocol opts.grpcServer (setOrder v)
          ((opts.serveVersions.lookup v).getD none) cur.proto,
          (opts.serveVersions.lookup v).getD none⟩ := ⟨cur.proto, rfl, hnone⟩
      simp only [selectVersion]
      split
      · exact hround
      · exact ih (fun _ => hround) hround.netRPC

/-- A plugin without versions has no `Plugins` either. -/
theorem plugins_eq_none_of_keys {order : RangeOrder Int64 PluginSet}
    (h : descending (order.keys opts.serveVersions) = []) :
    opts.plugins = none ∧ opts.serveVersions.lookup opts.version = none := by
  have hnot : opts.version ∉ opts.supplied := by
    intro hmem
    have hkey := (mem_descending_keys opts order).mpr hmem
    rw [h] at hkey
    cases hkey
  constructor
  · cases hplugins : opts.plugins with
    | none => rfl
    | some set => exact absurd (Or.inr ⟨by rw [hplugins]; rfl, rfl⟩) hnot
  · rw [AList.lookup_eq_none, PluginConfig.mem_serveVersions]
    exact hnot

variable (opts setOrder)

theorem spoken_protocolVersion (env : List ByteString) (order : RangeOrder Int64 PluginSet) :
    (protocolVersion opts env order setOrder).Spoken opts setOrder := by
  apply spoken_selectVersion
  · intro hkeys
    refine ⟨.netRPC, ?_, fun _ => rfl⟩
    dsimp only
    rw [(plugins_eq_none_of_keys hkeys).1]
    unfold setProtocol
    split <;> rfl
  · intro _
    rfl

/-- The set is always the one of the merged map, which has none where there is no version. -/
theorem resolved_protocolVersion_of_any (env : List ByteString)
    (order : RangeOrder Int64 PluginSet) :
    (protocolVersion opts env order setOrder).Resolved opts := by
  apply resolved_selectVersion
  intro hkeys
  obtain ⟨hplugins, hlookup⟩ := plugins_eq_none_of_keys hkeys
  rw [Served.Resolved]
  dsimp only
  rw [hplugins, hlookup]
  rfl

end

/-- Every two plugins that serve this set, both with a `GRPCServer` or both without, serve it over
    the same protocol, whatever else they have and were asked for. -/
def ProtocolDetermined (grpcServer : Bool) (set : PluginSet) : Prop :=
  ∀ (a b : ServeConfig) (env env' : List ByteString) (order order' : RangeOrder Int64 PluginSet)
    (setOrder setOrder' : Int64 → RangeOrder ByteString Plugin),
    a.grpcServer = grpcServer → b.grpcServer = grpcServer → a.UniformSets → b.UniformSets →
    SamePlugins (protocolVersion a env order setOrder).set set →
    SamePlugins (protocolVersion b env' order' setOrder').set set →
    (protocolVersion a env order setOrder).proto = (protocolVersion b env' order' setOrder').proto

/-- What a plugin serves of a set with plugins. -/
theorem proto_of_holds {opts : ServeConfig} (hserver : opts.grpcServer = true)
    (huniform : opts.UniformSets) (env : List ByteString) (order : RangeOrder Int64 PluginSet)
    (setOrder : Int64 → RangeOrder ByteString Plugin) {set : PluginSet}
    (hset : SamePlugins (protocolVersion opts env order setOrder).set set) {name : ByteString}
    {p : Plugin} (hp : Holds set name p) :
    (protocolVersion opts env order setOrder).proto = if p.grpc then .grpc else .netRPC := by
  obtain ⟨proto, hproto, -⟩ := spoken_protocolVersion opts setOrder env order
  have hresolved := resolved_protocolVersion_of_any opts setOrder env order
  obtain ⟨grpc, hgrpc⟩ := huniform (protocolVersion opts env order setOrder).version
  rw [← hresolved] at hgrpc
  have hserved := (hset name p).mpr hp
  rw [hproto, hserver, setProtocol_of_holds hserved hgrpc, hgrpc name p hserved]

/-- A plugin with one version, which has the set. -/
def serveOne (set : PluginSet) : ServeConfig where
  protocolVersion := 0
  magicCookieKey := []
  magicCookieValue := []
  plugins := none
  versionedPlugins := some (List.toAList [⟨1, set⟩])
  grpcServer := true
  tlsProvider := none

/-- A plugin that has a newer version as well, with gRPC plugins. -/
def serveTwo (set : PluginSet) : ServeConfig :=
  { serveOne set with versionedPlugins := some (List.toAList [⟨2, grpcPlugin⟩, ⟨1, set⟩]) }

theorem uniform_of_not_holds {set : PluginSet} (h : ∀ name p, ¬Holds set name p) :
    Uniform set :=
  ⟨false, fun name p hp => absurd hp (h name p)⟩

theorem uniform_grpcPlugin : Uniform grpcPlugin := by
  refine ⟨true, fun name p hp => ?_⟩
  rw [Holds, grpcPlugin, Option.getD_some, AList.lookup_to_alist] at hp
  cases List.mem_singleton.mp (List.of_mem_dlookup hp)
  rfl

/-- A configuration without `Plugins` is as uniform as the sets of its versions. -/
theorem uniformSets_of_forall {opts : ServeConfig} {l : List (Sigma fun _ : Int64 => PluginSet)}
    (hplugins : opts.plugins = none) (hversioned : opts.versionedPlugins = some l.toAList)
    (h : ∀ e ∈ l, Uniform e.2) : opts.UniformSets := by
  intro v
  have hlookup : opts.serveVersions.lookup v = l.dlookup v := by
    rw [PluginConfig.serveVersions, hplugins, hversioned, ← AList.lookup_to_alist]
    rfl
  rw [hlookup]
  cases hset : l.dlookup v with
  | none => exact uniform_of_not_holds fun name p hp => by cases hp
  | some set => exact h ⟨v, set⟩ (List.of_mem_dlookup hset)

theorem uniformSets_serveOne {set : PluginSet} (h : Uniform set) : (serveOne set).UniformSets :=
  uniformSets_of_forall rfl rfl (by simpa using h)

theorem uniformSets_serveTwo {set : PluginSet} (h : Uniform set) : (serveTwo set).UniformSets :=
  uniformSets_of_forall rfl rfl (by simpa using ⟨uniform_grpcPlugin, h⟩)

/-- Both serve the set to a host that does not ask for a version, the second one after it has
    seen gRPC plugins. -/
theorem protocolVersion_serveOne (set : PluginSet) :
    protocolVersion (serveOne set) [] .stored (fun _ => .stored) =
      ⟨1, setProtocol true .stored set .netRPC, set⟩ := by
  rfl

theorem protocolVersion_serveTwo (set : PluginSet) :
    protocolVersion (serveTwo set) [] .stored (fun _ => .stored) =
      ⟨1, setProtocol true .stored set .grpc, set⟩ := by
  rfl

theorem not_protocolDetermined {set : PluginSet} (h : ∀ name p, ¬Holds set name p) :
    ¬ProtocolDetermined true set := by
  intro hdetermined
  have huniform := uniform_of_not_holds h
  have heq := hdetermined (serveOne set) (serveTwo set) [] [] .stored .stored (fun _ => .stored)
    (fun _ => .stored) rfl rfl (uniformSets_serveOne huniform) (uniformSets_serveTwo huniform)
    (fun _ _ => by rw [protocolVersion_serveOne]) (fun _ _ => by rw [protocolVersion_serveTwo])
  rw [protocolVersion_serveOne, protocolVersion_serveTwo] at heq
  dsimp only at heq
  rw [setProtocol_of_not_holds h, setProtocol_of_not_holds h] at heq
  cases heq

/-- **When the plugin set determines the protocol.**  It does so where it has a plugin, and where
    there is no `GRPCServer`: then all plugins that serve the set do it over one protocol.  An
    empty set does not.  The set itself is always the one that is stored for the version. -/
theorem protocolDetermined_iff (grpcServer : Bool) (set : PluginSet) :
    (ProtocolDetermined grpcServer set ↔ (grpcServer = true → ∃ name p, Holds set name p)) ∧
    ∀ opts env order setOrder, (protocolVersion opts env order setOrder).Resolved opts := by
  refine ⟨⟨?_, ?_⟩, fun opts env order setOrder =>
    resolved_protocolVersion_of_any opts setOrder env order⟩
  · rintro hdetermined rfl
    by_contra hempty
    exact not_protocolDetermined (fun name p hp => hempty ⟨name, p, hp⟩) hdetermined
  · intro hplugin a b env env' order order' setOrder setOrder' ha hb huniform huniform' hset hset'
    cases grpcServer with
    | false =>
        rw [(spoken_protocolVersion a setOrder env order).netRPC ha,
          (spoken_protocolVersion b setOrder' env' order').netRPC hb]
    | true =>
        obtain ⟨name, p, hp⟩ := hplugin rfl
        rw [proto_of_holds ha huniform env order setOrder hset hp,
          proto_of_holds hb huniform' env' order' setOrder' hset' hp]

/-- The same empty set, over both protocols. -/
theorem empty_set_served_over_both :
    let one := protocolVersion (serveOne (some ∅)) [] .stored fun _ => .stored
    let two := protocolVersion (serveTwo (some ∅)) [] .stored fun _ => .stored
    (serveOne (some ∅)).grpcServer = (serveTwo (some ∅)).grpcServer ∧
      (serveOne (some ∅)).UniformSets ∧ (serveTwo (some ∅)).UniformSets ∧
      one.set = some ∅ ∧ two.set = some ∅ ∧ one.proto = .netRPC ∧ two.proto = .grpc := by
  have huniform : Uniform (some ∅) := uniform_of_not_holds fun name p hp => by cases hp
  exact ⟨rfl, uniformSets_serveOne huniform, uniformSets_serveTwo huniform, rfl, rfl, rfl, rfl⟩

end GoPlugin
