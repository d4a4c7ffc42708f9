import GoPlugin.Config
import Mathlib.Data.List.Sort
import Mathlib.Order.Bounds.Defs

/-!
# Version negotiation

The host tells the plugin in `PLUGIN_PROTOCOL_VERSIONS` which versions it has plugins for,
the plugin's `protocolVersion` picks one, and the host's `checkProtoVersion` looks up what
the plugin printed.  What this is for: both sides end up with the greatest version that
both of them have, whatever the order in which maps are visited.
-/

namespace GoPlugin

open ByteString Environ GoMap

/-! ### Scanning a descending list -/

universe u

/-- The first entry that `p` accepts, or else the last one that was seen. -/
def firstOrLast {α : Type u} (p : α → Bool) : List α → α → α
  | [], cur => cur
  | a :: l, _ => if p a then a else firstOrLast p l a

section Scan

variable {α : Type u} [LE α] (hrefl : ∀ a : α, a ≤ a) {p : α → Bool}

include hrefl

theorem firstOrLast_isGreatest {l : List α} (h : l.Pairwise fun x y => y ≤ x) (cur : α)
    (hne : ∃ a ∈ l, p a = true) : IsGreatest {a | a ∈ l ∧ p a = true} (firstOrLast p l cur) := by
  induction l generalizing cur with
  | nil => simp at hne
  | cons a l ih =>
      rw [List.pairwise_cons] at h
      unfold firstOrLast
      split
      · next ha =>
          refine ⟨⟨List.mem_cons_self, ha⟩, ?_⟩
          rintro x ⟨hx, -⟩
          rcases List.mem_cons.mp hx with rfl | hx
          · exact hrefl x
          · exact h.1 x hx
      · next ha =>
          have hrest : ∃ b ∈ l, p b = true := by simpa [ha] using hne
          obtain ⟨⟨hmem, hp⟩, hup⟩ := ih h.2 a hrest
          refine ⟨⟨List.mem_cons_of_mem a hmem, hp⟩, ?_⟩
          rintro x ⟨hx, hpx⟩
          rcases List.mem_cons.mp hx with rfl | hx
          · exact absurd hpx ha
          · exact hup ⟨hx, hpx⟩

theorem firstOrLast_isLeast {l : List α} (h : l.Pairwise fun x y => y ≤ x) (cur : α)
    (hnone : ∀ a ∈ l, p a = false) (hne : l ≠ []) :
    IsLeast {a | a ∈ l} (firstOrLast p l cur) := by
  induction l generalizing cur with
  | nil => exact absurd rfl hne
  | cons a l ih =>
      rw [List.pairwise_cons] at h
      have ha := hnone a List.mem_cons_self
      simp only [firstOrLast, ha, Bool.false_eq_true, if_false]
      by_cases hl : l = []
      · subst hl
        refine ⟨List.mem_cons_self, ?_⟩
        rintro x hx
        rw [List.mem_singleton.mp hx]
        exact hrefl a
      · obtain ⟨hmem, hlow⟩ := ih h.2 a (fun b hb => hnone b (List.mem_cons_of_mem a hb)) hl
        refine ⟨List.mem_cons_of_mem a hmem, ?_⟩
        rintro x hx
        rcases List.mem_cons.mp hx with rfl | hx
        · exact h.1 _ hmem
        · exact hlow hx

end Scan

/-- `sort.Sort(sort.Reverse(sort.IntSlice(l)))`. -/
def descending (l : List Int64) : List Int64 := l.insertionSort fun a b => b ≤ a

instance totalInt64 : Std.Total fun a b : Int64 => b ≤ a :=
  ⟨fun a b => by simp only [Int64.le_iff_toInt_le]; omega⟩

instance isTransInt64 : IsTrans Int64 fun a b => b ≤ a :=
  ⟨fun a b c hab hbc => by simp only [Int64.le_iff_toInt_le] at *; omega⟩

theorem pairwise_descending (l : List Int64) : (descending l).Pairwise fun a b => b ≤ a :=
  List.pairwise_insertionSort _ l

@[simp] theorem mem_descending {v : Int64} {l : List Int64} : v ∈ descending l ↔ v ∈ l :=
  List.mem_insertionSort _

/-! ### The plugin's choice -/

/-- The entries of `PLUGIN_PROTOCOL_VERSIONS` that are numbers; the others are skipped. -/
def parseVersions (vs : ByteString) : List Int64 :=
  if vs = [] then [] else (split comma vs).filterMap atoi

/-- What `protocolVersion` returns. -/
structure Served where
  version : Int64
  proto : Protocol
  set : PluginSet

/-- The protocol of a plugin set: that of the first plugin that `range` visits.  It stays as
    it is without a `GRPCServer`, and where the set is empty. -/
def setProtocol (grpcServer : Bool) (order : RangeOrder ByteString Plugin) (set : PluginSet)
    (proto : Protocol) : Protocol :=
  if grpcServer then
    match set with
    | none => proto
    | some m =>
        match order.order m with
        | [] => proto
        | ⟨_, p⟩ :: _ => if p.grpc then .grpc else .netRPC
  else proto

/-- The loop of `protocolVersion` over the versions.  What the last round recorded is what
    is served when no version matches. -/
def selectVersion (opts : ServeConfig) (setOrder : Int64 → RangeOrder ByteString Plugin)
    (clientVersions : List Int64) : List Int64 → Served → Served
  | [], cur => cur
  | v :: versions, cur =>
      let set := (opts.serveVersions.lookup v).getD none
      let next : Served := ⟨v, setProtocol opts.grpcServer (setOrder v) set cur.proto, set⟩
      if clientVersions.contains v then next
      else selectVersion opts setOrder clientVersions versions next

/-- `protocolVersion`. -/
def protocolVersion (opts : ServeConfig) (env : List ByteString)
    (order : RangeOrder Int64 PluginSet) (setOrder : Int64 → RangeOrder ByteString Plugin) :
    Served :=
  let clientVersions := descending (parseVersions (getenv env envProtocolVersions))
  let versions := descending (order.keys opts.serveVersions)
  selectVersion opts setOrder clientVersions versions ⟨opts.version, .netRPC, opts.plugins⟩

/-- The versions that an arbitrary `PLUGIN_PROTOCOL_VERSIONS` asks for. -/
def advertised (vs : ByteString) : Set Int64 := {v | ∃ p ∈ split comma vs, atoi p = some v}

theorem mem_parseVersions {vs : ByteString} {v : Int64} :
    v ∈ parseVersions vs ↔ v ∈ advertised vs := by
  unfold parseVersions advertised
  split
  · next h =>
      subst h
      simp [split, atoi, parseInt, parseUint]
  · simp

theorem version_selectVersion (opts : ServeConfig)
    (setOrder : Int64 → RangeOrder ByteString Plugin) (clientVersions versions : List Int64)
    (cur : Served) :
    (selectVersion opts setOrder clientVersions versions cur).version =
      firstOrLast clientVersions.contains versions cur.version := by
  induction versions generalizing cur with
  | nil => rfl
  | cons v versions ih =>
      simp only [selectVersion, firstOrLast]
      split
      · rfl
      · exact ih _

section Choice

variable (opts : ServeConfig) (env : List ByteString) (order : RangeOrder Int64 PluginSet)
  (setOrder : Int64 → RangeOrder ByteString Plugin)

theorem version_protocolVersion :
    (protocolVersion opts env order setOrder).version =
      firstOrLast (descending (parseVersions (getenv env envProtocolVersions))).contains
        (descending (order.keys opts.serveVersions)) opts.version :=
  version_selectVersion opts setOrder _ _ _

theorem mem_descending_keys {v : Int64} :
    v ∈ descending (order.keys opts.serveVersions) ↔ v ∈ opts.supplied := by
  rw [mem_descending, RangeOrder.mem_keys, PluginConfig.mem_serveVersions]

theorem contains_descending {v : Int64} {vs : ByteString} :
    (descending (parseVersions vs)).contains v = true ↔ v ∈ advertised vs := by
  rw [List.contains_iff_mem, mem_descending, mem_parseVersions]

/-- The plugin serves the greatest version that it has and that was asked for. -/
theorem protocolVersion_isGreatest
    (h : (opts.supplied ∩ advertised (getenv env envProtocolVersions)).Nonempty) :
    IsGreatest (opts.supplied ∩ advertised (getenv env envProtocolVersions))
      (protocolVersion opts env order setOrder).version := by
  obtain ⟨v, hv, hasked⟩ := h
  have hmax := firstOrLast_isGreatest (fun a => Int64.le_iff_toInt_le.mpr (Int.le_refl _))
    (pairwise_descending (order.keys opts.serveVersions)) opts.version
    ⟨v, (mem_descending_keys opts order).mpr hv, contains_descending.mpr hasked⟩
  rw [version_protocolVersion]
  convert hmax using 1
  ext w
  exact and_congr (mem_descending_keys opts order).symm contains_descending.symm

/-- If there is no such version, it serves its least one. -/
theorem protocolVersion_isLeast (hsupplied : opts.supplied.Nonempty)
    (h : opts.supplied ∩ advertised (getenv env envProtocolVersions) = ∅) :
    IsLeast opts.supplied (protocolVersion opts env order setOrder).version := by
  have hnone : ∀ v ∈ descending (order.keys opts.serveVersions),
      (descending (parseVersions (getenv env envProtocolVersions))).contains v = false := by
    intro v hv
    by_contra hasked
    have hmem : v ∈ opts.supplied ∩ advertised (getenv env envProtocolVersions) :=
      ⟨(mem_descending_keys opts order).mp hv, contains_descending.mp (by simpa using hasked)⟩
    rw [h] at hmem
    exact hmem
  have hne : descending (order.keys opts.serveVersions) ≠ [] := by
    obtain ⟨v, hv⟩ := hsupplied
    exact List.ne_nil_of_mem ((mem_descending_keys opts order).mpr hv)
  have hmin := firstOrLast_isLeast (fun a => Int64.le_iff_toInt_le.mpr (Int.le_refl _))
    (pairwise_descending (order.keys opts.serveVersions)) opts.version hnone hne
  rw [version_protocolVersion]
  convert hmin using 1
  ext w
  exact (mem_descending_keys opts order).symm

end Choice

/-! ### The host's check -/

/-- How `checkProtoVersion` fails: the field is not a number, or the version is not among
    the client's, which the message lists in the order in which they were visited. -/
inductive ProtoVersionError where
  | parse (field : ByteString)
  | incompatible (serverVersion : Int64) (clientVersions : List Int64)
deriving DecidableEq, Repr

/-- `checkProtoVersion`, after `Start` has completed `VersionedPlugins`. -/
def checkProtoVersion (c : ClientConfig) (order : RangeOrder Int64 PluginSet)
    (protoVersion : ByteString) : Except ProtoVersionError (Int64 × PluginSet) :=
  match atoi protoVersion with
  | none => .error (.parse protoVersion)
  | some serverVersion =>
      match (order.order c.startVersions).find? fun e => serverVersion == e.1 with
      | some ⟨version, plugins⟩ => .ok (version, plugins)
      | none => .error (.incompatible serverVersion (order.keys c.startVersions))

section Check

variable {c : ClientConfig} (order : RangeOrder Int64 PluginSet) {v : Int64}

theorem checkProtoVersion_of_atoi {field : ByteString} (hfield : atoi field = some v)
    (h : v ∈ c.supplied) :
    ∃ set, c.startVersions.lookup v = some set ∧
      checkProtoVersion c order field = .ok (v, set) := by
  rw [← PluginConfig.mem_startVersions] at h
  obtain ⟨set, hset⟩ := Option.isSome_iff_exists.mp (AList.lookup_isSome.mpr h)
  refine ⟨set, hset, ?_⟩
  cases hfind : (order.order c.startVersions).find? fun e => v == e.1 with
  | none =>
      have hnot := List.find?_eq_none.mp hfind _ (order.mem_order.mpr hset)
      simp at hnot
  | some e =>
      -- the keys of a map are different, so the entry found is the one of `v`
      have hkey : v = e.1 := by simpa using List.find?_some hfind
      have hentry := order.mem_order.mp (List.mem_of_find?_eq_some hfind)
      rw [← hkey, hset] at hentry
      simp only [checkProtoVersion, hfield, hfind, ← hkey, Option.some.inj hentry]

theorem checkProtoVersion_of_mem (h : v ∈ c.supplied) :
    ∃ set, c.startVersions.lookup v = some set ∧
      checkProtoVersion c order (itoa v) = .ok (v, set) :=
  checkProtoVersion_of_atoi order (atoi_itoa v) h

theorem checkProtoVersion_of_notMem (h : v ∉ c.supplied) :
    checkProtoVersion c order (itoa v) =
      .error (.incompatible v (order.keys c.startVersions)) := by
  have hfind : ((order.order c.startVersions).find? fun e => v == e.1) = none := by
    refine List.find?_eq_none.mpr fun e he => ?_
    rintro heq
    have hkey : v = e.1 := by simpa using heq
    refine h (PluginConfig.mem_startVersions.mp ?_)
    rw [← order.mem_keys, hkey]
    exact List.mem_map_of_mem he
  simp only [checkProtoVersion, atoi_itoa, hfind]

end Check

/-! ### The exchange -/

/-- The plugin reads the host's versions back. -/
theorem advertised_versionString (c : ClientConfig) (order : RangeOrder Int64 PluginSet) :
    advertised (c.versionString order) = c.supplied := by
  have hkeys : ∀ v, v ∈ order.keys c.startVersions ↔ v ∈ c.supplied := fun v => by
    rw [order.mem_keys, PluginConfig.mem_startVersions]
  have hcomma : ∀ p ∈ (order.keys c.startVersions).map itoa, comma ∉ p := by
    intro p hp hmem
    obtain ⟨v, -, rfl⟩ := List.mem_map.mp hp
    rcases mem_itoa hmem with heq | hdigit
    · revert heq
      decide
    · revert hdigit
      decide
  ext v
  rw [← hkeys v]
  by_cases hne : (order.keys c.startVersions).map itoa = []
  · have hnil : order.keys c.startVersions = [] := List.map_eq_nil_iff.mp hne
    simp [ClientConfig.versionString, hnil, advertised, join, split, atoi, parseInt, parseUint]
  · have hsplit := split_join hcomma hne
    rw [ClientConfig.versionString]
    simp only [advertised, hsplit, Set.mem_ofPred_eq, List.mem_map]
    constructor
    · rintro ⟨_, ⟨w, hw, rfl⟩, hatoi⟩
      rw [atoi_itoa] at hatoi
      exact Option.some.inj hatoi ▸ hw
    · exact fun hv => ⟨itoa v, ⟨v, hv, rfl⟩, atoi_itoa v⟩

/-- **Both sides agree on the greatest common version.**  Whatever the order in which the
    maps are visited, the version that the plugin picks from what `Start` wrote is the
    greatest one that both have, and the host accepts it; without a common version the host
    refuses.  From any other environment the plugin picks the greatest of its versions that
    it was asked for, or else its least one. -/
theorem negotiated_version_isGreatest (c : ClientConfig) (s : ServeConfig)
    (hs : s.supplied.Nonempty) (hostEnv : List ByteString) (certPEM socketDir : ByteString)
    (startOrder serveOrder checkOrder : RangeOrder Int64 PluginSet)
    (setOrder : Int64 → RangeOrder ByteString Plugin) :
    let served := protocolVersion s (c.startEnv hostEnv startOrder certPEM socketDir)
      serveOrder setOrder
    let checked := checkProtoVersion c checkOrder (itoa served.version)
    ((c.supplied ∩ s.supplied).Nonempty →
      IsGreatest (c.supplied ∩ s.supplied) served.version ∧
        ∃ set, checked = .ok (served.version, set)) ∧
    (c.supplied ∩ s.supplied = ∅ → ∃ e, checked = .error e) ∧
    ∀ env, let common := s.supplied ∩ advertised (getenv env envProtocolVersions)
      let v := (protocolVersion s env serveOrder setOrder).version
      (common.Nonempty → IsGreatest common v) ∧ (common = ∅ → IsLeast s.supplied v) := by
  intro served checked
  have hread : s.supplied ∩ advertised (getenv (c.startEnv hostEnv startOrder certPEM socketDir)
      envProtocolVersions) = c.supplied ∩ s.supplied := by
    rw [ClientConfig.getenv_startEnv_versions, advertised_versionString, Set.inter_comm]
  refine ⟨fun hne => ?_, fun hempty => ?_, fun env => ⟨fun hne => ?_, fun hempty => ?_⟩⟩
  · have hmax := protocolVersion_isGreatest s _ serveOrder setOrder (hread ▸ hne)
    rw [hread] at hmax
    obtain ⟨set, -, hok⟩ := checkProtoVersion_of_mem checkOrder hmax.1.1
    exact ⟨hmax, set, hok⟩
  · have hmin := protocolVersion_isLeast s _ serveOrder setOrder hs (hread.trans hempty)
    refine ⟨_, checkProtoVersion_of_notMem checkOrder fun hmem => ?_⟩
    have hboth : served.version ∈ c.supplied ∩ s.supplied := ⟨hmem, hmin.1⟩
    rw [hempty] at hboth
    exact hboth
  · exact protocolVersion_isGreatest s env serveOrder setOrder hne
  · exact protocolVersion_isLeast s env serveOrder setOrder hs hempty

/-- A host with plugins for the versions 2 and 3. -/
def hostTwoThree : ClientConfig where
  protocolVersion := 0
  magicCookieKey := ascii "COOKIE"
  magicCookieValue := ascii "chocolate"
  plugins := none
  versionedPlugins := some (List.toAList [⟨2, some ∅⟩, ⟨3, some ∅⟩])
  launch := .cmd []
  minPort := 10000
  maxPort := 25000
  grpcBrokerMultiplex := false
  skipHostEnv := false
  autoMTLS := false
  tlsConfig := false
  unixSocketGroup := []
  allowedProtocols := [Protocol.netRPC.text, Protocol.grpc.text]

/-- A plugin with the versions 3 and 4, and `Plugins` for version 1. -/
def pluginOneThreeFour : ServeConfig where
  protocolVersion := 1
  magicCookieKey := ascii "COOKIE"
  magicCookieValue := ascii "chocolate"
  plugins := some ∅
  versionedPlugins := some (List.toAList [⟨3, some ∅⟩, ⟨4, some ∅⟩])
  grpcServer := false
  tlsProvider := none

theorem negotiated_version_isGreatest_three :
    let served := protocolVersion pluginOneThreeFour
      (hostTwoThree.startEnv [ascii "HOME=/root"] .stored [] []) .stored fun _ => .stored
    served.version = 3 ∧
      IsGreatest (hostTwoThree.supplied ∩ pluginOneThreeFour.supplied) served.version :=
  have hhost : 3 ∈ hostTwoThree.supplied := PluginConfig.mem_startVersions.mp (by decide)
  have hplugin : 3 ∈ pluginOneThreeFour.supplied := PluginConfig.mem_serveVersions.mp (by decide)
  ⟨by decide, ((negotiated_version_isGreatest hostTwoThree pluginOneThreeFour ⟨3, hplugin⟩
    [ascii "HOME=/root"] [] [] .stored .stored .stored fun _ => .stored).1 ⟨3, hhost, hplugin⟩).1⟩

end GoPlugin
