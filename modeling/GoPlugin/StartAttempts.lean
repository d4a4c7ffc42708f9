import GoPlugin.Handshake
import GoPlugin.LabelledSystem

/-!
# Repeated starts from one configuration

`NewClient` keeps the pointer to its `ClientConfig`, and `Start` writes to it: first the merged
`VersionedPlugins`, and then, once the version is negotiated, the chosen set in `Plugins`.  A
later attempt, of the same client or of another one, reads what is left.

What a configuration is for: the versions that it was supplied with, each with its set.
-/

namespace GoPlugin

open ByteString Environ GoMap LabelledSystem

/-! ### One attempt -/

/-- The part of the handshake that ends with the negotiated version. -/
def negotiate (c : ClientConfig) (order : RangeOrder Int64 PluginSet) (line : ByteString)
    (read : Bool) : Outcome (Int64 × PluginSet) :=
  match split bar (trimSpace line) with
  | core :: version :: _ :: _ :: _ => (checkCore core).bind fun _ => checkVersion c order version
  | _ => .error (.unrecognized (trimSpace line) read)

/-- `negotiate` on what the plugin wrote to its standard output. -/
def negotiateOn (c : ClientConfig) (order : RangeOrder Int64 PluginSet) (stdout : ByteString) :
    Outcome (Int64 × PluginSet) :=
  match scanLine stdout with
  | some line => negotiate c order line true
  | none => negotiate c order [] false

/-- What one launch brings: the order in which maps are visited, the runner, and the plugin's
    output.  There is none where `Start` ends before it receives from the scanner: a step
    before the launch failed, the runner did not start, or the time was up. -/
structure Attempt where
  order : RangeOrder Int64 PluginSet
  deps : HandshakeDeps
  stdout : Option ByteString

/-- What `Start` leaves in the fields that negotiation reads. -/
def ClientConfig.leftBy (c : ClientConfig) (a : Attempt) : ClientConfig :=
  let merged := { c with versionedPlugins := some c.startVersions }
  match a.stdout with
  | none => merged
  | some stdout =>
      match negotiateOn c a.order stdout with
      | .ok (_, set) => { merged with plugins := set }
      | _ => merged

/-- Whether `Start` succeeds. -/
def Attempt.succeeds (a : Attempt) (c : ClientConfig) : Bool :=
  match a.stdout with
  | none => false
  | some stdout =>
      match handshakeOn c a.order a.deps stdout with
      | .ok _ => true
      | _ => false

/-! ### Clients of one configuration -/

/-- The configuration, and for every client whether it has an address. -/
structure Clients where
  config : ClientConfig
  started : List Bool

inductive ClientsAct where
  | newClient
  | start (i : Nat) (a : Attempt)

namespace Clients

def init (c : ClientConfig) : Clients := ⟨c, []⟩

/-- `Start` of a client that has an address returns it. -/
def step (s : Clients) : ClientsAct → Option Clients
  | .newClient => some { s with started := s.started ++ [false] }
  | .start i a =>
      match s.started[i]? with
      | none => none
      | some true => some s
      | some false =>
          some { config := s.config.leftBy a, started := s.started.set i (a.succeeds s.config) }

end Clients

/-- What an attempt with `d` advertises and accepts is what `c` was supplied with. -/
structure Offers (c d : ClientConfig) : Prop where
  advertises : ∀ hostEnv order certPEM socketDir,
    advertised (getenv (d.startEnv hostEnv order certPEM socketDir) envProtocolVersions) =
      c.supplied
  maps : ∀ order, ∀ v ∈ c.supplied, ∃ set ∈ (c.versionedSet v).or (c.legacySet v),
    checkProtoVersion d order (itoa v) = .ok (v, set)

/-- `ProtocolVersion` is one of the versions, or no version has a set. -/
def PluginConfig.Settled (c : PluginConfig) : Prop :=
  c.version ∈ c.supplied ∨ ∀ e ∈ (c.versionedPlugins.getD ∅).entries, e.2 = none

instance decidableSettled (c : PluginConfig) : Decidable c.Settled :=
  decidable_of_iff (c.version ∈ c.startVersions ∨
    ∀ e ∈ (c.versionedPlugins.getD ∅).entries, e.2 = none)
    (or_congr_left PluginConfig.mem_startVersions)

/-! ### Attempts preserve what is offered -/

theorem offers_of_startVersions {c d : ClientConfig}
    (h : d.startVersions = c.startVersions) : Offers c d where
  advertises hostEnv order certPEM socketDir := by
    rw [ClientConfig.getenv_startEnv_versions, advertised_versionString]
    ext v
    rw [← PluginConfig.mem_startVersions, h, PluginConfig.mem_startVersions]
  maps order v hv := by
    have hmem : v ∈ d.supplied := by
      rw [← PluginConfig.mem_startVersions, h, PluginConfig.mem_startVersions]
      exact hv
    obtain ⟨set, hset, hcheck⟩ := checkProtoVersion_of_mem order hmem
    rw [h, PluginConfig.lookup_startVersions] at hset
    exact ⟨set, hset, hcheck⟩

theorem lookup_of_negotiate {c : ClientConfig} {order : RangeOrder Int64 PluginSet}
    {line : ByteString} {read : Bool} {v : Int64} {set : PluginSet}
    (h : negotiate c order line read = .ok (v, set)) : c.startVersions.lookup v = some set := by
  unfold negotiate at h
  split at h
  · obtain ⟨_, -, hversion⟩ := Outcome.bind_eq_ok.mp h
    unfold checkVersion at hversion
    split at hversion
    · next hcheck =>
        cases hversion
        exact (lookup_of_checkProtoVersion hcheck).2
    · cases hversion
  · cases h

theorem lookup_of_negotiateOn {c : ClientConfig} {order : RangeOrder Int64 PluginSet}
    {stdout : ByteString} {v : Int64} {set : PluginSet}
    (h : negotiateOn c order stdout = .ok (v, set)) : c.startVersions.lookup v = some set := by
  unfold negotiateOn at h
  split at h <;> exact lookup_of_negotiate h

/-- An attempt leaves the merged map, and `Plugins` as it was or a set of the map. -/
theorem leftBy_eq (c : ClientConfig) (a : Attempt) :
    ∃ set, c.leftBy a = { c with plugins := set, versionedPlugins := some c.startVersions } ∧
      (set = c.plugins ∨ ∃ v, c.startVersions.lookup v = some set) := by
  unfold ClientConfig.leftBy
  dsimp only
  split
  · exact ⟨_, rfl, Or.inl rfl⟩
  · split
    · next hok => exact ⟨_, rfl, Or.inr ⟨_, lookup_of_negotiateOn hok⟩⟩
    · exact ⟨_, rfl, Or.inl rfl⟩

/-- `ProtocolVersion` is only missing where there is nothing to be merged. -/
theorem startVersions_of_notMem {c : PluginConfig} (h : c.version ∉ c.supplied) :
    c.plugins = none ∧ c.startVersions = c.versionedPlugins.getD ∅ := by
  have hnone : c.plugins = none := by
    by_contra hne
    exact h (Or.inr ⟨Option.isSome_iff_ne_none.mpr hne, rfl⟩)
  refine ⟨hnone, if_neg fun hmerge => ?_⟩
  rw [hnone] at hmerge
  cases hmerge.2

/-- Merging again changes nothing where `ProtocolVersion` is there, or nothing to be put in
    its place. -/
theorem startVersions_merged {c : PluginConfig} {set : PluginSet}
    (h : c.version ∈ c.supplied ∨ set = none) :
    PluginConfig.startVersions
      { c with plugins := set, versionedPlugins := some c.startVersions } = c.startVersions := by
  refine if_neg fun hmerge => ?_
  rcases h with hmem | rfl
  · exact hmerge.1 (PluginConfig.mem_startVersions.mpr hmem)
  · cases hmerge.2

theorem startVersions_leftBy {c : ClientConfig} (h : c.Settled) (a : Attempt) :
    (c.leftBy a).startVersions = c.startVersions ∧ (c.leftBy a).Settled := by
  obtain ⟨set, hleft, hset⟩ := leftBy_eq c a
  rw [hleft]
  by_cases hmem : c.version ∈ c.supplied
  · have hsame : PluginConfig.startVersions
        { c.toPluginConfig with plugins := set, versionedPlugins := some c.startVersions } =
          c.startVersions := startVersions_merged (Or.inl hmem)
    refine ⟨hsame, Or.inl ?_⟩
    rw [← PluginConfig.mem_startVersions, hsame, PluginConfig.mem_startVersions]
    exact hmem
  · obtain ⟨hplugins, hversions⟩ := startVersions_of_notMem hmem
    have hnil := h.resolve_left hmem
    rw [← hversions] at hnil
    have hnone : set = none := by
      rcases hset with rfl | ⟨v, hlookup⟩
      · exact hplugins
      · exact hnil _ (AList.mem_lookup_iff.mp hlookup)
    exact ⟨startVersions_merged (Or.inr hnone), Or.inr hnil⟩

/-- A step leaves the map that is advertised, from a settled configuration. -/
theorem startVersions_step {s s' : Clients} {a : ClientsAct} (h : Clients.step s a = some s')
    (hs : s.config.Settled) :
    s'.config.startVersions = s.config.startVersions ∧ s'.config.Settled := by
  cases a with
  | newClient =>
      cases h
      exact ⟨rfl, hs⟩
  | start i a =>
      simp only [Clients.step] at h
      split at h
      · cases h
      · cases h
        exact ⟨rfl, hs⟩
      · cases h
        exact startVersions_leftBy hs a

theorem startVersions_exec {c : ClientConfig} (hc : c.Settled) {as : List ClientsAct} {s : Clients}
    (h : exec Clients.step (Clients.init c) as = some s) :
    s.config.startVersions = c.startVersions := by
  have hstep : ∀ (t : Clients) a t',
      (t.config.startVersions = c.startVersions ∧ t.config.Settled) → Clients.step t a = some t' →
      t'.config.startVersions = c.startVersions ∧ t'.config.Settled := by
    intro t a t' ht hstep
    obtain ⟨hsame, hsettled⟩ := startVersions_step hstep ht.2
    exact ⟨hsame.trans ht.1, hsettled⟩
  have hend := exec_invariant_of_step hstep ⟨rfl, hc⟩ h
  exact hend.1

/-! ### Where they do not -/

/-- A plugin's line that names a version. -/
def lineOf (v : Int64) : ByteString :=
  itoa coreProtocolVersion ++ bar :: (itoa v ++ bar :: (Network.tcp.text ++ bar :: ascii ":1\n"))

theorem scanLine_lineOf (v : Int64) : ∃ line, scanLine (lineOf v) = some line := by
  have hlen : (lineOf v).length < maxScanTokenSize := by
    have hv := length_itoa_le v
    have hcore : (itoa coreProtocolVersion).length = 1 := by decide
    have hrest : (Network.tcp.text ++ bar :: ascii ":1\n").length = 7 := by decide
    simp only [lineOf, List.length_append, List.length_cons, hcore, maxScanTokenSize] at hrest ⊢
    omega
  have hfirst : (firstLine (lineOf v)).length ≤ (lineOf v).length :=
    (List.takeWhile_sublist _).length_le
  refine ⟨_, if_pos ⟨?_, Nat.lt_of_le_of_lt hfirst hlen⟩⟩
  simp [lineOf]

theorem fields_lineOf (v : Int64) :
    fields (lineOf v) = [itoa coreProtocolVersion, itoa v, Network.tcp.text, ascii ":1"] := by
  have hitoa : ∀ c : UInt8, ¬(c = 45 ∨ (48 ≤ c.toNat ∧ c.toNat ≤ 57)) → c ∉ itoa v :=
    fun c hc hmem => hc (mem_itoa hmem)
  rw [lineOf, fields_append (by decide), fields_append (hitoa _ (by decide)),
    fields_append (by decide), split_of_notMem (hitoa _ (by decide))]
  have hcore : split bar (itoa coreProtocolVersion) = [itoa coreProtocolVersion] := by decide
  have hrest : split bar Network.tcp.text ++ fields (ascii ":1\n") =
      [Network.tcp.text, ascii ":1"] := by decide
  rw [hcore, hrest]
  rfl

/-- Such a line is enough for the negotiation. -/
theorem negotiateOn_lineOf {c : ClientConfig} (order : RangeOrder Int64 PluginSet) {v : Int64}
    (hv : v ∈ c.supplied) :
    ∃ set, c.startVersions.lookup v = some set ∧
      negotiateOn c order (lineOf v) = .ok (v, set) := by
  obtain ⟨set, hset, hcheck⟩ := checkProtoVersion_of_mem order hv
  obtain ⟨line, hline⟩ := scanLine_lineOf v
  have hstdout : ∃ d s, lineOf v = d :: s ∧ printable d := ⟨49, _, rfl, by decide⟩
  have hsplit := split_trimSpace_of_scanLine hstdout hline
  rw [fields_lineOf] at hsplit
  have hcore : checkCore (itoa coreProtocolVersion) = .ok () := by decide
  refine ⟨set, hset, ?_⟩
  simp only [negotiateOn, hline, negotiate, hsplit, hcore, Outcome.bind, checkVersion, hcheck]

/-- From a configuration that is not settled, one negotiation adds a version. -/
theorem exists_not_offers {c : ClientConfig} (h : ¬c.Settled) :
    ∃ as s, exec Clients.step (Clients.init c) as = some s ∧ ¬Offers c s.config := by
  obtain ⟨hversion, hsets⟩ := not_or.mp h
  obtain ⟨⟨v, set⟩, hentry, hset⟩ : ∃ e ∈ (c.versionedPlugins.getD ∅).entries, e.2 ≠ none := by
    simpa using hsets
  obtain ⟨-, hversions⟩ := startVersions_of_notMem hversion
  have hlookup : c.startVersions.lookup v = some set := by
    rw [hversions]
    exact AList.mem_lookup_iff.mpr hentry
  have hv : v ∈ c.supplied :=
    PluginConfig.mem_startVersions.mp (AList.lookup_isSome.mp (by simp [hlookup]))
  obtain ⟨set', hlookup', hok⟩ := negotiateOn_lineOf .stored hv
  rw [hlookup, Option.some.injEq] at hlookup'
  subst hlookup'
  let a : Attempt := ⟨.stored, ⟨fun n a => some (n, a), fun _ a => some a, some⟩, some (lineOf v)⟩
  refine ⟨[.newClient, .start 0 a], _, rfl, fun hoffers => hversion ?_⟩
  have hleft : c.leftBy a =
      { c with plugins := set, versionedPlugins := some c.startVersions } := by
    simp only [ClientConfig.leftBy, a, hok]
  have hadv := hoffers.advertises [] .stored [] []
  rw [ClientConfig.getenv_startEnv_versions, advertised_versionString] at hadv
  rw [← hadv]
  refine Or.inr ⟨?_, ?_⟩
  · change (c.leftBy a).plugins.isSome = true
    rw [hleft]
    exact Option.isSome_iff_ne_none.mpr hset
  · change c.version = (c.leftBy a).version
    rw [hleft]
    rfl

/-- **When starts do not change what later ones negotiate.**  Over all sequences of attempts,
    whatever their outcomes, every attempt offers what the configuration was supplied with
    exactly where `ProtocolVersion` is one of its versions, or none of them has a set. -/
theorem attempts_offer_iff (c : ClientConfig) :
    (∀ as s, exec Clients.step (Clients.init c) as = some s → Offers c s.config) ↔ c.Settled := by
  constructor
  · intro hoffers
    by_contra hnot
    obtain ⟨as, s, hrun, hno⟩ := exists_not_offers hnot
    exact hno (hoffers as s hrun)
  · intro hc as s hrun
    exact offers_of_startVersions (startVersions_exec hc hrun)

theorem attempts_offer_iff_versionZero :
    ∀ as s, exec Clients.step (Clients.init hostVersionZero) as = some s →
      Offers hostVersionZero s.config :=
  (attempts_offer_iff hostVersionZero).mpr (by decide)

/-- The host with the versions 2 and 3, with a `RunnerFunc`. -/
def runnerTwoThree : ClientConfig := { hostTwoThree with launch := .runner }

/-- A start of version 3, with `Plugins` and `ProtocolVersion` left empty. -/
def startThree : List ClientsAct :=
  [.newClient, .start 0 ⟨.stored, ⟨fun n a => some (n, a), fun _ a => some a, some⟩,
    some (ascii "1|3|tcp|:1\n")⟩]

/-- After it, `PLUGIN_PROTOCOL_VERSIONS` has a version 0 that nobody supplied. -/
theorem startThree_advertises_zero :
    ∃ s, exec Clients.step (Clients.init runnerTwoThree) startThree = some s ∧
      s.started = [true] ∧ 0 ∈ s.config.startVersions ∧ 0 ∉ runnerTwoThree.startVersions :=
  ⟨_, rfl, by rfl, by decide, by decide⟩

end GoPlugin
