import GoPlugin.GRPCMuxRouting

/-!
# Streams from the plugin to the host

`GRPCClientMuxer.AcceptKnock` puts a token into the `waitCh` of one listener, and an
`Accept` call that has taken it returns whatever stream the session delivers next.
Nothing makes `AcceptKnock` wait for the stream of the previous knock, as `knockCh` does
on the plugin.  So several listeners can hold tokens, and the order in which their gRPC
servers get to `session.Accept` decides who gets which stream.
-/

namespace GoPlugin

open Tally PendingTable LabelledSystem

/-! ### Wait tokens -/

/-- The listener's `waitCh` has a token for `id`, as a count. -/
def ClientListener.holds (id : UInt32) (l : ClientListener) : Nat :=
  if l.waitCh = true ∧ l.id = id then 1 else 0

/-- The `Accept` call has taken a token of a listener for `id`, as a count; `ids` are the
    ids of the listeners. -/
def ClientAccept.holds (ids : List UInt32) (id : UInt32) (x : ClientAccept) : Nat :=
  if x.pc = .accepting ∧ ids[x.listener]? = some id then 1 else 0

/-- The plugin opened the stream for `id`, as a count. -/
def PluginStream.isFor (id : UInt32) (s : PluginStream) : Nat := if s.id = id then 1 else 0

namespace GRPCClientMuxer

/-- The ids for which the listeners were made. -/
def ids (client : GRPCClientMuxer) : List UInt32 := client.listeners.map ClientListener.id

/-- The tokens for `id`. -/
def held (id : UInt32) (client : GRPCClientMuxer) : Nat :=
  tally (ClientListener.holds id) client.listeners
    + tally (ClientAccept.holds client.ids id) client.accepts

/-- All tokens are for `id`. -/
def HeldFor (id : UInt32) (client : GRPCClientMuxer) : Prop :=
  (∀ l ∈ client.listeners, l.waitCh = true → l.id = id) ∧
    ∀ x ∈ client.accepts, x.pc = .accepting → client.ids[x.listener]? = some id

instance (id : UInt32) (client : GRPCClientMuxer) : Decidable (client.HeldFor id) :=
  inferInstanceAs (Decidable (_ ∧ _))

theorem HeldFor.eq_of_held {id id' : UInt32} {client : GRPCClientMuxer} (h : client.HeldFor id)
    (hheld : 1 ≤ client.held id') : id' = id := by
  by_contra hne
  have hlisteners : tally (ClientListener.holds id') client.listeners = 0 := by
    refine tally_eq_zero.mpr fun l hl => if_neg ?_
    rintro ⟨hwait, hid⟩
    exact hne (hid.symm.trans (h.1 l hl hwait))
  have haccepts : tally (ClientAccept.holds client.ids id') client.accepts = 0 := by
    refine tally_eq_zero.mpr fun x hx => if_neg ?_
    rintro ⟨hpc, hid⟩
    exact hne (Option.some.inj (hid.symm.trans (h.2 x hx hpc)))
  simp only [held] at hheld
  omega

section Updates

variable {client : GRPCClientMuxer} {c t : Nat} {id : UInt32} {ln : Nat} {full : Bool}

/-- Filling or draining a `waitCh` does not touch the ids. -/
theorem ids_set (hc : client.listeners[c]? = some ⟨id, ln, full⟩) (full' : Bool) :
    (client.listeners.set c ⟨id, ln, full'⟩).map ClientListener.id = client.ids := by
  have hid : client.ids[c]? = some id := by simp [ids, hc]
  obtain ⟨hlt, rfl⟩ := List.getElem?_eq_some_iff.mp hid
  rw [List.map_set]
  exact List.set_getElem_self hlt

theorem ids_getElem? (hc : client.listeners[c]? = some ⟨id, ln, full⟩) :
    client.ids[c]? = some id := by
  simp [ids, hc]

theorem held_unblock (hc : client.listeners[c]? = some ⟨id, ln, false⟩) (k : UInt32) :
    held k { client with
        acceptMutex := none, listeners := client.listeners.set c ⟨id, ln, true⟩ } =
      client.held k + if id = k then 1 else 0 := by
  have hset := tally_set (ClientListener.holds k) ⟨id, ln, true⟩ hc
  simp only [ClientListener.holds, Bool.false_eq_true, false_and, if_false, true_and] at hset
  have hids := ids_set hc true
  simp only [held, ids] at hids ⊢
  rw [hids]
  omega

theorem held_listener (ln : Nat) (lns : UInt32 → Option Nat) (k : UInt32) :
    client.held k ≤ held k { client with
      listeners := client.listeners ++ [⟨id, ln, false⟩], acceptListeners := lns } := by
  have haccepts : tally (ClientAccept.holds client.ids k) client.accepts ≤
      tally (ClientAccept.holds (client.ids ++ [id]) k) client.accepts := by
    refine tally_le_tally fun x _ => ?_
    simp only [ClientAccept.holds]
    split
    · next h => exact Nat.le_of_eq (if_pos ⟨h.1, getElem?_concat_of_some h.2 id⟩).symm
    · exact Nat.zero_le _
  simp only [held, ids, tally_append, List.map_append, List.map_cons, List.map_nil] at haccepts ⊢
  omega

theorem held_wait (ht : client.accepts[t]? = some ⟨c, .waiting⟩)
    (hc : client.listeners[c]? = some ⟨id, ln, true⟩) (k : UInt32) :
    held k { client with
        listeners := client.listeners.set c ⟨id, ln, false⟩
        accepts := client.accepts.set t ⟨c, .accepting⟩ } = client.held k := by
  have hset := tally_set (ClientListener.holds k) ⟨id, ln, false⟩ hc
  have hset' := tally_set (ClientAccept.holds client.ids k) ⟨c, .accepting⟩ ht
  simp only [ClientListener.holds, ClientAccept.holds, ids_getElem? hc, Option.some.injEq,
    Bool.false_eq_true, false_and, if_false, true_and, reduceCtorEq] at hset hset'
  have hids := ids_set hc false
  simp only [held, ids] at hids hset' ⊢
  rw [hids]
  omega

/-- The weight of an `Accept` call that does not get a token and does not keep one. -/
theorem held_set {x : ClientAccept} (x' : ClientAccept) (hx' : x'.pc ≠ .accepting)
    (ht : client.accepts[t]? = some x) (rest : List PluginStream) (k : UInt32) :
    held k { client with incoming := rest, accepts := client.accepts.set t x' }
      + x.holds client.ids k = client.held k := by
  have hset := tally_set (ClientAccept.holds client.ids k) x' ht
  have hzero : x'.holds client.ids k = 0 := if_neg fun h => hx' h.1
  simp only [held, ids] at hset hzero ⊢
  omega

end Updates

end GRPCClientMuxer

namespace GRPCMux

theorem Evolves.listens {t : Side} {act : Act} {b b' : GRPCBroker}
    (h : Evolves t act b b') {i : Nat} {l : GRPCBroker.Listen}
    (hl : b.listens[i]? = some l) : ∃ l', b'.listens[i]? = some l' ∧ l'.id = l.id := by
  cases h with
  | same | unqueued => exact ⟨l, hl, rfl⟩
  | move hb ha => exact hb.listens hl

/-- The listeners keep their id. -/
theorem Move.ids {m m' : GRPCMux} {a : Act} (h : Move m a m') {c : Nat} {id : UInt32}
    (hc : m.client.ids[c]? = some id) : m'.client.ids[c]? = some id := by
  cases h with
  | clientUnblock hmutex hln hb =>
      have hids := GRPCClientMuxer.ids_set hln true
      simp only [GRPCClientMuxer.ids] at hids hc ⊢
      rwa [hids]
  | clientWait ht hln =>
      have hids := GRPCClientMuxer.ids_set hln false
      simp only [GRPCClientMuxer.ids] at hids hc ⊢
      rwa [hids]
  | clientListener hl hb =>
      simp only [GRPCClientMuxer.ids, List.map_append, List.map_cons, List.map_nil] at hc ⊢
      exact getElem?_concat_of_some hc _
  | _ => exact hc

/-- `acceptListeners` has listeners under their own id, and the `AcceptKnock` that holds the
    lock is about to unblock a listener for the id of its goroutine. -/
structure Registered (m : GRPCMux) : Prop where
  listeners : ∀ id c, m.client.acceptListeners id = some c → m.client.ids[c]? = some id
  locked : ∀ i c, m.client.acceptMutex = some (i, c) →
    ∃ l, (m.sides.get .host).broker.listens[i]? = some l ∧ m.client.ids[c]? = some l.id

theorem registered_init : Registered init := by
  constructor <;> simp [init, GRPCClientMuxer.init]

theorem Registered.move {m m' : GRPCMux} {a : Act} (h : Registered m) (hmove : Move m a m') :
    Registered m' := by
  have hlisteners := fun id c hc => hmove.ids (h.listeners id c hc)
  have hlocked : ∀ i c, m.client.acceptMutex = some (i, c) →
      ∃ l, (m'.sides.get .host).broker.listens[i]? = some l ∧ m'.client.ids[c]? = some l.id := by
    intro i c hmutex
    obtain ⟨l, hl, hc⟩ := h.locked i c hmutex
    obtain ⟨l', hl', hid⟩ := (hmove.evolves .host).listens hl
    exact ⟨l', hl', hid ▸ hmove.ids hc⟩
  cases hmove with
  | clientLookup hl hfree hc =>
      refine ⟨hlisteners, ?_⟩
      rintro _ _ ⟨⟩
      exact ⟨_, hl, h.listeners _ _ hc⟩
  | clientUnblock hmutex hc hb => exact ⟨hlisteners, by simp⟩
  | @clientListener j id p b hl hb =>
      refine ⟨fun k c hk => ?_, hlocked⟩
      simp only at hk
      split at hk
      · next hkid =>
          cases hk
          simp [GRPCClientMuxer.ids, hkid]
      · exact hlisteners k c hk
  | _ => exact ⟨hlisteners, hlocked⟩

/-! ### Tokens of one id at a time -/

/-- `AcceptKnock` unblocks a listener only while all other tokens are for its id. -/
def UnblocksAlone (m : GRPCMux) : Act → Prop
  | .clientUnblock => ∀ x ∈ m.client.acceptMutex, ∀ id ∈ m.client.ids[x.2]?, m.client.HeldFor id
  | _ => True

instance (m : GRPCMux) : ∀ a, Decidable (m.UnblocksAlone a)
  | .clientUnblock =>
      have : DecidablePred fun x : Nat × Nat =>
          ∀ id ∈ m.client.ids[x.2]?, m.client.HeldFor id :=
        fun x => Option.decidableForallMem m.client.ids[x.2]?
      inferInstanceAs (Decidable (∀ x ∈ m.client.acceptMutex, _))
  | .openControl | .muxDial _ _ _ | .knockReturns _ _ | .knockTimesOut _ _ | .openStream _ _
  | .recv _ | .broker _ _ | .serverAcceptKnock _ | .serverListener _ | .serverAccept _
  | .clientLookup _ | .clientListener _ | .clientAccept _ => isTrue trivial

/-- Every ack and every stream under way from the plugin has its token on the host, all
    tokens are for one id, and streams were returned by listeners of their id. -/
structure Matched (m : GRPCMux) : Prop where
  covered : ∀ id, tokens m.sides .plugin id + tally (PluginStream.isFor id) m.client.incoming ≤
    m.client.held id
  uniform : ∃ id, m.client.HeldFor id
  returned : ∀ (t c : Nat) (s : PluginStream), m.client.accepts[t]? = some ⟨c, .returned s⟩ →
    m.client.ids[c]? = some s.id

theorem matched_init : Matched init where
  covered id := by
    simp [tokens, init, MuxSide.init, GRPCBroker.init, GRPCBroker.acksSent, GRPCBroker.clientLoad,
      GRPCBroker.RunPc.clientLoad, Both.get, Side.peer, load, PendingTable.empty,
      GRPCClientMuxer.init]
  uniform := ⟨0, by simp [init, GRPCClientMuxer.init, GRPCClientMuxer.HeldFor]⟩
  returned := by simp [init, GRPCClientMuxer.init]

/-- The stream that the session delivers next is for the id of any listener that takes it. -/
theorem Matched.next_stream {m : GRPCMux} (h : Matched m) {t c : Nat} {s : PluginStream}
    {rest : List PluginStream} (ht : m.client.accepts[t]? = some ⟨c, .accepting⟩)
    (hin : m.client.incoming = s :: rest) : m.client.ids[c]? = some s.id := by
  obtain ⟨id, hheld⟩ := h.uniform
  have hcovered := h.covered s.id
  simp only [hin, tally_cons, PluginStream.isFor, if_true] at hcovered
  have hid := hheld.eq_of_held (show 1 ≤ m.client.held s.id by omega)
  rw [hid]
  exact hheld.2 _ (List.mem_of_getElem? ht) rfl

theorem Matched.covered_move {m m' : GRPCMux} {a : Act} (h : Matched m)
    (hlinked : ∀ t, (m.sides.get t).Linked) (hreg : Registered m) (hmove : Move m a m')
    (id : UInt32) :
    tokens m'.sides .plugin id + tally (PluginStream.isFor id) m'.client.incoming ≤
      m'.client.held id := by
  have hid := h.covered id
  have hbal := tokens_move hlinked hmove .plugin id
  cases hmove with
  | side hx =>
      have hmakes : m.makes .plugin id a = 0 := by cases hx <;> rfl
      dsimp only at hbal ⊢
      omega
  | openPlugin hd =>
      simp only [opens, makes, hd, if_true] at hbal
      simp only [tally_append, tally_cons, tally_nil, PluginStream.isFor] at hid ⊢
      simp only [GRPCClientMuxer.held, GRPCClientMuxer.ids] at hid ⊢
      omega
  | serverAcceptKnock hl hfree hb =>
      simp only [opens, makes, reduceCtorEq, if_false] at hbal
      exact Nat.le_trans (Nat.add_le_add_right hbal _) hid
  | @clientUnblock i c k ln b hmutex hc hb =>
      -- the new ack and the new token are for the same id
      obtain ⟨l, hl, hlid⟩ := hreg.locked i c hmutex
      rw [GRPCClientMuxer.ids_getElem? hc] at hlid
      cases hlid
      simp only [opens, makes, hmutex, if_true, GRPCBroker.Act.makes, hl,
        GRPCBroker.ackFor_ackInfo, and_true] at hbal
      rw [GRPCClientMuxer.held_unblock hc]
      dsimp only
      omega
  | @clientListener j k p b hl hb =>
      have hle := @GRPCClientMuxer.held_listener m.client k j (fun k' =>
        if k' = k then some m.client.listeners.length else m.client.acceptListeners k') id
      simp only [opens, makes] at hbal
      dsimp only
      omega
  | clientCall hc =>
      simpa [GRPCClientMuxer.held, GRPCClientMuxer.ids, ClientAccept.holds] using hid
  | clientWait ht hc =>
      rw [GRPCClientMuxer.held_wait ht hc]
      exact hid
  | @clientClose t c ht =>
      have hset := GRPCClientMuxer.held_set ⟨c, .closed⟩ (by simp) ht m.client.incoming id
      simp only [ClientAccept.holds, reduceCtorEq, false_and, if_false, Nat.add_zero] at hset
      exact hset ▸ hid
  | @clientAccept t c s rest ht hin =>
      have hset := GRPCClientMuxer.held_set ⟨c, .returned s⟩ (by simp) ht rest id
      simp only [ClientAccept.holds, true_and, h.next_stream ht hin, Option.some.injEq] at hset
      simp only [hin, tally_cons, PluginStream.isFor] at hid
      dsimp only
      omega
  | _ => exact Nat.le_trans (Nat.add_le_add_right hbal _) hid

theorem Matched.uniform_move {m m' : GRPCMux} {a : Act} (h : Matched m)
    (hguard : m.UnblocksAlone a) (hmove : Move m a m') : ∃ id, m'.client.HeldFor id := by
  obtain ⟨id, hlisteners, haccepts⟩ := h.uniform
  cases hmove with
  | @clientUnblock i c k ln b hmutex hc hb =>
      obtain ⟨hlisteners', haccepts'⟩ := hguard _ hmutex k (GRPCClientMuxer.ids_getElem? hc)
      refine ⟨k, fun l hl hwait => ?_, fun x hx hpc => ?_⟩
      · rcases List.mem_or_eq_of_mem_set hl with hold | rfl
        · exact hlisteners' l hold hwait
        · rfl
      · simp only [GRPCClientMuxer.ids, GRPCClientMuxer.ids_set hc]
        exact haccepts' x hx hpc
  | @clientListener j k p b hl hb =>
      refine ⟨id, fun l hmem hwait => ?_, fun x hx hpc => ?_⟩
      · rcases List.mem_append.mp hmem with hold | hnew
        · exact hlisteners l hold hwait
        · cases List.mem_singleton.mp hnew
          cases hwait
      · exact (Move.clientListener hl hb).ids (haccepts x hx hpc)
  | clientCall hc =>
      refine ⟨id, hlisteners, fun x hx hpc => ?_⟩
      rcases List.mem_append.mp hx with hold | hnew
      · exact haccepts x hold hpc
      · cases List.mem_singleton.mp hnew
        cases hpc
  | @clientWait t c k ln ht hc =>
      refine ⟨id, fun l hmem hwait => ?_, fun x hx hpc => ?_⟩
      · rcases List.mem_or_eq_of_mem_set hmem with hold | rfl
        · exact hlisteners l hold hwait
        · cases hwait
      · simp only [GRPCClientMuxer.ids, GRPCClientMuxer.ids_set hc]
        rcases List.mem_or_eq_of_mem_set hx with hold | rfl
        · exact haccepts x hold hpc
        · -- the token that was in `waitCh` is now the call's
          exact (GRPCClientMuxer.ids_getElem? hc).trans
            (congrArg some (hlisteners _ (List.mem_of_getElem? hc) rfl))
  | clientClose ht | clientAccept ht hin =>
      refine ⟨id, hlisteners, fun x hx hpc => ?_⟩
      rcases List.mem_or_eq_of_mem_set hx with hold | rfl
      · exact haccepts x hold hpc
      · cases hpc
  | _ => exact ⟨id, hlisteners, haccepts⟩

theorem Matched.returned_move {m m' : GRPCMux} {a : Act} (h : Matched m) (hmove : Move m a m')
    {t c : Nat} {s : PluginStream} (ht : m'.client.accepts[t]? = some ⟨c, .returned s⟩) :
    m'.client.ids[c]? = some s.id := by
  have hold := fun hs => hmove.ids (h.returned t c s hs)
  cases hmove with
  | clientCall hc =>
      rcases getElem?_concat_cases ht with hs | ⟨-, hnew⟩
      · exact hold hs
      · cases hnew
  | clientWait hwait hc =>
      rcases getElem?_set_cases ht with ⟨-, hnew⟩ | ⟨-, hs⟩
      · cases hnew
      · exact hold hs
  | clientClose hwait =>
      rcases getElem?_set_cases ht with ⟨-, hnew⟩ | ⟨-, hs⟩
      · cases hnew
      · exact hold hs
  | clientAccept haccept hin =>
      rcases getElem?_set_cases ht with ⟨-, hnew⟩ | ⟨-, hs⟩
      · cases hnew
        exact h.next_stream haccept hin
      · exact hold hs
  | _ => exact hold ht

/-- **Streams from the plugin reach the listener that was dialled, one id at a time.**  In
    every run in which `AcceptKnock` unblocks a listener only while no listener for another
    id has a token that no stream was returned on, the `Accept` calls of a listener for `id`
    return streams that the plugin opened in `muxDial(id)`. -/
theorem plugin_stream_reaches_dialled_listener {as : List Act} {m : GRPCMux}
    (hguard : Along step UnblocksAlone init as) (hrun : exec step init as = some m)
    {t c : Nat} {s : PluginStream} (ht : m.client.accepts[t]? = some ⟨c, .returned s⟩) :
    ∃ l, m.client.listeners[c]? = some l ∧ l.id = s.id := by
  have hstep : ∀ s a s', ((∀ t, (s.sides.get t).Linked) ∧ Registered s ∧ Matched s) →
      s.UnblocksAlone a → step s a = some s' →
      (∀ t, (s'.sides.get t).Linked) ∧ Registered s' ∧ Matched s' := by
    rintro s a s' ⟨hlinked, hreg, hmatched⟩ halone hs
    have hmove := move_of_step hs
    exact ⟨linked_move hlinked hmove, hreg.move hmove,
      hmatched.covered_move hlinked hreg hmove, hmatched.uniform_move halone hmove,
      fun _ _ _ => hmatched.returned_move hmove⟩
  obtain ⟨-, -, hmatched⟩ := exec_invariant hstep
    ⟨linked_init, registered_init, matched_init⟩ hguard hrun
  simpa [GRPCClientMuxer.ids] using hmatched.returned t c s ht

/-- The host accepts `id` as its `j`-th listener and calls `Accept` on it, and the plugin
    dials it, in its `j`-th call. -/
def pluginDialRun (id : UInt32) (j : Nat) : List Act :=
  acceptRun .host id j ++ [.clientAccept (.call j)] ++ knockRun .plugin id j ++ ackRun .host j
    ++ ackedRun .plugin j j ++ [.openStream .plugin j]

/-- The `j`-th `Accept` call takes its token and a stream. -/
def takeStreamRun (j : Nat) : List Act := [.clientAccept (.wait j), .clientAccept (.accept j)]

/-- Two ids, one after the other. -/
def oneAtATimeRun : List Act :=
  connectRun ++ pluginDialRun 1 0 ++ takeStreamRun 0 ++ pluginDialRun 2 1 ++ takeStreamRun 1

theorem plugin_stream_reaches_dialled_listener_oneAtATime :
    ∃ m, exec step init oneAtATimeRun = some m ∧ Along step UnblocksAlone init oneAtATimeRun ∧
      m.client.accepts[1]? = some ⟨1, .returned ⟨1, 2⟩⟩ ∧
      ∃ l, m.client.listeners[1]? = some l ∧ l.id = 2 :=
  ⟨_, rfl, by decide, rfl,
    @plugin_stream_reaches_dialled_listener oneAtATimeRun _ (by decide) rfl 1 1 ⟨1, 2⟩ rfl⟩

/-- The discipline that `GRPCBrokerMultiplex` asks for: the host calls `Accept` for the next
    id after the plugin's `muxDial` for the previous ones have returned. -/
def Sequential (m : GRPCMux) : Act → Prop
  | .broker .host (.accept _) => ∀ l ∈ (m.sides.get .host).broker.listeners,
      ∃ d ∈ (m.sides.get .plugin).dials, d.id = l.id ∧ d.pc = .returned
  | _ => True

instance (m : GRPCMux) : ∀ a, Decidable (m.Sequential a) := by
  intro a
  unfold Sequential
  split <;> infer_instance

/-- No `knock` times out. -/
def NoTimeout : Act → Prop
  | .knockTimesOut _ _ | .broker _ (.call _ .expire) => False
  | _ => True

instance : ∀ a, Decidable (NoTimeout a) := by
  intro a
  unfold NoTimeout
  split <;> infer_instance

/-- The `Accept` call on the listener for id 1 is slow: the listener for id 2 takes its token
    and a stream first. -/
def overtakenRun : List Act :=
  connectRun ++ pluginDialRun 1 0 ++ pluginDialRun 2 1 ++ takeStreamRun 1

/-- **A stream from the plugin can reach another listener**, although the host called `Accept`
    for the second id after the first `muxDial` had returned: the `Accept` call on the
    listener for id 2 returns the stream of `muxDial(1)`. -/
theorem overtaking_accept_gets_other_stream :
    Along step (fun m a => m.Sequential a ∧ NoTimeout a) init overtakenRun ∧
    ∃ m, exec step init overtakenRun = some m ∧
      m.client.accepts[1]? = some ⟨1, .returned ⟨0, 1⟩⟩ ∧
      m.client.listeners[1]? = some ⟨2, 1, false⟩ :=
  ⟨by decide, _, rfl, rfl, rfl⟩

end GRPCMux

end GoPlugin
