import GoPlugin.GRPCMuxTokens

/-!
# Streams from the host to the plugin

Nothing in a yamux stream says for which id it was opened.  On the plugin, `knockCh` has
room for one id, so `AcceptKnock` waits until the stream of the previous knock has been
routed: the streams and tokens under way are all for the id in `knockCh`, and the next
stream goes where it should.
-/

namespace GoPlugin

open Tally PendingTable LabelledSystem

/-! ### The control connection comes first -/

namespace GRPCBroker

/-- No knock has reached the accepting side of the broker. -/
structure NoKnocks (b : GRPCBroker) : Prop where
  routing : ∀ m, b.run ≠ .routing m
  offering : ∀ m p, b.run ≠ .offering m p
  queued : ∀ p, b.serverStreams.ch p = none
  knocking : ∀ (i : Nat) (l : Listen) p m, b.listens[i]? = some l → l.pc ≠ .knocking p m

theorem noKnocks_init : NoKnocks init := by
  constructor <;> simp [init, ch, PendingTable.empty]

/-- A knock has to be received first. -/
theorem NoKnocks.move {b b' : GRPCBroker} {a : Act} (h : NoKnocks b) (hmove : Move b a b')
    (ha : ∀ m, a ≠ .run (.recv m)) : NoKnocks b' := by
  obtain ⟨hrouting, hoffering, hqueued, hknocking⟩ := h
  -- a goroutine that is not in `AcceptKnock` replaces another one
  have hset : ∀ (i : Nat) (l : Listen), (∀ p m, l.pc ≠ .knocking p m) →
      ∀ (j : Nat) (l' : Listen) p m, (b.listens.set i l)[j]? = some l' → l'.pc ≠ .knocking p m := by
    intro i l hl j l' p m hj
    rcases getElem?_set_cases hj with ⟨-, rfl⟩ | ⟨-, hold⟩
    · exact hl p m
    · exact hknocking j l' p m hold
  cases hmove with
  | run hmove =>
      cases hmove with
      | recv => exact absurd rfl (ha _)
      | lookupServer hrun | lookupClient hrun => exact absurd hrun (hrouting _)
      | queueServer hrun | queueClient hrun | dropServer hrun | dropClient hrun =>
          exact absurd hrun (hoffering _ _)
      | spawn | stop => exact ⟨nofun, nofun, hqueued, hknocking⟩
  | caller hmove =>
      cases hmove <;> exact ⟨hrouting, hoffering, hqueued, hknocking⟩
  | accepter hmove =>
      cases hmove with
      | fetch hl =>
          refine ⟨hrouting, hoffering, fun p => ?_, hset _ _ nofun⟩
          rw [ch_fetch]
          exact hqueued p
      | accept =>
          refine ⟨hrouting, hoffering, fun p => ?_, hknocking⟩
          rw [ch_fetch]
          exact hqueued p
      | @recv i id p m hl hch | @recvBad i id p m hl hch =>
          rw [hqueued p] at hch
          cases hch
      | close hl hpc =>
          refine ⟨hrouting, hoffering, fun p => ?_, hknocking⟩
          rw [ch_closeDone]
          exact hqueued p
      | remove hl => exact ⟨hrouting, hoffering, hqueued, hknocking⟩
      | spawn hl =>
          refine ⟨hrouting, hoffering, hqueued, fun j l' p m hj => ?_⟩
          rcases getElem?_concat_cases hj with hold | ⟨-, rfl⟩
          · exact hknocking j l' p m hold
          · exact nofun
      | knocked hl | ack hl | ackFail hl | done hl =>
          exact ⟨hrouting, hoffering, hqueued, hset _ _ nofun⟩
      | register => exact ⟨hrouting, hoffering, hqueued, hknocking⟩

end GRPCBroker

/-- Whether the stream is the control connection, as a count. -/
def HostStream.isControl : HostStream → Nat
  | .control => 1
  | .dialled _ _ => 0

/-- Whether the stream was opened by a `muxDial(id)` call, as a count. -/
def HostStream.isFor (id : UInt32) : HostStream → Nat
  | .control => 0
  | .dialled _ id' => if id' = id then 1 else 0

/-- Whether the stream was opened by the `d`-th `muxDial` call, as a count. -/
def HostStream.isOf (d : Nat) : HostStream → Nat
  | .control => 0
  | .dialled d' _ => if d' = d then 1 else 0

/-- The stream that the `Accept` loop has taken and not routed yet, weighed by `w`. -/
def AcceptLoopPc.hand (w : HostStream → Nat) : AcceptLoopPc → Nat
  | .routing s => w s
  | .accepting | .sending _ _ | .failed => 0

/-- The total weight of the streams that the `Accept` loop still has to route. -/
def GRPCServerMuxer.unrouted (w : HostStream → Nat) (server : GRPCServerMuxer) : Nat :=
  tally w server.incoming + server.loop.hand w

namespace GRPCMux

/-- There is one control connection, and before the default listener has it no knock has
    been accepted. -/
structure ControlFirst (m : GRPCMux) : Prop where
  once : m.server.unrouted HostStream.isControl + tally HostStream.isControl m.server.defaulted ≤
    m.controlOpened.toNat
  quiet : m.served = false →
    m.server.knockCh = none ∧ (m.sides.get .plugin).broker.NoKnocks

theorem controlFirst_init : ControlFirst init where
  once := by simp [init, GRPCServerMuxer.unrouted, GRPCServerMuxer.init, AcceptLoopPc.hand]
  quiet _ := ⟨rfl, GRPCBroker.noKnocks_init⟩

theorem one_le_of_served {m : GRPCMux} (h : m.served = true) :
    1 ≤ tally HostStream.isControl m.server.defaulted := by
  have hmem : HostStream.control ∈ m.server.defaulted := by simpa [served] using h
  obtain ⟨i, hi⟩ := List.mem_iff_getElem?.mp hmem
  exact le_tally HostStream.isControl hi

/-- While the control connection is to be routed, `knockCh` is empty. -/
theorem ControlFirst.knockCh_empty {m : GRPCMux} (h : ControlFirst m)
    (hloop : m.server.loop = .routing .control) : m.server.knockCh = none := by
  refine (h.quiet ?_).1
  by_contra hserved
  have hone := one_le_of_served (by simpa using hserved)
  have honce := h.once
  have hle := Bool.toNat_le m.controlOpened
  simp only [GRPCServerMuxer.unrouted, hloop, AcceptLoopPc.hand, HostStream.isControl] at honce
  omega

/-- Every step of the plugin's broker other than a receive keeps it without knocks. -/
theorem noKnocks_withBroker {m : GRPCMux} {s : Side} {a : GRPCBroker.Act} {b : GRPCBroker}
    (h : (m.sides.get .plugin).broker.NoKnocks) (hb : (m.sides.get s).broker.Move a b)
    (ha : ∀ l, a ≠ .run (.recv l)) :
    ((m.withBroker s b).get .plugin).broker.NoKnocks := by
  cases s with
  | host => exact h
  | plugin => exact h.move hb ha

theorem ControlFirst.sideMove {m : GRPCMux} (h : ControlFirst m) {s : Side} {a : Act} {x : MuxSide}
    (hx : (m.sides.get s).Move s a x) : ControlFirst { m with sides := m.sides.set s x } where
  once := h.once
  quiet hserved := by
    obtain ⟨hknock, hno⟩ := h.quiet hserved
    refine ⟨hknock, ?_⟩
    cases s with
    | host => exact hno
    | plugin =>
        cases hx with
        | broker ha hb =>
            refine hno.move hb ?_
            rintro l rfl
            cases ha
        | muxDial hfree hb | muxDialFail hfree hb | acked hd hb | refused hd hb
        | timesOut hd hb => exact hno.move hb (by simp)

theorem ControlFirst.move {m m' : GRPCMux} {a : Act} (h : ControlFirst m) (hmove : Move m a m') :
    ControlFirst m' := by
  have honce := h.once
  cases hmove with
  | openControl hopen =>
      refine ⟨?_, h.quiet⟩
      simp only [hopen, GRPCServerMuxer.unrouted, Bool.toNat_false] at honce
      simp only [GRPCServerMuxer.unrouted, tally_append, tally_cons, tally_nil,
        HostStream.isControl, Bool.toNat_true]
      omega
  | side hx => exact h.sideMove hx
  | openHost hd =>
      refine ⟨?_, h.quiet⟩
      simpa [GRPCServerMuxer.unrouted, HostStream.isControl] using honce
  | openPlugin hd => exact ⟨honce, h.quiet⟩
  | recv hserved hout hb =>
      refine ⟨honce, fun hunserved => ?_⟩
      exact absurd (hserved.symm.trans hunserved) (by simp)
  | serverAcceptKnock hl hfree hb =>
      refine ⟨honce, fun hunserved => ?_⟩
      exact absurd rfl ((h.quiet hunserved).2.knocking _ _ _ _ hl)
  | serverListener hl hb =>
      refine ⟨honce, fun hunserved => ?_⟩
      obtain ⟨hknock, hno⟩ := h.quiet hunserved
      exact ⟨hknock, noKnocks_withBroker hno hb (by simp)⟩
  | serverAccept hloop hin =>
      refine ⟨?_, h.quiet⟩
      simp only [GRPCServerMuxer.unrouted, hloop, hin, tally_cons, AcceptLoopPc.hand] at honce ⊢
      omega
  | serverRoute hloop hknock hln | serverLost hloop hknock hln =>
      refine ⟨?_, fun hunserved => ⟨rfl, (h.quiet hunserved).2⟩⟩
      simp only [GRPCServerMuxer.unrouted, hloop, AcceptLoopPc.hand] at honce ⊢
      omega
  | @serverDefault s hloop hknock =>
      refine ⟨?_, fun hunserved => ?_⟩
      · simp only [GRPCServerMuxer.unrouted, hloop, AcceptLoopPc.hand, tally_cons] at honce ⊢
        omega
      · refine h.quiet ?_
        simp only [served, List.contains_cons, Bool.or_eq_false_iff] at hunserved
        exact hunserved.2
  | serverDeliver hloop =>
      refine ⟨?_, h.quiet⟩
      simpa only [GRPCServerMuxer.unrouted, hloop, AcceptLoopPc.hand] using honce
  | clientRefuse hl hfree hb | clientUnblock hmutex hc hb | clientListener hl hb =>
      refine ⟨honce, fun hunserved => ?_⟩
      obtain ⟨hknock, hno⟩ := h.quiet hunserved
      exact ⟨hknock, noKnocks_withBroker hno hb (by simp)⟩
  | _ => exact ⟨honce, h.quiet⟩

/-! ### From host to plugin -/

/-- The room that `knockCh` gives to streams and tokens for `id`. -/
def permit (knockCh : Option UInt32) (id : UInt32) : Nat := if knockCh = some id then 1 else 0

/-- The tokens under way to the host and the streams that it has opened and that are not
    routed yet are all for the id in `knockCh`, and there is at most one of them. -/
def Permitted (m : GRPCMux) : Prop :=
  ∀ id, tokens m.sides .host id + m.server.unrouted (HostStream.isFor id) ≤
    permit m.server.knockCh id

theorem permitted_init : Permitted init := by
  intro id
  simp [tokens, init, MuxSide.init, GRPCBroker.init, GRPCBroker.acksSent, GRPCBroker.clientLoad,
    GRPCBroker.RunPc.clientLoad, Both.get, Side.peer, load, PendingTable.empty,
    GRPCServerMuxer.unrouted, GRPCServerMuxer.init, AcceptLoopPc.hand]

/-- The stream that the loop is about to route was permitted by the id in `knockCh`. -/
theorem Permitted.knockCh_eq {m : GRPCMux} (h : Permitted m) {d : Nat} {id : UInt32}
    (hloop : m.server.loop = .routing (.dialled d id)) : m.server.knockCh = some id := by
  have hid := h id
  by_contra hne
  simp only [GRPCServerMuxer.unrouted, hloop, AcceptLoopPc.hand, HostStream.isFor, if_true,
    permit, if_neg hne] at hid
  omega

/-- Apart from that stream nothing is under way. -/
theorem Permitted.rest {m : GRPCMux} (h : Permitted m) {d : Nat} {k : UInt32}
    (hloop : m.server.loop = .routing (.dialled d k)) (id : UInt32) :
    tokens m.sides .host id + tally (HostStream.isFor id) m.server.incoming = 0 := by
  have hid := h id
  simp only [GRPCServerMuxer.unrouted, hloop, AcceptLoopPc.hand, HostStream.isFor, permit,
    h.knockCh_eq hloop, Option.some.injEq] at hid
  omega

theorem Permitted.move {m m' : GRPCMux} {a : Act} (h : Permitted m)
    (hlinked : ∀ t, (m.sides.get t).Linked) (hcontrol : ControlFirst m) (hmove : Move m a m') :
    Permitted m' := by
  intro id
  have hid := h id
  have hbal := tokens_move hlinked hmove .host id
  cases hmove with
  | openControl hopen =>
      simp only [opens, makes] at hbal
      simp only [GRPCServerMuxer.unrouted, tally_append, tally_cons, tally_nil,
        HostStream.isFor] at hid ⊢
      omega
  | side hx =>
      have hmakes : m.makes .host id a = 0 := by cases hx <;> rfl
      dsimp only at hbal ⊢
      omega
  | openHost hd =>
      simp only [opens, makes, hd, if_true] at hbal
      simp only [GRPCServerMuxer.unrouted, tally_append, tally_cons, tally_nil,
        HostStream.isFor] at hid ⊢
      omega
  | @serverAcceptKnock i id' p l b hl hfree hb =>
      -- `knockCh` was empty, so nothing was under way
      simp only [opens, makes, if_true, GRPCBroker.Act.makes, hl,
        GRPCBroker.ackFor_ackInfo, and_true] at hbal
      simp only [hfree, permit, reduceCtorEq, if_false] at hid
      simp only [permit, Option.some.injEq, GRPCServerMuxer.unrouted] at hid hbal ⊢
      omega
  | serverAccept hloop hin =>
      simp only [opens, makes] at hbal
      simp only [GRPCServerMuxer.unrouted, hloop, hin, tally_cons, AcceptLoopPc.hand] at hid ⊢
      omega
  | @serverRoute s id' ln hloop hknock hln | @serverLost s id' hloop hknock hln =>
      cases s with
      | control =>
          rw [hcontrol.knockCh_empty hloop] at hknock
          cases hknock
      | dialled d k =>
          have hrest := h.rest hloop id
          simp only [GRPCServerMuxer.unrouted, AcceptLoopPc.hand]
          omega
  | @serverDefault s hloop hknock =>
      simp only [GRPCServerMuxer.unrouted, AcceptLoopPc.hand] at hid ⊢
      omega
  | serverDeliver hloop =>
      simp only [GRPCServerMuxer.unrouted, hloop, AcceptLoopPc.hand] at hid ⊢
      exact hid
  | clientUnblock hmutex hc hb =>
      simp only [opens, makes, hmutex] at hbal
      exact Nat.le_trans (Nat.add_le_add_right hbal _) hid
  | openPlugin | recv | serverListener | clientLookup | clientRefuse | clientListener
  | clientCall | clientWait | clientClose | clientAccept =>
      exact Nat.le_trans (Nat.add_le_add_right hbal _) hid

/-- The listener that `side` numbers `ln` was made for `id`. -/
def ListensFor (m : GRPCMux) (side : Side) (ln : Nat) (id : UInt32) : Prop :=
  ∃ l, (m.sides.get side).broker.listeners[ln]? = some l ∧ l.id = id

theorem Evolves.listeners {t : Side} {act : Act} {b b' : GRPCBroker}
    (h : Evolves t act b b') {j : Nat} {l : GRPCBroker.Listener}
    (hl : b.listeners[j]? = some l) :
    ∃ l', b'.listeners[j]? = some l' ∧ l'.id = l.id ∧ l'.p = l.p := by
  cases h with
  | same | unqueued => exact ⟨l, hl, rfl, rfl⟩
  | move hb ha => exact hb.listeners hl

theorem ListensFor.move {m m' : GRPCMux} {a : Act} {side : Side} {ln : Nat} {id : UInt32}
    (h : ListensFor m side ln id) (hmove : Move m a m') : ListensFor m' side ln id := by
  obtain ⟨l, hl, hid⟩ := h
  obtain ⟨l', hl', hid', -⟩ := (hmove.evolves side).listeners hl
  exact ⟨l', hl', hid'.trans hid⟩

/-- A listener is registered for the id of the knock that `AcceptKnock` lets in. -/
def KnockRegistered (m : GRPCMux) : Act → Prop
  | .serverAcceptKnock i => ∀ l ∈ (m.sides.get .plugin).broker.listens[i]?,
      (m.server.acceptChannels l.id).isSome = true
  | _ => True

instance (m : GRPCMux) : ∀ a, Decidable (m.KnockRegistered a)
  | .serverAcceptKnock i =>
      inferInstanceAs (Decidable (∀ l ∈ (m.sides.get .plugin).broker.listens[i]?, _ = true))
  | .openControl | .muxDial _ _ _ | .knockReturns _ _ | .knockTimesOut _ _ | .openStream _ _
  | .recv _ | .broker _ _ | .serverListener _ | .serverAccept _ | .clientLookup _
  | .clientUnblock | .clientListener _ | .clientAccept _ => isTrue trivial

/-- The plugin's listener `ln` is one that may get the stream `s`: it listens for the id
    that the host dialled. -/
def MayGet (m : GRPCMux) (s : HostStream) (ln : Nat) : Prop :=
  ∃ d id, s = .dialled d id ∧ m.ListensFor .plugin ln id

theorem MayGet.move {m m' : GRPCMux} {a : Act} {s : HostStream} {ln : Nat}
    (h : m.MayGet s ln) (hmove : Move m a m') : m'.MayGet s ln := by
  obtain ⟨d, id, hs, hln⟩ := h
  exact ⟨d, id, hs, hln.move hmove⟩

/-- Where the `Accept` loop has sent streams, and where it is going to. -/
structure Handed (m : GRPCMux) : Prop where
  running : m.server.loop ≠ .failed
  registered : ∀ id, m.server.knockCh = some id → (m.server.acceptChannels id).isSome = true
  listening : ∀ id ln, m.server.acceptChannels id = some ln → m.ListensFor .plugin ln id
  sending : ∀ s ln, m.server.loop = .sending s ln → m.MayGet s ln
  delivered : ∀ s ln, (s, ln) ∈ m.server.delivered → m.MayGet s ln
  defaulted : ∀ s ∈ m.server.defaulted, s = .control

theorem handed_init : Handed init := by
  constructor <;> simp [init, GRPCServerMuxer.init]

theorem Handed.move {m m' : GRPCMux} {a : Act} (h : Handed m) (hcontrol : ControlFirst m)
    (hpermitted : Permitted m) (hguard : m.KnockRegistered a) (hmove : Move m a m') :
    Handed m' := by
  have hlistening := fun id ln hln => (h.listening id ln hln).move hmove
  have hsending := fun s ln hs => (h.sending s ln hs).move hmove
  have hdelivered := fun s ln hs => (h.delivered s ln hs).move hmove
  cases hmove with
  | serverAcceptKnock hl hfree hb =>
      refine ⟨h.running, ?_, hlistening, hsending, hdelivered, h.defaulted⟩
      rintro _ ⟨⟩
      exact hguard _ hl
  | @serverListener j id p b hl hb =>
      refine ⟨h.running, fun k hk => ?_, fun k ln hln => ?_, hsending, hdelivered, h.defaulted⟩
      · simp only [GRPCServerMuxer.listener]
        split
        · rfl
        · exact h.registered k hk
      · simp only [GRPCServerMuxer.listener] at hln
        split at hln
        · next hkid =>
            cases hln
            have hself : m.ListensFor .plugin j id := ⟨_, hl, rfl⟩
            exact hkid ▸ hself.move (.serverListener hl hb)
        · exact hlistening k ln hln
  | serverAccept hloop hin =>
      exact ⟨by simp, h.registered, hlistening, by simp, hdelivered, h.defaulted⟩
  | @serverRoute s id ln hloop hknock hln =>
      refine ⟨by simp, by simp, hlistening, ?_, hdelivered, h.defaulted⟩
      rintro _ _ ⟨⟩
      cases s with
      | control =>
          rw [hcontrol.knockCh_empty hloop] at hknock
          cases hknock
      | dialled d k =>
          -- the knock in `knockCh` is the one of this very stream
          rw [hpermitted.knockCh_eq hloop] at hknock
          cases hknock
          exact ⟨d, id, rfl, hlistening id ln hln⟩
  | serverLost hloop hknock hln =>
      exact absurd (h.registered _ hknock) (by simp [hln])
  | @serverDefault s hloop hknock =>
      refine ⟨by simp, h.registered, hlistening, by simp, hdelivered, ?_⟩
      intro s' hs'
      rcases List.mem_cons.mp hs' with rfl | hold
      · cases s' with
        | control => rfl
        | dialled d k =>
            rw [hpermitted.knockCh_eq hloop] at hknock
            cases hknock
      · exact h.defaulted s' hold
  | @serverDeliver s ln hloop =>
      refine ⟨by simp, h.registered, hlistening, by simp, ?_, h.defaulted⟩
      intro s' ln' hmem
      rcases List.mem_cons.mp hmem with heq | hold
      · cases heq
        exact hsending _ _ hloop
      · exact hdelivered s' ln' hold
  | _ => exact ⟨h.running, h.registered, hlistening, hsending, hdelivered, h.defaulted⟩

end GRPCMux

/-- The `d`-th `muxDial` call has returned a stream, as a count. -/
def MuxSide.opened (d : Nat) (x : MuxSide) : Nat :=
  match x.dials[d]? with
  | some ⟨_, .returned⟩ => 1
  | _ => 0

theorem MuxSide.opened_le_one (d : Nat) (x : MuxSide) : x.opened d ≤ 1 := by
  unfold opened
  split <;> omega

theorem MuxSide.opened_mono {d : Nat} {x x' : MuxSide}
    (h : ∀ id, x.dials[d]? = some ⟨id, .returned⟩ → x'.dials[d]? = some ⟨id, .returned⟩) :
    x.opened d ≤ x'.opened d := by
  unfold opened
  split
  · next id hd => simp [h id hd]
  · exact Nat.zero_le _

/-- Another call, or one that has not returned, does not take a returned stream away. -/
theorem getElem?_set_returned {dials : List GRPCDial} {d k : Nat} {id id' : UInt32}
    {pc pc' : GRPCDialPc} (hk : dials[k]? = some ⟨id', pc⟩) (hpc : pc ≠ .returned)
    (hd : dials[d]? = some ⟨id, .returned⟩) :
    (dials.set k ⟨id', pc'⟩)[d]? = some ⟨id, .returned⟩ := by
  rcases getElem?_set_of_some hd k ⟨id', pc'⟩ with ⟨rfl, -⟩ | ⟨-, hold⟩
  · cases hk.symm.trans hd
    exact absurd rfl hpc
  · exact hold

/-- A stream that a call has returned stays returned. -/
theorem MuxSide.Move.opened {s : Side} {x x' : MuxSide} {a : GRPCMux.Act} (h : x.Move s a x')
    (d : Nat) : x.opened d ≤ x'.opened d := by
  cases h with
  | broker ha hb => exact Nat.le_refl _
  | muxDial hfree hb | muxDialFail hfree hb =>
      exact opened_mono fun id hd => getElem?_concat_of_some hd _
  | acked hk hb hacked | refused hk hb hacked | timesOut hk hb =>
      exact opened_mono fun id hd => getElem?_set_returned hk nofun hd

/-- The weight of the stream that the `Accept` loop is about to hand to a listener. -/
def AcceptLoopPc.sent (w : HostStream → Nat) : AcceptLoopPc → Nat
  | .sending s _ => w s
  | .accepting | .routing _ | .failed => 0

/-- The streams of the `d`-th call that are to be routed, to be sent, or delivered. -/
def GRPCServerMuxer.streamsOf (d : Nat) (server : GRPCServerMuxer) : Nat :=
  server.unrouted (HostStream.isOf d) + server.loop.sent (HostStream.isOf d)
    + tally (fun x => x.1.isOf d) server.delivered

namespace GRPCMux

/-- A `muxDial` call opens one stream, and the session and the `Accept` loop do not copy it. -/
def Once (m : GRPCMux) : Prop :=
  ∀ d, m.server.streamsOf d ≤ (m.sides.get .host).opened d

theorem once_init : Once init := by
  intro d
  simp [init, GRPCServerMuxer.streamsOf, GRPCServerMuxer.unrouted, GRPCServerMuxer.init,
    AcceptLoopPc.hand, AcceptLoopPc.sent]

theorem Once.move {m m' : GRPCMux} {a : Act} (h : Once m) (hmove : Move m a m') : Once m' := by
  intro d
  have hd := h d
  cases hmove with
  | openControl hopen =>
      simpa [GRPCServerMuxer.streamsOf, GRPCServerMuxer.unrouted, HostStream.isOf] using hd
  | @side s a x hx =>
      cases s with
      | host => exact Nat.le_trans hd (hx.opened d)
      | plugin => exact hd
  | @openHost k id hk =>
      simp only [GRPCServerMuxer.streamsOf, GRPCServerMuxer.unrouted, tally_append, tally_cons,
        tally_nil, HostStream.isOf, Both.get_set_self] at hd ⊢
      by_cases hkd : k = d
      · -- the call had not opened its stream
        subst hkd
        obtain ⟨hlt, -⟩ := List.getElem?_eq_some_iff.mp hk
        have hbefore : (m.sides.get .host).opened k = 0 := by simp [MuxSide.opened, hk]
        simp only [MuxSide.opened, List.getElem?_set_self hlt, if_true]
        omega
      · simp only [if_neg hkd, Nat.add_zero]
        refine Nat.le_trans hd (MuxSide.opened_mono fun id' hd' => ?_)
        exact getElem?_set_returned hk nofun hd'
  | @recv s l rest b hserved hout hb => cases s <;> exact hd
  | serverAccept hloop hin =>
      simp only [GRPCServerMuxer.streamsOf, GRPCServerMuxer.unrouted, hloop, hin, tally_cons,
        AcceptLoopPc.hand, AcceptLoopPc.sent] at hd ⊢
      omega
  | serverRoute hloop hknock hln | serverLost hloop hknock hln | serverDefault hloop hknock
  | serverDeliver hloop =>
      simp only [GRPCServerMuxer.streamsOf, GRPCServerMuxer.unrouted, hloop, tally_cons,
        AcceptLoopPc.hand, AcceptLoopPc.sent] at hd ⊢
      omega
  | _ => exact hd

/-- How the streams of the session reach the plugin's gRPC servers. -/
structure HostRouted (m : GRPCMux) : Prop where
  /-- The loop hands a dialled stream to the listener that is registered for its id. -/
  dialled : ∀ d id, m.server.loop = .routing (.dialled d id) → ∃ ln m',
    m.server.acceptChannels id = some ln ∧ m.ListensFor .plugin ln id ∧
      m.step (.serverAccept .select) = some m' ∧ m'.server.loop = .sending (.dialled d id) ln
  /-- It gives the control connection to the default listener. -/
  control : m.server.loop = .routing .control → ∃ m', m.step (.serverAccept .select) = some m' ∧
    m'.server.loop = .accepting ∧ m'.server.defaulted = .control :: m.server.defaulted
  /-- Brokered listeners are sent dialled streams only, and of their own id. -/
  handed : ∀ s ln, m.server.loop = .sending s ln ∨ (s, ln) ∈ m.server.delivered → m.MayGet s ln
  /-- The default listener has got nothing but the control connection. -/
  defaulted : ∀ s ∈ m.server.defaulted, s = .control
  /-- No stream is handed over twice. -/
  once : ∀ d, m.server.loop.sent (HostStream.isOf d)
    + tally (fun x => x.1.isOf d) m.server.delivered ≤ 1
  running : m.server.loop ≠ .failed

theorem Handed.hostRouted {m : GRPCMux} (h : Handed m) (hcontrol : ControlFirst m)
    (hpermitted : Permitted m) (honce : Once m) : HostRouted m where
  dialled d id hloop := by
    have hknock := hpermitted.knockCh_eq hloop
    obtain ⟨ln, hln⟩ := Option.isSome_iff_exists.mp (h.registered id hknock)
    have hselect : m.step (.serverAccept .select) = some { m with
        server := { m.server with loop := .sending (.dialled d id) ln, knockCh := none } } := by
      simp [step, GRPCServerMuxer.acceptStep, hloop, hknock, hln]
    exact ⟨ln, _, hln, h.listening id ln hln, hselect, rfl⟩
  control hloop := by
    have hselect : m.step (.serverAccept .select) = some { m with server := { m.server with
        loop := .accepting, defaulted := .control :: m.server.defaulted } } := by
      simp [step, GRPCServerMuxer.acceptStep, hloop, hcontrol.knockCh_empty hloop]
    exact ⟨_, hselect, rfl, rfl⟩
  handed s ln hs := hs.elim (h.sending s ln) (h.delivered s ln)
  defaulted := h.defaulted
  once d := by
    have hd := honce d
    have hle := (m.sides.get .host).opened_le_one d
    simp only [GRPCServerMuxer.streamsOf] at hd
    omega
  running := h.running

/-- **Streams from the host reach the listener that was dialled.**  In every run in which
    `AcceptKnock` only lets in knocks for ids that have a listener, the plugin's `Accept`
    loop hands every stream of a `muxDial(id)` call to the listener registered for `id`,
    once, and the control connection to the default listener. -/
theorem host_stream_reaches_dialled_listener {as : List Act} {m : GRPCMux}
    (hguard : Along step KnockRegistered init as) (hrun : exec step init as = some m) :
    HostRouted m := by
  have hstep : ∀ s a s', ((∀ t, (s.sides.get t).Linked) ∧ ControlFirst s ∧ Permitted s ∧
      Handed s ∧ Once s) → s.KnockRegistered a → step s a = some s' →
      (∀ t, (s'.sides.get t).Linked) ∧ ControlFirst s' ∧ Permitted s' ∧ Handed s' ∧ Once s' := by
    rintro s a s' ⟨hlinked, hcontrol, hpermitted, hhanded, honce⟩ hreg hs
    have hmove := move_of_step hs
    exact ⟨linked_move hlinked hmove, hcontrol.move hmove, hpermitted.move hlinked hcontrol hmove,
      hhanded.move hcontrol hpermitted hreg hmove, honce.move hmove⟩
  obtain ⟨-, hcontrol, hpermitted, hhanded, honce⟩ := exec_invariant hstep
    ⟨linked_init, controlFirst_init, permitted_init, handed_init, once_init⟩ hguard hrun
  exact hhanded.hostRouted hcontrol hpermitted honce

/-! A sample run: the host connects, the plugin accepts id 5, the host dials it. -/

/-- The control connection is opened and given to the default listener. -/
def connectRun : List Act := [.openControl, .serverAccept .accept, .serverAccept .select]

/-- The `j`-th `Accept(id)` of a side that has multiplexing: its `listenForKnocks` starts to
    wait, and the muxer gives it a listener. -/
def acceptRun (s : Side) (id : UInt32) (j : Nat) : List Act :=
  [.broker s (.accept id), .broker s (.listener j .spawn), .broker s (.listen j .fetch),
    match s with
    | .host => .clientListener j
    | .plugin => .serverListener j]

/-- `muxDial(id)` sends its knock in the `k`-th call and the peer's `Run` queues it. -/
def knockRun (s : Side) (id : UInt32) (k : Nat) : List Act :=
  [.muxDial s id true, .broker s (.call k .fetch), .recv s.peer,
    .broker s.peer (.run .lookup), .broker s.peer (.run .offer)]

/-- The `i`-th `listenForKnocks` of a side takes a knock, accepts it and sends its ack. -/
def ackRun (s : Side) (i : Nat) : List Act :=
  [.broker s (.listen i .recv)]
    ++ (match s with
      | .host => [.clientLookup i, .clientUnblock]
      | .plugin => [.serverAcceptKnock i])
    ++ [.broker s (.listen i (.ack true))]

/-- The ack reaches the `d`-th `muxDial`, whose `knock` is the `k`-th call, and it returns. -/
def ackedRun (s : Side) (d k : Nat) : List Act :=
  [.recv s, .broker s (.run .lookup), .broker s (.run .offer), .broker s (.run .spawn),
    .broker s (.call k .recv), .knockReturns s d]

def dialFiveRun : List Act :=
  connectRun ++ acceptRun .plugin 5 0 ++ knockRun .host 5 0 ++ ackRun .plugin 0
    ++ ackedRun .host 0 0
    ++ [.openStream .host 0, .serverAccept .accept, .serverAccept .select, .serverAccept .deliver]

theorem host_stream_reaches_dialled_listener_dialFive :
    ∃ m, exec step init dialFiveRun = some m ∧ m.server.delivered = [(.dialled 0 5, 0)] ∧
      Along step KnockRegistered init dialFiveRun ∧ HostRouted m :=
  ⟨_, rfl, rfl, by decide,
    @host_stream_reaches_dialled_listener dialFiveRun _ (by decide) rfl⟩

end GRPCMux

end GoPlugin
