import GoPlugin.GRPCBrokerPending
import GoPlugin.GRPCMuxer

/-!
# Acks as tokens

A successful ack is a permission to open one stream.  It comes into being when
`AcceptKnock` succeeds, travels through the brokers of both sides, and is used up when
`muxDial` opens its stream.  On the way it can get lost, but it cannot be copied: the
number of acks for an id that are on their way grows with `AcceptKnock` only.  The
routing results count streams and unblocked listeners against these tokens.
-/

namespace GoPlugin

open Tally PendingTable LabelledSystem

namespace GRPCBroker

/-! ### Messages inside one broker -/

/-- The weight of the client-role message that `Run` has in hand. -/
def RunPc.clientLoad (w : Letter → Nat) : RunPc → Nat
  | .routing m | .offering m _ => if m.info.serverKnock then 0 else w m
  | .receiving | .spawning _ _ | .stopped => 0

/-- The weight of the message that a call has received and not acted on yet. -/
def Call.load (w : Letter → Nat) : Call → Nat
  | ⟨_, _, .took _ m⟩ => w m
  | _ => 0

/-- The total weight of the client-role messages that the broker has received and that no
    call has acted on yet. -/
def clientLoad (w : Letter → Nat) (b : GRPCBroker) : Nat :=
  b.run.clientLoad w + b.clientStreams.load w + tally (Call.load w) b.calls

/-- The weight that the action brings into the broker. -/
def Act.brings (w : Letter → Nat) : Act → Nat
  | .run (.recv m) => if m.info.serverKnock then 0 else w m
  | _ => 0

/-- The weight of the message on which the action lets a `knock` return. -/
def settles (w : Letter → Nat) (b : GRPCBroker) : Act → Nat
  | .call i .finish =>
      match b.calls[i]? with
      | some ⟨.knock, _, .took _ m⟩ => w m
      | _ => 0
  | _ => 0

theorem clientLoad_run {w : Letter → Nat} {b b' : GRPCBroker} {a : RunAct} (hkey : Keyed b)
    (h : RunMove b a b') : b'.clientLoad w ≤ b.clientLoad w + Act.brings w (.run a) := by
  cases h with
  | recv hrun => simp [clientLoad, RunPc.clientLoad, Act.brings, hrun]; omega
  | lookupServer hrun hrole | lookupClient hrun hrole =>
      simp [clientLoad, RunPc.clientLoad, hrun, hrole]
  | queueServer hrun hrole hch | dropServer hrun hrole hch =>
      simp [clientLoad, RunPc.clientLoad, hrun, hrole]
  | @queueClient m p hrun hrole hch =>
      have hput := load_put w m (lt_length_of_keyOf (hkey.offering _ _ hrun hrole)) hch
      simp only [clientLoad, RunPc.clientLoad, hrun, hrole, hput]
      simp
      omega
  | dropClient hrun hrole hch =>
      simp [clientLoad, RunPc.clientLoad, hrun, hrole]
      omega
  | spawn hrun | stop hrun => simp [clientLoad, RunPc.clientLoad, hrun]

theorem clientLoad_caller {w : Letter → Nat} {b b' : GRPCBroker} {a : Act}
    (h : CallerMove b a b') : b'.clientLoad w + settles w b a ≤ b.clientLoad w := by
  cases h with
  | dial | knock | knockFail => simp [clientLoad, settles, Call.load]
  | @fetch i kind id hcall =>
      have hset := tally_set (Call.load w) ⟨kind, id, .waiting (b.clientStreams.slot id)⟩ hcall
      simp only [Call.load] at hset
      simp only [clientLoad, settles, load_fetch]
      omega
  | @recv i kind id p m hcall hch =>
      -- the message moves from the slot to the call
      have hset := tally_set (Call.load w) ⟨kind, id, .took p m⟩ hcall
      have htake := load_take w hch
      simp only [Call.load] at hset
      simp only [clientLoad, settles]
      omega
  | @closeDone i id p m hcall hopen =>
      have hset := tally_set (Call.load w) ⟨.dial, id, .used p m⟩ hcall
      simp only [Call.load] at hset
      simp only [clientLoad, settles, hcall, load_closeDone]
      omega
  | doubleClose hcall hclosed => simp [clientLoad, settles, hcall]
  | @acked i id p m hcall hcheck =>
      have hset := tally_set (Call.load w) ⟨.knock, id, .acked p m⟩ hcall
      simp only [Call.load] at hset
      simp only [clientLoad, settles, hcall]
      omega
  | @refused i id p m e hcall hcheck =>
      have hset := tally_set (Call.load w) ⟨.knock, id, .refused p e⟩ hcall
      simp only [Call.load] at hset
      simp only [clientLoad, settles, hcall]
      omega
  | @expire i kind id p hcall =>
      have hset := tally_set (Call.load w) ⟨kind, id, .expired p⟩ hcall
      simp only [Call.load] at hset
      simp only [clientLoad, settles]
      omega
  | @reap i kind id p hcall =>
      have hset := tally_set (Call.load w) ⟨kind, id, .timedOut⟩ hcall
      simp only [Call.load] at hset
      simp only [clientLoad, settles, load_erase]
      omega
  | waitDone | waitExpire | clean => simp [clientLoad, settles]

/-- **Client-role messages are not copied.**  What the broker has of them grows by what
    `Run` receives, and shrinks by what a `knock` returns on. -/
theorem clientLoad_move (w : Letter → Nat) {b b' : GRPCBroker} {a : Act} (hkey : Keyed b)
    (h : Move b a b') : b'.clientLoad w + settles w b a ≤ b.clientLoad w + a.brings w := by
  cases h with
  | run h => exact clientLoad_run hkey h
  | caller h => exact Nat.le_add_right_of_le (clientLoad_caller h)
  | @accepter a b' h =>
      obtain ⟨hstreams, hrun, hcalls, -, -⟩ := h.client_eq
      have hzero : settles w b a = 0 := by cases h <;> rfl
      simp only [clientLoad, hstreams, hrun, hcalls, hzero]
      omega

/-! ### Acks on the side that sends them -/

/-- Whether the message makes `knock(id)` return nil, as a count. -/
def ackFor (id : UInt32) (m : Letter) : Nat := if checkAck id m.info = none then 1 else 0

/-- Whether the goroutine is about to send such a message, as a count. -/
def Listen.acks (id : UInt32) : Listen → Nat
  | ⟨id', .acking _ m error⟩ => ackFor id ⟨ackInfo id' error, m.origin⟩
  | _ => 0

/-- The acks for `id` that the broker has sent or is about to send. -/
def acksSent (id : UInt32) (b : GRPCBroker) : Nat :=
  tally (Listen.acks id) b.listens + tally (ackFor id) b.out

/-- The acks for `id` that come into being by the action. -/
def Act.makes (id : UInt32) (b : GRPCBroker) : Act → Nat
  | .listen i (.knocked error) =>
      match b.listens[i]? with
      | some ⟨id', _⟩ => ackFor id ⟨ackInfo id' error, 0⟩
      | none => 0
  | _ => 0

@[simp] theorem ackFor_ackInfo (id id' : UInt32) (error : String) (n : Nat) :
    ackFor id ⟨ackInfo id' error, n⟩ = if id' = id ∧ error = "" then 1 else 0 := by
  unfold ackFor checkAck ackInfo
  by_cases hid : id' = id <;> by_cases herror : error = "" <;> simp [hid, herror]

@[simp] theorem ackFor_knockInfo (id id' : UInt32) (n : Nat) :
    ackFor id ⟨knockInfo id', n⟩ = 0 := by
  unfold ackFor checkAck knockInfo
  by_cases hid : id' = id <;> simp [hid]

/-- The goroutines' weight when one of them moves on, with nothing in hand before or after. -/
theorem acks_set {b : GRPCBroker} {i : Nat} {l l' : Listen} {id : UInt32}
    (hl : b.listens[i]? = some l) (h : l'.acks id ≤ l.acks id) :
    tally (Listen.acks id) (b.listens.set i l') ≤ tally (Listen.acks id) b.listens := by
  have := tally_set (Listen.acks id) l' hl
  omega

theorem acksSent_accepter {id : UInt32} {b b' : GRPCBroker} {a : Act}
    (h : AccepterMove b a b') : b'.acksSent id ≤ b.acksSent id + a.makes id b := by
  cases h with
  | fetch hl | recv hl hch hcheck | recvBad hl hch hcheck | ackFail hl | done hl hclosed =>
      exact Nat.add_le_add_right (acks_set hl (by simp [Listen.acks])) _
  | @knocked i id' p m error hl =>
      have hset := tally_set (Listen.acks id) ⟨id', .acking p m error⟩ hl
      simp only [Listen.acks, ackFor_ackInfo] at hset
      simp only [acksSent, Act.makes, hl, ackFor_ackInfo]
      omega
  | @ack i id' p m error hl =>
      -- the ack moves from the goroutine to the stream
      have hset := tally_set (Listen.acks id) ⟨id', .selecting p⟩ hl
      simp only [Listen.acks] at hset
      simp only [acksSent, tally_append, tally_cons, tally_nil]
      omega
  | spawn hl => simp [acksSent, Listen.acks]
  | accept | register | close | remove => exact Nat.le_add_right _ _

/-- **Acks are not copied.**  The acks of a broker grow by those that `AcceptKnock` lets
    `listenForKnocks` make. -/
theorem acksSent_move (id : UInt32) {b b' : GRPCBroker} {a : Act} (h : Move b a b') :
    b'.acksSent id ≤ b.acksSent id + a.makes id b := by
  cases h with
  | run h => cases h <;> exact Nat.le_add_right _ _
  | caller h => cases h <;> simp [acksSent]
  | accepter h => exact acksSent_accepter h

/-- Calls keep their kind and id, and new ones are made by `dial` and `knock` only. -/
theorem Move.calls {b b' : GRPCBroker} {a : Act} (h : Move b a b') :
    (∀ (k : Nat) (c : Call), b.calls[k]? = some c →
      ∃ c', b'.calls[k]? = some c' ∧ c'.kind = c.kind ∧ c'.id = c.id) ∧
    ∀ (k : Nat) (c' : Call), b'.calls[k]? = some c' →
      (∃ c, b.calls[k]? = some c ∧ c'.kind = c.kind ∧ c'.id = c.id) ∨
        (∃ id, a = .dial id) ∨ c'.kind = .knock := by
  refine ⟨fun k c hc => ?_, fun k c' hc' => ?_⟩
  · rcases h.callsNext.next hc with hsame | ⟨_, c', hc', hstep⟩
    · exact ⟨c, hsame, rfl, rfl⟩
    · exact ⟨c', hc', hstep.kind_id⟩
  · rcases h.callsNext.cases hc' with hold | ⟨_, c, -, hold, hstep⟩ | ⟨-, hnew⟩
    · exact Or.inl ⟨c', hold, rfl, rfl⟩
    · exact Or.inl ⟨c, hold, hstep.kind_id⟩
    · cases hnew with
      | dial => exact Or.inr (Or.inl ⟨_, rfl⟩)
      | knock | knockFail => exact Or.inr (Or.inr rfl)

end GRPCBroker

/-! ### Messages in the whole system -/

/-- The `muxDial(id)` call has its ack and is about to open its stream, as a count. -/
def GRPCDial.opening (id : UInt32) : GRPCDial → Nat
  | ⟨id', .dialing⟩ => if id' = id then 1 else 0
  | _ => 0

/-- The broker's calls are those that the `muxDial` calls of its side made. -/
structure MuxSide.Linked (x : MuxSide) : Prop where
  keyed : x.broker.Keyed
  knocks : ∀ (k : Nat) (c : GRPCBroker.Call), x.broker.calls[k]? = some c → c.kind = .knock
  knocking : ∀ (d : Nat) (id : UInt32) (k : Nat), x.dials[d]? = some ⟨id, .knocking k⟩ →
    ∃ c, x.broker.calls[k]? = some c ∧ c.id = id

theorem MuxSide.linked_init : Linked init where
  keyed := GRPCBroker.keyed_init
  knocks := by simp [init, GRPCBroker.init]
  knocking := by simp [init]

/-- The broker moves on, and each of the side's calls that is in `knock` was so before. -/
theorem MuxSide.Linked.broker {x : MuxSide} (h : Linked x) {a : GRPCBroker.Act} {b : GRPCBroker}
    (hb : x.broker.Move a b) (ha : ∀ id, a ≠ .dial id) (mutex : Option Nat)
    {dials : List GRPCDial}
    (hdials : ∀ (d : Nat) (id : UInt32) (k : Nat), dials[d]? = some ⟨id, .knocking k⟩ →
      x.dials[d]? = some ⟨id, .knocking k⟩ ∨ ∃ c, b.calls[k]? = some c ∧ c.id = id) :
    Linked ⟨b, mutex, dials⟩ where
  keyed := h.keyed.move hb
  knocks k c hc := by
    rcases hb.calls.2 k c hc with ⟨c₀, hc₀, hkind, -⟩ | ⟨id, hdial⟩ | hkind
    · rw [hkind, h.knocks k c₀ hc₀]
    · exact absurd hdial (ha id)
    · exact hkind
  knocking d id k hd := by
    rcases hdials d id k hd with hold | hnew
    · obtain ⟨c, hc, hid⟩ := h.knocking d id k hold
      obtain ⟨c', hc', -, hid'⟩ := hb.calls.1 k c hc
      exact ⟨c', hc', hid'.trans hid⟩
    · exact hnew

theorem MuxSide.Linked.move {s : Side} {x x' : MuxSide} {a : GRPCMux.Act} (h : Linked x)
    (hmove : x.Move s a x') : Linked x' := by
  cases hmove with
  | @muxDial id b hfree hb =>
      refine h.broker hb (by simp) _ fun d id' k hd => ?_
      cases hb.of_knock
      rcases getElem?_concat_cases hd with hold | ⟨-, hnew⟩
      · exact Or.inl hold
      · cases hnew
        exact Or.inr ⟨⟨.knock, id, .fetching⟩, by simp, rfl⟩
  | muxDialFail hfree hb => exact h.broker hb (by simp) _ (by grind)
  | acked hd hb hacked | refused hd hb hacked | timesOut hd hb =>
      exact h.broker hb (by simp) _ (by grind)
  | @broker a b ha hb =>
      refine h.broker hb ?_ _ fun d id k hd => Or.inl hd
      rintro id rfl
      cases ha

namespace GRPCMux

theorem linked_init (t : Side) : (init.sides.get t).Linked := by
  cases t <;> exact MuxSide.linked_init

/-- Taking a message off the stream changes nothing inside the broker. -/
theorem linked_unqueued {m : GRPCMux} {s : Side} (h : (m.sides.get s).Linked)
    (rest : List Letter) : (m.unqueued s rest).Linked where
  keyed := ⟨h.keyed.offering, h.keyed.spawning, h.keyed.calls, h.keyed.waits, h.keyed.queued⟩
  knocks := h.knocks
  knocking := h.knocking

theorem linked_withBroker {m : GRPCMux} {s : Side} (h : ∀ t, (m.sides.get t).Linked)
    {a : GRPCBroker.Act} {b : GRPCBroker} (hb : (m.sides.get s).broker.Move a b)
    (ha : ∀ id, a ≠ .dial id) (t : Side) : ((m.withBroker s b).get t).Linked :=
  Both.forall_get_set ((h s).broker hb ha _ fun _ _ _ hd => Or.inl hd) (h s.peer) t

theorem linked_move {m m' : GRPCMux} {a : Act} (h : ∀ t, (m.sides.get t).Linked)
    (hmove : Move m a m') (t : Side) : (m'.sides.get t).Linked := by
  cases hmove with
  | side hx => exact Both.forall_get_set ((h _).move hx) (h _) t
  | @openHost d id hd =>
      refine Both.forall_get_set ⟨(h .host).keyed, (h .host).knocks, ?_⟩ (h .plugin) t
      have := (h .host).knocking
      grind
  | @openPlugin d id hd =>
      refine Both.forall_get_set ⟨(h .plugin).keyed, (h .plugin).knocks, ?_⟩ (h .host) t
      have := (h .plugin).knocking
      grind
  | @recv s l rest b hserved hout hb =>
      refine Both.forall_get_set (linked_unqueued (h s.peer) rest) ?_ t
      exact linked_withBroker h hb (by simp) s.peer.peer
  | serverAcceptKnock hl hfree hb => exact linked_withBroker h hb (by simp) t
  | serverListener hl hb => exact linked_withBroker h hb (by simp) t
  | clientRefuse hl hfree hb => exact linked_withBroker h hb (by simp) t
  | clientUnblock hmutex hc hb => exact linked_withBroker h hb (by simp) t
  | clientListener hl hb => exact linked_withBroker h hb (by simp) t
  | _ => exact h t

/-- The permissions to open a stream for `id` that are on their way to the `muxDial` calls
    of side `d`: acks that its peer has sent or is about to send, acks that its own broker
    has received, and calls that have returned from `knock`. -/
def tokens (sides : Both MuxSide) (d : Side) (id : UInt32) : Nat :=
  (sides.get d.peer).broker.acksSent id
    + (sides.get d).broker.clientLoad (GRPCBroker.ackFor id)
    + tally (GRPCDial.opening id) (sides.get d).dials

/-- The tokens that the action makes: `AcceptKnock` succeeds on the peer of `d`. -/
def makes (m : GRPCMux) (d : Side) (id : UInt32) : Act → Nat
  | .serverAcceptKnock i =>
      if d = .host then
        GRPCBroker.Act.makes id (m.sides.get .plugin).broker (.listen i (.knocked ""))
      else 0
  | .clientUnblock =>
      match m.client.acceptMutex with
      | some (i, _) =>
          if d = .plugin then
            GRPCBroker.Act.makes id (m.sides.get .host).broker (.listen i (.knocked ""))
          else 0
      | none => 0
  | _ => 0

/-- The tokens that the action uses up: side `d` opens a stream. -/
def opens (m : GRPCMux) (d : Side) (id : UInt32) : Act → Nat
  | .openStream s k =>
      if d = s then
        match (m.sides.get s).dials[k]? with
        | some x => if x.id = id then 1 else 0
        | none => 0
      else 0
  | _ => 0

section Balance

variable {sides : Both MuxSide} {s : Side} {x : MuxSide}

/-- The tokens of a side that moves on are those of its broker and its calls. -/
theorem tokens_own (id : UInt32) :
    tokens (sides.set s x) s id = (sides.get s.peer).broker.acksSent id
      + x.broker.clientLoad (GRPCBroker.ackFor id) + tally (GRPCDial.opening id) x.dials := by
  simp only [tokens, Both.get_set_self, Both.get_set_peer]

/-- To its peer's tokens it contributes the acks that it sends. -/
theorem tokens_peer (id : UInt32) :
    tokens (sides.set s x) s.peer id = x.broker.acksSent id
      + (sides.get s.peer).broker.clientLoad (GRPCBroker.ackFor id)
      + tally (GRPCDial.opening id) (sides.get s.peer).dials := by
  simp only [tokens, Side.peer_peer, Both.get_set_self, Both.get_set_peer]

/-- A side moves on: what its own calls have does not grow, and its acks by `n` at most. -/
theorem tokens_set {id : UInt32} {n : Nat} (d : Side)
    (hown : x.broker.clientLoad (GRPCBroker.ackFor id) + tally (GRPCDial.opening id) x.dials ≤
      (sides.get s).broker.clientLoad (GRPCBroker.ackFor id)
        + tally (GRPCDial.opening id) (sides.get s).dials)
    (hpeer : x.broker.acksSent id ≤ (sides.get s).broker.acksSent id + n) :
    tokens (sides.set s x) d id ≤ tokens sides d id + if d = s then 0 else n := by
  rcases Side.eq_or_eq_peer s d with rfl | rfl
  · rw [tokens_own, if_pos rfl]
    simp only [tokens]
    omega
  · rw [tokens_peer, if_neg (Side.peer_ne s)]
    simp only [tokens, Side.peer_peer]
    omega

theorem tokens_set_le {id : UInt32} (d : Side)
    (hown : x.broker.clientLoad (GRPCBroker.ackFor id) + tally (GRPCDial.opening id) x.dials ≤
      (sides.get s).broker.clientLoad (GRPCBroker.ackFor id)
        + tally (GRPCDial.opening id) (sides.get s).dials)
    (hpeer : x.broker.acksSent id ≤ (sides.get s).broker.acksSent id) :
    tokens (sides.set s x) d id ≤ tokens sides d id := by
  simpa using tokens_set (n := 0) d hown hpeer

/-- A `knock` that returns nil hands its ack to its `muxDial` call. -/
theorem opening_acked (h : x.Linked) {d k : Nat} {id' : UInt32} {b : GRPCBroker} (id : UInt32)
    (hd : x.dials[d]? = some ⟨id', .knocking k⟩) (hb : x.broker.Move (.call k .finish) b)
    (hacked : b.knockAcked k = true) :
    tally (GRPCDial.opening id) (x.dials.set d ⟨id', .dialing⟩) ≤
      tally (GRPCDial.opening id) x.dials
        + GRPCBroker.settles (GRPCBroker.ackFor id) x.broker (.call k .finish) := by
  have hset := tally_set (GRPCDial.opening id) ⟨id', .dialing⟩ hd
  obtain ⟨c, hc, hid⟩ := h.knocking d id' k hd
  have hkind := h.knocks k c hc
  cases hb.of_call with
  | closeDone hcall | doubleClose hcall =>
      rw [hc] at hcall
      cases hcall
      cases hkind
  | @refused _ cid p l e hcall hcheck =>
      have hlt : k < x.broker.calls.length := (List.getElem?_eq_some_iff.mp hcall).1
      simp [GRPCBroker.knockAcked, hlt] at hacked
  | @acked _ cid p l hcall hcheck =>
      rw [hc] at hcall
      cases hcall
      simp only at hid
      subst hid
      simp only [GRPCDial.opening] at hset
      simp only [GRPCBroker.settles, hc, GRPCBroker.ackFor]
      by_cases hcid : cid = id
      · subst hcid
        simp only [if_true, hcheck] at hset ⊢
        omega
      · simp only [if_neg hcid] at hset
        omega

theorem opening_failed {d k : Nat} {id' : UInt32} (id : UInt32)
    (hd : x.dials[d]? = some ⟨id', .knocking k⟩) :
    tally (GRPCDial.opening id) (x.dials.set d ⟨id', .failed⟩) =
      tally (GRPCDial.opening id) x.dials := by
  have hset := tally_set (GRPCDial.opening id) ⟨id', .failed⟩ hd
  simp only [GRPCDial.opening] at hset
  omega

/-- One side's broker takes a step that brings in no message. -/
theorem tokens_broker (h : (sides.get s).Linked) {a : GRPCBroker.Act} {b : GRPCBroker}
    (hb : (sides.get s).broker.Move a b) (d : Side) (id : UInt32)
    (hbrings : a.brings (GRPCBroker.ackFor id) = 0) :
    tokens (sides.set s { sides.get s with broker := b }) d id ≤
      tokens sides d id + if d = s then 0 else a.makes id (sides.get s).broker := by
  have hclient := GRPCBroker.clientLoad_move (GRPCBroker.ackFor id) h.keyed hb
  refine tokens_set d ?_ (GRPCBroker.acksSent_move id hb)
  dsimp only
  omega

theorem tokens_sideMove {a : Act} (h : (sides.get s).Linked) (hx : (sides.get s).Move s a x)
    (d : Side) (id : UInt32) : tokens (sides.set s x) d id ≤ tokens sides d id := by
  cases hx with
  | muxDial hfree hb | muxDialFail hfree hb =>
      have hclient := GRPCBroker.clientLoad_move (GRPCBroker.ackFor id) h.keyed hb
      refine tokens_set_le d ?_ (GRPCBroker.acksSent_move id hb)
      simp only [GRPCBroker.settles, GRPCBroker.Act.brings] at hclient
      simp only [tally_append, tally_cons, tally_nil, GRPCDial.opening]
      omega
  | acked hd hb hacked =>
      have hclient := GRPCBroker.clientLoad_move (GRPCBroker.ackFor id) h.keyed hb
      have hopening := opening_acked h id hd hb hacked
      refine tokens_set_le d ?_ (GRPCBroker.acksSent_move id hb)
      simp only [GRPCBroker.Act.brings] at hclient
      dsimp only
      omega
  | refused hd hb hacked | timesOut hd hb =>
      have hclient := GRPCBroker.clientLoad_move (GRPCBroker.ackFor id) h.keyed hb
      have hfailed := opening_failed id hd
      refine tokens_set_le d ?_ (GRPCBroker.acksSent_move id hb)
      simp only [GRPCBroker.Act.brings] at hclient
      dsimp only
      omega
  | @broker a b ha hb =>
      have hbrings : a.brings (GRPCBroker.ackFor id) = 0 := by
        unfold GRPCBroker.Act.brings
        split
        · cases ha
        · rfl
      have hmakes : a.makes id (sides.get s).broker = 0 := by
        unfold GRPCBroker.Act.makes
        split
        · cases ha
        · rfl
      simpa [hmakes] using tokens_broker h hb d id hbrings

/-- Opening a stream uses up the token of the call that opens it. -/
theorem tokens_open {k : Nat} {id' : UInt32}
    (hd : (sides.get s).dials[k]? = some ⟨id', .dialing⟩) (d : Side) (id : UInt32) :
    tokens (sides.set s { sides.get s with
        dialMutex := none, dials := (sides.get s).dials.set k ⟨id', .returned⟩ }) d id
      + (if d = s then if id' = id then 1 else 0 else 0) = tokens sides d id := by
  rcases Side.eq_or_eq_peer s d with rfl | rfl
  · have hset := tally_set (GRPCDial.opening id) ⟨id', .returned⟩ hd
    simp only [GRPCDial.opening] at hset
    rw [tokens_own, if_pos rfl]
    simp only [tokens]
    omega
  · rw [tokens_peer, if_neg (Side.peer_ne s)]
    simp only [tokens, Side.peer_peer, Nat.add_zero]

/-- A message that changes hands stays one token. -/
theorem tokens_recv {m : GRPCMux} {l : Letter} {rest : List Letter} {b : GRPCBroker}
    (h : (m.sides.get s).Linked) (hout : (m.sides.get s.peer).broker.out = l :: rest)
    (hb : (m.sides.get s).broker.Move (.run (.recv l)) b) (d : Side) (id : UInt32) :
    tokens ((m.withBroker s b).set s.peer (m.unqueued s.peer rest)) d id ≤
      tokens m.sides d id := by
  have hclient := GRPCBroker.clientLoad_move (GRPCBroker.ackFor id) h.keyed hb
  have hsent := GRPCBroker.acksSent_move id hb
  simp only [GRPCBroker.settles, GRPCBroker.Act.brings, GRPCBroker.Act.makes] at hclient hsent
  have hbrings : (if l.info.serverKnock then 0 else GRPCBroker.ackFor id l) ≤
      GRPCBroker.ackFor id l := by split <;> omega
  rcases Side.eq_or_eq_peer s d with rfl | rfl
  · simp only [tokens, Both.get_set_self, Both.get_peer_set, withBroker, unqueued,
      GRPCBroker.acksSent, hout, tally_cons]
    omega
  · simp only [tokens, Side.peer_peer, Both.get_set_self, Both.get_peer_set, withBroker,
      unqueued, GRPCBroker.clientLoad]
    omega

end Balance

theorem noListener_ne (id : UInt32) : GRPCClientMuxer.noListener id ≠ "" := by
  unfold GRPCClientMuxer.noListener
  generalize toString id.toNat = digits
  simp

/-- **Tokens are made by `AcceptKnock` and used up by opening a stream.** -/
theorem tokens_move {m m' : GRPCMux} {a : Act} (h : ∀ t, (m.sides.get t).Linked)
    (hmove : Move m a m') (d : Side) (id : UInt32) :
    tokens m'.sides d id + m.opens d id a ≤ tokens m.sides d id + m.makes d id a := by
  cases hmove with
  | @side s a x hx =>
      have hopens : m.opens d id a = 0 := by cases hx <;> rfl
      have := tokens_sideMove (h s) hx d id
      rw [hopens]
      exact Nat.le_add_right_of_le this
  | openHost hd =>
      simp only [opens, hd, makes]
      exact Nat.le_of_eq (tokens_open hd d id)
  | openPlugin hd =>
      simp only [opens, hd, makes]
      exact Nat.le_of_eq (tokens_open hd d id)
  | recv hserved hout hb => exact tokens_recv (h _) hout hb d id
  | serverAcceptKnock hl hfree hb =>
      have hbal := tokens_broker (h .plugin) hb d id rfl
      simp only [opens, makes, withBroker]
      cases d <;> simpa using hbal
  | clientRefuse hl hfree hb =>
      have hbal := tokens_broker (h .host) hb d id rfl
      simpa [GRPCBroker.Act.makes, hl, noListener_ne, opens, makes, withBroker] using hbal
  | clientUnblock hmutex hc hb =>
      have hbal := tokens_broker (h .host) hb d id rfl
      simp only [opens, makes, withBroker, hmutex]
      cases d <;> simpa using hbal
  | serverListener hl hb =>
      have hbal := tokens_broker (h .plugin) hb d id rfl
      simpa [GRPCBroker.Act.makes, opens, makes, withBroker] using hbal
  | clientListener hl hb =>
      have hbal := tokens_broker (h .host) hb d id rfl
      simpa [GRPCBroker.Act.makes, opens, makes, withBroker] using hbal
  | _ => exact Nat.le_refl _

end GRPCMux

end GoPlugin
