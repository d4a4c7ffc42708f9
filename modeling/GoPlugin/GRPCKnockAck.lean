import GoPlugin.GRPCMuxRouting

/-!
# Which knock an ack answers

Knocks and acks carry an id and nothing else.  A `knock(id)` call that times out leaves its
knock, or the ack to it, on the way, and the next `knock(id)` takes such an ack for the
answer to its own knock.

A weight on pairs of an id and the number of a call weighs the messages that are on their
way for the calls of one side: knocks that it sent, acks that its peer made for them.  No
step but `muxDial` adds to it.  So while `muxDial(id)` sends its knock with nothing under
way for `id`, every ack that reaches a call is the answer to that very call.
-/

namespace GoPlugin

open Tally PendingTable LabelledSystem

/-! ### Messages under way for one side -/

/-- The weight of a message: `w` at its id and the call it belongs to. -/
def Letter.weigh (w : UInt32 → Nat → Nat) (m : Letter) : Nat := w m.info.serviceId m.origin

/-- The weight of a message that is a knock. -/
def Letter.weighKnock (w : UInt32 → Nat → Nat) (m : Letter) : Nat :=
  if m.info.serverKnock then m.weigh w else 0

/-- The weight of a message that is none. -/
def Letter.weighAck (w : UInt32 → Nat → Nat) (m : Letter) : Nat :=
  if m.info.serverKnock then 0 else m.weigh w

namespace GRPCBroker

/-- The knock that `Run` has in hand. -/
def RunPc.serverLoad (w : UInt32 → Nat → Nat) : RunPc → Nat
  | .routing m | .offering m _ => m.weighKnock w
  | .receiving | .spawning _ _ | .stopped => 0

/-- The knock that the goroutine has accepted and not answered yet. -/
def Listen.load (w : UInt32 → Nat → Nat) : Listen → Nat
  | ⟨id, .knocking _ m⟩ | ⟨id, .acking _ m _⟩ => w id m.origin
  | _ => 0

/-- What the broker has of the messages for its own calls: knocks it sent, acks it got. -/
def dialLoad (w : UInt32 → Nat → Nat) (b : GRPCBroker) : Nat :=
  b.clientLoad (Letter.weigh w) + tally (Letter.weighKnock w) b.out

/-- What it has of the messages for its peer's calls: knocks it got, acks it sent. -/
def acceptLoad (w : UInt32 → Nat → Nat) (b : GRPCBroker) : Nat :=
  b.run.serverLoad w + b.serverStreams.load (Letter.weigh w)
    + tally (Listen.load w) b.listens + tally (Letter.weighAck w) b.out

/-- The weight of the knock that the action sends. -/
def sends (w : UInt32 → Nat → Nat) (b : GRPCBroker) : Act → Nat
  | .knock id true => w id b.calls.length
  | _ => 0

/-- The weight of the knock that the action receives. -/
def Act.bringsKnock (w : UInt32 → Nat → Nat) : Act → Nat
  | .run (.recv m) => m.weighKnock w
  | _ => 0

section Loads

variable {w : UInt32 → Nat → Nat} {b b' : GRPCBroker} {a : Act}

@[simp] theorem weighKnock_knockInfo (id : UInt32) (n : Nat) :
    Letter.weighKnock w ⟨knockInfo id, n⟩ = w id n := rfl

@[simp] theorem weighKnock_ackInfo (id : UInt32) (error : String) (n : Nat) :
    Letter.weighKnock w ⟨ackInfo id error, n⟩ = 0 := rfl

@[simp] theorem weighAck_knockInfo (id : UInt32) (n : Nat) :
    Letter.weighAck w ⟨knockInfo id, n⟩ = 0 := rfl

@[simp] theorem weighAck_ackInfo (id : UInt32) (error : String) (n : Nat) :
    Letter.weighAck w ⟨ackInfo id error, n⟩ = w id n := rfl

theorem knocksOut_move (h : Move b a b') :
    tally (Letter.weighKnock w) b'.out ≤ tally (Letter.weighKnock w) b.out + sends w b a := by
  cases h with
  | run h => cases h <;> exact Nat.le_add_right _ _
  | caller h => cases h <;> simp [sends]
  | accepter h => cases h <;> simp [sends]

theorem dialLoad_move (hkey : Keyed b) (h : Move b a b') :
    b'.dialLoad w ≤ b.dialLoad w + a.brings (Letter.weigh w) + sends w b a := by
  have hclient := clientLoad_move (Letter.weigh w) hkey h
  have hout := knocksOut_move (w := w) h
  simp only [dialLoad]
  omega

theorem acceptLoad_run {a : RunAct} (h : RunMove b a b') :
    b'.acceptLoad w ≤ b.acceptLoad w + Act.bringsKnock w (.run a) := by
  cases h with
  | recv hrun => simp [acceptLoad, RunPc.serverLoad, Act.bringsKnock, hrun]; omega
  | lookupServer hrun hrole | lookupClient hrun hrole =>
      simp [acceptLoad, RunPc.serverLoad, hrun]
  | @queueServer m p hrun hrole hch =>
      have hput := load_put_le (Letter.weigh w) m hch
      simp only [acceptLoad, RunPc.serverLoad, hrun, Letter.weighKnock, hrole, if_true]
      omega
  | queueClient hrun hrole hch | dropServer hrun hrole hch | dropClient hrun hrole hch =>
      simp only [acceptLoad, RunPc.serverLoad, hrun]
      omega
  | spawn hrun | stop hrun => simp [acceptLoad, RunPc.serverLoad, hrun]

/-- The goroutines' weight when one of them moves on without getting a knock. -/
theorem listens_set {i : Nat} {l : Listen} (l' : Listen) (hl : b.listens[i]? = some l)
    (h : l'.load w ≤ l.load w) :
    tally (Listen.load w) (b.listens.set i l') ≤ tally (Listen.load w) b.listens := by
  have := tally_set (Listen.load w) l' hl
  omega

theorem acceptLoad_accepter (h : AccepterMove b a b') : b'.acceptLoad w ≤ b.acceptLoad w := by
  cases h with
  | @fetch i id hl =>
      have hset := listens_set (w := w) ⟨id, .selecting (b.serverStreams.slot id)⟩ hl
        (Nat.zero_le _)
      simp only [acceptLoad, load_fetch]
      omega
  | @recv i id p m hl hch hcheck =>
      -- the goroutine's id is that of the knock it takes
      have hid : m.info.serviceId = id := by simpa using (Bool.and_eq_true_iff.mp hcheck).1
      have hset := tally_set (Listen.load w) ⟨id, .knocking p m⟩ hl
      have htake := load_take (Letter.weigh w) hch
      simp only [Listen.load] at hset
      simp only [Letter.weigh, hid] at htake
      simp only [acceptLoad]
      omega
  | @recvBad i id p m hl hch hcheck =>
      have hset := listens_set (w := w) ⟨id, .returned⟩ hl (Nat.zero_le _)
      have htake := load_take (Letter.weigh w) hch
      simp only [acceptLoad]
      omega
  | knocked hl =>
      exact Nat.add_le_add_right
        (Nat.add_le_add_left (listens_set _ hl (by simp [Listen.load])) _) _
  | @ack i id p m error hl =>
      -- the knock becomes the ack to it
      have hset := tally_set (Listen.load w) ⟨id, .selecting p⟩ hl
      simp only [Listen.load] at hset
      simp only [acceptLoad, tally_append, tally_cons, tally_nil, weighAck_ackInfo]
      omega
  | ackFail hl | done hl hclosed =>
      exact Nat.add_le_add_right (Nat.add_le_add_left (listens_set _ hl (Nat.zero_le _)) _) _
  | accept => simp [acceptLoad]
  | spawn hl => simp [acceptLoad, Listen.load]
  | register hl => exact Nat.le_refl _
  | close hl hpc => simp [acceptLoad]
  | remove hl => simp [acceptLoad]

theorem acceptLoad_move (h : Move b a b') :
    b'.acceptLoad w ≤ b.acceptLoad w + a.bringsKnock w := by
  cases h with
  | run h => exact acceptLoad_run h
  | caller h => cases h <;> simp [acceptLoad]
  | accepter h => exact Nat.le_add_right_of_le (acceptLoad_accepter h)

end Loads

/-! ### Heavier weights -/

section Mono

variable {v w : UInt32 → Nat → Nat} (h : ∀ id n, v id n ≤ w id n)

include h

theorem weigh_mono (m : Letter) : m.weigh v ≤ m.weigh w := h _ _

theorem weighKnock_mono (m : Letter) : m.weighKnock v ≤ m.weighKnock w := by
  simp only [Letter.weighKnock]
  split
  · exact h _ _
  · exact Nat.le_refl _

theorem weighAck_mono (m : Letter) : m.weighAck v ≤ m.weighAck w := by
  simp only [Letter.weighAck]
  split
  · exact Nat.le_refl _
  · exact h _ _

theorem dialLoad_mono (b : GRPCBroker) : b.dialLoad v ≤ b.dialLoad w := by
  have hrun : b.run.clientLoad (Letter.weigh v) ≤ b.run.clientLoad (Letter.weigh w) := by
    cases b.run with
    | routing m | offering m _ => exact weighAck_mono h m
    | receiving | spawning _ _ | stopped => exact Nat.le_refl _
  have hslots := load_mono (weigh_mono h) b.clientStreams
  have hcalls : tally (Call.load (Letter.weigh v)) b.calls ≤
      tally (Call.load (Letter.weigh w)) b.calls := by
    refine tally_le_tally fun c _ => ?_
    simp only [Call.load]
    split
    · exact h _ _
    · exact Nat.le_refl _
  have hout := tally_le_tally (l := b.out) fun m _ => weighKnock_mono h m
  simp only [dialLoad, clientLoad]
  omega

theorem acceptLoad_mono (b : GRPCBroker) : b.acceptLoad v ≤ b.acceptLoad w := by
  have hrun : b.run.serverLoad v ≤ b.run.serverLoad w := by
    cases b.run with
    | routing m | offering m _ => exact weighKnock_mono h m
    | receiving | spawning _ _ | stopped => exact Nat.le_refl _
  have hslots := load_mono (weigh_mono h) b.serverStreams
  have hlistens : tally (Listen.load v) b.listens ≤ tally (Listen.load w) b.listens := by
    refine tally_le_tally fun l _ => ?_
    simp only [Listen.load]
    split
    · exact h _ _
    · exact h _ _
    · exact Nat.le_refl _
  have hout := tally_le_tally (l := b.out) fun m _ => weighAck_mono h m
  simp only [acceptLoad]
  omega

end Mono

end GRPCBroker

namespace GRPCMux

/-- The weight of the messages under way for the calls of side `d`. -/
def underWay (w : UInt32 → Nat → Nat) (sides : Both MuxSide) (d : Side) : Nat :=
  (sides.get d).broker.dialLoad w + (sides.get d.peer).broker.acceptLoad w

/-- The weight of the knock that side `d` sends by the action. -/
def knocks (w : UInt32 → Nat → Nat) (m : GRPCMux) (d : Side) : Act → Nat
  | .muxDial s id true => if s = d then w id (m.sides.get d).broker.calls.length else 0
  | _ => 0

theorem underWay_mono {v w : UInt32 → Nat → Nat} (h : ∀ id n, v id n ≤ w id n)
    (sides : Both MuxSide) (d : Side) : underWay v sides d ≤ underWay w sides d :=
  Nat.add_le_add (GRPCBroker.dialLoad_mono h _) (GRPCBroker.acceptLoad_mono h _)

theorem Evolves.dialLoad {t : Side} {act : Act} {m : GRPCMux} {b : GRPCBroker}
    (h : Evolves t act (m.sides.get t).broker b) (hkey : (m.sides.get t).broker.Keyed)
    (hact : ∀ s, act ≠ .recv s) (w : UInt32 → Nat → Nat) :
    b.dialLoad w ≤ (m.sides.get t).broker.dialLoad w + m.knocks w t act := by
  cases h with
  | same => exact Nat.le_add_right _ _
  | unqueued hrecv => exact absurd hrecv (hact _)
  | @move a b' hb ha =>
      have hload := GRPCBroker.dialLoad_move (w := w) hkey hb
      have hbrings : a.brings (Letter.weigh w) = 0 := by
        unfold GRPCBroker.Act.brings
        split
        · exact absurd ha (hact t)
        · rfl
      have hsends : (m.sides.get t).broker.sends w a ≤ m.knocks w t act := by
        unfold GRPCBroker.sends
        split
        · next id =>
            have hdial : act = .muxDial t id true := ha
            simp [hdial, knocks]
        · exact Nat.zero_le _
      omega

theorem Evolves.acceptLoad {t : Side} {act : Act} {b b' : GRPCBroker}
    (h : Evolves t act b b') (hact : ∀ s, act ≠ .recv s) (w : UInt32 → Nat → Nat) :
    b'.acceptLoad w ≤ b.acceptLoad w := by
  cases h with
  | same => exact Nat.le_refl _
  | unqueued hrecv => exact absurd hrecv (hact _)
  | @move a b' hb ha =>
      have hload := GRPCBroker.acceptLoad_move (w := w) hb
      have hbrings : a.bringsKnock w = 0 := by
        unfold GRPCBroker.Act.bringsKnock
        split
        · exact absurd ha (hact t)
        · rfl
      omega

/-- A message that changes hands is still under way for the same side. -/
theorem underWay_recv {m : GRPCMux} {s : Side} {l : Letter} {rest : List Letter} {b : GRPCBroker}
    (hkey : (m.sides.get s).broker.Keyed) (hout : (m.sides.get s.peer).broker.out = l :: rest)
    (hb : (m.sides.get s).broker.Move (.run (.recv l)) b) (w : UInt32 → Nat → Nat) (d : Side) :
    underWay w ((m.withBroker s b).set s.peer (m.unqueued s.peer rest)) d ≤
      underWay w m.sides d := by
  have hdial := GRPCBroker.dialLoad_move (w := w) hkey hb
  have haccept := GRPCBroker.acceptLoad_move (w := w) hb
  simp only [GRPCBroker.Act.brings, GRPCBroker.sends, GRPCBroker.Act.bringsKnock] at hdial haccept
  rcases Side.eq_or_eq_peer s d with rfl | rfl
  · simp only [underWay, Both.get_set_self, Both.get_peer_set, withBroker, unqueued,
      GRPCBroker.acceptLoad, hout, tally_cons, Letter.weighAck]
    omega
  · simp only [underWay, Side.peer_peer, Both.get_set_self, Both.get_peer_set, withBroker,
      unqueued, GRPCBroker.dialLoad, GRPCBroker.clientLoad, hout, tally_cons]
    omega

/-- **Knocks are answered once.**  What is under way for a side grows by the knocks that it
    sends. -/
theorem underWay_move {m m' : GRPCMux} {a : Act} (h : ∀ t, (m.sides.get t).Linked)
    (hmove : Move m a m') (w : UInt32 → Nat → Nat) (d : Side) :
    underWay w m'.sides d ≤ underWay w m.sides d + m.knocks w d a := by
  by_cases hact : ∀ s, a ≠ .recv s
  · have hdial := (hmove.evolves d).dialLoad (h d).keyed hact w
    have haccept := (hmove.evolves d.peer).acceptLoad hact w
    simp only [underWay]
    omega
  · simp only [not_forall, not_not] at hact
    obtain ⟨s, rfl⟩ := hact
    cases hmove with
    | side hx => cases hx
    | recv hserved hout hb => exact underWay_recv (h s).keyed hout hb w d

end GRPCMux

/-! ### One knock at a time -/

/-- A step that makes no new call lets no finished call start again. -/
theorem GRPCBroker.Move.unfinished {b b' : GRPCBroker} {a : GRPCBroker.Act}
    (h : GRPCBroker.Move b a b') (hdial : ∀ id, a ≠ .dial id) (hknock : ∀ id ok, a ≠ .knock id ok) :
    b'.calls.length = b.calls.length ∧
      ∀ (k : Nat) (c' : Call), b'.calls[k]? = some c' → c'.pc.finished = false →
        ∃ c, b.calls[k]? = some c ∧ c.pc.finished = false ∧ c.id = c'.id := by
  have hnone : ∀ c, ¬GRPCBroker.CallNew b b' a c := by
    intro c hnew
    cases hnew with
    | dial => exact hdial _ rfl
    | knock | knockFail => exact hknock _ _ rfl
  refine ⟨?_, fun k c' hc' hpc => ?_⟩
  · cases h.callsNext with
    | same h => rw [h]
    | step _ _ _ h => rw [h, List.length_set]
    | new hnew => exact absurd hnew (hnone _)
  · rcases h.callsNext.cases hc' with hold | ⟨_, c, -, hold, hstep⟩ | ⟨-, hnew⟩
    · exact ⟨c', hold, hpc, rfl⟩
    · exact ⟨c, hold, hstep.unfinished, hstep.kind_id.2.symm⟩
    · exact absurd hnew (hnone _)

/-- The `muxDial` call has `dialMutex`. -/
def GRPCDialPc.locks : GRPCDialPc → Bool
  | .knocking _ | .dialing => true
  | .returned | .failed => false

/-- The calls that have not returned yet belong to the `muxDial` call that has `dialMutex`,
    and no other call was made since. -/
structure MuxSide.Exclusive (x : MuxSide) : Prop where
  mutex : ∀ (d : Nat) (e : GRPCDial), x.dials[d]? = some e → e.pc.locks = true →
    x.dialMutex = some d
  knocking : ∀ (k : Nat) (c : GRPCBroker.Call), x.broker.calls[k]? = some c →
    c.pc.finished = false → ∃ (d : Nat) (id : UInt32), x.dials[d]? = some ⟨id, .knocking k⟩
  last : ∀ (k : Nat) (c : GRPCBroker.Call), x.broker.calls[k]? = some c →
    c.pc.finished = false → k + 1 = x.broker.calls.length

namespace MuxSide

theorem exclusive_init : Exclusive init := by
  constructor <;> simp [init, GRPCBroker.init]

/-- While `dialMutex` is free, all calls have returned. -/
theorem Exclusive.finished {x : MuxSide} (h : Exclusive x) (hfree : x.dialMutex = none)
    {k : Nat} {c : GRPCBroker.Call} (hc : x.broker.calls[k]? = some c) : c.pc.finished = true := by
  by_contra hpc
  obtain ⟨d, id, hd⟩ := h.knocking k c hc (by simpa using hpc)
  have hmutex := h.mutex d _ hd rfl
  rw [hfree] at hmutex
  cases hmutex

theorem Exclusive.broker {x : MuxSide} (h : Exclusive x) {a : GRPCBroker.Act} {b : GRPCBroker}
    (hb : x.broker.Move a b) (hdial : ∀ id, a ≠ .dial id) (hknock : ∀ id ok, a ≠ .knock id ok) :
    Exclusive { x with broker := b } := by
  obtain ⟨hlen, hcalls⟩ := hb.unfinished hdial hknock
  refine ⟨h.mutex, fun k c hc hpc => ?_, fun k c hc hpc => ?_⟩
  · obtain ⟨c₀, hc₀, hpc₀, -⟩ := hcalls k c hc hpc
    exact h.knocking k c₀ hc₀ hpc₀
  · obtain ⟨c₀, hc₀, hpc₀, -⟩ := hcalls k c hc hpc
    exact (h.last k c₀ hc₀ hpc₀).trans hlen.symm

/-- The call that has `dialMutex` moves on, with all calls returned. -/
theorem Exclusive.settled {x : MuxSide} (h : Exclusive x) {b : GRPCBroker} {d : Nat}
    {e e' : GRPCDial} (hd : x.dials[d]? = some e) (hlocks : e.pc.locks = true)
    (hfinished : ∀ (j : Nat) (c : GRPCBroker.Call), b.calls[j]? = some c → c.pc.finished = true)
    {mutex : Option Nat} (hmutex : e'.pc.locks = true → mutex = x.dialMutex) :
    Exclusive ⟨b, mutex, x.dials.set d e'⟩ := by
  have hheld := h.mutex d e hd hlocks
  refine ⟨fun d' e₁ hd' hlocks' => ?_, fun j c hc hpc => ?_, fun j c hc hpc => ?_⟩
  · rcases getElem?_set_cases hd' with ⟨rfl, rfl⟩ | ⟨hne, hold⟩
    · exact (hmutex hlocks').trans hheld
    · have hheld' := h.mutex d' e₁ hold hlocks'
      rw [hheld] at hheld'
      cases hheld'
      exact absurd rfl hne
  · exact absurd (hfinished j c hc) (by simp [hpc])
  · exact absurd (hfinished j c hc) (by simp [hpc])

/-- Calls that have not returned belong to the dial that has `dialMutex`. -/
theorem Exclusive.knocking_eq {x : MuxSide} (h : Exclusive x) {d : Nat} {e : GRPCDial}
    (hd : x.dials[d]? = some e) (hlocks : e.pc.locks = true) {k : Nat} {c : GRPCBroker.Call}
    (hc : x.broker.calls[k]? = some c) (hpc : c.pc.finished = false) : e.pc = .knocking k := by
  obtain ⟨d', id, hd'⟩ := h.knocking k c hc hpc
  have hheld := h.mutex d e hd hlocks
  rw [h.mutex d' _ hd' rfl] at hheld
  cases hheld
  rw [hd] at hd'
  cases hd'
  rfl

/-- The call returns, and with it all calls have returned. -/
theorem Exclusive.returns {x : MuxSide} (h : Exclusive x) {b : GRPCBroker} {d k : Nat}
    {id : UInt32} (hd : x.dials[d]? = some ⟨id, .knocking k⟩) {a : GRPCBroker.CallAct}
    (hb : x.broker.Move (.call k a) b)
    (hk : ∀ c, b.calls[k]? = some c → c.pc.finished = true) {mutex : Option Nat} {pc : GRPCDialPc}
    (hmutex : pc.locks = true → mutex = x.dialMutex) :
    Exclusive ⟨b, mutex, x.dials.set d ⟨id, pc⟩⟩ := by
  refine h.settled hd rfl (fun j c hc => ?_) hmutex
  by_contra hpc
  obtain ⟨c₀, hc₀, hpc₀, -⟩ :=
    (hb.unfinished (by simp) (by simp)).2 j c hc (by simpa using hpc)
  cases h.knocking_eq hd rfl hc₀ hpc₀
  exact hpc (hk c hc)

theorem finished_of_finish {x : MuxSide} (h : Linked x) {b : GRPCBroker} {k : Nat}
    (hb : x.broker.Move (.call k .finish) b) {c : GRPCBroker.Call} (hc : b.calls[k]? = some c) :
    c.pc.finished = true := by
  cases hb.of_call with
  | closeDone hcall | doubleClose hcall => cases h.knocks k _ hcall
  | acked hcall hcheck =>
      rcases getElem?_set_cases hc with ⟨-, rfl⟩ | ⟨hne, -⟩
      · rfl
      · exact absurd rfl hne
  | refused hcall hcheck =>
      rcases getElem?_set_cases hc with ⟨-, rfl⟩ | ⟨hne, -⟩
      · rfl
      · exact absurd rfl hne

theorem finished_of_reap {b b' : GRPCBroker} {k : Nat} (hb : b.Move (.call k .reap) b')
    {c : GRPCBroker.Call} (hc : b'.calls[k]? = some c) : c.pc.finished = true := by
  cases hb.of_call with
  | reap hcall =>
      rcases getElem?_set_cases hc with ⟨-, rfl⟩ | ⟨hne, -⟩
      · rfl
      · exact absurd rfl hne

theorem Exclusive.move {s : Side} {x x' : MuxSide} {a : GRPCMux.Act} (h : Exclusive x)
    (hlinked : Linked x) (hmove : x.Move s a x') : Exclusive x' := by
  cases hmove with
  | @muxDial id b hfree hb =>
      have hfinished := fun k c hc => h.finished (k := k) (c := c) hfree hc
      have hmutex := h.mutex
      cases hb.of_knock
      refine ⟨fun d e hd hlocks => ?_, fun k c hc hpc => ?_, fun k c hc hpc => ?_⟩
      · rcases getElem?_concat_cases hd with hold | ⟨rfl, -⟩
        · have hheld := hmutex d e hold hlocks
          rw [hfree] at hheld
          cases hheld
        · rfl
      · rcases getElem?_concat_cases hc with hold | ⟨rfl, -⟩
        · exact absurd (hfinished k c hold) (by simp [hpc])
        · exact ⟨x.dials.length, id, by simp⟩
      · rcases getElem?_concat_cases hc with hold | ⟨rfl, -⟩
        · exact absurd (hfinished k c hold) (by simp [hpc])
        · simp
  | @muxDialFail id b hfree hb =>
      have hfinished := fun k c hc => h.finished (k := k) (c := c) hfree hc
      cases hb.of_knock
      have hnone : ∀ (k : Nat) (c : GRPCBroker.Call),
          (x.broker.calls ++ [⟨.knock, id, .sendFailed⟩])[k]? = some c → c.pc.finished = true := by
        intro k c hc
        rcases getElem?_concat_cases hc with hold | ⟨-, rfl⟩
        · exact hfinished k c hold
        · rfl
      refine ⟨fun d e hd hlocks => ?_, fun k c hc hpc => ?_, fun k c hc hpc => ?_⟩
      · rcases getElem?_concat_cases hd with hold | ⟨-, rfl⟩
        · exact h.mutex d e hold hlocks
        · cases hlocks
      · exact absurd (hnone k c hc) (by simp [hpc])
      · exact absurd (hnone k c hc) (by simp [hpc])
  | acked hd hb hacked =>
      exact h.returns hd hb (fun c => finished_of_finish hlinked hb) fun _ => rfl
  | refused hd hb hacked =>
      exact h.returns hd hb (fun c => finished_of_finish hlinked hb) fun hlocks => by cases hlocks
  | timesOut hd hb =>
      exact h.returns hd hb (fun c => finished_of_reap hb) fun hlocks => by cases hlocks
  | broker ha hb =>
      refine h.broker hb ?_ ?_
      · rintro id rfl
        cases ha
      · rintro id ok rfl
        cases ha

theorem Exclusive.opened {x : MuxSide} (h : Exclusive x) {d : Nat} {id : UInt32}
    (hd : x.dials[d]? = some ⟨id, .dialing⟩) :
    Exclusive { x with dialMutex := none, dials := x.dials.set d ⟨id, .returned⟩ } := by
  refine h.settled hd rfl (fun j c hc => ?_) fun hlocks => by cases hlocks
  by_contra hpc
  cases h.knocking_eq hd rfl hc (by simpa using hpc)

end MuxSide

namespace GRPCMux

theorem exclusive_init (t : Side) : (init.sides.get t).Exclusive := by
  cases t <;> exact MuxSide.exclusive_init

theorem exclusive_withBroker {m : GRPCMux} {s : Side} (h : ∀ t, (m.sides.get t).Exclusive)
    {a : GRPCBroker.Act} {b : GRPCBroker} (hb : (m.sides.get s).broker.Move a b)
    (hdial : ∀ id, a ≠ .dial id) (hknock : ∀ id ok, a ≠ .knock id ok) (t : Side) :
    ((m.withBroker s b).get t).Exclusive :=
  Both.forall_get_set ((h s).broker hb hdial hknock) (h s.peer) t

theorem exclusive_move {m m' : GRPCMux} {a : Act} (h : ∀ t, (m.sides.get t).Exclusive)
    (hlinked : ∀ t, (m.sides.get t).Linked) (hmove : Move m a m') (t : Side) :
    (m'.sides.get t).Exclusive := by
  cases hmove with
  | side hx => exact Both.forall_get_set ((h _).move (hlinked _) hx) (h _) t
  | openHost hd => exact Both.forall_get_set ((h .host).opened hd) (h .plugin) t
  | openPlugin hd => exact Both.forall_get_set ((h .plugin).opened hd) (h .host) t
  | @recv s l rest b hserved hout hb =>
      refine Both.forall_get_set ⟨(h s.peer).mutex, (h s.peer).knocking, (h s.peer).last⟩ ?_ t
      exact exclusive_withBroker h hb (by simp) (by simp) s.peer.peer
  | serverAcceptKnock hl hfree hb => exact exclusive_withBroker h hb (by simp) (by simp) t
  | serverListener hl hb => exact exclusive_withBroker h hb (by simp) (by simp) t
  | clientRefuse hl hfree hb => exact exclusive_withBroker h hb (by simp) (by simp) t
  | clientUnblock hmutex hc hb => exact exclusive_withBroker h hb (by simp) (by simp) t
  | clientListener hl hb => exact exclusive_withBroker h hb (by simp) (by simp) t
  | _ => exact h t

end GRPCMux

/-! ### Answers to the right call -/

namespace GRPCBroker

/-- The last call is for `id` and has not returned, and `n` is another one, as a count: an
    ack that it must not receive. -/
def stale (calls : List Call) (id : UInt32) (n : Nat) : Nat :=
  match calls.getLast? with
  | some c => if c.id = id ∧ c.pc.finished = false ∧ n + 1 ≠ calls.length then 1 else 0
  | none => 0

/-- Messages for `id`. -/
def forId (id k : UInt32) (_ : Nat) : Nat := if k = id then 1 else 0

theorem stale_concat (calls : List Call) (c : Call) (id : UInt32) (n : Nat) :
    stale (calls ++ [c]) id n =
      if c.id = id ∧ c.pc.finished = false ∧ n ≠ calls.length then 1 else 0 := by
  simp [stale]

theorem stale_concat_le (calls : List Call) (c : Call) (id : UInt32) (n : Nat) :
    stale (calls ++ [c]) id n ≤ forId c.id id n := by
  rw [stale_concat, forId]
  split
  · next h => simp [h.1]
  · exact Nat.zero_le _

theorem stale_concat_finished (calls : List Call) {c : Call} (hc : c.pc.finished = true)
    (w : UInt32 → Nat → Nat) (id : UInt32) (n : Nat) : stale (calls ++ [c]) id n ≤ w id n := by
  rw [stale_concat, if_neg (by simp [hc])]
  exact Nat.zero_le _

theorem stale_le {calls calls' : List Call} (hlen : calls'.length = calls.length)
    (h : ∀ (k : Nat) (c' : Call), calls'[k]? = some c' → c'.pc.finished = false →
      ∃ c, calls[k]? = some c ∧ c.pc.finished = false ∧ c.id = c'.id) (id : UInt32) (n : Nat) :
    stale calls' id n ≤ stale calls id n := by
  simp only [stale, List.getLast?_eq_getElem?, hlen]
  cases hc' : calls'[calls.length - 1]? with
  | none => exact Nat.zero_le _
  | some c' =>
      by_cases hpc : c'.pc.finished = false
      · obtain ⟨c, hc, hfinished, hid⟩ := h _ c' hc' hpc
        simp [hc, hfinished, hid, hpc]
      · simp [hpc]

/-- Calls on which an ack was received before, or that have just received it. -/
theorem Move.acked {b b' : GRPCBroker} {a : Act} (h : Move b a b') {k p : Nat} {id : UInt32}
    {l : Letter} (hk : b'.calls[k]? = some ⟨.knock, id, .acked p l⟩) :
    b.calls[k]? = some ⟨.knock, id, .acked p l⟩ ∨
      b.calls[k]? = some ⟨.knock, id, .took p l⟩ ∧ checkAck id l.info = none := by
  rcases h.callsNext.cases hk with hold | ⟨_, c, -, hold, hstep⟩ | ⟨-, hnew⟩
  · exact Or.inl hold
  · cases hstep with
    | acked hcheck => exact Or.inr ⟨hold, hcheck⟩
  · cases hnew

theorem serviceId_of_checkAck {id : UInt32} {info : ConnInfo} (h : checkAck id info = none) :
    info.serviceId = id := by
  by_contra hne
  simp [checkAck, hne] at h

end GRPCBroker

namespace GRPCMux

theorem Evolves.unfinished {t : Side} {act : Act} {b b' : GRPCBroker} (h : Evolves t act b b')
    (hact : ∀ id ok, act ≠ .muxDial t id ok) (id : UInt32) (n : Nat) :
    GRPCBroker.stale b'.calls id n ≤ GRPCBroker.stale b.calls id n := by
  cases h with
  | same | unqueued => exact Nat.le_refl _
  | @move a b' hb ha =>
      have hdial : ∀ id, a ≠ .dial id := by
        rintro id rfl
        exact ha
      have hknock : ∀ id ok, a ≠ .knock id ok := by
        rintro id ok rfl
        exact hact id ok ha
      obtain ⟨hlen, hcalls⟩ := hb.unfinished hdial hknock
      exact GRPCBroker.stale_le hlen hcalls id n

/-- `muxDial(id)` sends its knock only while no earlier knock for `id` of the same side, and
    no ack to one, is under way. -/
def KnocksAlone (m : GRPCMux) : Act → Prop
  | .muxDial s id true => underWay (GRPCBroker.forId id) m.sides s = 0
  | _ => True

instance (m : GRPCMux) : ∀ a, Decidable (m.KnocksAlone a) := by
  intro a
  unfold KnocksAlone
  split <;> infer_instance

/-- No side's last call can receive an ack to another one. -/
def Fresh (m : GRPCMux) : Prop :=
  ∀ d, underWay (GRPCBroker.stale (m.sides.get d).broker.calls) m.sides d = 0

theorem fresh_init : Fresh init := by
  intro d
  cases d <;> decide

theorem Fresh.move {m m' : GRPCMux} {a : Act} (h : Fresh m)
    (hlinked : ∀ t, (m.sides.get t).Linked) (hguard : m.KnocksAlone a) (hmove : Move m a m') :
    Fresh m' := by
  intro d
  have hbal := underWay_move hlinked hmove (GRPCBroker.stale (m'.sides.get d).broker.calls) d
  by_cases hdial : ∀ id ok, a ≠ .muxDial d id ok
  · have hmono := underWay_mono ((hmove.evolves d).unfinished hdial) m.sides d
    have hold := h d
    have hknocks : m.knocks (GRPCBroker.stale (m'.sides.get d).broker.calls) d a = 0 := by
      unfold knocks
      split
      · next s id => exact if_neg fun hs => hdial id true (by rw [hs])
      · rfl
    omega
  · simp only [not_forall, not_not] at hdial
    obtain ⟨id, ok, rfl⟩ := hdial
    cases hmove with
    | side hx =>
        cases hx with
        | muxDial hfree hb =>
            -- the only knock for `id` under way is the one that is sent now
            cases hb.of_knock
            have hmono := underWay_mono (GRPCBroker.stale_concat_le
              (m.sides.get d).broker.calls ⟨.knock, id, .fetching⟩) m.sides d
            simp only [KnocksAlone] at hguard
            dsimp only at hmono
            simp only [Both.get_set_self, knocks, if_true] at hbal ⊢
            simp only [GRPCBroker.stale_concat _ _ _ (List.length _), ne_eq, not_true_eq_false,
              and_false, if_false] at hbal
            omega
        | muxDialFail hfree hb =>
            cases hb.of_knock
            have hmono := underWay_mono (GRPCBroker.stale_concat_finished
              (m.sides.get d).broker.calls (c := ⟨.knock, id, .sendFailed⟩) rfl
              (GRPCBroker.stale (m.sides.get d).broker.calls)) m.sides d
            have hold := h d
            simp only [Both.get_set_self, knocks] at hbal ⊢
            omega

/-- A `knock` that returned nil did so on an ack to its own knock. -/
def Answered (m : GRPCMux) : Prop :=
  ∀ (d : Side) (k : Nat) (id : UInt32) (p : Nat) (l : Letter),
    (m.sides.get d).broker.calls[k]? = some ⟨.knock, id, .acked p l⟩ →
      checkAck id l.info = none ∧ l.origin = k

theorem answered_init : Answered init := by
  intro d k id p l hk
  cases d <;> simp [init, MuxSide.init, GRPCBroker.init, Both.get] at hk

/-- The ack that the last call has received is the answer to its knock. -/
theorem Fresh.origin {m : GRPCMux} (h : Fresh m) {d : Side} (hexcl : (m.sides.get d).Exclusive)
    {k p : Nat} {id : UInt32} {l : Letter}
    (hk : (m.sides.get d).broker.calls[k]? = some ⟨.knock, id, .took p l⟩)
    (hcheck : checkAck id l.info = none) : l.origin = k := by
  have hlast := hexcl.last k _ hk rfl
  have htook := le_tally
    (GRPCBroker.Call.load (Letter.weigh (GRPCBroker.stale (m.sides.get d).broker.calls))) hk
  have hzero := h d
  simp only [underWay, GRPCBroker.dialLoad, GRPCBroker.clientLoad] at hzero
  have hstale : GRPCBroker.stale (m.sides.get d).broker.calls id l.origin = 0 := by
    simp only [GRPCBroker.Call.load, Letter.weigh, GRPCBroker.serviceId_of_checkAck hcheck] at htook
    omega
  have hget : (m.sides.get d).broker.calls.getLast? = some ⟨.knock, id, .took p l⟩ := by
    rw [List.getLast?_eq_getElem?, ← hlast, Nat.add_sub_cancel, hk]
  rw [GRPCBroker.stale, hget] at hstale
  by_contra hne
  simp only [GRPCBroker.CallPc.finished, true_and] at hstale
  rw [if_pos (by omega)] at hstale
  cases hstale

theorem Evolves.acked {t : Side} {act : Act} {b b' : GRPCBroker} (h : Evolves t act b b')
    {k p : Nat} {id : UInt32} {l : Letter} (hk : b'.calls[k]? = some ⟨.knock, id, .acked p l⟩) :
    b.calls[k]? = some ⟨.knock, id, .acked p l⟩ ∨
      b.calls[k]? = some ⟨.knock, id, .took p l⟩ ∧ checkAck id l.info = none := by
  cases h with
  | same | unqueued => exact Or.inl hk
  | move hb ha => exact hb.acked hk

theorem Answered.move {m m' : GRPCMux} {a : Act} (h : Answered m) (hfresh : Fresh m)
    (hexcl : ∀ t, (m.sides.get t).Exclusive) (hmove : Move m a m') : Answered m' := by
  intro d k id p l hk
  rcases (hmove.evolves d).acked hk with hold | ⟨htook, hcheck⟩
  · exact h d k id p l hold
  · exact ⟨hcheck, hfresh.origin (hexcl d) htook hcheck⟩

/-- **A knock returns on its own ack.**  In every run in which `muxDial(id)` sends its knock
    only while nothing is under way from the earlier calls for `id` of its side, a
    `knock(id)` call that returned nil did so on an ack to the knock that it sent. -/
theorem knock_returns_on_own_ack {as : List Act} {m : GRPCMux}
    (hguard : Along step KnocksAlone init as) (hrun : exec step init as = some m)
    {d : Side} {k p : Nat} {id : UInt32} {l : Letter}
    (hk : (m.sides.get d).broker.calls[k]? = some ⟨.knock, id, .acked p l⟩) :
    checkAck id l.info = none ∧ l.origin = k := by
  have hstep : ∀ s a s', ((∀ t, (s.sides.get t).Linked) ∧ (∀ t, (s.sides.get t).Exclusive) ∧
      Fresh s ∧ Answered s) → s.KnocksAlone a → step s a = some s' →
      (∀ t, (s'.sides.get t).Linked) ∧ (∀ t, (s'.sides.get t).Exclusive) ∧
        Fresh s' ∧ Answered s' := by
    rintro s a s' ⟨hlinked, hexcl, hfresh, hanswered⟩ halone hs
    have hmove := move_of_step hs
    exact ⟨linked_move hlinked hmove, exclusive_move hexcl hlinked hmove,
      hfresh.move hlinked halone hmove, hanswered.move hfresh hexcl hmove⟩
  obtain ⟨-, -, -, hanswered⟩ := exec_invariant hstep
    ⟨linked_init, exclusive_init, fresh_init, answered_init⟩ hguard hrun
  exact hanswered d k id p l hk

/-- The host dials id 5, gets its stream, and dials it again. -/
def dialFiveAgainRun : List Act :=
  dialFiveRun ++ knockRun .host 5 1 ++ ackRun .plugin 0 ++ ackedRun .host 1 1

theorem knock_returns_on_own_ack_dialFiveAgain :
    ∃ m, exec step init dialFiveAgainRun = some m ∧
      Along step KnocksAlone init dialFiveAgainRun ∧
      (m.sides.get .host).broker.calls[1]? = some ⟨.knock, 5, .acked 0 ⟨ackInfo 5 "", 1⟩⟩ ∧
      checkAck 5 (ackInfo 5 "") = none :=
  ⟨_, rfl, by decide, rfl,
    (@knock_returns_on_own_ack dialFiveAgainRun _ (by decide) rfl .host 1 0 5 ⟨ackInfo 5 "", 1⟩
      rfl).1⟩

/-- The host knocks for id 7 and times out, the plugin accepts 7 afterwards and answers the
    queued knock, and the host knocks for 7 again. -/
def staleAckRun : List Act :=
  connectRun ++ knockRun .host 7 0 ++ [.broker .host (.call 0 .expire), .knockTimesOut .host 0]
    ++ acceptRun .plugin 7 0 ++ ackRun .plugin 0
    ++ [.muxDial .host 7 true, .broker .host (.call 1 .fetch)] ++ ackedRun .host 1 1

/-- **A knock can return on an ack to an earlier knock**: the second `knock(7)` returns nil on
    the ack to the first one, which had returned `ErrBrokerTimeout`, while its own knock has
    not been received yet. -/
theorem knock_returns_on_stale_ack :
    ∃ m, exec step init staleAckRun = some m ∧
      (m.sides.get .host).broker.calls[0]? = some ⟨.knock, 7, .timedOut⟩ ∧
      (m.sides.get .host).broker.calls[1]? = some ⟨.knock, 7, .acked 1 ⟨ackInfo 7 "", 0⟩⟩ ∧
      (m.sides.get .host).broker.out = [⟨knockInfo 7, 1⟩] :=
  ⟨_, rfl, rfl, rfl, rfl⟩

end GRPCMux

end GoPlugin
