import GoPlugin.ByteString
import GoPlugin.MuxBrokerConservation
import GoPlugin.Sides

/-!
# Two net/rpc brokers joined by one yamux session

A stream that one side opens in `Dial` is accepted by the `Run` loop of the other
side's broker, and streams of the two directions never meet.  So a session is a pair
of links, one for each direction, and a link is the accepting broker together with
the `Dial` calls of the other side.

What is assumed of yamux: every stream carries its bytes in order in both directions.
Streams may reach `AcceptStream` in any order, and any read or write may fail, after
some of its bytes went through.
-/

namespace GoPlugin

open Tally PendingTable LabelledSystem ByteString

/-! ### Streams keep the id that was read from them -/

namespace MuxBroker

/-- Every stream on its way through the broker goes by the id `owner` gives it. -/
structure Routed (owner : Nat → Option UInt32) (m : MuxBroker) : Prop where
  routing : ∀ n id, m.run = .routing n id → owner n = some id
  offering : ∀ n id p, m.run = .offering n id p → owner n = some id
  queued : ∀ p n id, m.streams.ch p = some n → m.streams.keyOf p = some id →
    owner n = some id
  accepted : ∀ (i : Nat) (c : AcceptCall) n,
    m.accepts[i]? = some c → c.pc.conn = some n → owner n = some c.id

theorem Routed.mono {owner owner' : Nat → Option UInt32} {m : MuxBroker}
    (h : Routed owner m) (hle : ∀ n id, owner n = some id → owner' n = some id) :
    Routed owner' m where
  routing n id hrun := hle _ _ (h.routing n id hrun)
  offering n id p hrun := hle _ _ (h.offering n id p hrun)
  queued p n id hch hkey := hle _ _ (h.queued p n id hch hkey)
  accepted i c n hc hconn := hle _ _ (h.accepted i c n hc hconn)

theorem Routed.move {owner : Nat → Option UInt32} {m m' : MuxBroker} {a : Act}
    (h : Routed owner m) (hkey : Keyed m) (hmove : Move m a m')
    (hread : ∀ n id, m.run = .reading n → a = .run (.readID (some id)) →
      owner n = some id) : Routed owner m' := by
  constructor
  · intro n id hrun
    rcases hmove.routing_cases hrun with hold | ⟨hreading, ha⟩
    · exact h.routing n id hold
    · exact hread n id hreading ha
  · intro n id p hrun
    rcases hmove.offering_cases hrun with hold | ⟨hroute, -, -⟩
    · exact h.offering n id p hold
    · exact h.routing n id hroute
  · intro p n id hch hid
    rcases hmove.ch_cases hch with hold | ⟨id', hoffer⟩
    · -- the cell is an old one, and has kept its id
      obtain ⟨id', hid'⟩ : ∃ id', m.streams.keyOf p = some id' := by
        simp [keyOf, lt_length_of_ch hold]
      cases (hmove.keyOf hid').symm.trans hid
      exact h.queued p n id hold hid'
    · cases (hmove.keyOf (hkey.offering n id' p hoffer)).symm.trans hid
      exact h.offering n id p hoffer
  · intro i c n hc hn
    rcases hmove.accepts_cases hc with hold | ⟨x, pc, -, hold, hstep⟩ | ⟨-, -, -, hnew⟩
    · exact h.accepted i c n hold hn
    · rcases hstep.conn hn with hconn | hch
      · exact h.accepted i ⟨c.id, c.p, pc⟩ n hold hconn
      · exact h.queued c.p n c.id hch (hkey.accepts i ⟨c.id, c.p, pc⟩ hold)
    · rw [hnew] at hn
      cases hn

/-- No stream is with two `Accept` calls. -/
theorem Accounted.takes_unique {m : MuxBroker} (h : Accounted m) {i j n : Nat}
    {c c' : AcceptCall} (hi : m.accepts[i]? = some c) (hj : m.accepts[j]? = some c')
    (hn : c.pc.conn = some n) (hn' : c'.pc.conn = some n) : i = j := by
  by_contra hij
  have htwo := add_le_tally (fun c : AcceptCall => holding n c.pc.conn) hij hi hj
  have hone : m.account n ≤ 1 := by
    rw [h n]
    split <;> omega
  have htakers : m.takers n ≤ m.account n := by
    unfold account
    omega
  simp only [holding, hn, hn', if_true] at htwo
  simp only [takers, holding] at htakers
  omega

/-- A stream that an `Accept` call has was taken from the session. -/
theorem Accounted.lt_arrived {m : MuxBroker} (h : Accounted m) {i n : Nat} {c : AcceptCall}
    (hi : m.accepts[i]? = some c) (hn : c.pc.conn = some n) : n < m.arrived := by
  by_contra hge
  have hone := le_tally (fun c : AcceptCall => holding n c.pc.conn) hi
  have hzero := h n
  simp only [account, takers, if_neg hge] at hzero
  simp only [holding, hn, if_true] at hone hzero
  omega

end MuxBroker

/-! ### Dial calls and the bytes of their streams -/

/-- Where a `Dial` call stands. -/
inductive DialPc where
  | writing    -- the stream is open, before `binary.Write` of the id
  | reading    -- before `binary.Read` of the ack
  | returned   -- `return stream, nil`
  | failed     -- the stream is closed, an error returned
deriving DecidableEq, Repr

/-- The ack has not been read yet. -/
def DialPc.pending : DialPc → Bool
  | .writing | .reading => true
  | .returned | .failed => false

/-- A `Dial(id)` call with the stream it opened: `up` holds the bytes on their way to
    the accepting side, `down` those on their way back. -/
structure MuxDial where
  id : UInt32
  pc : DialPc
  up : ByteString
  down : ByteString
deriving DecidableEq, Repr

/-- The streams of one direction.  The `n`-th stream that `Run` took from the session
    is the one that the `arrivals[n]`-th `Dial` call opened. -/
structure MuxLink where
  broker : MuxBroker
  dials : List MuxDial
  arrivals : List Nat

namespace MuxLink

def init : MuxLink where
  broker := .init
  dials := []
  arrivals := []

/-- What a `Dial` call does once its stream is open. -/
inductive DialAct where
  | writeID
  | writeFail (sent : Nat)       -- the write failed after `sent` bytes
  | readAck
  | readFail
  | send (bs : ByteString)       -- the caller uses the stream it got
deriving DecidableEq, Repr

inductive Act where
  | dial (id : UInt32)                      -- `OpenStream` in a new `Dial(id)` call
  | dialer (d : Nat) (a : DialAct)
  | acceptStream (d : Nat)                  -- `Run` takes the `d`-th stream
  | readID
  | ack (i : Nat)
  | ackFail (i : Nat) (sent : Nat)
  | send (i : Nat) (bs : ByteString)        -- the caller of `Accept` uses the stream
  | broker (a : MuxBroker.Act)              -- steps that do not use the session
deriving DecidableEq, Repr

/-- The broker's actions that leave the bytes of all streams alone. -/
def internal : MuxBroker.Act → Bool
  | .run .acceptStream | .run (.readID (some _)) | .call _ (.ack _) => false
  | _ => true

/-- `MuxBroker.Dial`, after `OpenStream`. -/
def dialStep (c : MuxDial) : DialAct → Option MuxDial
  | .writeID =>
      match c.pc with
      | .writing => some { c with pc := .reading, up := c.up ++ putUint32 c.id }
      | _ => none
  | .writeFail sent =>
      match c.pc with
      | .writing =>
          if sent < 4 then
            some { c with pc := .failed, up := c.up ++ (putUint32 c.id).take sent }
          else none
      | _ => none
  | .readAck =>
      match c.pc with
      | .reading =>
          match getUint32 c.down with
          | some (ack, rest) =>
              some { c with pc := if ack = c.id then .returned else .failed, down := rest }
          | none => none
      | _ => none
  | .readFail =>
      match c.pc with
      | .reading => some { c with pc := .failed }
      | _ => none
  | .send bs =>
      match c.pc with
      | .returned => some { c with up := c.up ++ bs }
      | _ => none

/-- The `Dial` call, and its number, whose stream is the `n`-th that arrived. -/
def source (l : MuxLink) (n : Nat) : Option (Nat × MuxDial) :=
  (l.arrivals[n]?).bind fun d => (l.dials[d]?).map (d, ·)

/-- The `Dial` calls after `bs` was written back on the `n`-th stream that arrived. -/
def reply (l : MuxLink) (n : Nat) (bs : ByteString) : Option (List MuxDial) :=
  (l.source n).map fun (d, c) => l.dials.set d { c with down := c.down ++ bs }

def step (l : MuxLink) : Act → Option MuxLink
  | .dial id => some { l with dials := l.dials ++ [⟨id, .writing, [], []⟩] }
  | .dialer d a =>
      (l.dials[d]?).bind fun c => (dialStep c a).map fun c' =>
        { l with dials := l.dials.set d c' }
  | .acceptStream d =>
      if d < l.dials.length ∧ d ∉ l.arrivals then
        (l.broker.step (.run .acceptStream)).map fun b =>
          { l with broker := b, arrivals := l.arrivals ++ [d] }
      else none
  | .readID =>
      match l.broker.run with
      | .reading n =>
          (l.source n).bind fun (d, c) => (getUint32 c.up).bind fun (id, rest) =>
            (l.broker.step (.run (.readID (some id)))).map fun b =>
              { l with broker := b, dials := l.dials.set d { c with up := rest } }
      | _ => none
  | .ack i =>
      match l.broker.accepts[i]? with
      | some ⟨id, _, .acking n⟩ =>
          (l.broker.step (.call i (.ack true))).bind fun b =>
            (l.reply n (putUint32 id)).map fun ds => { l with broker := b, dials := ds }
      | _ => none
  | .ackFail i sent =>
      match l.broker.accepts[i]? with
      | some ⟨id, _, .acking n⟩ =>
          if sent < 4 then
            (l.broker.step (.call i (.ack false))).bind fun b =>
              (l.reply n ((putUint32 id).take sent)).map fun ds =>
                { l with broker := b, dials := ds }
          else none
      | _ => none
  | .send i bs =>
      match l.broker.accepts[i]? with
      | some ⟨_, _, .returned n⟩ => (l.reply n bs).map fun ds => { l with dials := ds }
      | _ => none
  | .broker a =>
      if internal a then (l.broker.step a).map fun b => { l with broker := b } else none

/-! ### What one step can do -/

inductive DialMove (c : MuxDial) : MuxDial → Prop where
  | writeID (h : c.pc = .writing) :
      DialMove c { c with pc := .reading, up := c.up ++ putUint32 c.id }
  | writeFail {sent} (h : c.pc = .writing) (hsent : sent < 4) :
      DialMove c { c with pc := .failed, up := c.up ++ (putUint32 c.id).take sent }
  | acked {rest} (h : c.pc = .reading) (hread : getUint32 c.down = some (c.id, rest)) :
      DialMove c { c with pc := .returned, down := rest }
  | badAck {ack rest} (h : c.pc = .reading) (hread : getUint32 c.down = some (ack, rest)) :
      DialMove c { c with pc := .failed, down := rest }
  | readFail (h : c.pc = .reading) : DialMove c { c with pc := .failed }
  | send {bs} (h : c.pc = .returned) : DialMove c { c with up := c.up ++ bs }

theorem dialMove_of_dialStep {c c' : MuxDial} {a : DialAct} (h : dialStep c a = some c') :
    DialMove c c' := by
  cases a with
  | writeFail sent =>
      simp only [dialStep] at h
      split at h
      · split at h <;> cases h
        exact .writeFail ‹_› ‹_›
      · cases h
  | readAck =>
      simp only [dialStep] at h
      split at h
      · rename_i hpc
        split at h
        · cases h
          rename_i ack rest hread
          by_cases hack : ack = c.id
          · subst hack
            simpa using DialMove.acked hpc hread
          · simpa [hack] using DialMove.badAck hpc hread
        · cases h
      · cases h
  | writeID | readFail | send bs =>
      simp only [dialStep] at h
      split at h <;> cases h
      first | exact .writeID ‹_› | exact .readFail ‹_› | exact .send ‹_›

inductive Move (l : MuxLink) : MuxLink → Prop where
  | dial {id : UInt32} : Move l { l with dials := l.dials ++ [⟨id, .writing, [], []⟩] }
  | dialer {d : Nat} {c c' : MuxDial} (hc : l.dials[d]? = some c) (hdial : DialMove c c') :
      Move l { l with dials := l.dials.set d c' }
  | acceptStream {d : Nat} {b : MuxBroker} (hd : d < l.dials.length) (hnew : d ∉ l.arrivals)
      (hb : l.broker.Move (.run .acceptStream) b) :
      Move l { l with broker := b, arrivals := l.arrivals ++ [d] }
  | readID {n d : Nat} {c : MuxDial} {id rest b} (hrun : l.broker.run = .reading n)
      (hn : l.arrivals[n]? = some d) (hc : l.dials[d]? = some c)
      (hread : getUint32 c.up = some (id, rest))
      (hb : l.broker.Move (.run (.readID (some id))) b) :
      Move l { l with broker := b, dials := l.dials.set d { c with up := rest } }
  | ack {i p n d : Nat} {id : UInt32} {c : MuxDial} {b}
      (hcall : l.broker.accepts[i]? = some ⟨id, p, .acking n⟩)
      (hn : l.arrivals[n]? = some d) (hc : l.dials[d]? = some c)
      (hb : l.broker.Move (.call i (.ack true)) b) :
      Move l { l with
        broker := b, dials := l.dials.set d { c with down := c.down ++ putUint32 id } }
  | ackFail {i p n d sent : Nat} {id : UInt32} {c : MuxDial} {b}
      (hcall : l.broker.accepts[i]? = some ⟨id, p, .acking n⟩)
      (hsent : sent < 4) (hn : l.arrivals[n]? = some d) (hc : l.dials[d]? = some c)
      (hb : l.broker.Move (.call i (.ack false)) b) :
      Move l { l with
        broker := b
        dials := l.dials.set d { c with down := c.down ++ (putUint32 id).take sent } }
  | send {i p n d : Nat} {id : UInt32} {c : MuxDial} {bs}
      (hcall : l.broker.accepts[i]? = some ⟨id, p, .returned n⟩)
      (hn : l.arrivals[n]? = some d) (hc : l.dials[d]? = some c) :
      Move l { l with dials := l.dials.set d { c with down := c.down ++ bs } }
  | broker {a b} (ha : internal a = true) (hb : l.broker.Move a b) :
      Move l { l with broker := b }

theorem source_eq_some {l : MuxLink} {n d : Nat} {c : MuxDial} :
    l.source n = some (d, c) ↔ l.arrivals[n]? = some d ∧ l.dials[d]? = some c := by
  unfold source
  cases l.arrivals[n]? with
  | none => simp
  | some e =>
      simp only [Option.bind_some, Option.map_eq_some_iff, Prod.mk.injEq, Option.some.injEq]
      constructor
      · rintro ⟨c', hc, rfl, rfl⟩
        exact ⟨rfl, hc⟩
      · rintro ⟨rfl, hc⟩
        exact ⟨c, hc, rfl, rfl⟩

theorem reply_eq_some {l : MuxLink} {n : Nat} {bs : ByteString} {ds : List MuxDial} :
    l.reply n bs = some ds ↔ ∃ d c, l.arrivals[n]? = some d ∧ l.dials[d]? = some c ∧
      ds = l.dials.set d { c with down := c.down ++ bs } := by
  simp only [reply, Option.map_eq_some_iff, Prod.exists, source_eq_some, and_assoc]
  simp only [eq_comm]

theorem move_of_step {l l' : MuxLink} {a : Act} (h : l.step a = some l') : Move l l' := by
  cases a with
  | dial id =>
      cases h
      exact .dial
  | dialer d a =>
      simp only [step, Option.bind_eq_some_iff, Option.map_eq_some_iff] at h
      obtain ⟨c, hc, c', hdial, rfl⟩ := h
      exact .dialer hc (dialMove_of_dialStep hdial)
  | acceptStream d =>
      simp only [step] at h
      split at h
      · obtain ⟨b, hb, rfl⟩ := Option.map_eq_some_iff.mp h
        rename_i hd
        exact .acceptStream hd.1 hd.2 (MuxBroker.move_of_step hb).2
      · cases h
  | readID =>
      simp only [step] at h
      split at h
      · simp only [Option.bind_eq_some_iff, Option.map_eq_some_iff, Prod.exists,
          source_eq_some] at h
        obtain ⟨d, c, ⟨hn, hc⟩, id, rest, hread, b, hb, rfl⟩ := h
        exact .readID ‹_› hn hc hread (MuxBroker.move_of_step hb).2
      · cases h
  | ack i =>
      simp only [step] at h
      split at h
      · simp only [Option.bind_eq_some_iff, Option.map_eq_some_iff, reply_eq_some] at h
        obtain ⟨b, hb, ds, ⟨d, c, hn, hc, rfl⟩, rfl⟩ := h
        exact .ack ‹_› hn hc (MuxBroker.move_of_step hb).2
      · cases h
  | ackFail i sent =>
      simp only [step] at h
      split at h
      · split at h
        · simp only [Option.bind_eq_some_iff, Option.map_eq_some_iff, reply_eq_some] at h
          obtain ⟨b, hb, ds, ⟨d, c, hn, hc, rfl⟩, rfl⟩ := h
          exact .ackFail ‹_› ‹_› hn hc (MuxBroker.move_of_step hb).2
        · cases h
      · cases h
  | send i bs =>
      simp only [step] at h
      split at h
      · simp only [Option.map_eq_some_iff, reply_eq_some] at h
        obtain ⟨ds, ⟨d, c, hn, hc, rfl⟩, rfl⟩ := h
        exact .send ‹_› hn hc
      · cases h
  | broker a =>
      simp only [step] at h
      split at h
      · obtain ⟨b, hb, rfl⟩ := Option.map_eq_some_iff.mp h
        exact .broker ‹_› (MuxBroker.move_of_step hb).2
      · cases h

/-! ### The pairing invariant -/

/-- The id that was dialled on the `n`-th stream that arrived. -/
def owner (l : MuxLink) (n : Nat) : Option UInt32 :=
  (l.arrivals[n]?).bind fun d => (l.dials[d]?).map MuxDial.id

theorem owner_eq {l : MuxLink} {n d : Nat} {c : MuxDial} (hd : l.arrivals[n]? = some d)
    (hc : l.dials[d]? = some c) : l.owner n = some c.id := by
  simp [owner, hd, hc]

/-- `Run` has not read the id off the `d`-th stream yet. -/
def Unread (b : MuxBroker) (arrivals : List Nat) (d : Nat) : Prop :=
  ∀ n, arrivals[n]? = some d → b.run = .reading n

/-- An `Accept` call has returned the `d`-th stream, after it wrote the ack for `id`. -/
def Acked (b : MuxBroker) (arrivals : List Nat) (d : Nat) (id : UInt32) : Prop :=
  ∃ n i p : Nat, arrivals[n]? = some d ∧ b.accepts[i]? = some ⟨id, p, .returned n⟩

/-- An `Accept` call has tried to ack the `d`-th stream. -/
def Written (b : MuxBroker) (arrivals : List Nat) (d : Nat) : Prop :=
  ∃ (n i p : Nat) (id : UInt32), arrivals[n]? = some d ∧
    (b.accepts[i]? = some ⟨id, p, .returned n⟩ ∨ b.accepts[i]? = some ⟨id, p, .ackFailed n⟩)

/-- What is on the way to the accepting side before the id is read there. -/
def Announces (c : MuxDial) : Prop :=
  match c.pc with
  | .writing => c.up = []
  | .reading | .returned => putUint32 c.id <+: c.up
  | .failed => c.up.length < 4 ∨ putUint32 c.id <+: c.up

/-- What holds of a `Dial` call and its stream, given how far the accepting side is. -/
structure Sound (unread written : Prop) (acked : UInt32 → Prop) (c : MuxDial) : Prop where
  announces : unread → Announces c
  silent : ¬ written → c.down = []
  answered : c.pc.pending = true → 4 ≤ c.down.length → ∃ id, acked id
  acks : ∀ id, c.pc.pending = true → acked id → putUint32 id <+: c.down
  returned : c.pc = .returned → acked c.id

theorem Sound.mono {unread unread' written written' : Prop} {acked acked' : UInt32 → Prop}
    {c : MuxDial} (h : Sound unread written acked c) (hunread : unread' → unread)
    (hwritten : written → written') (hacked : ∀ id, acked' id ↔ acked id) :
    Sound unread' written' acked' c where
  announces hu := h.announces (hunread hu)
  silent hw := h.silent fun hw' => hw (hwritten hw')
  answered hpc hlen := by
    obtain ⟨id, hid⟩ := h.answered hpc hlen
    exact ⟨id, (hacked id).mpr hid⟩
  acks id hpc hid := h.acks id hpc ((hacked id).mp hid)
  returned hpc := (hacked c.id).mpr (h.returned hpc)

/-- A new `Dial` call: nobody has seen its stream yet. -/
theorem sound_new {unread written : Prop} {acked : UInt32 → Prop} (id : UInt32)
    (hacked : ∀ id, ¬ acked id) : Sound unread written acked ⟨id, .writing, [], []⟩ where
  announces _ := rfl
  silent _ := rfl
  answered _ hlen := by simp at hlen
  acks id _ hid := absurd hid (hacked id)
  returned hpc := by cases hpc

theorem Sound.dialMove {unread written : Prop} {acked : UInt32 → Prop} {c c' : MuxDial}
    (h : Sound unread written acked c) (hmove : DialMove c c') :
    Sound unread written acked c' := by
  obtain ⟨hann, hsilent, hanswered, hacks, hreturned⟩ := h
  cases hmove with
  | writeID hpc =>
      constructor <;> simp_all [Announces, DialPc.pending]
  | writeFail hpc hsent =>
      refine ⟨fun hu => ?_, hsilent, fun hp => ?_, fun _ hp => ?_, fun hp => ?_⟩
      · have hup : c.up = [] := by simpa [Announces, hpc] using hann hu
        refine Or.inl ?_
        show (c.up ++ (putUint32 c.id).take _).length < 4
        rw [hup, List.nil_append, List.length_take]
        omega
      · cases hp
      · cases hp
      · cases hp
  | acked hpc hread =>
      -- the four bytes are the ack of the call that has the stream
      have hlen := length_of_getUint32 hread
      obtain ⟨id, hid⟩ := hanswered (by simp [hpc, DialPc.pending]) (by omega)
      have hack := getUint32_of_isPrefix (hacks id (by simp [hpc, DialPc.pending]) hid) hread
      subst hack
      refine ⟨fun hu => ?_, fun hw => ?_, fun hp => ?_, fun _ hp => ?_, fun _ => hid⟩
      · simpa [Announces, hpc] using hann hu
      · simp [hsilent hw, getUint32] at hread
      · cases hp
      · cases hp
  | badAck hpc hread =>
      refine ⟨fun hu => ?_, fun hw => ?_, fun hp => ?_, fun _ hp => ?_, fun hp => ?_⟩
      · exact Or.inr (by simpa [Announces, hpc] using hann hu)
      · simp [hsilent hw, getUint32] at hread
      · cases hp
      · cases hp
      · cases hp
  | readFail hpc =>
      constructor <;> simp_all [Announces, DialPc.pending]
  | send hpc =>
      refine ⟨fun hu => ?_, hsilent, hanswered, hacks, hreturned⟩
      have hword : putUint32 c.id <+: c.up := by simpa [Announces, hpc] using hann hu
      simpa [Announces, hpc] using hword.trans (List.prefix_append _ _)

/-- The caller of `Accept` writes behind the ack. -/
theorem Sound.send {unread written : Prop} {acked : UInt32 → Prop} {c : MuxDial}
    (h : Sound unread written acked c) {id : UInt32} (hid : acked id) (hwritten : written)
    (bs : ByteString) : Sound unread written acked { c with down := c.down ++ bs } where
  announces := h.announces
  silent hw := absurd hwritten hw
  answered _ _ := ⟨id, hid⟩
  acks id' hpc hid' := (h.acks id' hpc hid').trans (List.prefix_append _ _)
  returned := h.returned

/-- The first bytes on the way back are those of the ack. -/
theorem Sound.ack {unread written : Prop} {acked acked' : UInt32 → Prop} {c : MuxDial}
    (h : Sound unread written acked c) (hwritten : ¬ written) {id : UInt32}
    (hacked : ∀ id', acked' id' ↔ id' = id) (hreturned : c.pc ≠ .returned) :
    Sound unread True acked' { c with down := c.down ++ putUint32 id } where
  announces := h.announces
  silent hw := absurd trivial hw
  answered _ _ := ⟨id, (hacked id).mpr rfl⟩
  acks id' _ hid' := by simp [h.silent hwritten, (hacked id').mp hid']
  returned hpc := absurd hpc hreturned

theorem Sound.ackFail {unread written : Prop} {acked : UInt32 → Prop} {c : MuxDial}
    (h : Sound unread written acked c) (hwritten : ¬ written) (hacked : ∀ id, ¬ acked id)
    {sent : Nat} (hsent : sent < 4) (id : UInt32) :
    Sound unread True acked { c with down := c.down ++ (putUint32 id).take sent } where
  announces := h.announces
  silent hw := absurd trivial hw
  answered _ hlen := by
    simp [h.silent hwritten] at hlen
    omega
  acks id' _ hid' := absurd hid' (hacked id')
  returned hpc := absurd (h.returned hpc) (hacked c.id)

structure Paired (l : MuxLink) : Prop where
  keyed : l.broker.Keyed
  accounted : l.broker.Accounted
  routed : l.broker.Routed l.owner
  arrived : l.arrivals.length = l.broker.arrived
  known : ∀ n d : Nat, l.arrivals[n]? = some d → d < l.dials.length
  distinct : ∀ n n' d : Nat, l.arrivals[n]? = some d → l.arrivals[n']? = some d → n = n'
  sound : ∀ (d : Nat) (c : MuxDial), l.dials[d]? = some c →
    Sound (Unread l.broker l.arrivals d) (Written l.broker l.arrivals d)
      (Acked l.broker l.arrivals d) c

theorem paired_init : Paired init := by
  constructor
  case keyed => exact MuxBroker.keyed_init
  case accounted => exact MuxBroker.accounted_init
  case routed => constructor <;> simp [init, MuxBroker.init, ch, PendingTable.empty]
  all_goals simp [init, MuxBroker.init]

/-- Replacing a `Dial` call by one for the same id keeps the dialled ids. -/
theorem ids_set {ds : List MuxDial} {d e : Nat} {c c' c₀ : MuxDial} (hc : ds[d]? = some c)
    (hid : c'.id = c.id) (he : ds[e]? = some c₀) :
    ∃ c₁, (ds.set d c')[e]? = some c₁ ∧ c₁.id = c₀.id := by
  rcases getElem?_set_of_some he d c' with ⟨rfl, hnew⟩ | ⟨-, hold⟩
  · cases hc.symm.trans he
    exact ⟨c', hnew, hid⟩
  · exact ⟨c₀, hold, rfl⟩

/-- Steps keep the arrivals and the dialled ids there are. -/
theorem owner_mono {l l' : MuxLink}
    (harrivals : ∀ n d : Nat, l.arrivals[n]? = some d → l'.arrivals[n]? = some d)
    (hdials : ∀ (d : Nat) (c : MuxDial), l.dials[d]? = some c →
      ∃ c', l'.dials[d]? = some c' ∧ c'.id = c.id) (n : Nat) (id : UInt32)
    (h : l.owner n = some id) : l'.owner n = some id := by
  simp only [owner, Option.bind_eq_some_iff, Option.map_eq_some_iff] at h ⊢
  obtain ⟨d, hd, c, hc, rfl⟩ := h
  obtain ⟨c', hc', hid⟩ := hdials d c hc
  exact ⟨d, harrivals n d hd, c', hc', hid⟩

/-- The id that `Run` reads off a stream is the one that was dialled. -/
theorem Paired.read_id {l : MuxLink} (h : Paired l) {n d : Nat} {c : MuxDial} {id : UInt32}
    {rest : ByteString} (hrun : l.broker.run = .reading n) (hn : l.arrivals[n]? = some d)
    (hc : l.dials[d]? = some c) (hread : getUint32 c.up = some (id, rest)) : id = c.id := by
  have hunread : Unread l.broker l.arrivals d := by
    intro n' hn'
    rw [h.distinct n' n d hn' hn, hrun]
  have hlen := length_of_getUint32 hread
  have hannounces := (h.sound d c hc).announces hunread
  unfold Announces at hannounces
  split at hannounces
  · simp [hannounces] at hlen
  · exact getUint32_of_isPrefix hannounces hread
  · exact getUint32_of_isPrefix hannounces hread
  · rcases hannounces with hshort | hword
    · omega
    · exact getUint32_of_isPrefix hword hread

/-! ### Every step keeps the invariant -/

theorem Paired.dial {l : MuxLink} (h : Paired l) (id : UInt32) :
    Paired { l with dials := l.dials ++ [⟨id, .writing, [], []⟩] } where
  keyed := h.keyed
  accounted := h.accounted
  routed := by
    refine h.routed.mono (owner_mono (fun _ _ hd => hd) fun d c hc => ⟨c, ?_, rfl⟩)
    exact getElem?_concat_of_some hc _
  arrived := h.arrived
  known n d hn := by
    have hlt := h.known n d hn
    simp only [List.length_append]
    omega
  distinct := h.distinct
  sound d c hc := by
    rcases getElem?_concat_cases hc with hc | ⟨rfl, rfl⟩
    · exact h.sound d c hc
    · refine sound_new id fun id' hacked => ?_
      obtain ⟨n, i, p, hn, -⟩ := hacked
      exact Nat.lt_irrefl _ (h.known n _ hn)

/-- One `Dial` call and its stream change, the accepting side does not. -/
theorem Paired.setDial {l : MuxLink} (h : Paired l) {d : Nat} {c c' : MuxDial}
    (hc : l.dials[d]? = some c) (hid : c'.id = c.id)
    (hsound : Sound (Unread l.broker l.arrivals d) (Written l.broker l.arrivals d)
      (Acked l.broker l.arrivals d) c') : Paired { l with dials := l.dials.set d c' } where
  keyed := h.keyed
  accounted := h.accounted
  routed := by
    exact h.routed.mono (owner_mono (fun _ _ hd => hd) fun e c₀ hc₀ => ids_set hc hid hc₀)
  arrived := h.arrived
  known n e hn := by simpa using h.known n e hn
  distinct := h.distinct
  sound e c₀ hc₀ := by
    rcases getElem?_set_cases hc₀ with ⟨rfl, rfl⟩ | ⟨hne, hold⟩
    · exact hsound
    · exact h.sound e c₀ hold

/-- The broker moves, and with it what the soundness of the `Dial` calls refers to. -/
theorem Paired.setBroker {l : MuxLink} (h : Paired l) {a : MuxBroker.Act} {b : MuxBroker}
    {ds : List MuxDial} (hb : l.broker.Move a b) (harrived : b.arrived = l.broker.arrived)
    (hlength : ds.length = l.dials.length)
    (hids : ∀ (d : Nat) (c : MuxDial), l.dials[d]? = some c →
      ∃ c', ds[d]? = some c' ∧ c'.id = c.id)
    (hread : ∀ n id, l.broker.run = .reading n → a = .run (.readID (some id)) →
      l.owner n = some id)
    (hsound : ∀ (d : Nat) (c : MuxDial), ds[d]? = some c →
      Sound (Unread b l.arrivals d) (Written b l.arrivals d) (Acked b l.arrivals d) c) :
    Paired { l with broker := b, dials := ds } where
  keyed := h.keyed.move hb
  accounted := h.accounted.move h.keyed hb
  routed := (h.routed.move h.keyed hb hread).mono (owner_mono (fun _ _ hd => hd) hids)
  arrived := by rw [harrived, ← h.arrived]
  known n d hn := by
    rw [hlength]
    exact h.known n d hn
  distinct := h.distinct
  sound := hsound

theorem Paired.acceptStream {l : MuxLink} (h : Paired l) {d : Nat} {b : MuxBroker}
    (hd : d < l.dials.length) (hnew : d ∉ l.arrivals)
    (hb : l.broker.Move (.run .acceptStream) b) :
    Paired { l with broker := b, arrivals := l.arrivals ++ [d] } := by
  have hold : ∀ n e : Nat, l.arrivals[n]? = some e → (l.arrivals ++ [d])[n]? = some e :=
    fun n e hn => getElem?_concat_of_some hn d
  have hinv : ∀ n e : Nat, (l.arrivals ++ [d])[n]? = some e →
      l.arrivals[n]? = some e ∨ (n = l.broker.arrived ∧ e = d) := by
    intro n e hn
    rcases getElem?_concat_cases hn with hn | ⟨rfl, rfl⟩
    · exact Or.inl hn
    · exact Or.inr ⟨h.arrived, rfl⟩
  have hkeyed := h.keyed.move hb
  have hacc := h.accounted.move h.keyed hb
  have hrouted := h.routed.move h.keyed hb (by simp)
  cases hb with
  | acceptStream hrun =>
      refine ⟨hkeyed, hacc, hrouted.mono (owner_mono hold fun _ c hc => ⟨c, hc, rfl⟩), ?_, ?_,
        ?_, ?_⟩
      · simp [h.arrived]
      · intro n e hn
        rcases hinv n e hn with hn | ⟨-, rfl⟩
        · exact h.known n e hn
        · exact hd
      · intro n n' e hn hn'
        have hmem := fun k hk => hnew (List.mem_of_getElem? (i := k) hk)
        rcases hinv n e hn with hn | ⟨rfl, rfl⟩ <;> rcases hinv n' e hn' with hn' | ⟨rfl, he⟩
        · exact h.distinct n n' e hn hn'
        · exact absurd (he ▸ hn) (hmem n)
        · exact absurd hn' (hmem n')
        · rfl
      · intro e c hc
        refine (h.sound e c hc).mono (fun hu n hn => ?_) ?_ fun id => ⟨?_, ?_⟩
        · -- a stream that arrived earlier is not the one that `Run` holds now
          have := hu n (hold n e hn)
          simp only [MuxBroker.RunPc.reading.injEq] at this
          have hlt : n < l.arrivals.length := (List.getElem?_eq_some_iff.mp hn).1
          exact absurd h.arrived (by omega)
        · rintro ⟨n, i, p, id, hn, hcall⟩
          exact ⟨n, i, p, id, hold n e hn, hcall⟩
        · rintro ⟨n, i, p, hn, hcall⟩
          rcases hinv n e hn with hn | ⟨rfl, -⟩
          · exact ⟨n, i, p, hn, hcall⟩
          · exact absurd (h.accounted.lt_arrived hcall rfl) (Nat.lt_irrefl _)
        · rintro ⟨n, i, p, hn, hcall⟩
          exact ⟨n, i, p, hold n e hn, hcall⟩

theorem Paired.readID {l : MuxLink} (h : Paired l) {n d : Nat} {c : MuxDial} {id : UInt32}
    {rest : ByteString} {b : MuxBroker} (hrun : l.broker.run = .reading n)
    (hn : l.arrivals[n]? = some d) (hc : l.dials[d]? = some c)
    (hread : getUint32 c.up = some (id, rest))
    (hb : l.broker.Move (.run (.readID (some id))) b) :
    Paired { l with broker := b, dials := l.dials.set d { c with up := rest } } := by
  have hid := h.read_id hrun hn hc hread
  have howner : ∀ n' id', l.broker.run = .reading n' →
      MuxBroker.Act.run (.readID (some id)) = .run (.readID (some id')) →
      l.owner n' = some id' := by
    intro n' id' hrun' hact
    rw [hrun] at hrun'
    cases hrun'
    cases hact
    rw [owner_eq hn hc, hid]
  refine h.setBroker hb ?_ (by simp) (fun _ _ he => ids_set hc rfl he) howner ?_
  · cases hb
    rfl
  · intro e c₀ hc₀
    cases hb with
    | readID hrun' =>
        rcases getElem?_set_cases hc₀ with ⟨rfl, rfl⟩ | ⟨hne, hold⟩
        · -- nothing is said any more of what follows the id
          have hsound := h.sound d c hc
          refine ⟨fun hu => ?_, hsound.silent, hsound.answered, hsound.acks, hsound.returned⟩
          cases hu n hn
        · refine (h.sound e c₀ hold).mono (fun hu n' hn' => ?_) (fun hw => hw)
            fun _ => Iff.rfl
          cases hu n' hn'

/-- While an `Accept` call is about to ack a stream, nobody has written on it. -/
theorem Paired.not_written {l : MuxLink} (h : Paired l) {i p n d : Nat} {id : UInt32}
    (hcall : l.broker.accepts[i]? = some ⟨id, p, .acking n⟩) (hn : l.arrivals[n]? = some d) :
    ¬ Written l.broker l.arrivals d := by
  rintro ⟨n', j, q, id', hn', hother⟩
  have hnn := h.distinct n n' d hn hn'
  subst hnn
  rcases hother with hother | hother <;>
  · have hij := h.accounted.takes_unique hcall hother rfl rfl
    subst hij
    cases hcall.symm.trans hother

theorem Acked.written {b : MuxBroker} {arrivals : List Nat} {d : Nat} {id : UInt32}
    (h : Acked b arrivals d id) : Written b arrivals d := by
  obtain ⟨n, i, p, hn, hcall⟩ := h
  exact ⟨n, i, p, id, hn, Or.inl hcall⟩

/-- The other streams keep their acks when the call that has stream `n` returns. -/
theorem acked_of_ne {l : MuxLink} {i p n d e : Nat} {id : UInt32} {ok : Bool} {b : MuxBroker}
    (hb : l.broker.Move (.call i (.ack ok)) b)
    (hcall : l.broker.accepts[i]? = some ⟨id, p, .acking n⟩) (hn : l.arrivals[n]? = some d)
    (hne : e ≠ d) :
    (Written l.broker l.arrivals e → Written b l.arrivals e) ∧
      ∀ id', Acked b l.arrivals e id' ↔ Acked l.broker l.arrivals e id' := by
  refine ⟨?_, fun id' => ⟨?_, ?_⟩⟩
  · rintro ⟨n', j, q, id', hn', hother⟩
    exact ⟨n', j, q, id', hn', hother.imp (hb.accepts_finished · rfl) (hb.accepts_finished · rfl)⟩
  · rintro ⟨n', j, q, hn', hother⟩
    rcases hb.accepts_cases hother with hold | ⟨x, pc, ha, hold, hstep⟩ | ⟨-, ha, -, -⟩
    · exact ⟨n', j, q, hn', hold⟩
    · -- the call that returns now has stream `n`, and that is not the `e`-th
      cases ha
      cases hstep
      cases hold.symm.trans hcall
      exact absurd (Option.some.inj (hn'.symm.trans hn)) hne
    · cases ha
  · rintro ⟨n', j, q, hn', hother⟩
    exact ⟨n', j, q, hn', hb.accepts_finished hother rfl⟩

theorem Paired.ack {l : MuxLink} (h : Paired l) {i p n d : Nat} {id : UInt32} {c : MuxDial}
    {b : MuxBroker} (hcall : l.broker.accepts[i]? = some ⟨id, p, .acking n⟩)
    (hn : l.arrivals[n]? = some d) (hc : l.dials[d]? = some c)
    (hb : l.broker.Move (.call i (.ack true)) b) :
    Paired { l with
      broker := b, dials := l.dials.set d { c with down := c.down ++ putUint32 id } } := by
  have hwritten := h.not_written hcall hn
  have hacc := h.accounted.move h.keyed hb
  refine h.setBroker hb ?_ (by simp) (fun _ _ he => ids_set hc rfl he) (by simp) ?_
  · cases hb
    rfl
  · intro e c₀ hc₀
    have hother := fun hne => acked_of_ne (e := e) hb hcall hn hne
    cases hb with
    | @ack _ id₀ p₀ n₀ hcall₀ =>
        cases hcall.symm.trans hcall₀
        obtain ⟨hlt, -⟩ := List.getElem?_eq_some_iff.mp hcall
        have hmine : (l.broker.accepts.set i ⟨id, p, .returned n⟩)[i]? =
            some ⟨id, p, .returned n⟩ := List.getElem?_set_self hlt
        rcases getElem?_set_cases hc₀ with ⟨rfl, rfl⟩ | ⟨hne, hold⟩
        · refine ((h.sound d c hc).ack hwritten (fun id' => ⟨?_, ?_⟩) ?_).mono (fun hu => hu)
            (fun _ => ⟨n, i, p, id, hn, Or.inl hmine⟩) (fun _ => Iff.rfl)
          · rintro ⟨n', j, q, hn', hother⟩
            have hnn := h.distinct n n' d hn hn'
            subst hnn
            have hij := hacc.takes_unique hmine hother rfl rfl
            subst hij
            cases hmine.symm.trans hother
            rfl
          · rintro rfl
            exact ⟨n, i, p, hn, hmine⟩
          · intro hret
            exact hwritten ((h.sound d c hc).returned hret).written
        · obtain ⟨hw, ha⟩ := hother hne.symm
          exact (h.sound e c₀ hold).mono (fun hu => hu) hw ha

theorem Paired.ackFail {l : MuxLink} (h : Paired l) {i p n d sent : Nat} {id : UInt32}
    {c : MuxDial} {b : MuxBroker} (hcall : l.broker.accepts[i]? = some ⟨id, p, .acking n⟩)
    (hsent : sent < 4) (hn : l.arrivals[n]? = some d) (hc : l.dials[d]? = some c)
    (hb : l.broker.Move (.call i (.ack false)) b) :
    Paired { l with
      broker := b
      dials := l.dials.set d { c with down := c.down ++ (putUint32 id).take sent } } := by
  have hwritten := h.not_written hcall hn
  have hacc := h.accounted.move h.keyed hb
  refine h.setBroker hb ?_ (by simp) (fun _ _ he => ids_set hc rfl he) (by simp) ?_
  · cases hb
    rfl
  · intro e c₀ hc₀
    have hother := fun hne => acked_of_ne (e := e) hb hcall hn hne
    cases hb with
    | @ackFail _ id₀ p₀ n₀ hcall₀ =>
        cases hcall.symm.trans hcall₀
        obtain ⟨hlt, -⟩ := List.getElem?_eq_some_iff.mp hcall
        have hmine : (l.broker.accepts.set i ⟨id, p, .ackFailed n⟩)[i]? =
            some ⟨id, p, .ackFailed n⟩ := List.getElem?_set_self hlt
        rcases getElem?_set_cases hc₀ with ⟨rfl, rfl⟩ | ⟨hne, hold⟩
        · have hnot : ∀ id', ¬ Acked l.broker l.arrivals d id' :=
            fun id' hacked => hwritten hacked.written
          refine ((h.sound d c hc).ackFail hwritten hnot hsent id).mono (fun hu => hu)
            (fun _ => ⟨n, i, p, id, hn, Or.inr hmine⟩) (fun id' => ⟨?_, fun ha => ?_⟩)
          · rintro ⟨n', j, q, hn', hother⟩
            have hnn := h.distinct n n' d hn hn'
            subst hnn
            have hij := hacc.takes_unique hmine hother rfl rfl
            subst hij
            cases hmine.symm.trans hother
          · exact absurd ha (hnot id')
        · obtain ⟨hw, ha⟩ := hother hne.symm
          exact (h.sound e c₀ hold).mono (fun hu => hu) hw ha

/-- The broker's own steps return no stream and do not put `Run` before a new one. -/
theorem internal_move {m m' : MuxBroker} {a : MuxBroker.Act} (ha : internal a = true)
    (hmove : m.Move a m') :
    m'.arrived = m.arrived ∧ (∀ n, m'.run = .reading n → m.run = .reading n) ∧
      ∀ (i p n : Nat) (id : UInt32), m'.accepts[i]? = some ⟨id, p, .returned n⟩ →
        m.accepts[i]? = some ⟨id, p, .returned n⟩ := by
  refine ⟨?_, ?_, ?_⟩
  · cases hmove with
    | acceptStream => cases ha
    | _ => rfl
  · intro n hrun
    cases hmove with
    | acceptStream | readID => cases ha
    | readFail | getStream | queue | overflow | spawn | stop => cases hrun
    | _ => exact hrun
  · intro i p n id hc
    rcases hmove.accepts_cases hc with hold | ⟨x, pc, rfl, hold, hstep⟩ | ⟨-, -, -, hnew⟩
    · exact hold
    · cases hstep
      cases ha
    · cases congrArg MuxBroker.AcceptCall.pc hnew

theorem Paired.internal {l : MuxLink} (h : Paired l) {a : MuxBroker.Act} {b : MuxBroker}
    (ha : internal a = true) (hb : l.broker.Move a b) : Paired { l with broker := b } := by
  obtain ⟨harrived, hrun, hreturned⟩ := internal_move ha hb
  refine h.setBroker hb harrived rfl (fun _ c hc => ⟨c, hc, rfl⟩) ?_ fun d c hc => ?_
  · rintro n id - rfl
    cases ha
  · refine (h.sound d c hc).mono (fun hu n hn => hrun n (hu n hn)) ?_ fun id => ⟨?_, ?_⟩
    · rintro ⟨n, i, p, id, hn, hcall⟩
      exact ⟨n, i, p, id, hn, hcall.imp (hb.accepts_finished · rfl) (hb.accepts_finished · rfl)⟩
    · rintro ⟨n, i, p, hn, hcall⟩
      exact ⟨n, i, p, hn, hreturned i p n id hcall⟩
    · rintro ⟨n, i, p, hn, hcall⟩
      exact ⟨n, i, p, hn, hb.accepts_finished hcall rfl⟩

theorem Paired.move {l l' : MuxLink} (h : Paired l) (hmove : Move l l') : Paired l' := by
  cases hmove with
  | dial => exact h.dial _
  | dialer hc hdial =>
      refine h.setDial hc ?_ ((h.sound _ _ hc).dialMove hdial)
      cases hdial <;> rfl
  | acceptStream hd hnew hb => exact h.acceptStream hd hnew hb
  | readID hrun hn hc hread hb => exact h.readID hrun hn hc hread hb
  | ack hcall hn hc hb => exact h.ack hcall hn hc hb
  | ackFail hcall hsent hn hc hb => exact h.ackFail hcall hsent hn hc hb
  | @send i p n d id c bs hcall hn hc =>
      have hacked : Acked l.broker l.arrivals d id := ⟨n, i, p, hn, hcall⟩
      exact h.setDial hc rfl ((h.sound d c hc).send hacked hacked.written bs)
  | broker ha hb => exact h.internal ha hb

/-- The `i`-th `Accept` call has received the other end of the stream that the `d`-th
    `Dial` call opened. -/
def Takes (l : MuxLink) (i d : Nat) : Prop :=
  ∃ (n : Nat) (a : MuxBroker.AcceptCall),
    l.arrivals[n]? = some d ∧ l.broker.accepts[i]? = some a ∧ a.pc.conn = some n

theorem Paired.takes_unique {l : MuxLink} (h : Paired l) {i j d : Nat} (hi : l.Takes i d)
    (hj : l.Takes j d) : i = j := by
  obtain ⟨n, a, hn, ha, hconn⟩ := hi
  obtain ⟨n', a', hn', ha', hconn'⟩ := hj
  have hnn := h.distinct n n' d hn hn'
  subst hnn
  exact h.accounted.takes_unique ha ha' hconn hconn'

theorem Paired.takes_id {l : MuxLink} (h : Paired l) {i d : Nat} {c : MuxDial}
    {a : MuxBroker.AcceptCall} (hc : l.dials[d]? = some c) (ha : l.broker.accepts[i]? = some a)
    (htakes : l.Takes i d) : a.id = c.id := by
  obtain ⟨n, a', hn, ha', hconn⟩ := htakes
  rw [ha] at ha'
  cases ha'
  have howner := h.routed.accepted i a n ha hconn
  rw [owner_eq hn hc] at howner
  exact (Option.some.inj howner).symm

theorem Paired.returned {l : MuxLink} (h : Paired l) {d : Nat} {c : MuxDial}
    (hc : l.dials[d]? = some c) (hret : c.pc = .returned) :
    ∃ i, (∀ j, l.Takes j d ↔ j = i) ∧ ∃ n p : Nat, l.arrivals[n]? = some d ∧
      l.broker.accepts[i]? = some ⟨c.id, p, .returned n⟩ := by
  obtain ⟨n, i, p, hn, hcall⟩ := (h.sound d c hc).returned hret
  have htakes : l.Takes i d := ⟨n, _, hn, hcall, rfl⟩
  refine ⟨i, fun j => ⟨fun hj => h.takes_unique hj htakes, ?_⟩, n, p, hn, hcall⟩
  rintro rfl
  exact htakes

end MuxLink

/-! ### The session -/

/-- A session with both brokers: for each side the streams that it dials, which the
    other side's broker accepts.  A crash stops the broker it happens in; the `Dial`
    calls of that process may go on, which only adds runs. -/
structure MuxPair where
  links : Both MuxLink

namespace MuxPair

def init : MuxPair := ⟨⟨.init, .init⟩⟩

/-- The streams that `side` dials. -/
def link (s : MuxPair) (side : Side) : MuxLink := s.links.get side

def step (s : MuxPair) (a : Side × MuxLink.Act) : Option MuxPair :=
  ((s.link a.1).step a.2).map fun l => ⟨s.links.set a.1 l⟩

theorem paired_of_exec {as : List (Side × MuxLink.Act)} {s : MuxPair}
    (hrun : exec step init as = some s) (side : Side) : (s.link side).Paired := by
  have hstep : ∀ s a s', (∀ side, (s.link side).Paired) → step s a = some s' →
      ∀ side, (s'.link side).Paired := by
    rintro s ⟨dialler, a⟩ s' h hs
    simp only [step, Option.map_eq_some_iff] at hs
    obtain ⟨l, hl, rfl⟩ := hs
    exact Both.forall_get_set ((h dialler).move (MuxLink.move_of_step hl)) (h dialler.peer)
  refine exec_invariant_of_step hstep (fun side => ?_) hrun side
  cases side <;> exact MuxLink.paired_init

/-- **Dial and Accept pair up.**  In every run, when a `Dial(id)` call has returned its
    stream, exactly one `Accept` call of the other side has taken the other end; that
    call was for the same id and has written the ack.  No stream is taken by two calls
    or by a call for another id. -/
theorem dial_accept_paired {as : List (Side × MuxLink.Act)} {s : MuxPair}
    (hrun : exec step init as = some s) (side : Side) :
    (∀ (d : Nat) (c : MuxDial), (s.link side).dials[d]? = some c → c.pc = .returned →
      ∃ i, (∀ j, (s.link side).Takes j d ↔ j = i) ∧
        ∃ n p : Nat, (s.link side).arrivals[n]? = some d ∧
          (s.link side).broker.accepts[i]? = some ⟨c.id, p, .returned n⟩) ∧
    (∀ i j d, (s.link side).Takes i d → (s.link side).Takes j d → i = j) ∧
    (∀ (i d : Nat) (c : MuxDial) (a : MuxBroker.AcceptCall),
      (s.link side).dials[d]? = some c → (s.link side).broker.accepts[i]? = some a →
        (s.link side).Takes i d → a.id = c.id) := by
  have h := paired_of_exec hrun side
  exact ⟨fun d c hc hret => h.returned hc hret, fun i j d hi hj => h.takes_unique hi hj,
    fun i d c a hc ha htakes => h.takes_id hc ha htakes⟩

/-- The host dials id 7 twice and the plugin accepts it once: the second stream is
    closed for overflow, the first is returned on both sides. -/
def dialTwice : List (Side × MuxLink.Act) :=
  ([.dial 7, .dial 7, .dialer 1 .writeID, .dialer 0 .writeID, .acceptStream 1, .readID,
    .broker (.run .getStream), .broker (.run .offer), .broker (.run .spawn),
    .acceptStream 0, .readID, .broker (.run .getStream), .broker (.run .offer),
    .dialer 0 .readFail, .broker (.accept 7), .broker (.call 0 .recv),
    .broker (.call 0 .closeDone), .ack 0, .dialer 1 .readAck] : List MuxLink.Act).map (.host, ·)

theorem dial_accept_paired_dialTwice :
    ∃ s, exec step init dialTwice = some s ∧
      ((s.link .host).dials[1]?).map MuxDial.pc = some .returned ∧
      ∃ i, (∀ j, (s.link .host).Takes j 1 ↔ j = i) ∧
        ∃ n p : Nat, (s.link .host).arrivals[n]? = some 1 ∧
          (s.link .host).broker.accepts[i]? = some ⟨7, p, .returned n⟩ :=
  ⟨_, rfl, rfl, (@dial_accept_paired dialTwice _ rfl .host).1 1 ⟨7, .returned, [], []⟩ rfl rfl⟩

end MuxPair

end GoPlugin
