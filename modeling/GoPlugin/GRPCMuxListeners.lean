import GoPlugin.GRPCMuxRouting

/-!
# Listeners that come late and listeners that leave early

`GRPCBroker.Accept` starts `listenForKnocks` before it registers its listener, and
`GRPCServerMuxer.AcceptKnock` does not look whether there is one.  So a knock can be let in
that finds no listener, and the `Accept` loop fails.

`Close` of a listener does not take it out of the muxer's maps, and neither muxer looks at
`doneCh` when it passes on a stream or a token.  So a muxer can be caught sending to a listener
that nobody serves any more.
-/

namespace GoPlugin

open Tally PendingTable LabelledSystem

/-! ### An accepted knock has a listener -/

namespace GRPCBroker

/-- `muxer.Listener` has returned the listener. -/
def ListenerPc.registered : ListenerPc → Bool
  | .serving | .closing | .closed => true
  | .fetched | .spawned | .failed => false

/-- The goroutine is in `AcceptKnock`, or about to send an ack without an error. -/
def ListenPc.admits : ListenPc → Bool
  | .knocking _ _ => true
  | .acking _ _ error => error = ""
  | .starting | .selecting _ | .returned => false

/-- An `Accept(id)` call has its listener. -/
def HasListener (b : GRPCBroker) (id : UInt32) : Prop :=
  ∃ l ∈ b.listeners, l.id = id ∧ l.pc.registered = true

instance (b : GRPCBroker) (id : UInt32) : Decidable (b.HasListener id) :=
  inferInstanceAs (Decidable (∃ l ∈ b.listeners, _ ∧ _))

section Moves

variable {b b' : GRPCBroker} {a : Act} {i : Nat}

/-- A listener is had already, or `muxer.Listener` returns it in this move. -/
theorem Move.hasListener (h : Move b a b') {id : UInt32} (hl : b'.HasListener id) :
    b.HasListener id ∨ ∃ j p, a = .listener j (.register true) ∧
      b.listeners[j]? = some ⟨id, p, .spawned⟩ := by
  obtain ⟨l, hmem, hid, hpc⟩ := hl
  -- a listener that replaces the `j`-th one
  have hset : ∀ {j : Nat} {l' : Listener}, l ∈ b.listeners.set j l' →
      l ∈ b.listeners ∨ l = l' := fun hmem => List.mem_or_eq_of_mem_set hmem
  cases h with
  | run h => cases h <;> exact Or.inl ⟨l, hmem, hid, hpc⟩
  | caller h => cases h <;> exact Or.inl ⟨l, hmem, hid, hpc⟩
  | accepter h =>
      cases h with
      | accept =>
          rcases List.mem_append.mp hmem with hold | hnew
          · exact Or.inl ⟨l, hold, hid, hpc⟩
          · rw [List.mem_singleton.mp hnew] at hpc
            cases hpc
      | spawn hj =>
          rcases hset hmem with hold | rfl
          · exact Or.inl ⟨l, hold, hid, hpc⟩
          · cases hpc
      | @register j id' p ok hj =>
          rcases hset hmem with hold | rfl
          · exact Or.inl ⟨l, hold, hid, hpc⟩
          · cases ok with
            | false => cases hpc
            | true =>
                subst hid
                exact Or.inr ⟨j, p, rfl, hj⟩
      | close hj hserving =>
          rcases hset hmem with hold | rfl
          · exact Or.inl ⟨l, hold, hid, hpc⟩
          · refine Or.inl ⟨_, List.mem_of_getElem? hj, hid, ?_⟩
            rcases hserving with rfl | rfl <;> rfl
      | remove hj =>
          rcases hset hmem with hold | rfl
          · exact Or.inl ⟨l, hold, hid, hpc⟩
          · exact Or.inl ⟨_, List.mem_of_getElem? hj, hid, rfl⟩
      | fetch | recv | recvBad | knocked | ack | ackFail | done =>
          exact Or.inl ⟨l, hmem, hid, hpc⟩

/-- A goroutine that is letting a knock in was doing so before, or takes the knock in this
    move. -/
theorem Move.admits (h : Move b a b') {l : Listen} (hl : b'.listens[i]? = some l)
    (hpc : l.pc.admits = true) :
    ∃ l₀, b.listens[i]? = some l₀ ∧ l₀.id = l.id ∧ (l₀.pc.admits = true ∨ a = .listen i .recv) := by
  cases h with
  | run h => cases h <;> exact ⟨l, hl, rfl, Or.inl hpc⟩
  | caller h => cases h <;> exact ⟨l, hl, rfl, Or.inl hpc⟩
  | accepter h =>
      cases h with
      | recv hj =>
          rcases getElem?_set_cases hl with ⟨rfl, rfl⟩ | ⟨-, hold⟩
          · exact ⟨_, hj, rfl, Or.inr rfl⟩
          · exact ⟨l, hold, rfl, Or.inl hpc⟩
      | knocked hj =>
          rcases getElem?_set_cases hl with ⟨rfl, rfl⟩ | ⟨-, hold⟩
          · exact ⟨_, hj, rfl, Or.inl rfl⟩
          · exact ⟨l, hold, rfl, Or.inl hpc⟩
      | fetch hj | recvBad hj | ack hj | ackFail hj | done hj =>
          rcases getElem?_set_cases hl with ⟨rfl, rfl⟩ | ⟨-, hold⟩
          · cases hpc
          · exact ⟨l, hold, rfl, Or.inl hpc⟩
      | spawn hj =>
          rcases getElem?_concat_cases hl with hold | ⟨-, rfl⟩
          · exact ⟨l, hold, rfl, Or.inl hpc⟩
          · cases hpc
      | accept | register | close | remove => exact ⟨l, hl, rfl, Or.inl hpc⟩

/-- An ack that has been sent was about to be sent, or it was on its way already. -/
theorem Move.ackSent (h : Move b a b') {id : UInt32} {origin : Nat}
    (hout : ⟨ackInfo id "", origin⟩ ∈ b'.out) :
    ⟨ackInfo id "", origin⟩ ∈ b.out ∨ ∃ (i : Nat) (l : Listen), b.listens[i]? = some l ∧ l.id = id ∧
      l.pc.admits = true := by
  cases h with
  | run h => cases h <;> exact Or.inl hout
  | caller h =>
      cases h with
      | knock =>
          rcases List.mem_append.mp hout with hold | hnew
          · exact Or.inl hold
          · have hinfo := congrArg Letter.info (List.mem_singleton.mp hnew)
            simp [ackInfo, knockInfo] at hinfo
      | _ => exact Or.inl hout
  | accepter h =>
      cases h with
      | @ack i id' p m error hj =>
          rcases List.mem_append.mp hout with hold | hnew
          · exact Or.inl hold
          · have hinfo := congrArg Letter.info (List.mem_singleton.mp hnew)
            simp only [ackInfo, ConnInfo.mk.injEq, Option.some.injEq, Knock.mk.injEq, true_and]
              at hinfo
            refine Or.inr ⟨i, _, hj, hinfo.1.symm, ?_⟩
            simp [ListenPc.admits, ← hinfo.2]
      | _ => exact Or.inl hout

/-- `doneCh` is closed by `Close` of a listener on its entry only. -/
theorem Move.closed (h : Move b a b') {p : Nat} (hp : b'.serverStreams.closed p = true) :
    b.serverStreams.closed p = true ∨ ∃ (j : Nat) (l : Listener), a = .listener j .close ∧
      b.listeners[j]? = some l ∧ l.p = p := by
  cases h with
  | run h =>
      cases h with
      | lookupServer | queueServer => exact Or.inl (by simpa using hp)
      | _ => exact Or.inl hp
  | caller h => cases h <;> exact Or.inl hp
  | accepter h =>
      cases h with
      | fetch | accept | recv | recvBad | remove => exact Or.inl (by simpa using hp)
      | @close j id q pc hj hpc =>
          by_cases hpq : q = p
          · exact Or.inr ⟨j, _, rfl, hj, hpq⟩
          · rw [closed_closeDone] at hp
            exact Or.inl (by simpa [Ne.symm hpq] using hp)
      | _ => exact Or.inl hp

end Moves

end GRPCBroker

namespace GRPCMux

/-- The plugin's `listenForKnocks` that takes a knock in this action. -/
def Act.takes : Act → Option Nat
  | .broker .plugin (.listen i .recv) => some i
  | _ => none

/-- The plugin's `listenForKnocks` takes a knock only when an `Accept` of its id has got its
    listener. -/
def TakenAfterListener (m : GRPCMux) (a : Act) : Prop :=
  ∀ i ∈ a.takes, ∀ l ∈ (m.sides.get .plugin).broker.listens[i]?,
    (m.sides.get .plugin).broker.HasListener l.id

instance decidableTakenAfterListener (m : GRPCMux) (a : Act) :
    Decidable (m.TakenAfterListener a) :=
  inferInstanceAs (Decidable (∀ i ∈ a.takes, ∀ l ∈ (m.sides.get .plugin).broker.listens[i]?,
    (m.sides.get .plugin).broker.HasListener l.id))

/-- The muxer has a listener for `id`. -/
def IsRegistered (m : GRPCMux) (id : UInt32) : Prop := (m.server.acceptChannels id).isSome = true

/-- Where an id is known to have a listener in the muxer. -/
structure KnocksRegistered (m : GRPCMux) : Prop where
  listeners : ∀ id, (m.sides.get .plugin).broker.HasListener id → m.IsRegistered id
  admitted : ∀ (i : Nat) (l : GRPCBroker.Listen),
    (m.sides.get .plugin).broker.listens[i]? = some l → l.pc.admits = true → m.IsRegistered l.id
  sent : ∀ id origin, ⟨ackInfo id "", origin⟩ ∈ (m.sides.get .plugin).broker.out →
    m.IsRegistered id
  queued : ∀ id, m.server.knockCh = some id → m.IsRegistered id
  running : m.server.loop ≠ .failed

theorem knocksRegistered_init : KnocksRegistered init := by
  constructor <;>
    simp [init, MuxSide.init, GRPCBroker.init, Both.get, GRPCServerMuxer.init,
      GRPCBroker.HasListener]

/-- Listeners stay in the map. -/
theorem Move.isRegistered {m m' : GRPCMux} {a : Act} (h : Move m a m') {id : UInt32}
    (hid : m.IsRegistered id) : m'.IsRegistered id := by
  cases h with
  | serverListener =>
      simp only [IsRegistered, GRPCServerMuxer.listener]
      split
      · rfl
      · exact hid
  | _ => exact hid

/-- What a step of the plugin's broker does where the muxer only gets more listeners. -/
theorem KnocksRegistered.broker {m m' : GRPCMux} {a : GRPCBroker.Act}
    (h : KnocksRegistered m) (hkeep : ∀ id, m.IsRegistered id → m'.IsRegistered id)
    (hmove : (m.sides.get .plugin).broker.Move a (m'.sides.get .plugin).broker)
    (hregister : ∀ (j : Nat) (l : GRPCBroker.Listener), a = .listener j (.register true) →
      (m.sides.get .plugin).broker.listeners[j]? = some l → m'.IsRegistered l.id)
    (htake : ∀ (i : Nat) (l : GRPCBroker.Listen), a = .listen i .recv →
      (m.sides.get .plugin).broker.listens[i]? = some l → m.IsRegistered l.id)
    (hqueued : ∀ id, m'.server.knockCh = some id → m'.IsRegistered id)
    (hrunning : m'.server.loop ≠ .failed) : KnocksRegistered m' where
  listeners id hl := by
    rcases hmove.hasListener hl with hold | ⟨j, p, ha, hj⟩
    · exact hkeep id (h.listeners id hold)
    · exact hregister j _ ha hj
  admitted i l hl hpc := by
    obtain ⟨l₀, hl₀, hid, hcase⟩ := hmove.admits hl hpc
    rw [← hid]
    apply hkeep
    rcases hcase with hadmits | ha
    · exact h.admitted i l₀ hl₀ hadmits
    · exact htake i l₀ ha hl₀
  sent id origin hout := by
    apply hkeep
    rcases hmove.ackSent hout with hold | ⟨i, l, hl, rfl, hpc⟩
    · exact h.sent id origin hold
    · exact h.admitted i l hl hpc
  queued := hqueued
  running := hrunning

/-- A step that leaves the plugin's broker and the muxer's map alone. -/
theorem KnocksRegistered.same {m m' : GRPCMux} (h : KnocksRegistered m)
    (hbroker : (m'.sides.get .plugin).broker = (m.sides.get .plugin).broker)
    (hmap : m'.server.acceptChannels = m.server.acceptChannels)
    (hqueued : ∀ id, m'.server.knockCh = some id → m.server.knockCh = some id)
    (hrunning : m'.server.loop ≠ .failed) : KnocksRegistered m' := by
  have hkeep : ∀ id, m.IsRegistered id → m'.IsRegistered id := by
    intro id hid
    rw [IsRegistered, hmap]
    exact hid
  refine ⟨?_, ?_, ?_, fun id hid => hkeep id (h.queued id (hqueued id hid)), hrunning⟩
  · rw [hbroker]
    exact fun id hl => hkeep id (h.listeners id hl)
  · rw [hbroker]
    exact fun i l hl hpc => hkeep _ (h.admitted i l hl hpc)
  · rw [hbroker]
    exact fun id origin hout => hkeep id (h.sent id origin hout)

theorem KnocksRegistered.sideMove {m : GRPCMux} (h : KnocksRegistered m) {a : Act} {x : MuxSide}
    (hguard : m.TakenAfterListener a) (hx : (m.sides.get .plugin).Move .plugin a x) :
    KnocksRegistered { m with sides := m.sides.set .plugin x } := by
  have hkeep : ∀ id, m.IsRegistered id →
      IsRegistered { m with sides := m.sides.set .plugin x } id := fun _ hid => hid
  cases hx with
  | broker ha hb =>
      refine h.broker hkeep hb ?_ ?_ h.queued h.running
      · rintro j l rfl
        cases ha
      · rintro i l rfl hl
        exact h.listeners _ (hguard i rfl l hl)
  | muxDial hfree hb | muxDialFail hfree hb | acked hd hb | refused hd hb | timesOut hd hb =>
      exact h.broker hkeep hb (by rintro _ _ ⟨⟩) (by rintro _ _ ⟨⟩) h.queued h.running

theorem KnocksRegistered.move {m m' : GRPCMux} {a : Act} (h : KnocksRegistered m)
    (hguard : m.TakenAfterListener a) (hmove : Move m a m') : KnocksRegistered m' := by
  have hkeep : ∀ id, m.IsRegistered id → m'.IsRegistered id := fun _ hid =>
    hmove.isRegistered hid
  cases hmove with
  | @side s a x hx =>
      cases s with
      | host => exact h.same rfl rfl (fun _ hid => hid) h.running
      | plugin => exact h.sideMove hguard hx
  | @recv s l rest b hserved hout hb =>
      cases s with
      | plugin =>
          exact h.broker hkeep hb (by rintro _ _ ⟨⟩) (by rintro _ _ ⟨⟩) h.queued h.running
      | host =>
          -- the host takes a message off the plugin's stream
          refine ⟨h.listeners, h.admitted, fun id origin hmem => ?_, h.queued, h.running⟩
          refine h.sent id origin ?_
          rw [show (m.sides.get .plugin).broker.out = l :: rest from hout]
          exact List.mem_cons_of_mem l hmem
  | serverAcceptKnock hl hfree hb =>
      refine h.broker hkeep hb (by rintro _ _ ⟨⟩) (by rintro _ _ ⟨⟩) ?_ h.running
      rintro _ ⟨⟩
      exact h.admitted _ _ hl rfl
  | @serverListener j id p b hl hb =>
      refine h.broker hkeep hb ?_ (by rintro _ _ ⟨⟩) (fun id hid => hkeep id (h.queued id hid))
        h.running
      rintro _ l ⟨⟩ hl'
      cases hl.symm.trans hl'
      simp [IsRegistered, GRPCServerMuxer.listener]
  | serverAccept | serverDefault | serverDeliver =>
      exact h.same rfl rfl (fun _ hid => hid) (by simp)
  | serverRoute => exact h.same rfl rfl (by simp) (by simp)
  | serverLost hloop hknock hln =>
      have hid := h.queued _ hknock
      rw [IsRegistered, hln] at hid
      cases hid
  | _ => exact h.same rfl rfl (fun _ hid => hid) h.running

/-- **An accepted knock finds its listener.**  In every run in which the plugin's
    `listenForKnocks` goroutines take knocks only once `Accept` has its listener, an ack
    without an error is sent only for an id that has a listener in the muxer, and the `Accept`
    loop does not fail. -/
theorem acked_knock_has_listener {as : List Act} {m : GRPCMux}
    (hguard : Along step TakenAfterListener init as) (hrun : exec step init as = some m) :
    (∀ (i : Nat) id p l, (m.sides.get .plugin).broker.listens[i]? = some ⟨id, .acking p l ""⟩ →
      (m.server.acceptChannels id).isSome = true) ∧
    (∀ id origin, ⟨ackInfo id "", origin⟩ ∈ (m.sides.get .plugin).broker.out →
      (m.server.acceptChannels id).isSome = true) ∧
    m.server.loop ≠ .failed := by
  have hstep : ∀ s a s', KnocksRegistered s → s.TakenAfterListener a → step s a = some s' →
      KnocksRegistered s' := fun s a s' hs hg hstep => hs.move hg (move_of_step hstep)
  have hend := exec_invariant hstep knocksRegistered_init hguard hrun
  exact ⟨fun i id p l hl => hend.admitted i _ hl rfl, hend.sent, hend.running⟩

theorem acked_knock_has_listener_dialFive :
    ∃ m, exec step init dialFiveRun = some m ∧ Along step TakenAfterListener init dialFiveRun ∧
      m.server.acceptChannels 5 = some 0 ∧ m.server.loop ≠ .failed :=
  ⟨_, rfl, by decide, rfl,
    (@acked_knock_has_listener dialFiveRun _ (by decide) rfl).2.2⟩

/-- `Accept(5)` has started its `listenForKnocks` and not called `muxer.Listener` yet: a knock
    is taken, let in and acked. -/
def earlyKnockRun : List Act :=
  connectRun
    ++ [.broker .plugin (.accept 5), .broker .plugin (.listener 0 .spawn),
      .broker .plugin (.listen 0 .fetch)]
    ++ knockRun .host 5 0 ++ ackRun .plugin 0

/-- The stream that the host opens then makes the `Accept` loop fail. -/
theorem earlyKnock_fails :
    (∃ m, exec step init earlyKnockRun = some m ∧
      (m.sides.get .plugin).broker.out = [⟨ackInfo 5 "", 0⟩] ∧
      m.server.acceptChannels 5 = none) ∧
    ∃ m, exec step init (earlyKnockRun ++ ackedRun .host 0 0
        ++ [.openStream .host 0, .serverAccept .accept, .serverAccept .select]) = some m ∧
      m.server.loop = .failed :=
  ⟨⟨_, rfl, rfl, rfl⟩, _, rfl, rfl⟩

/-! ### A closed listener is owed nothing -/

/-- Whether `doneCh` of the plugin's listener `ln` is open. -/
def isOpen (m : GRPCMux) (ln : Nat) : Bool :=
  match (m.sides.get .plugin).broker.listeners[ln]? with
  | some l => !(m.sides.get .plugin).broker.serverStreams.closed l.p
  | none => false

/-- The listeners to which the plugin's muxer is sending, or is going to send by what it has
    accepted: that of the `Accept` loop, and that of the knock in `knockCh`. -/
def owed (m : GRPCMux) : List Nat :=
  (match m.server.loop with
    | .sending _ ln => [ln]
    | .accepting | .routing _ | .failed => [])
  ++ (m.server.knockCh.bind m.server.acceptChannels).toList

/-- The listeners that an action makes the plugin's muxer send to. -/
def engages (m : GRPCMux) : Act → List Nat
  | .serverAcceptKnock i =>
      (((m.sides.get .plugin).broker.listens[i]?).bind fun l =>
        m.server.acceptChannels l.id).toList
  | .serverListener j =>
      if ((m.sides.get .plugin).broker.listeners[j]?).map GRPCBroker.Listener.id = m.server.knockCh
      then [j] else []
  | _ => []

/-- The plugin's listener that is closed in this action. -/
def Act.closes : Act → Option Nat
  | .broker .plugin (.listener j .close) => some j
  | _ => none

/-- The host's listener that `AcceptKnock` finds in this action. -/
def finds (m : GRPCMux) : Act → Option ClientListener
  | .clientLookup i =>
      (((m.sides.get .host).broker.listens[i]?).bind fun l =>
        m.client.acceptListeners l.id).bind fun c => m.client.listeners[c]?
  | _ => none

/-- On the plugin, listeners are closed only when they are owed nothing, and the muxer only
    turns to listeners that are open; listeners of one entry have one `doneCh`.  On the host,
    `AcceptKnock` only turns to a listener whose `waitCh` has room for its token. -/
structure ClosesUnowed (m : GRPCMux) (a : Act) : Prop where
  engages : ∀ ln ∈ m.engages a, m.isOpen ln = true
  closes : ∀ j ∈ a.closes, ∀ ln ∈ m.owed,
    ((m.sides.get .plugin).broker.listeners[j]?).map GRPCBroker.Listener.p ≠
      ((m.sides.get .plugin).broker.listeners[ln]?).map GRPCBroker.Listener.p
  finds : ∀ l ∈ m.finds a, l.waitCh = false

instance decidableClosesUnowed (m : GRPCMux) (a : Act) : Decidable (m.ClosesUnowed a) :=
  decidable_of_iff
    ((∀ ln ∈ m.engages a, m.isOpen ln = true) ∧
      (∀ j ∈ a.closes, ∀ ln ∈ m.owed,
        ((m.sides.get .plugin).broker.listeners[j]?).map GRPCBroker.Listener.p ≠
          ((m.sides.get .plugin).broker.listeners[ln]?).map GRPCBroker.Listener.p) ∧
      ∀ l ∈ m.finds a, l.waitCh = false)
    ⟨fun ⟨hengages, hcloses, hfinds⟩ => ⟨hengages, hcloses, hfinds⟩,
      fun h => ⟨h.engages, h.closes, h.finds⟩⟩

/-- What the plugin's muxer owes it owes to open listeners. -/
def OwedOpen (m : GRPCMux) : Prop := ∀ ln ∈ m.owed, m.isOpen ln = true

/-- The host's `AcceptKnock` does not stand before a full `waitCh`. -/
def KnockHasRoom (m : GRPCMux) : Prop :=
  ∀ i c l, m.client.acceptMutex = some (i, c) → m.client.listeners[c]? = some l →
    l.waitCh = false

theorem isOpen_iff {m : GRPCMux} {ln : Nat} :
    m.isOpen ln = true ↔ ∃ l, (m.sides.get .plugin).broker.listeners[ln]? = some l ∧
      (m.sides.get .plugin).broker.serverStreams.closed l.p = false := by
  unfold isOpen
  split
  · next l hl => simp [hl]
  · next hl => simp [hl]

/-- An open listener stays open, unless one with the same `doneCh` is closed. -/
theorem Move.isOpen {m m' : GRPCMux} {a : Act} (h : Move m a m') {ln : Nat}
    (hopen : m.isOpen ln = true)
    (hcloses : ∀ j ∈ a.closes,
      ((m.sides.get .plugin).broker.listeners[j]?).map GRPCBroker.Listener.p ≠
        ((m.sides.get .plugin).broker.listeners[ln]?).map GRPCBroker.Listener.p) :
    m'.isOpen ln = true := by
  obtain ⟨l, hl, hclosed⟩ := isOpen_iff.mp hopen
  obtain ⟨l', hl', -, hp⟩ := (h.evolves .plugin).listeners hl
  refine isOpen_iff.mpr ⟨l', hl', ?_⟩
  rw [hp]
  by_contra hnot
  have hnow := Bool.of_not_eq_false hnot
  have hperf := h.performs .plugin
  generalize (m'.sides.get .plugin).broker = b' at hperf hnow
  cases hperf with
  | same => exact absurd (hclosed.symm.trans hnow) (by simp)
  | move hb ha =>
      rcases hb.closed hnow with hold | ⟨j, lj, rfl, hj, hpj⟩
      · exact absurd (hclosed.symm.trans hold) (by simp)
      · have hact := ha rfl
        subst hact
        refine hcloses j ?_ ?_
        · simp [Act.closes]
        · simp [hj, hl, hpj]

/-- Who is owed something after a move was owed it before, or is turned to in the move. -/
theorem Move.owed {m m' : GRPCMux} {a : Act} (h : Move m a m') {ln : Nat} (hln : ln ∈ m'.owed) :
    ln ∈ m.owed ∨ ln ∈ m.engages a := by
  cases h with
  | @serverAcceptKnock i id p l b hl hfree hb =>
      rcases List.mem_append.mp hln with hsending | hqueued
      · exact Or.inl (List.mem_append_left _ hsending)
      · refine Or.inr ?_
        simpa [engages, hl] using hqueued
  | @serverListener j id p b hl hb =>
      rcases List.mem_append.mp hln with hsending | hqueued
      · exact Or.inl (List.mem_append_left _ hsending)
      · cases hknock : m.server.knockCh with
        | none => simp [GRPCServerMuxer.listener, hknock] at hqueued
        | some k =>
            simp only [GRPCServerMuxer.listener, hknock, Option.bind_some] at hqueued
            split at hqueued
            · next hk =>
                refine Or.inr ?_
                simpa [engages, hl, hknock, hk] using hqueued
            · refine Or.inl (List.mem_append_right _ ?_)
              simpa [hknock] using hqueued
  | @serverRoute st id ln' hloop hknock hln' =>
      refine Or.inl (List.mem_append_right _ ?_)
      simpa [GRPCMux.owed, hknock, hln'] using hln
  | serverLost => simp [GRPCMux.owed] at hln
  | serverAccept | serverDefault | serverDeliver =>
      exact Or.inl (List.mem_append_right _ (by simpa [GRPCMux.owed] using hln))
  | _ => exact Or.inl hln

theorem owedOpen_init : OwedOpen init := by
  intro ln hln
  simp [owed, init, GRPCServerMuxer.init] at hln

theorem OwedOpen.move {m m' : GRPCMux} {a : Act} (h : OwedOpen m) (hguard : m.ClosesUnowed a)
    (hmove : Move m a m') : OwedOpen m' := by
  intro ln hln
  rcases hmove.owed hln with hold | hnew
  · exact hmove.isOpen (h ln hold) fun j hj => hguard.closes j hj ln hold
  · refine hmove.isOpen (hguard.engages ln hnew) fun j hj => ?_
    -- an action that closes a listener turns to none
    cases a with
    | broker s b => cases hnew
    | _ => cases hj

theorem knockHasRoom_init : KnockHasRoom init := by
  intro i c l hmutex
  cases hmutex

theorem KnockHasRoom.move {m m' : GRPCMux} {a : Act} (h : KnockHasRoom m)
    (hguard : m.ClosesUnowed a) (hmove : Move m a m') : KnockHasRoom m' := by
  intro i c l hmutex hc
  cases hmove with
  | @clientLookup i' id p k c' hl hfree hc' =>
      cases hmutex
      refine hguard.finds l ?_
      simpa [finds, hl, hc'] using hc
  | clientUnblock => cases hmutex
  | clientListener =>
      -- the new listener has an empty `waitCh`
      rcases getElem?_concat_cases hc with hold | ⟨-, rfl⟩
      · exact h i c l hmutex hold
      · rfl
  | clientWait =>
      rcases getElem?_set_cases hc with ⟨-, rfl⟩ | ⟨-, hold⟩
      · rfl
      · exact h i c l hmutex hold
  | _ => exact h i c l hmutex hc

/-- **A listener that is closed when it is owed nothing does not wedge the muxer.**  In every
    such run, the plugin's `Accept` loop is not sending to a listener whose `doneCh` is closed,
    and the host's `AcceptKnock` does not hold its lock in front of the full `waitCh` of one. -/
theorem muxer_not_wedged {as : List Act} {m : GRPCMux}
    (hguard : Along step ClosesUnowed init as) (hrun : exec step init as = some m) :
    (∀ (s : HostStream) (ln : Nat) l, m.server.loop = .sending s ln →
      m.sides.plugin.broker.listeners[ln]? = some l →
      m.sides.plugin.broker.serverStreams.closed l.p = false) ∧
    ∀ i c l, m.client.acceptMutex = some (i, c) → m.client.listeners[c]? = some l →
      ¬ (l.waitCh = true ∧ m.hostDone l.ln = true) := by
  have hstep : ∀ s a s', OwedOpen s ∧ KnockHasRoom s → s.ClosesUnowed a → step s a = some s' →
      OwedOpen s' ∧ KnockHasRoom s' := by
    intro s a s' hs hg hstep
    exact ⟨hs.1.move hg (move_of_step hstep), hs.2.move hg (move_of_step hstep)⟩
  obtain ⟨howed, hroom⟩ := exec_invariant hstep ⟨owedOpen_init, knockHasRoom_init⟩ hguard hrun
  constructor
  · intro s ln l hloop hl
    have hmem : ln ∈ m.owed := by simp [owed, hloop]
    obtain ⟨l', hl', hopen⟩ := isOpen_iff.mp (howed ln hmem)
    cases hl.symm.trans hl'
    exact hopen
  · rintro i c l hmutex hl ⟨hfull, -⟩
    rw [hroom i c l hmutex hl] at hfull
    cases hfull

/-- The listener is closed after it has got its stream. -/
def closeServedRun : List Act := dialFiveRun ++ [.broker .plugin (.listener 0 .close)]

theorem muxer_not_wedged_closeServed :
    ∃ m, exec step init closeServedRun = some m ∧ Along step ClosesUnowed init closeServedRun ∧
      m.sides.plugin.broker.serverStreams.closed 0 = true ∧
      ∀ (s : HostStream) (ln : Nat) l, m.server.loop = .sending s ln →
        m.sides.plugin.broker.listeners[ln]? = some l →
        m.sides.plugin.broker.serverStreams.closed l.p = false :=
  ⟨_, rfl, by decide, rfl, (@muxer_not_wedged closeServedRun _ (by decide) rfl).1⟩

/-- The plugin's listener is closed after its knock was acked and before its stream is there. -/
def closeAckedRun : List Act :=
  connectRun ++ acceptRun .plugin 5 0 ++ knockRun .host 5 0 ++ ackRun .plugin 0
    ++ [.broker .plugin (.listener 0 .close)] ++ ackedRun .host 0 0
    ++ [.openStream .host 0, .serverAccept .accept, .serverAccept .select]

/-- The host's listener has the token of one knock when the next one comes, and is closed. -/
def closeFullRun : List Act :=
  connectRun ++ acceptRun .host 5 0 ++ knockRun .plugin 5 0 ++ ackRun .host 0
    ++ ackedRun .plugin 0 0 ++ [.openStream .plugin 0] ++ knockRun .plugin 5 1
    ++ [.broker .host (.listen 0 .recv), .clientLookup 0, .broker .host (.listener 0 .close)]

/-- Both muxers are then stuck with a listener that is closed. -/
theorem closed_listener_wedges :
    (∃ m, exec step init closeAckedRun = some m ∧ m.server.loop = .sending (.dialled 0 5) 0 ∧
      m.sides.plugin.broker.listeners = [⟨5, 0, .closing⟩] ∧
      m.sides.plugin.broker.serverStreams.closed 0 = true) ∧
    ∃ m, exec step init closeFullRun = some m ∧ m.client.acceptMutex = some (0, 0) ∧
      m.client.listeners = [⟨5, 0, true⟩] ∧ m.hostDone 0 = true :=
  ⟨⟨_, rfl, rfl, rfl, rfl⟩, _, rfl, rfl, rfl, rfl⟩

end GRPCMux

end GoPlugin
