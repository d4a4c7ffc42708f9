import GoPlugin.GRPCBroker

/-!
# The pending table of the gRPC broker

Who is responsible for an entry of `clientStreams`, and whether a waiting call can lose
its entry.  Entries are removed by id, so what matters throughout is which cells the
threads hold and for which id those cells were made (`Keyed`).
-/

namespace GoPlugin

namespace GRPCBroker

open Tally PendingTable LabelledSystem

/-! ### Entries keep their id -/

/-- The entry of `clientStreams` that a call uses or has used. -/
def CallPc.entry : CallPc → Option Nat
  | .waiting p | .took p _ | .expired p | .used p _ | .acked p _ | .refused p _ => some p
  | .fetching | .timedOut | .sendFailed => none

/-- Every client entry that a thread holds was made for the id the thread works on, and
    so was the one a queued message is in. -/
structure Keyed (b : GRPCBroker) : Prop where
  offering : ∀ m p, b.run = .offering m p → m.info.serverKnock = false →
    b.clientStreams.keyOf p = some m.info.serviceId
  spawning : ∀ id p, b.run = .spawning id p → b.clientStreams.keyOf p = some id
  calls : ∀ (i : Nat) (c : Call) p, b.calls[i]? = some c → c.pc.entry = some p →
    b.clientStreams.keyOf p = some c.id
  waits : ∀ (i : Nat) (w : TimeoutWait), b.waits[i]? = some w →
    b.clientStreams.keyOf w.p = some w.id
  queued : ∀ p m, b.clientStreams.ch p = some m →
    b.clientStreams.keyOf p = some m.info.serviceId

theorem keyed_init : Keyed init := by
  constructor <;> simp [init, PendingTable.ch, PendingTable.empty]

/-- No cell loses its id. -/
theorem RunMove.keyOf {b b' : GRPCBroker} {a : RunAct} (h : RunMove b a b') {p : Nat} {k : UInt32}
    (hp : b.clientStreams.keyOf p = some k) : b'.clientStreams.keyOf p = some k := by
  cases h with
  | lookupClient => exact keyOf_fetch _ hp
  | queueClient =>
      rw [keyOf_put]
      exact hp
  | _ => exact hp

theorem CallerMove.keyOf {b b' : GRPCBroker} {a : Act} (h : CallerMove b a b') {p : Nat}
    {k : UInt32} (hp : b.clientStreams.keyOf p = some k) :
    b'.clientStreams.keyOf p = some k := by
  cases h with
  | dial | fetch => exact keyOf_fetch _ hp
  | recv =>
      rw [keyOf_take]
      exact hp
  | closeDone =>
      rw [keyOf_closeDone]
      exact hp
  | _ => exact hp

/-- Only `Run` puts messages into slots. -/
theorem CallerMove.ch {b b' : GRPCBroker} {a : Act} (h : CallerMove b a b') {p : Nat}
    {m : Letter} (hp : b'.clientStreams.ch p = some m) : b.clientStreams.ch p = some m := by
  cases h with
  | dial | fetch =>
      rw [ch_fetch] at hp
      exact hp
  | recv =>
      rw [ch_take] at hp
      split at hp
      · cases hp
      · exact hp
  | closeDone =>
      rw [ch_closeDone] at hp
      exact hp
  | _ => exact hp

/-- A call takes its entry from the table for its own id, and keeps it. -/
theorem CallStep.entry {b b' : GRPCBroker} {x : CallAct} {c c' : Call}
    (h : CallStep b b' x c c') {p : Nat} (hp : c'.pc.entry = some p) :
    c.pc.entry = some p ∨ b'.clientStreams.keyOf p = some c'.id := by
  cases h with
  | fetch hstreams =>
      cases hp
      rw [hstreams]
      exact Or.inr (keyOf_slot _ _)
  | reap => cases hp
  | _ => exact Or.inl hp

theorem CallNew.entry {b b' : GRPCBroker} {a : Act} {c : Call} (h : CallNew b b' a c) {p : Nat}
    (hp : c.pc.entry = some p) : b'.clientStreams.keyOf p = some c.id := by
  cases h with
  | dial hstreams =>
      cases hp
      rw [hstreams]
      exact keyOf_slot _ _
  | knock | knockFail => cases hp

theorem Keyed.run {b b' : GRPCBroker} {a : RunAct} (h : Keyed b) (hmove : RunMove b a b') :
    Keyed b' := by
  have hcalls : ∀ (i : Nat) (c : Call) p, b'.calls[i]? = some c → c.pc.entry = some p →
      b'.clientStreams.keyOf p = some c.id := by
    rw [hmove.calls_eq]
    exact fun i c p hc hp => hmove.keyOf (h.calls i c p hc hp)
  cases hmove with
  | recv | stop | queueServer | dropServer | dropClient =>
      exact ⟨by simp, by simp, hcalls, h.waits, h.queued⟩
  | lookupServer hrun hrole =>
      refine ⟨?_, by simp, hcalls, h.waits, h.queued⟩
      rintro m p hoffer hclient
      cases hoffer
      rw [hrole] at hclient
      cases hclient
  | lookupClient hrun hrole =>
      refine ⟨?_, by simp, hcalls, fun i w hw => keyOf_fetch _ (h.waits i w hw), ?_⟩
      · rintro m p hoffer -
        cases hoffer
        exact keyOf_slot _ _
      · intro p m hch
        rw [ch_fetch] at hch
        exact keyOf_fetch _ (h.queued p m hch)
  | queueClient hrun hrole hch =>
      refine ⟨by simp, ?_, hcalls, ?_, ?_⟩
      · rintro id p hspawn
        cases hspawn
        rw [keyOf_put]
        exact h.offering _ _ hrun hrole
      · intro i w hw
        rw [keyOf_put]
        exact h.waits i w hw
      · intro q m' hq
        rw [ch_put] at hq
        rw [keyOf_put]
        split at hq
        · next heq =>
            cases hq
            rw [heq.1]
            exact h.offering _ _ hrun hrole
        · exact h.queued q m' hq
  | spawn hrun =>
      refine ⟨by simp, by simp, hcalls, ?_, h.queued⟩
      intro i w hw
      rcases getElem?_concat_cases hw with hold | ⟨-, rfl⟩
      · exact h.waits i w hold
      · exact h.spawning _ _ hrun

theorem Keyed.caller {b b' : GRPCBroker} {a : Act} (h : Keyed b) (hmove : CallerMove b a b') :
    Keyed b' := by
  constructor
  · intro m p hoffer hrole
    rw [hmove.run_eq] at hoffer
    exact hmove.keyOf (h.offering m p hoffer hrole)
  · intro id p hspawn
    rw [hmove.run_eq] at hspawn
    exact hmove.keyOf (h.spawning id p hspawn)
  · intro i c p hc hp
    rcases hmove.callsNext.cases hc with hold | ⟨_, c₀, -, hold, hstep⟩ | ⟨-, hnew⟩
    · exact hmove.keyOf (h.calls i c p hold hp)
    · rcases hstep.entry hp with hp₀ | hkey
      · rw [hstep.kind_id.2]
        exact hmove.keyOf (h.calls i c₀ p hold hp₀)
      · exact hkey
    · exact hnew.entry hp
  · intro i w hw
    rcases hmove.wait_cases hw with hold | ⟨w₀, hold, -, hid, hp⟩
    · exact hmove.keyOf (h.waits i w hold)
    · rw [hid, hp]
      exact hmove.keyOf (h.waits i w₀ hold)
  · intro p m hch
    exact hmove.keyOf (h.queued p m (hmove.ch hch))

theorem Keyed.accepter {b b' : GRPCBroker} {a : Act} (h : Keyed b)
    (hmove : AccepterMove b a b') : Keyed b' := by
  obtain ⟨hstreams, hrun, hcalls, hwaits, -⟩ := hmove.client_eq
  constructor
  · simpa only [hstreams, hrun] using h.offering
  · simpa only [hstreams, hrun] using h.spawning
  · simpa only [hstreams, hcalls] using h.calls
  · simpa only [hstreams, hwaits] using h.waits
  · simpa only [hstreams] using h.queued

theorem Keyed.move {b b' : GRPCBroker} {a : Act} (h : Keyed b) (hmove : Move b a b') :
    Keyed b' := by
  cases hmove with
  | run hmove => exact h.run hmove
  | caller hmove => exact h.caller hmove
  | accepter hmove => exact h.accepter hmove

/-! ### Every entry has an owner -/

/-- `Run` is about to start a `timeoutWait` for entry `p`, or one is still to finish. -/
def Watched (b : GRPCBroker) (p : Nat) : Prop :=
  (∃ id, b.run = .spawning id p) ∨
    ∃ (i : Nat) (w : TimeoutWait), b.waits[i]? = some w ∧ w.p = p ∧ w.pc ≠ .finished

/-- A call waits on entry `p`, or is about to delete it after its timer fired, or `Run`
    has fetched it for a message. -/
def Held (b : GRPCBroker) (p : Nat) : Prop :=
  (∃ (i : Nat) (c : Call), b.calls[i]? = some c ∧ c.pc.holds = some p) ∨
    ∃ m, b.run = .offering m p ∧ m.info.serverKnock = false

/-- Every entry in the table is watched, or it is still empty and held. -/
def Owned (b : GRPCBroker) : Prop :=
  ∀ id p, b.clientStreams.entry id = some p →
    b.Watched p ∨ (b.clientStreams.ch p = none ∧ b.Held p)

theorem owned_init : Owned init := by
  simp [Owned, init, PendingTable.empty]

/-- An entry keeps an owner if its old one goes on or hands it over. -/
theorem Owned.next {b b' : GRPCBroker} (h : Owned b)
    (hentry : ∀ id p, b'.clientStreams.entry id = some p →
      b.clientStreams.entry id = some p ∨ (b'.clientStreams.ch p = none ∧ b'.Held p))
    (hwatched : ∀ id p, b'.clientStreams.entry id = some p →
      b.clientStreams.entry id = some p → b.Watched p → b'.Watched p)
    (hheld : ∀ id p, b'.clientStreams.entry id = some p → b.clientStreams.entry id = some p →
      b.clientStreams.ch p = none → b.Held p →
        b'.Watched p ∨ (b'.clientStreams.ch p = none ∧ b'.Held p)) : Owned b' := by
  intro id p hp
  rcases hentry id p hp with hold | hnew
  · rcases h id p hold with hw | ⟨hnone, hh⟩
    · exact Or.inl (hwatched id p hp hold hw)
    · exact hheld id p hp hold hnone hh
  · exact Or.inr hnew

/-- Looking up an entry makes it held, whether it is new or not. -/
theorem RunMove.entry_cases {b b' : GRPCBroker} {a : RunAct} (h : RunMove b a b') {id : UInt32}
    {p : Nat} (hp : b'.clientStreams.entry id = some p) :
    b.clientStreams.entry id = some p ∨ (b'.clientStreams.ch p = none ∧ b'.Held p) := by
  cases h with
  | lookupClient hrun hrole =>
      rcases entry_fetch_cases hp with hold | ⟨rfl, hnone⟩
      · exact Or.inl hold
      · rw [ch_fetch]
        exact Or.inr ⟨hnone, Or.inr ⟨_, rfl, hrole⟩⟩
  | _ => exact Or.inl hp

theorem CallerMove.entry_cases {b b' : GRPCBroker} {a : Act} (h : CallerMove b a b') {id : UInt32}
    {p : Nat} (hp : b'.clientStreams.entry id = some p) :
    b.clientStreams.entry id = some p ∨ (b'.clientStreams.ch p = none ∧ b'.Held p) := by
  cases h with
  | dial =>
      rcases entry_fetch_cases hp with hold | ⟨rfl, hnone⟩
      · exact Or.inl hold
      · rw [ch_fetch]
        exact Or.inr ⟨hnone, Or.inl ⟨_, _, List.getElem?_concat_length, rfl⟩⟩
  | fetch hcall =>
      rcases entry_fetch_cases hp with hold | ⟨rfl, hnone⟩
      · exact Or.inl hold
      · obtain ⟨hlt, -⟩ := List.getElem?_eq_some_iff.mp hcall
        rw [ch_fetch]
        exact Or.inr ⟨hnone, Or.inl ⟨_, _, List.getElem?_set_self hlt, rfl⟩⟩
  | reap | clean =>
      rw [entry_erase] at hp
      split at hp
      · cases hp
      · exact Or.inl hp
  | _ => exact Or.inl hp

/-- `Run` hands the entry over to the goroutine that it starts. -/
theorem RunMove.watched {b b' : GRPCBroker} {a : RunAct} (h : RunMove b a b') {p : Nat}
    (hwatched : b.Watched p) : b'.Watched p := by
  rcases hwatched with ⟨id, hspawn⟩ | ⟨i, w, hw, hp, hpc⟩
  · cases h with
    | spawn hrun =>
        cases hrun.symm.trans hspawn
        exact Or.inr ⟨_, _, List.getElem?_concat_length, rfl, by simp⟩
    | recv hrun | stop hrun | lookupServer hrun | lookupClient hrun | queueServer hrun
    | queueClient hrun | dropServer hrun | dropClient hrun => cases hrun.symm.trans hspawn
  · cases h with
    | spawn hrun => exact Or.inr ⟨i, w, getElem?_concat_of_some hw _, hp, hpc⟩
    | _ => exact Or.inr ⟨i, w, hw, hp, hpc⟩

/-- An empty entry stays empty, or `Run` has put a message into it and watches it. -/
theorem RunMove.held {b b' : GRPCBroker} {a : RunAct} (h : RunMove b a b') {p : Nat}
    (hnone : b.clientStreams.ch p = none) (hheld : b.Held p) :
    b'.Watched p ∨ (b'.clientStreams.ch p = none ∧ b'.Held p) := by
  rcases hheld with hcall | ⟨m, hoffer, hrole⟩
  · cases h with
    | @queueClient m q hrun hrole hch =>
        by_cases hpq : p = q
        · exact Or.inl (Or.inl ⟨_, by rw [hpq]⟩)
        · refine Or.inr ⟨?_, Or.inl hcall⟩
          rw [ch_put, if_neg fun heq => hpq heq.1]
          exact hnone
    | lookupClient hrun hrole =>
        rw [ch_fetch]
        exact Or.inr ⟨hnone, Or.inl hcall⟩
    | _ => exact Or.inr ⟨hnone, Or.inl hcall⟩
  · cases h with
    | queueClient hrun hclient hch =>
        cases hrun.symm.trans hoffer
        exact Or.inl (Or.inl ⟨_, rfl⟩)
    | dropClient hrun hclient hch =>
        -- a full slot is not empty
        cases hrun.symm.trans hoffer
        cases hch.symm.trans hnone
    | queueServer hrun hserver | dropServer hrun hserver =>
        cases hrun.symm.trans hoffer
        cases hserver.symm.trans hrole
    | recv hrun | stop hrun | lookupServer hrun | lookupClient hrun | spawn hrun =>
        cases hrun.symm.trans hoffer

theorem Owned.run {b b' : GRPCBroker} {a : RunAct} (h : Owned b) (hmove : RunMove b a b') :
    Owned b' :=
  h.next (fun _ _ hp => hmove.entry_cases hp) (fun _ _ _ _ hw => hmove.watched hw)
    fun _ _ _ _ hnone hh => hmove.held hnone hh

/-- What was removed under an id is no entry any more. -/
theorem entry_ne_of_erase {t t' : PendingTable UInt32 Letter} {k id : UInt32} {p : Nat}
    (herase : t' = t.erase k) (hkey : t.keyOf p = some k) (hold : t.entry id = some p) :
    t'.entry id ≠ some p := by
  have hid : id = k := Option.some.inj ((keyOf_of_entry hold).symm.trans hkey)
  rw [herase, entry_erase, if_pos hid]
  exact nofun

theorem CallerMove.watched {b b' : GRPCBroker} {a : Act} (h : CallerMove b a b') (hkey : Keyed b)
    {id : UInt32} {p : Nat} (hnew : b'.clientStreams.entry id = some p)
    (hold : b.clientStreams.entry id = some p) (hwatched : b.Watched p) : b'.Watched p := by
  rcases hwatched with hspawn | ⟨i, w, hw, rfl, hpc⟩
  · exact Or.inl (h.run_eq ▸ hspawn)
  · rcases h.wait_next hw hpc with ⟨w', hw', hp', hpc'⟩ | herase
    · exact Or.inr ⟨i, w', hw', hp', hpc'⟩
    · exact absurd hnew (entry_ne_of_erase herase (hkey.waits i w hw) hold)

theorem CallerMove.held {b b' : GRPCBroker} {a : Act} (h : CallerMove b a b') (hkey : Keyed b)
    {id : UInt32} {p : Nat} (hnew : b'.clientStreams.entry id = some p)
    (hold : b.clientStreams.entry id = some p) (hnone : b.clientStreams.ch p = none)
    (hheld : b.Held p) : b'.Held p := by
  rcases hheld with ⟨i, c, hc, hp⟩ | hoffer
  · rcases h.callsNext.next hc with hsame | ⟨_, c', hc', hstep⟩
    · exact Or.inl ⟨i, c, hsame, hp⟩
    · cases hstep with
      | recv hch =>
          -- what a call receives was in the slot
          cases hp
          cases hch.symm.trans hnone
      | expire => exact Or.inl ⟨i, _, hc', hp⟩
      | reap herase =>
          cases hp
          exact absurd hnew (entry_ne_of_erase herase (hkey.calls i _ p hc rfl) hold)
      | fetch | used | acked | refused => cases hp
  · exact Or.inr (h.run_eq ▸ hoffer)

theorem Owned.caller {b b' : GRPCBroker} {a : Act} (h : Owned b) (hkey : Keyed b)
    (hmove : CallerMove b a b') : Owned b' := by
  refine h.next (fun _ _ hp => hmove.entry_cases hp)
    (fun _ _ hnew hold hw => hmove.watched hkey hnew hold hw) ?_
  intro id p hnew hold hnone hh
  refine Or.inr ⟨?_, hmove.held hkey hnew hold hnone hh⟩
  by_contra hne
  obtain ⟨m, hm⟩ := Option.ne_none_iff_exists'.mp hne
  cases (hmove.ch hm).symm.trans hnone

theorem Owned.move {b b' : GRPCBroker} {a : Act} (h : Owned b) (hkey : Keyed b)
    (hmove : Move b a b') : Owned b' := by
  cases hmove with
  | run hmove => exact h.run hmove
  | caller hmove => exact h.caller hkey hmove
  | accepter hmove =>
      obtain ⟨hstreams, hrun, hcalls, hwaits, -⟩ := hmove.client_eq
      simpa only [Owned, Watched, Held, hstreams, hrun, hcalls, hwaits] using h

theorem owned_of_exec {as : List Act} {b : GRPCBroker} (hrun : exec step init as = some b) :
    Keyed b ∧ Owned b := by
  have hstep : ∀ s a s', Keyed s ∧ Owned s → step s a = some s' → Keyed s' ∧ Owned s' := by
    rintro s a s' ⟨hkey, howned⟩ hs
    obtain ⟨-, hmove⟩ := move_of_step hs
    exact ⟨hkey.move hmove, howned.move hkey hmove⟩
  exact exec_invariant_of_step hstep ⟨keyed_init, owned_init⟩ hrun

/-- No `Dial` or `knock` is in progress, `Run` is between messages and no `timeoutWait` is
    alive. -/
def Quiescent (b : GRPCBroker) : Prop :=
  (∀ c ∈ b.calls, c.pc.finished = true) ∧ (b.run = .receiving ∨ b.run = .stopped) ∧
    ∀ w ∈ b.waits, w.pc = .finished

instance (b : GRPCBroker) : Decidable b.Quiescent := inferInstanceAs (Decidable (_ ∧ _ ∧ _))

/-- **No entry leaks.**  In every run, each entry of `clientStreams` has a live owner: a
    call that waits on it or is about to delete it, `Run` between fetching it and starting
    its `timeoutWait`, or a `timeoutWait` that has not finished.  So when all of them have
    come to rest, the table is empty. -/
theorem clientStreams_owned {as : List Act} {b : GRPCBroker}
    (hrun : exec step init as = some b) :
    (∀ id p, b.clientStreams.entry id = some p →
      (∃ (i : Nat) (c : Call), b.calls[i]? = some c ∧ c.pc.holds = some p) ∨
      ((∃ m, b.run = .offering m p ∧ m.info.serverKnock = false) ∨
        ∃ id', b.run = .spawning id' p) ∨
      ∃ (i : Nat) (w : TimeoutWait), b.waits[i]? = some w ∧ w.p = p ∧ w.pc ≠ .finished) ∧
    (b.Quiescent → ∀ id, b.clientStreams.entry id = none) := by
  obtain ⟨-, howned⟩ := owned_of_exec hrun
  refine ⟨fun id p hp => ?_, fun hquiet id => ?_⟩
  · rcases howned id p hp with (hspawn | hwait) | ⟨-, hcall | hoffer⟩
    · exact Or.inr (Or.inl (Or.inr hspawn))
    · exact Or.inr (Or.inr hwait)
    · exact Or.inl hcall
    · exact Or.inr (Or.inl (Or.inl hoffer))
  · obtain ⟨hcalls, hidle, hwaits⟩ := hquiet
    by_contra hne
    obtain ⟨p, hp⟩ := Option.ne_none_iff_exists'.mp hne
    rcases howned id p hp with
      (⟨id', hspawn⟩ | ⟨i, w, hw, -, hpc⟩) | ⟨-, ⟨i, c, hc, hholds⟩ | ⟨m, hoffer, -⟩⟩
    · simp [hspawn] at hidle
    · exact hpc (hwaits w (List.mem_of_getElem? hw))
    · have hfin := hcalls c (List.mem_of_getElem? hc)
      cases hpc : c.pc <;> simp_all [CallPc.finished, CallPc.holds]
    · simp [hoffer] at hidle

/-- A knock for id 7 times out, and its ack arrives after that. -/
def lateAck : List Act :=
  [.knock 7 true, .call 0 .fetch, .call 0 .expire, .call 0 .reap,
    .run (.recv ⟨ackInfo 7 "", 0⟩), .run .lookup, .run .offer, .run .spawn,
    .wait 0 .expire, .wait 0 .clean]

theorem clientStreams_owned_lateAck :
    ∃ b, exec step init lateAck = some b ∧ b.Quiescent ∧ b.clientStreams.entry 7 = none :=
  ⟨_, rfl, by decide, (@clientStreams_owned lateAck _ rfl).2 (by decide) 7⟩

/-! ### A waiting call and its entry -/

/-- `Dial` or `knock` is not called for an id while a call for that id is in progress. -/
def NonOverlapping (b : GRPCBroker) : Act → Prop
  | .dial id | .knock id _ => ∀ c ∈ b.calls, c.id = id → c.pc.finished = true
  | _ => True

instance (b : GRPCBroker) : ∀ a, Decidable (b.NonOverlapping a)
  | .dial id | .knock id _ =>
      inferInstanceAs (Decidable (∀ c ∈ b.calls, c.id = id → c.pc.finished = true))
  | .run _ | .call _ _ | .wait _ _ | .listen _ _ | .accept _ | .listener _ _ => isTrue trivial

/-- The id for which the action calls `getClientStream` on behalf of a `Dial` or `knock`. -/
def fetches (b : GRPCBroker) : Act → Option UInt32
  | .dial id => some id
  | .call i .fetch => (b.calls[i]?).map Call.id
  | _ => none

/-- `Run` is between queueing a message for `id` and starting its `timeoutWait`, or holds
    an entry for `id` that is not the one in the table. -/
def RunPc.strays (id : UInt32) (entry : Option Nat) : RunPc → Bool
  | .spawning id' _ => id' = id
  | .offering m q => !m.info.serverKnock && m.info.serviceId = id && entry ≠ some q
  | _ => false

/-- A call that will have to wait looks up its entry only after all cleanup for that id
    is over. -/
def WaitsAfterCleanup (b : GRPCBroker) (a : Act) : Prop :=
  ∀ id ∈ b.fetches a, b.clientStreams.ch (b.clientStreams.slot id) = none →
    (∀ w ∈ b.waits, w.id = id → w.pc = .finished) ∧
      b.run.strays id (b.clientStreams.entry id) = false

instance (b : GRPCBroker) (a : Act) : Decidable (b.WaitsAfterCleanup a) :=
  Option.decidableForallMem (b.fetches a)

/-- At most one call for an id is in progress, and a call that waits on an empty entry has
    that entry in the table, with nobody about to remove it or to use another. -/
structure Attached (b : GRPCBroker) : Prop where
  solo : ∀ (i j : Nat) (c d : Call), b.calls[i]? = some c → b.calls[j]? = some d →
    c.id = d.id → c.pc.finished = false → d.pc.finished = false → i = j
  inTable : ∀ (i : Nat) (c : Call) (p : Nat), b.calls[i]? = some c → c.pc = .waiting p →
    b.clientStreams.ch p = none → b.clientStreams.entry c.id = some p
  unwatched : ∀ (i : Nat) (c : Call) (p j : Nat) (w : TimeoutWait), b.calls[i]? = some c →
    c.pc = .waiting p → b.clientStreams.ch p = none → b.waits[j]? = some w → w.id = c.id →
      w.pc = .finished
  unstrayed : ∀ (i : Nat) (c : Call) (p : Nat), b.calls[i]? = some c → c.pc = .waiting p →
    b.clientStreams.ch p = none → b.run.strays c.id (b.clientStreams.entry c.id) = false

theorem attached_init : Attached init := by
  constructor <;> simp [init]

/-- What the invariant says of a call for `id` that waits on the empty entry `p`. -/
structure CallAttached (b : GRPCBroker) (id : UInt32) (p : Nat) : Prop where
  inTable : b.clientStreams.entry id = some p
  unwatched : ∀ (j : Nat) (w : TimeoutWait), b.waits[j]? = some w → w.id = id → w.pc = .finished
  unstrayed : b.run.strays id (b.clientStreams.entry id) = false

theorem Attached.call {b : GRPCBroker} (h : Attached b) {i p : Nat} {c : Call}
    (hc : b.calls[i]? = some c) (hpc : c.pc = .waiting p) (hch : b.clientStreams.ch p = none) :
    CallAttached b c.id p :=
  ⟨h.inTable i c p hc hpc hch, fun j w => h.unwatched i c p j w hc hpc hch,
    h.unstrayed i c p hc hpc hch⟩

theorem attached_of_calls {b : GRPCBroker}
    (hsolo : ∀ (i j : Nat) (c d : Call), b.calls[i]? = some c → b.calls[j]? = some d →
      c.id = d.id → c.pc.finished = false → d.pc.finished = false → i = j)
    (hcalls : ∀ (i : Nat) (c : Call) (p : Nat), b.calls[i]? = some c → c.pc = .waiting p →
      b.clientStreams.ch p = none → CallAttached b c.id p) : Attached b where
  solo := hsolo
  inTable := fun i c p hc hpc hch => (hcalls i c p hc hpc hch).inTable
  unwatched := fun i c p j w hc hpc hch => (hcalls i c p hc hpc hch).unwatched j w
  unstrayed := fun i c p hc hpc hch => (hcalls i c p hc hpc hch).unstrayed

/-- While `Run` does not stray from the entry, what it does leaves the call attached. -/
theorem CallAttached.run {b b' : GRPCBroker} {a : RunAct} {id : UInt32} {p : Nat}
    (h : CallAttached b id p) (hmove : RunMove b a b') (hch : b'.clientStreams.ch p = none)
    (hkey : Keyed b) : CallAttached b' id p := by
  obtain ⟨hentry, hwaits, hstray⟩ := h
  cases hmove with
  | recv | stop | queueServer | dropServer | dropClient => exact ⟨hentry, hwaits, rfl⟩
  | lookupServer hrun hrole => exact ⟨hentry, hwaits, by simp [RunPc.strays, hrole]⟩
  | @lookupClient m hrun hrole =>
      have hslot : id = m.info.serviceId → b.clientStreams.slot m.info.serviceId = p := by
        rintro rfl
        simp [slot, hentry]
      have hentry' : (b.clientStreams.fetch m.info.serviceId).entry id = some p := by
        rw [entry_fetch]
        split
        · next hid => rw [hslot hid]
        · exact hentry
      refine ⟨hentry', hwaits, ?_⟩
      by_cases hid : m.info.serviceId = id
      · simp [RunPc.strays, hentry', hslot hid.symm]
      · simp [RunPc.strays, hid]
  | @queueClient m q hrun hrole hempty =>
      refine ⟨hentry, hwaits, ?_⟩
      -- a message for the id goes into the entry of the call, which is then full
      by_contra hne
      have hid : m.info.serviceId = id := by simpa [RunPc.strays] using hne
      have hpq : p = q := by simpa [hrun, RunPc.strays, hrole, hid, hentry] using hstray
      have hlt := lt_length_of_keyOf (hkey.offering m q hrun hrole)
      simp [ch_put, hpq, hlt] at hch
  | @spawn k q hrun =>
      have hne : k ≠ id := by simpa [hrun, RunPc.strays] using hstray
      refine ⟨hentry, ?_, rfl⟩
      intro j w hw hid
      rcases getElem?_concat_cases hw with hold | ⟨-, rfl⟩
      · exact hwaits j w hold hid
      · exact absurd hid hne

theorem Attached.run {b b' : GRPCBroker} {a : RunAct} (h : Attached b) (hkey : Keyed b)
    (hmove : RunMove b a b') : Attached b' := by
  have hempty : ∀ p, b'.clientStreams.ch p = none → b.clientStreams.ch p = none := by
    intro p hp
    cases hmove with
    | lookupClient =>
        rw [ch_fetch] at hp
        exact hp
    | queueClient =>
        rw [ch_put] at hp
        split at hp
        · cases hp
        · exact hp
    | _ => exact hp
  refine attached_of_calls (hmove.calls_eq ▸ h.solo) ?_
  intro i c p hc hpc hch
  rw [hmove.calls_eq] at hc
  exact (h.call hc hpc (hempty p hch)).run hmove hch hkey

/-- After a lookup the table has the entry that `Run` may already hold. -/
theorem strays_fetch {b : GRPCBroker} {id k : UInt32}
    (h : b.run.strays k (b.clientStreams.entry k) = false) :
    b.run.strays k ((b.clientStreams.fetch id).entry k) = false := by
  by_cases hk : k = id
  · subst hk
    rw [entry_fetch_self]
    cases hrun : b.run with
    | offering m q =>
        simp only [hrun, RunPc.strays] at h ⊢
        cases hentry : b.clientStreams.entry k <;> simp_all [slot]
    | _ => simp_all [RunPc.strays]
  · rwa [entry_fetch, if_neg hk]

/-- A lookup for any id leaves the call attached. -/
theorem CallAttached.fetch {b b' : GRPCBroker} {id k : UInt32} {p : Nat}
    (h : CallAttached b id p) (hstreams : b'.clientStreams = b.clientStreams.fetch k)
    (hrun : b'.run = b.run) (hwaits : b'.waits = b.waits) : CallAttached b' id p := by
  refine ⟨?_, hwaits ▸ h.unwatched, ?_⟩
  · rw [hstreams, entry_fetch]
    split
    · next hid =>
        subst hid
        simp [slot, h.inTable]
    · exact h.inTable
  · rw [hstreams, hrun]
    exact strays_fetch h.unstrayed

/-- A call that looks up an empty entry after the cleanup is attached to it. -/
theorem callAttached_of_clean {b b' : GRPCBroker} {id : UInt32}
    (hwaits : ∀ w ∈ b.waits, w.id = id → w.pc = .finished)
    (hstray : b.run.strays id (b.clientStreams.entry id) = false)
    (hstreams : b'.clientStreams = b.clientStreams.fetch id) (hrun : b'.run = b.run)
    (hwaits' : b'.waits = b.waits) : CallAttached b' id (b.clientStreams.slot id) := by
  refine ⟨?_, ?_, ?_⟩
  · rw [hstreams, entry_fetch_self]
  · intro j w hw
    rw [hwaits'] at hw
    exact hwaits w (List.mem_of_getElem? hw)
  · rw [hstreams, hrun]
    exact strays_fetch hstray

/-- What other calls and the `timeoutWait` goroutines do leaves the call attached: none of
    them works on the same id. -/
theorem CallAttached.caller {b b' : GRPCBroker} {a : Act} {i p : Nat} {c : Call}
    (h : CallAttached b c.id p) (hmove : CallerMove b a b') (hc : b.calls[i]? = some c)
    (hpc : c.pc = .waiting p)
    (hsolo : ∀ (j : Nat) (d : Call), b.calls[j]? = some d → d.id = c.id →
      d.pc.finished = false → j = i) : CallAttached b' c.id p := by
  obtain ⟨hentry, hwaits, hstray⟩ := h
  -- removing another id keeps the entry
  have herase : ∀ k, c.id ≠ k → (b.clientStreams.erase k).entry c.id = some p := by
    intro k hne
    rw [entry_erase, if_neg hne]
    exact hentry
  cases hmove with
  | dial | fetch => exact CallAttached.fetch ⟨hentry, hwaits, hstray⟩ rfl rfl rfl
  | @reap j kind k q hreap =>
      have hne : c.id ≠ k := by
        intro hid
        cases hsolo j _ hreap hid.symm rfl
        cases hreap.symm.trans hc
        cases hpc
      exact ⟨herase k hne, hwaits, by simpa only [herase k hne, hentry] using hstray⟩
  | @waitDone j k q hwait | @waitExpire j k q hwait =>
      refine ⟨hentry, ?_, hstray⟩
      intro j' w hw hid
      rcases getElem?_set_cases hw with ⟨rfl, rfl⟩ | ⟨-, hold⟩
      · cases hwaits j _ hwait hid
      · exact hwaits j' w hold hid
  | @clean j k q hwait =>
      have hne : c.id ≠ k := by
        intro hid
        cases hwaits j _ hwait hid.symm
      refine ⟨herase k hne, ?_, by simpa only [herase k hne, hentry] using hstray⟩
      intro j' w hw hid
      rcases getElem?_set_cases hw with ⟨rfl, rfl⟩ | ⟨-, hold⟩
      · rfl
      · exact hwaits j' w hold hid
  | _ => exact ⟨hentry, hwaits, hstray⟩

/-- The entry of a call that goes on waiting was not emptied by another call. -/
theorem CallerMove.ch_of_waiting {b b' : GRPCBroker} {a : Act} (hmove : CallerMove b a b')
    (hkey : Keyed b) (hatt : Attached b) {i p : Nat} {c : Call} (hc : b.calls[i]? = some c)
    (hc' : b'.calls[i]? = some c) (hpc : c.pc = .waiting p)
    (hch : b'.clientStreams.ch p = none) : b.clientStreams.ch p = none := by
  cases hmove with
  | dial | fetch =>
      rw [ch_fetch] at hch
      exact hch
  | closeDone =>
      rw [ch_closeDone] at hch
      exact hch
  | @recv j kind id q m hcall hm =>
      rw [ch_take] at hch
      split at hch
      · next hpq =>
          have hid : some id = some c.id := by
            rw [← hkey.calls j _ q hcall rfl, ← hkey.calls i c p hc (by rw [hpc]; rfl), hpq]
          cases hatt.solo j i _ c hcall hc (Option.some.inj hid) rfl (by rw [hpc]; rfl)
          -- the call itself has received, so it does not wait any more
          rcases getElem?_set_cases hc' with ⟨-, rfl⟩ | ⟨hne, -⟩
          · cases hpc
          · exact absurd rfl hne
      · exact hch
  | _ => exact hch

/-- A call that is in progress was so before, or it is new and the only one for its id. -/
theorem CallsNext.unfinished {b b' : GRPCBroker} {a : Act} (h : CallsNext b b' a)
    (hover : b.NonOverlapping a) {i : Nat} {c : Call} (hc : b'.calls[i]? = some c)
    (hpc : c.pc.finished = false) :
    (∃ c₀, b.calls[i]? = some c₀ ∧ c₀.id = c.id ∧ c₀.pc.finished = false) ∨
      (i = b.calls.length ∧ ∀ d ∈ b.calls, d.id = c.id → d.pc.finished = true) := by
  rcases h.cases hc with hold | ⟨_, c₀, -, hold, hstep⟩ | ⟨hi, hnew⟩
  · exact Or.inl ⟨c, hold, rfl, hpc⟩
  · exact Or.inl ⟨c₀, hold, hstep.kind_id.2.symm, hstep.unfinished⟩
  · refine Or.inr ⟨hi, ?_⟩
    cases hnew <;> exact hover

theorem Attached.solo_next {b b' : GRPCBroker} {a : Act} (h : Attached b) (hnext : CallsNext b b' a)
    (hover : b.NonOverlapping a) (i j : Nat) (c d : Call) (hc : b'.calls[i]? = some c)
    (hd : b'.calls[j]? = some d) (hid : c.id = d.id) (hpc : c.pc.finished = false)
    (hpd : d.pc.finished = false) : i = j := by
  rcases hnext.unfinished hover hc hpc with ⟨c₀, hc₀, hidc, hpc₀⟩ | ⟨hi, honly⟩
  · rcases hnext.unfinished hover hd hpd with ⟨d₀, hd₀, hidd, hpd₀⟩ | ⟨-, honly⟩
    · exact h.solo i j c₀ d₀ hc₀ hd₀ (by rw [hidc, hidd, hid]) hpc₀ hpd₀
    · have hfin := honly c₀ (List.mem_of_getElem? hc₀) (hidc.trans hid)
      cases hfin.symm.trans hpc₀
  · rcases hnext.unfinished hover hd hpd with ⟨d₀, hd₀, hidd, hpd₀⟩ | ⟨hj, -⟩
    · have hfin := honly d₀ (List.mem_of_getElem? hd₀) (hidd.trans hid.symm)
      cases hfin.symm.trans hpd₀
    · rw [hi, hj]

theorem Attached.caller {b b' : GRPCBroker} {a : Act} (h : Attached b) (hkey : Keyed b)
    (hover : b.NonOverlapping a) (hafter : b.WaitsAfterCleanup a)
    (hmove : CallerMove b a b') : Attached b' := by
  refine attached_of_calls (h.solo_next hmove.callsNext hover) ?_
  intro i c p hc hpc hch
  rcases hmove.callsNext.cases hc with hold | ⟨x, c₀, rfl, hold, hstep⟩ | ⟨-, hnew⟩
  · refine (h.call hold hpc (hmove.ch_of_waiting hkey h hold hc hpc hch)).caller hmove hold hpc ?_
    intro j d hd hid hpd
    exact h.solo j i d c hd hold hid hpd (by rw [hpc]; rfl)
  · cases hstep with
    | @fetch kind id hstreams =>
        cases hpc
        rw [hstreams, ch_fetch] at hch
        obtain ⟨hwaits, hstray⟩ := hafter id (by simp [fetches, hold]) hch
        have hsame : b'.waits = b.waits := by cases hmove; rfl
        exact callAttached_of_clean hwaits hstray hstreams hmove.run_eq hsame
    | recv | used | acked | refused | expire | reap => cases hpc
  · cases hnew with
    | @dial id hstreams =>
        cases hpc
        rw [hstreams, ch_fetch] at hch
        obtain ⟨hwaits, hstray⟩ := hafter id rfl hch
        have hsame : b'.waits = b.waits := by cases hmove; rfl
        exact callAttached_of_clean hwaits hstray hstreams hmove.run_eq hsame
    | knock | knockFail => cases hpc

theorem Attached.move {b b' : GRPCBroker} {a : Act} (h : Attached b) (hkey : Keyed b)
    (hover : b.NonOverlapping a) (hafter : b.WaitsAfterCleanup a) (hmove : Move b a b') :
    Attached b' := by
  cases hmove with
  | run hmove => exact h.run hkey hmove
  | caller hmove => exact h.caller hkey hover hafter hmove
  | accepter hmove =>
      obtain ⟨hstreams, hrun, hcalls, hwaits, -⟩ := hmove.client_eq
      constructor
      · simpa only [hcalls] using h.solo
      · simpa only [hcalls, hstreams] using h.inTable
      · simpa only [hcalls, hstreams, hwaits] using h.unwatched
      · simpa only [hcalls, hstreams, hrun] using h.unstrayed

theorem attached_of_exec {as : List Act} {b : GRPCBroker}
    (hguard : Along step (fun b a => b.NonOverlapping a ∧ b.WaitsAfterCleanup a) init as)
    (hrun : exec step init as = some b) : Keyed b ∧ Attached b := by
  have hstep : ∀ s a s', Keyed s ∧ Attached s →
      s.NonOverlapping a ∧ s.WaitsAfterCleanup a → step s a = some s' →
      Keyed s' ∧ Attached s' := by
    rintro s a s' ⟨hkey, hatt⟩ ⟨hover, hafter⟩ hs
    obtain ⟨-, hmove⟩ := move_of_step hs
    exact ⟨hkey.move hmove, hatt.move hkey hover hafter hmove⟩
  exact exec_invariant hstep ⟨keyed_init, attached_init⟩ hguard hrun

/-- **A waiting call keeps its entry.**  In every run in which calls for an id do not
    overlap and a call that has to wait looks up its entry only after the cleanup for its
    id is over, the entry of a call that waits on an empty slot is the one in the table,
    and a message for its id goes into that slot. -/
theorem message_reaches_waiting_call {as : List Act} {b : GRPCBroker}
    (hguard : Along step (fun b a => b.NonOverlapping a ∧ b.WaitsAfterCleanup a) init as)
    (hrun : exec step init as = some b) {i p : Nat} {c : Call} (hcall : b.calls[i]? = some c)
    (hwait : c.pc = .waiting p) (hempty : b.clientStreams.ch p = none) :
    b.clientStreams.entry c.id = some p ∧
      ∀ m q, b.run = .offering m q → m.info.serverKnock = false → m.info.serviceId = c.id →
        q = p ∧ ∀ b', b.step (.run .offer) = some b' → b'.clientStreams.ch p = some m := by
  obtain ⟨hkey, hatt⟩ := attached_of_exec hguard hrun
  have hentry := hatt.inTable i c p hcall hwait hempty
  refine ⟨hentry, fun m q hoffer hrole hid => ?_⟩
  have hstray := hatt.unstrayed i c p hcall hwait hempty
  have hq : p = q := by simpa [hoffer, RunPc.strays, hrole, hid, hentry] using hstray
  subst hq
  refine ⟨rfl, fun b' hb' => ?_⟩
  have hlt := lt_length_of_keyOf (keyOf_of_entry hentry)
  unfold step at hb'
  split at hb'
  · cases hb'
  · simp only [runStep, hoffer, hrole, hempty] at hb'
    cases hb'
    simp [ch_put, hlt]

/-- The ack of a knock for id 7, from `Run` receiving it to the start of its `timeoutWait`. -/
def ackSeven (origin : Nat) : List Act :=
  [.run (.recv ⟨ackInfo 7 "", origin⟩), .run .lookup, .run .offer, .run .spawn]

/-- `knock(7)` is called again after the cleanup of the first call. -/
def knockAgain : List Act :=
  [.knock 7 true, .call 0 .fetch] ++ ackSeven 0 ++ [.call 0 .recv, .call 0 .finish,
    .wait 0 .expire, .wait 0 .clean, .knock 7 true, .call 1 .fetch,
    .run (.recv ⟨ackInfo 7 "", 1⟩), .run .lookup]

theorem message_reaches_waiting_call_knockAgain :
    ∃ b, exec step init knockAgain = some b ∧ b.run = .offering ⟨ackInfo 7 "", 1⟩ 1 ∧
      ∀ b', b.step (.run .offer) = some b' →
        b'.clientStreams.ch 1 = some ⟨ackInfo 7 "", 1⟩ :=
  ⟨_, rfl, rfl, ((@message_reaches_waiting_call knockAgain _ (by decide) rfl 1 1
    ⟨.knock, 7, .waiting 1⟩ rfl rfl rfl).2 ⟨ackInfo 7 "", 1⟩ 1 rfl rfl rfl).2⟩

/-- `knock(7)` is called again while the `timeoutWait` of the first call still sleeps, as
    it does for a whole `BrokerTimeout` after every successful knock.  The second call
    finds the old entry; the old goroutine removes it; the ack goes into a new one. -/
def detachRun : List Act :=
  [.knock 7 true, .call 0 .fetch] ++ ackSeven 0 ++ [.call 0 .recv, .call 0 .finish,
    .knock 7 true, .call 1 .fetch, .wait 0 .expire, .wait 0 .clean] ++ ackSeven 1

theorem old_timeoutWait_detaches_call :
    Along step NonOverlapping init detachRun ∧
    (exec step init detachRun).any fun b =>
      b.calls[1]? = some ⟨.knock, 7, .waiting 0⟩ ∧ b.clientStreams.ch 0 = none ∧
        b.clientStreams.entry 7 = some 1 ∧
        b.clientStreams.ch 1 = some ⟨ackInfo 7 "", 1⟩ := by
  decide

end GRPCBroker

end GoPlugin
