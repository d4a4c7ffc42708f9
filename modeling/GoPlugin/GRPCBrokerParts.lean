import GoPlugin.GRPCBrokerPending
import GoPlugin.PendingRestrict

/-!
# The part of a gRPC broker that concerns some of its keys

`Run` routes a knock to the server stream of its id and every other message to the client
stream, so an entry of the pending tables is named by a role and an id.  Every thread other
than `Run` works on one such key, and `Run` on one at a time.

`Part keep b bk` says that the broker `bk` is what `b` looks like to somebody who sees the keys
in `keep` only.  A step of `b` on one of these keys is the same step of `bk`, up to the numbers
of threads and entries, and a step on another key is none.
-/

namespace GoPlugin

/-! ### Keys -/

inductive StreamRole where
  | client | server
deriving DecidableEq, Repr

/-- The key of an entry: the table it is in, and its id there. -/
structure StreamKey where
  role : StreamRole
  id : UInt32
deriving DecidableEq, Repr

/-- Where `Run` puts the message. -/
def ConnInfo.streamKey (c : ConnInfo) : StreamKey :=
  ⟨if c.serverKnock then .server else .client, c.serviceId⟩

theorem ConnInfo.streamKey_of_knock {c : ConnInfo} (h : c.serverKnock = true) :
    c.streamKey = ⟨.server, c.serviceId⟩ := by
  simp [streamKey, h]

theorem ConnInfo.streamKey_of_other {c : ConnInfo} (h : c.serverKnock = false) :
    c.streamKey = ⟨.client, c.serviceId⟩ := by
  simp [streamKey, h]

namespace GRPCBroker

open Tally PendingTable SubTable LabelledSystem

/-- The key `Run` is working on. -/
def RunPc.key : RunPc → Option StreamKey
  | .routing m | .offering m _ => some m.info.streamKey
  | .spawning id _ => some ⟨.client, id⟩
  | .receiving | .stopped => none

/-- The key that a step concerns.  The end of `Run` concerns them all. -/
def concern (b : GRPCBroker) : Act → Option StreamKey
  | .run (.recv m) => some m.info.streamKey
  | .run .lookup | .run .offer | .run .spawn => b.run.key
  | .run .stop => none
  | .dial id | .knock id _ => some ⟨.client, id⟩
  | .call i _ => (b.calls[i]?).map fun c => ⟨.client, c.id⟩
  | .wait w _ => (b.waits[w]?).map fun w => ⟨.client, w.id⟩
  | .listen i _ => (b.listens[i]?).map fun l => ⟨.server, l.id⟩
  | .accept id => some ⟨.server, id⟩
  | .listener j _ => (b.listeners[j]?).map fun l => ⟨.server, l.id⟩

/-! ### The entries on the accepting side keep their id -/

/-- The entry of `serverStreams` that a `listenForKnocks` goroutine uses. -/
def ListenPc.entry : ListenPc → Option Nat
  | .selecting p | .knocking p _ | .acking p _ _ => some p
  | .starting | .returned => none

/-- Every server entry that a thread holds was made for the id the thread works on. -/
structure ServerKeyed (b : GRPCBroker) : Prop where
  offering : ∀ m p, b.run = .offering m p → m.info.serverKnock = true →
    b.serverStreams.keyOf p = some m.info.serviceId
  listens : ∀ (i : Nat) (l : Listen) p, b.listens[i]? = some l → l.pc.entry = some p →
    b.serverStreams.keyOf p = some l.id
  listeners : ∀ (j : Nat) (l : Listener), b.listeners[j]? = some l →
    b.serverStreams.keyOf l.p = some l.id

theorem serverKeyed_init : ServerKeyed init := by
  constructor <;> simp [init]

section ServerKeys

variable {b b' : GRPCBroker} {a : Act}

theorem Move.server_keyOf (h : Move b a b') {p : Nat} {k : UInt32}
    (hp : b.serverStreams.keyOf p = some k) : b'.serverStreams.keyOf p = some k := by
  cases h with
  | run h =>
      cases h with
      | lookupServer => exact keyOf_fetch _ hp
      | queueServer => exact (keyOf_put ..).trans hp
      | _ => exact hp
  | caller h => cases h <;> exact hp
  | accepter h =>
      cases h with
      | fetch | accept => exact keyOf_fetch _ hp
      | recv | recvBad => exact (keyOf_take ..).trans hp
      | close => exact (keyOf_closeDone ..).trans hp
      | _ => exact hp

/-- A goroutine takes its entry from the table for its own id, and keeps it. -/
theorem Move.listen_cases (h : Move b a b') {i : Nat} {l : Listen} {p : Nat}
    (hl : b'.listens[i]? = some l) (hp : l.pc.entry = some p) :
    (∃ l₀, b.listens[i]? = some l₀ ∧ l₀.id = l.id ∧ l₀.pc.entry = some p) ∨
      b'.serverStreams.keyOf p = some l.id := by
  cases h with
  | run h => cases h <;> exact Or.inl ⟨l, hl, rfl, hp⟩
  | caller h => cases h <;> exact Or.inl ⟨l, hl, rfl, hp⟩
  | accepter h =>
      cases h with
      | fetch hold =>
          rcases getElem?_set_cases hl with ⟨rfl, rfl⟩ | ⟨-, hl⟩
          · cases hp
            exact Or.inr (keyOf_slot _ _)
          · exact Or.inl ⟨l, hl, rfl, hp⟩
      | recv hold | knocked hold | ack hold =>
          rcases getElem?_set_cases hl with ⟨rfl, rfl⟩ | ⟨-, hl⟩
          · exact Or.inl ⟨_, hold, rfl, hp⟩
          · exact Or.inl ⟨l, hl, rfl, hp⟩
      | recvBad hold | ackFail hold | done hold =>
          rcases getElem?_set_cases hl with ⟨rfl, rfl⟩ | ⟨-, hl⟩
          · cases hp
          · exact Or.inl ⟨l, hl, rfl, hp⟩
      | spawn =>
          rcases getElem?_concat_cases hl with hl | ⟨-, rfl⟩
          · exact Or.inl ⟨l, hl, rfl, hp⟩
          · cases hp
      | accept | register | close | remove => exact Or.inl ⟨l, hl, rfl, hp⟩

theorem Move.listener_cases (h : Move b a b') {j : Nat} {l : Listener}
    (hl : b'.listeners[j]? = some l) :
    (∃ l₀, b.listeners[j]? = some l₀ ∧ l₀.id = l.id ∧ l₀.p = l.p) ∨
      b'.serverStreams.keyOf l.p = some l.id := by
  cases h with
  | run h => cases h <;> exact Or.inl ⟨l, hl, rfl, rfl⟩
  | caller h => cases h <;> exact Or.inl ⟨l, hl, rfl, rfl⟩
  | accepter h =>
      cases h with
      | spawn hold | register hold | close hold | remove hold =>
          rcases getElem?_set_cases hl with ⟨rfl, rfl⟩ | ⟨-, hl⟩
          · exact Or.inl ⟨_, hold, rfl, rfl⟩
          · exact Or.inl ⟨l, hl, rfl, rfl⟩
      | accept =>
          rcases getElem?_concat_cases hl with hl | ⟨-, rfl⟩
          · exact Or.inl ⟨l, hl, rfl, rfl⟩
          · exact Or.inr (keyOf_slot _ _)
      | fetch | recv | recvBad | knocked | ack | ackFail | done =>
          exact Or.inl ⟨l, hl, rfl, rfl⟩

theorem Move.server_offering (h : Move b a b') {m : Letter} {p : Nat}
    (hrun : b'.run = .offering m p) (hrole : m.info.serverKnock = true) :
    b.run = .offering m p ∨ b'.serverStreams.keyOf p = some m.info.serviceId := by
  cases h with
  | run h =>
      cases h with
      | lookupServer =>
          cases hrun
          exact Or.inr (keyOf_slot _ _)
      | lookupClient h hclient =>
          cases hrun
          rw [hrole] at hclient
          cases hclient
      | recv | queueServer | queueClient | dropServer | dropClient | spawn | stop => cases hrun
  | caller h =>
      rw [h.run_eq] at hrun
      exact Or.inl hrun
  | accepter h =>
      rw [h.client_eq.2.1] at hrun
      exact Or.inl hrun

theorem ServerKeyed.move (h : ServerKeyed b) (hmove : Move b a b') : ServerKeyed b' := by
  constructor
  · intro m p hrun hrole
    rcases hmove.server_offering hrun hrole with hold | hnew
    · exact hmove.server_keyOf (h.offering m p hold hrole)
    · exact hnew
  · intro i l p hl hp
    rcases hmove.listen_cases hl hp with ⟨l₀, hold, hid, hp₀⟩ | hnew
    · rw [← hid]
      exact hmove.server_keyOf (h.listens i l₀ p hold hp₀)
    · exact hnew
  · intro j l hl
    rcases hmove.listener_cases hl with ⟨l₀, hold, hid, hp⟩ | hnew
    · rw [← hid, ← hp]
      exact hmove.server_keyOf (h.listeners j l₀ hold)
    · exact hnew

end ServerKeys

/-! ### Entries under other numbers -/

def CallPc.relabel (f : Nat → Nat) : CallPc → CallPc
  | .fetching => .fetching
  | .waiting p => .waiting (f p)
  | .took p m => .took (f p) m
  | .expired p => .expired (f p)
  | .used p m => .used (f p) m
  | .acked p m => .acked (f p) m
  | .refused p e => .refused (f p) e
  | .timedOut => .timedOut
  | .sendFailed => .sendFailed

def Call.relabel (f : Nat → Nat) (c : Call) : Call := { c with pc := c.pc.relabel f }

def TimeoutWait.relabel (f : Nat → Nat) (w : TimeoutWait) : TimeoutWait := { w with p := f w.p }

def ListenPc.relabel (f : Nat → Nat) : ListenPc → ListenPc
  | .starting => .starting
  | .selecting p => .selecting (f p)
  | .knocking p m => .knocking (f p) m
  | .acking p m error => .acking (f p) m error
  | .returned => .returned

def Listen.relabel (f : Nat → Nat) (l : Listen) : Listen := { l with pc := l.pc.relabel f }

def Listener.relabel (f : Nat → Nat) (l : Listener) : Listener := { l with p := f l.p }

theorem CallPc.relabel_congr {f g : Nat → Nat} {pc : CallPc}
    (h : ∀ p, pc.entry = some p → f p = g p) : pc.relabel f = pc.relabel g := by
  cases pc <;> simp_all [CallPc.relabel, CallPc.entry]

theorem ListenPc.relabel_congr {f g : Nat → Nat} {pc : ListenPc}
    (h : ∀ p, pc.entry = some p → f p = g p) : pc.relabel f = pc.relabel g := by
  cases pc <;> simp_all [ListenPc.relabel, ListenPc.entry]

/-! ### The part of a broker -/

section Part

variable (keep : StreamKey → Bool)

def clients (id : UInt32) : Bool := keep ⟨.client, id⟩

def servers (id : UInt32) : Bool := keep ⟨.server, id⟩

variable {keep} in
theorem keep_of_knock {c : ConnInfo} (h : c.serverKnock = true) :
    keep c.streamKey = servers keep c.serviceId := by
  rw [ConnInfo.streamKey_of_knock h, servers]

variable {keep} in
theorem keep_of_other {c : ConnInfo} (h : c.serverKnock = false) :
    keep c.streamKey = clients keep c.serviceId := by
  rw [ConnInfo.streamKey_of_other h, clients]

/-- `Run`, for somebody who does not see that it works on a key outside `keep`. -/
def RunPc.only (client server : Nat → Nat) : RunPc → RunPc
  | .receiving => .receiving
  | .routing m => if keep m.info.streamKey then .routing m else .receiving
  | .offering m p =>
      if keep m.info.streamKey then
        .offering m (if m.info.serverKnock then server p else client p)
      else .receiving
  | .spawning id p => if clients keep id then .spawning id (client p) else .receiving
  | .stopped => .stopped

/-- The new numbers of the client entries. -/
def clientNumber (b : GRPCBroker) : Nat → Nat := b.clientStreams.renumber (clients keep)

/-- The new numbers of the server entries. -/
def serverNumber (b : GRPCBroker) : Nat → Nat := b.serverStreams.renumber (servers keep)

/-- The broker `bk` is the part of `b` that belongs to the keys in `keep`.  What has been sent
    is not compared, and neither is whether the process has crashed. -/
structure Part (b bk : GRPCBroker) : Prop where
  clientStreams : bk.clientStreams = b.clientStreams.restrict (clients keep)
  serverStreams : bk.serverStreams = b.serverStreams.restrict (servers keep)
  run : bk.run = b.run.only keep (b.clientNumber keep) (b.serverNumber keep)
  calls : bk.calls =
    pick (fun c => clients keep c.id) (Call.relabel (b.clientNumber keep)) b.calls
  waits : bk.waits =
    pick (fun w => clients keep w.id) (TimeoutWait.relabel (b.clientNumber keep)) b.waits
  listens : bk.listens =
    pick (fun l => servers keep l.id) (Listen.relabel (b.serverNumber keep)) b.listens
  listeners : bk.listeners =
    pick (fun l => servers keep l.id) (Listener.relabel (b.serverNumber keep)) b.listeners

/-- The action under the number that its thread has in the part. -/
def rename (b : GRPCBroker) : Act → Act
  | .call i a => .call (rank (fun c => clients keep c.id) b.calls i) a
  | .wait w a => .wait (rank (fun w => clients keep w.id) b.waits w) a
  | .listen i a => .listen (rank (fun l => servers keep l.id) b.listens i) a
  | .listener j a => .listener (rank (fun l => servers keep l.id) b.listeners j) a
  | a => a

/-- The action as the part sees it, if it concerns the part. -/
def view (b : GRPCBroker) (a : Act) : Option Act :=
  if (b.concern a).all keep then some (b.rename keep a) else none

end Part

theorem part_init (keep : StreamKey → Bool) : Part keep init init := by
  constructor <;> simp [init, RunPc.only, pick]

section Steps

variable {keep : StreamKey → Bool} {b bk b' : GRPCBroker} {a : Act}

theorem RunPc.only_congr {client client' server server' : Nat → Nat} {pc : RunPc}
    (hclient : ∀ m p, pc = .offering m p → m.info.serverKnock = false → client p = client' p)
    (hserver : ∀ m p, pc = .offering m p → m.info.serverKnock = true → server p = server' p)
    (hspawn : ∀ id p, pc = .spawning id p → client p = client' p) :
    pc.only keep client server = pc.only keep client' server' := by
  cases pc with
  | receiving | routing | stopped => rfl
  | offering m p =>
      cases hrole : m.info.serverKnock with
      | true => simp [RunPc.only, hrole, hserver m p rfl hrole]
      | false => simp [RunPc.only, hrole, hclient m p rfl hrole]
  | spawning id p => simp [RunPc.only, hspawn id p rfl]

theorem keep_of_call {i : Nat} {x : CallAct} {c : Call} (h : b.calls[i]? = some c) :
    (b.concern (.call i x)).all keep = clients keep c.id := by
  simp [concern, h, clients]

theorem keep_of_wait {w : Nat} {x : WaitAct} {t : TimeoutWait} (h : b.waits[w]? = some t) :
    (b.concern (.wait w x)).all keep = clients keep t.id := by
  simp [concern, h, clients]

theorem keep_of_listen {i : Nat} {x : ListenAct} {l : Listen} (h : b.listens[i]? = some l) :
    (b.concern (.listen i x)).all keep = servers keep l.id := by
  simp [concern, h, servers]

theorem keep_of_listener {j : Nat} {x : ListenerAct} {l : Listener}
    (h : b.listeners[j]? = some l) :
    (b.concern (.listener j x)).all keep = servers keep l.id := by
  simp [concern, h, servers]

/-- A change of the client entries that keeps the numbers of those in use does not show in the
    threads. -/
theorem Part.setClient (h : Part keep b bk) (hkey : Keyed b) {t t' : PendingTable UInt32 Letter}
    (ht : ∀ q k, b.clientStreams.keyOf q = some k →
      t.renumber (clients keep) q = b.clientNumber keep q)
    (ht' : t' = t.restrict (clients keep)) :
    Part keep { b with clientStreams := t } { bk with clientStreams := t' } where
  clientStreams := ht'
  serverStreams := h.serverStreams
  run := h.run.trans (RunPc.only_congr
    (fun m p hrun hrole => (ht p _ (hkey.offering m p hrun hrole)).symm) (fun _ _ _ _ => rfl)
    (fun id p hrun => (ht p _ (hkey.spawning id p hrun)).symm))
  calls := h.calls.trans (pick_congr fun c hc => by
    obtain ⟨i, hi⟩ := List.mem_iff_getElem?.mp hc
    exact congrArg _ (CallPc.relabel_congr fun p hp => (ht p _ (hkey.calls i c p hi hp)).symm))
  waits := h.waits.trans (pick_congr fun w hw => by
    obtain ⟨i, hi⟩ := List.mem_iff_getElem?.mp hw
    exact congrArg (fun p => { w with p := p }) (ht _ _ (hkey.waits i w hi)).symm)
  listens := h.listens
  listeners := h.listeners

theorem Part.setServer (h : Part keep b bk) (hkey : ServerKeyed b)
    {t t' : PendingTable UInt32 Letter}
    (ht : ∀ q k, b.serverStreams.keyOf q = some k →
      t.renumber (servers keep) q = b.serverNumber keep q)
    (ht' : t' = t.restrict (servers keep)) :
    Part keep { b with serverStreams := t } { bk with serverStreams := t' } where
  clientStreams := h.clientStreams
  serverStreams := ht'
  run := h.run.trans (RunPc.only_congr (fun _ _ _ _ => rfl)
    (fun m p hrun hrole => (ht p _ (hkey.offering m p hrun hrole)).symm) (fun _ _ _ => rfl))
  calls := h.calls
  waits := h.waits
  listens := h.listens.trans (pick_congr fun l hl => by
    obtain ⟨i, hi⟩ := List.mem_iff_getElem?.mp hl
    exact congrArg _
      (ListenPc.relabel_congr fun p hp => (ht p _ (hkey.listens i l p hi hp)).symm))
  listeners := h.listeners.trans (pick_congr fun l hl => by
    obtain ⟨j, hj⟩ := List.mem_iff_getElem?.mp hl
    exact congrArg (fun p => { l with p := p }) (ht _ _ (hkey.listeners j l hj)).symm)

/-! ### Steps outside the part -/

theorem Part.run_skip {a : RunAct} (h : Part keep b bk) (hkey : Keyed b)
    (hserver : ServerKeyed b) (hmove : RunMove b a b')
    (hk : (b.concern (.run a)).all keep = false) : Part keep b' bk := by
  cases hmove with
  | recv hrun =>
      have hnew : keep _ = false := hk
      exact { h with run := by simp [h.run, hrun, RunPc.only, hnew] }
  | @lookupServer m hrun hrole =>
      have hid : servers keep m.info.serviceId = false := by
        simpa [concern, hrun, RunPc.key, keep_of_knock hrole] using hk
      have h' := h.setServer hserver (t := b.serverStreams.fetch m.info.serviceId)
        (fun q k hq => renumber_fetch _ _ hq)
        (h.serverStreams.trans (restrict_fetch_of_neg hid).symm)
      exact { h' with run := by simp [h.run, hrun, RunPc.only, keep_of_knock hrole, hid] }
  | @lookupClient m hrun hrole =>
      have hid : clients keep m.info.serviceId = false := by
        simpa [concern, hrun, RunPc.key, keep_of_other hrole] using hk
      have h' := h.setClient hkey (t := b.clientStreams.fetch m.info.serviceId)
        (fun q k hq => renumber_fetch _ _ hq)
        (h.clientStreams.trans (restrict_fetch_of_neg hid).symm)
      exact { h' with run := by simp [h.run, hrun, RunPc.only, keep_of_other hrole, hid] }
  | @queueServer m p hrun hrole hch =>
      have hid : servers keep m.info.serviceId = false := by
        simpa [concern, hrun, RunPc.key, keep_of_knock hrole] using hk
      have h' := h.setServer hserver (t := b.serverStreams.put p m)
        (fun q k hq => congrFun (renumber_put ..) q)
        (h.serverStreams.trans (restrict_put_of_neg m (hserver.offering m p hrun hrole) hid).symm)
      exact { h' with run := by simp [h.run, hrun, RunPc.only, keep_of_knock hrole, hid] }
  | @queueClient m p hrun hrole hch =>
      have hid : clients keep m.info.serviceId = false := by
        simpa [concern, hrun, RunPc.key, keep_of_other hrole] using hk
      have h' := h.setClient hkey (t := b.clientStreams.put p m)
        (fun q k hq => congrFun (renumber_put ..) q)
        (h.clientStreams.trans (restrict_put_of_neg m (hkey.offering m p hrun hrole) hid).symm)
      exact { h' with run := by simp [h.run, hrun, RunPc.only, keep_of_other hrole, hid] }
  | @dropServer m p m' hrun | @dropClient m p m' hrun =>
      have hnew : keep m.info.streamKey = false := by simpa [concern, hrun, RunPc.key] using hk
      exact { h with run := by simp [h.run, hrun, RunPc.only, hnew] }
  | @spawn id p hrun =>
      have hid : clients keep id = false := by simpa [concern, hrun, RunPc.key, clients] using hk
      exact { h with
        run := by simp [h.run, hrun, RunPc.only, hid]
        waits := eq_pick_concat h.waits hid }
  | stop hrun => cases hk

theorem Part.caller_skip (h : Part keep b bk) (hkey : Keyed b) (hmove : CallerMove b a b')
    (hk : (b.concern a).all keep = false) : Part keep b' bk := by
  cases hmove with
  | @dial id =>
      have hid : clients keep id = false := hk
      have h' := h.setClient hkey (t := b.clientStreams.fetch id)
        (fun q k hq => renumber_fetch _ _ hq)
        (h.clientStreams.trans (restrict_fetch_of_neg hid).symm)
      exact { h' with calls := eq_pick_concat h'.calls hid }
  | @knock id | @knockFail id =>
      have hid : clients keep id = false := hk
      exact { h with calls := eq_pick_concat h.calls hid }
  | @fetch i kind id hcall =>
      have hid : clients keep id = false := (keep_of_call hcall).symm.trans hk
      have h' := h.setClient hkey (t := b.clientStreams.fetch id)
        (fun q k hq => renumber_fetch _ _ hq)
        (h.clientStreams.trans (restrict_fetch_of_neg hid).symm)
      exact { h' with calls := eq_pick_set h'.calls hcall hid hid }
  | @recv i kind id p m hcall hch =>
      have hid : clients keep id = false := (keep_of_call hcall).symm.trans hk
      have h' := h.setClient hkey (t := b.clientStreams.take p)
        (fun q k hq => congrFun (renumber_take ..) q)
        (h.clientStreams.trans (restrict_take_of_neg (hkey.calls i _ p hcall rfl) hid).symm)
      exact { h' with calls := eq_pick_set h'.calls hcall hid hid }
  | @closeDone i id p m hcall hopen =>
      have hid : clients keep id = false := (keep_of_call hcall).symm.trans hk
      have h' := h.setClient hkey (t := b.clientStreams.closeDone p)
        (fun q k hq => congrFun (renumber_closeDone ..) q)
        (h.clientStreams.trans (restrict_closeDone_of_neg (hkey.calls i _ p hcall rfl) hid).symm)
      exact { h' with calls := eq_pick_set h'.calls hcall hid hid }
  | doubleClose => exact { h with }
  | @acked i id p m hcall | @refused i id p m e hcall | @expire i kind id p hcall =>
      have hid : clients keep id = false := (keep_of_call hcall).symm.trans hk
      exact { h with calls := eq_pick_set h.calls hcall hid hid }
  | @reap i kind id p hcall =>
      have hid : clients keep id = false := (keep_of_call hcall).symm.trans hk
      have h' := h.setClient hkey (t := b.clientStreams.erase id)
        (fun _ _ _ => rfl) (h.clientStreams.trans (restrict_erase_of_neg hid).symm)
      exact { h' with calls := eq_pick_set h'.calls hcall hid hid }
  | @waitDone w id p hwait | @waitExpire w id p hwait =>
      have hid : clients keep id = false := (keep_of_wait hwait).symm.trans hk
      exact { h with waits := eq_pick_set h.waits hwait hid hid }
  | @clean w id p hwait =>
      have hid : clients keep id = false := (keep_of_wait hwait).symm.trans hk
      have h' := h.setClient hkey (t := b.clientStreams.erase id)
        (fun _ _ _ => rfl) (h.clientStreams.trans (restrict_erase_of_neg hid).symm)
      exact { h' with waits := eq_pick_set h'.waits hwait hid hid }

theorem Part.accepter_skip (h : Part keep b bk) (hkey : ServerKeyed b)
    (hmove : AccepterMove b a b') (hk : (b.concern a).all keep = false) : Part keep b' bk := by
  cases hmove with
  | @fetch i id hl =>
      have hid : servers keep id = false := (keep_of_listen hl).symm.trans hk
      have h' := h.setServer hkey (t := b.serverStreams.fetch id)
        (fun q k hq => renumber_fetch _ _ hq)
        (h.serverStreams.trans (restrict_fetch_of_neg hid).symm)
      exact { h' with listens := eq_pick_set h'.listens hl hid hid }
  | @recv i id p m hl | @recvBad i id p m hl =>
      have hid : servers keep id = false := (keep_of_listen hl).symm.trans hk
      have h' := h.setServer hkey (t := b.serverStreams.take p)
        (fun q k hq => congrFun (renumber_take ..) q)
        (h.serverStreams.trans (restrict_take_of_neg (hkey.listens i _ p hl rfl) hid).symm)
      exact { h' with listens := eq_pick_set h'.listens hl hid hid }
  | @knocked i id p m error hl | @ack i id p m error hl | @ackFail i id p m error hl
  | @done i id p hl =>
      have hid : servers keep id = false := (keep_of_listen hl).symm.trans hk
      exact { h with listens := eq_pick_set h.listens hl hid hid }
  | @accept id =>
      have hid : servers keep id = false := hk
      have h' := h.setServer hkey (t := b.serverStreams.fetch id)
        (fun q k hq => renumber_fetch _ _ hq)
        (h.serverStreams.trans (restrict_fetch_of_neg hid).symm)
      exact { h' with listeners := eq_pick_concat h'.listeners hid }
  | @spawn j id p hl =>
      have hid : servers keep id = false := (keep_of_listener hl).symm.trans hk
      exact { h with
        listeners := eq_pick_set h.listeners hl hid hid
        listens := eq_pick_concat h.listens hid }
  | @register j id p ok hl =>
      have hid : servers keep id = false := (keep_of_listener hl).symm.trans hk
      exact { h with listeners := eq_pick_set h.listeners hl hid hid }
  | @close j id p pc hl =>
      have hid : servers keep id = false := (keep_of_listener hl).symm.trans hk
      have h' := h.setServer hkey (t := b.serverStreams.closeDone p)
        (fun q k hq => congrFun (renumber_closeDone ..) q)
        (h.serverStreams.trans (restrict_closeDone_of_neg (hkey.listeners j _ hl) hid).symm)
      exact { h' with listeners := eq_pick_set h'.listeners hl hid hid }
  | @remove j id p hl =>
      have hid : servers keep id = false := (keep_of_listener hl).symm.trans hk
      have h' := h.setServer hkey (t := b.serverStreams.erase id)
        (fun _ _ _ => rfl) (h.serverStreams.trans (restrict_erase_of_neg hid).symm)
      exact { h' with listeners := eq_pick_set h'.listeners hl hid hid }

/-! ### Steps of the part -/

/-- The part can take the action, and is then the part of `b'`. -/
def Follows (keep : StreamKey → Bool) (bk : GRPCBroker) (a : Act) (b' : GRPCBroker) : Prop :=
  ∃ bk', bk.step a = some bk' ∧ Part keep b' bk' ∧ (bk'.panicked = true → b'.panicked = true)

theorem Follows.intro (bk' : GRPCBroker) (hstep : bk.step a = some bk') (h : Part keep b' bk')
    (hpan : bk'.panicked = false) : Follows keep bk a b' := by
  refine ⟨bk', hstep, h, ?_⟩
  intro hp
  rw [hpan] at hp
  cases hp

section Read

variable {i : Nat} {id : UInt32}

theorem Part.call (h : Part keep b bk) {c : Call} (hc : b.calls[i]? = some c)
    (hid : clients keep c.id = true) :
    bk.calls[rank (fun c => clients keep c.id) b.calls i]? =
      some (c.relabel (b.clientNumber keep)) := by
  rw [h.calls]
  exact getElem?_pick _ hc hid

theorem Part.wait (h : Part keep b bk) {w : TimeoutWait} (hw : b.waits[i]? = some w)
    (hid : clients keep w.id = true) :
    bk.waits[rank (fun w => clients keep w.id) b.waits i]? =
      some (w.relabel (b.clientNumber keep)) := by
  rw [h.waits]
  exact getElem?_pick _ hw hid

theorem Part.listen (h : Part keep b bk) {l : Listen} (hl : b.listens[i]? = some l)
    (hid : servers keep l.id = true) :
    bk.listens[rank (fun l => servers keep l.id) b.listens i]? =
      some (l.relabel (b.serverNumber keep)) := by
  rw [h.listens]
  exact getElem?_pick _ hl hid

theorem Part.listener (h : Part keep b bk) {l : Listener} (hl : b.listeners[i]? = some l)
    (hid : servers keep l.id = true) :
    bk.listeners[rank (fun l => servers keep l.id) b.listeners i]? =
      some (l.relabel (b.serverNumber keep)) := by
  rw [h.listeners]
  exact getElem?_pick _ hl hid

end Read

theorem Part.run_keep {a : RunAct} (h : Part keep b bk) (hkey : Keyed b)
    (hserver : ServerKeyed b) (hpan : bk.panicked = false) (hmove : RunMove b a b')
    (hk : (b.concern (.run a)).all keep = true) : Follows keep bk (.run a) b' := by
  cases hmove with
  | @recv m hrun =>
      have hnew : keep m.info.streamKey = true := hk
      have hbk : bk.run = .receiving := by rw [h.run, hrun, RunPc.only]
      refine .intro { bk with run := .routing m } ?_ ?_ hpan
      · simp [step, hpan, runStep, hbk]
      · exact { h with run := by simp [RunPc.only, hnew] }
  | @lookupServer m hrun hrole =>
      have hid : servers keep m.info.serviceId = true := by
        simpa [concern, hrun, RunPc.key, keep_of_knock hrole] using hk
      have hbk : bk.run = .routing m := by
        simp [h.run, hrun, RunPc.only, keep_of_knock hrole, hid]
      have h' := h.setServer hserver (t := b.serverStreams.fetch m.info.serviceId)
        (fun q k hq => renumber_fetch _ _ hq) (fetch_part h.serverStreams hid)
      refine .intro { bk with
        run := .offering m (bk.serverStreams.slot m.info.serviceId)
        serverStreams := bk.serverStreams.fetch m.info.serviceId } ?_ ?_ hpan
      · simp [step, hpan, runStep, hbk, hrole]
      · exact { h' with
          run := by
            simp [RunPc.only, keep_of_knock hrole, hid, hrole, slot_part h.serverStreams hid,
              serverNumber] }
  | @lookupClient m hrun hrole =>
      have hid : clients keep m.info.serviceId = true := by
        simpa [concern, hrun, RunPc.key, keep_of_other hrole] using hk
      have hbk : bk.run = .routing m := by
        simp [h.run, hrun, RunPc.only, keep_of_other hrole, hid]
      have h' := h.setClient hkey (t := b.clientStreams.fetch m.info.serviceId)
        (fun q k hq => renumber_fetch _ _ hq) (fetch_part h.clientStreams hid)
      refine .intro { bk with
        run := .offering m (bk.clientStreams.slot m.info.serviceId)
        clientStreams := bk.clientStreams.fetch m.info.serviceId } ?_ ?_ hpan
      · simp [step, hpan, runStep, hbk, hrole]
      · exact { h' with
          run := by
            simp [RunPc.only, keep_of_other hrole, hid, hrole, slot_part h.clientStreams hid,
              clientNumber] }
  | @queueServer m p hrun hrole hch =>
      have hid : servers keep m.info.serviceId = true := by
        simpa [concern, hrun, RunPc.key, keep_of_knock hrole] using hk
      have hp := hserver.offering m p hrun hrole
      have hbk : bk.run = .offering m (b.serverNumber keep p) := by
        simp [h.run, hrun, RunPc.only, keep_of_knock hrole, hid, hrole]
      have hempty : bk.serverStreams.ch (b.serverNumber keep p) = none :=
        (ch_part h.serverStreams hp hid).trans hch
      have h' := h.setServer hserver (t := b.serverStreams.put p m)
        (fun q k hq => congrFun (renumber_put ..) q) (put_part h.serverStreams m hp hid)
      refine .intro { bk with
        run := .receiving
        serverStreams := bk.serverStreams.put (b.serverNumber keep p) m } ?_ ?_ hpan
      · simp [step, hpan, runStep, hbk, hrole, hempty]
      · exact { h' with run := rfl }
  | @queueClient m p hrun hrole hch =>
      have hid : clients keep m.info.serviceId = true := by
        simpa [concern, hrun, RunPc.key, keep_of_other hrole] using hk
      have hp := hkey.offering m p hrun hrole
      have hbk : bk.run = .offering m (b.clientNumber keep p) := by
        simp [h.run, hrun, RunPc.only, keep_of_other hrole, hid, hrole]
      have hempty : bk.clientStreams.ch (b.clientNumber keep p) = none :=
        (ch_part h.clientStreams hp hid).trans hch
      have h' := h.setClient hkey (t := b.clientStreams.put p m)
        (fun q k hq => congrFun (renumber_put ..) q) (put_part h.clientStreams m hp hid)
      refine .intro { bk with
        run := .spawning m.info.serviceId (b.clientNumber keep p)
        clientStreams := bk.clientStreams.put (b.clientNumber keep p) m } ?_ ?_ hpan
      · simp [step, hpan, runStep, hbk, hrole, hempty]
      · exact { h' with run := by simp [RunPc.only, hid, clientNumber] }
  | @dropServer m p m' hrun hrole hch =>
      have hid : servers keep m.info.serviceId = true := by
        simpa [concern, hrun, RunPc.key, keep_of_knock hrole] using hk
      have hbk : bk.run = .offering m (b.serverNumber keep p) := by
        simp [h.run, hrun, RunPc.only, keep_of_knock hrole, hid, hrole]
      have hfull : bk.serverStreams.ch (b.serverNumber keep p) = some m' :=
        (ch_part h.serverStreams (hserver.offering m p hrun hrole) hid).trans hch
      refine .intro { bk with run := .receiving } ?_ ?_ hpan
      · simp [step, hpan, runStep, hbk, hrole, hfull]
      · exact { h with run := rfl }
  | @dropClient m p m' hrun hrole hch =>
      have hid : clients keep m.info.serviceId = true := by
        simpa [concern, hrun, RunPc.key, keep_of_other hrole] using hk
      have hbk : bk.run = .offering m (b.clientNumber keep p) := by
        simp [h.run, hrun, RunPc.only, keep_of_other hrole, hid, hrole]
      have hfull : bk.clientStreams.ch (b.clientNumber keep p) = some m' :=
        (ch_part h.clientStreams (hkey.offering m p hrun hrole) hid).trans hch
      refine .intro { bk with run := .receiving } ?_ ?_ hpan
      · simp [step, hpan, runStep, hbk, hrole, hfull]
      · exact { h with run := rfl }
  | @spawn id p hrun =>
      have hid : clients keep id = true := by simpa [concern, hrun, RunPc.key, clients] using hk
      have hbk : bk.run = .spawning id (b.clientNumber keep p) := by
        simp [h.run, hrun, RunPc.only, hid]
      refine .intro { bk with
        run := .receiving
        waits := bk.waits ++ [⟨id, b.clientNumber keep p, .waiting⟩] } ?_ ?_ hpan
      · simp [step, hpan, runStep, hbk]
      · exact { h with
          run := rfl
          waits := concat_eq_pick h.waits hid rfl }
  | stop hrun =>
      have hbk : bk.run = .receiving := by rw [h.run, hrun, RunPc.only]
      refine .intro { bk with run := .stopped } ?_ ?_ hpan
      · simp [step, hpan, runStep, hbk]
      · exact { h with run := rfl }

theorem Part.caller_keep (h : Part keep b bk) (hkey : Keyed b) (hpan : bk.panicked = false)
    (hmove : CallerMove b a b') (hk : (b.concern a).all keep = true) :
    Follows keep bk (b.rename keep a) b' := by
  cases hmove with
  | @dial id =>
      have hid : clients keep id = true := hk
      have h' := h.setClient hkey (t := b.clientStreams.fetch id)
        (fun q k hq => renumber_fetch _ _ hq) (fetch_part h.clientStreams hid)
      refine .intro { bk with
        calls := bk.calls ++ [⟨.dial, id, .waiting (bk.clientStreams.slot id)⟩]
        clientStreams := bk.clientStreams.fetch id } ?_ ?_ hpan
      · simp [rename, step, hpan]
      · rw [slot_part h.clientStreams hid]
        exact { h' with calls := concat_eq_pick h'.calls hid rfl }
  | @knock id =>
      have hid : clients keep id = true := hk
      refine .intro { bk with
        calls := bk.calls ++ [⟨.knock, id, .fetching⟩]
        out := bk.out ++ [⟨knockInfo id, bk.calls.length⟩] } ?_ ?_ hpan
      · simp [rename, step, hpan]
      · exact { h with calls := concat_eq_pick h.calls hid rfl }
  | @knockFail id =>
      have hid : clients keep id = true := hk
      refine .intro { bk with calls := bk.calls ++ [⟨.knock, id, .sendFailed⟩] } ?_ ?_ hpan
      · simp [rename, step, hpan]
      · exact { h with calls := concat_eq_pick h.calls hid rfl }
  | @fetch i kind id hcall =>
      have hid : clients keep id = true := (keep_of_call hcall).symm.trans hk
      have hcall' := h.call hcall hid
      have h' := h.setClient hkey (t := b.clientStreams.fetch id)
        (fun q k hq => renumber_fetch _ _ hq) (fetch_part h.clientStreams hid)
      refine .intro { bk with
        calls := bk.calls.set (rank (fun c => clients keep c.id) b.calls i)
          ⟨kind, id, .waiting (bk.clientStreams.slot id)⟩
        clientStreams := bk.clientStreams.fetch id } ?_ ?_ hpan
      · simp [rename, step, hpan, callStep, hcall', Call.relabel, CallPc.relabel]
      · rw [slot_part h.clientStreams hid]
        exact { h' with calls := set_eq_pick h'.calls hcall hid hid rfl }
  | @recv i kind id p m hcall hch =>
      have hid : clients keep id = true := (keep_of_call hcall).symm.trans hk
      have hcall' := h.call hcall hid
      have hp := hkey.calls i _ p hcall rfl
      have hch' : bk.clientStreams.ch (b.clientNumber keep p) = some m :=
        (ch_part h.clientStreams hp hid).trans hch
      have h' := h.setClient hkey (t := b.clientStreams.take p)
        (fun q k hq => congrFun (renumber_take ..) q) (take_part h.clientStreams hp hid)
      refine .intro { bk with
        calls := bk.calls.set (rank (fun c => clients keep c.id) b.calls i)
          ⟨kind, id, .took (b.clientNumber keep p) m⟩
        clientStreams := bk.clientStreams.take (b.clientNumber keep p) } ?_ ?_ hpan
      · simp [rename, step, hpan, callStep, hcall', hch', Call.relabel, CallPc.relabel]
      · exact { h' with
          calls := set_eq_pick h'.calls hcall hid hid
            (by simp [Call.relabel, CallPc.relabel, clientNumber]) }
  | @closeDone i id p m hcall hopen =>
      have hid : clients keep id = true := (keep_of_call hcall).symm.trans hk
      have hcall' := h.call hcall hid
      have hp := hkey.calls i _ p hcall rfl
      have hopen' : bk.clientStreams.closed (b.clientNumber keep p) = false :=
        (closed_part h.clientStreams hp hid).trans hopen
      have h' := h.setClient hkey (t := b.clientStreams.closeDone p)
        (fun q k hq => congrFun (renumber_closeDone ..) q) (closeDone_part h.clientStreams hp hid)
      refine .intro { bk with
        calls := bk.calls.set (rank (fun c => clients keep c.id) b.calls i)
          ⟨.dial, id, .used (b.clientNumber keep p) m⟩
        clientStreams := bk.clientStreams.closeDone (b.clientNumber keep p) } ?_ ?_ hpan
      · simp [rename, step, hpan, callStep, hcall', hopen', Call.relabel, CallPc.relabel]
      · exact { h' with
          calls := set_eq_pick h'.calls hcall hid hid
            (by simp [Call.relabel, CallPc.relabel, clientNumber]) }
  | @doubleClose i id p m hcall hclosed =>
      have hid : clients keep id = true := (keep_of_call hcall).symm.trans hk
      have hcall' := h.call hcall hid
      have hclosed' : bk.clientStreams.closed (b.clientNumber keep p) = true :=
        (closed_part h.clientStreams (hkey.calls i _ p hcall rfl) hid).trans hclosed
      refine ⟨{ bk with panicked := true }, ?_, { h with }, fun _ => rfl⟩
      simp [rename, step, hpan, callStep, hcall', hclosed', Call.relabel, CallPc.relabel]
  | @acked i id p m hcall hcheck =>
      have hid : clients keep id = true := (keep_of_call hcall).symm.trans hk
      have hcall' := h.call hcall hid
      refine .intro { bk with
        calls := bk.calls.set (rank (fun c => clients keep c.id) b.calls i)
          ⟨.knock, id, .acked (b.clientNumber keep p) m⟩ } ?_ ?_ hpan
      · simp [rename, step, hpan, callStep, hcall', hcheck, Call.relabel, CallPc.relabel]
      · exact { h with calls := set_eq_pick h.calls hcall hid hid rfl }
  | @refused i id p m e hcall hcheck =>
      have hid : clients keep id = true := (keep_of_call hcall).symm.trans hk
      have hcall' := h.call hcall hid
      refine .intro { bk with
        calls := bk.calls.set (rank (fun c => clients keep c.id) b.calls i)
          ⟨.knock, id, .refused (b.clientNumber keep p) e⟩ } ?_ ?_ hpan
      · simp [rename, step, hpan, callStep, hcall', hcheck, Call.relabel, CallPc.relabel]
      · exact { h with calls := set_eq_pick h.calls hcall hid hid rfl }
  | @expire i kind id p hcall =>
      have hid : clients keep id = true := (keep_of_call hcall).symm.trans hk
      have hcall' := h.call hcall hid
      refine .intro { bk with
        calls := bk.calls.set (rank (fun c => clients keep c.id) b.calls i)
          ⟨kind, id, .expired (b.clientNumber keep p)⟩ } ?_ ?_ hpan
      · simp [rename, step, hpan, callStep, hcall', Call.relabel, CallPc.relabel]
      · exact { h with calls := set_eq_pick h.calls hcall hid hid rfl }
  | @reap i kind id p hcall =>
      have hid : clients keep id = true := (keep_of_call hcall).symm.trans hk
      have hcall' := h.call hcall hid
      have h' := h.setClient hkey (t := b.clientStreams.erase id)
        (fun _ _ _ => rfl) (erase_part h.clientStreams hid)
      refine .intro { bk with
        calls := bk.calls.set (rank (fun c => clients keep c.id) b.calls i)
          ⟨kind, id, .timedOut⟩
        clientStreams := bk.clientStreams.erase id } ?_ ?_ hpan
      · simp [rename, step, hpan, callStep, hcall', Call.relabel, CallPc.relabel]
      · exact { h' with calls := set_eq_pick h'.calls hcall hid hid rfl }
  | @waitDone w id p hwait hclosed =>
      have hid : clients keep id = true := (keep_of_wait hwait).symm.trans hk
      have hwait' := h.wait hwait hid
      have hclosed' : bk.clientStreams.closed (b.clientNumber keep p) = true :=
        (closed_part h.clientStreams (hkey.waits w _ hwait) hid).trans hclosed
      refine .intro { bk with
        waits := bk.waits.set (rank (fun w => clients keep w.id) b.waits w)
          ⟨id, b.clientNumber keep p, .woken⟩ } ?_ ?_ hpan
      · simp [rename, step, hpan, timeoutWaitStep, hwait', hclosed', TimeoutWait.relabel]
      · exact { h with waits := set_eq_pick h.waits hwait hid hid rfl }
  | @waitExpire w id p hwait =>
      have hid : clients keep id = true := (keep_of_wait hwait).symm.trans hk
      have hwait' := h.wait hwait hid
      refine .intro { bk with
        waits := bk.waits.set (rank (fun w => clients keep w.id) b.waits w)
          ⟨id, b.clientNumber keep p, .woken⟩ } ?_ ?_ hpan
      · simp [rename, step, hpan, timeoutWaitStep, hwait', TimeoutWait.relabel]
      · exact { h with waits := set_eq_pick h.waits hwait hid hid rfl }
  | @clean w id p hwait =>
      have hid : clients keep id = true := (keep_of_wait hwait).symm.trans hk
      have hwait' := h.wait hwait hid
      have h' := h.setClient hkey (t := b.clientStreams.erase id)
        (fun _ _ _ => rfl) (erase_part h.clientStreams hid)
      refine .intro { bk with
        waits := bk.waits.set (rank (fun w => clients keep w.id) b.waits w)
          ⟨id, b.clientNumber keep p, .finished⟩
        clientStreams := bk.clientStreams.erase id } ?_ ?_ hpan
      · simp [rename, step, hpan, timeoutWaitStep, hwait', TimeoutWait.relabel]
      · exact { h' with waits := set_eq_pick h'.waits hwait hid hid rfl }

theorem Part.accepter_keep (h : Part keep b bk) (hkey : ServerKeyed b)
    (hpan : bk.panicked = false) (hmove : AccepterMove b a b')
    (hk : (b.concern a).all keep = true) : Follows keep bk (b.rename keep a) b' := by
  cases hmove with
  | @fetch i id hl =>
      have hid : servers keep id = true := (keep_of_listen hl).symm.trans hk
      have hl' := h.listen hl hid
      have h' := h.setServer hkey (t := b.serverStreams.fetch id)
        (fun q k hq => renumber_fetch _ _ hq) (fetch_part h.serverStreams hid)
      refine .intro { bk with
        listens := bk.listens.set (rank (fun l => servers keep l.id) b.listens i)
          ⟨id, .selecting (bk.serverStreams.slot id)⟩
        serverStreams := bk.serverStreams.fetch id } ?_ ?_ hpan
      · simp [rename, step, hpan, listenStep, hl', Listen.relabel, ListenPc.relabel]
      · rw [slot_part h.serverStreams hid]
        exact { h' with listens := set_eq_pick h'.listens hl hid hid rfl }
  | @recv i id p m hl hch hcheck =>
      have hid : servers keep id = true := (keep_of_listen hl).symm.trans hk
      have hl' := h.listen hl hid
      have hp := hkey.listens i _ p hl rfl
      have hch' : bk.serverStreams.ch (b.serverNumber keep p) = some m :=
        (ch_part h.serverStreams hp hid).trans hch
      have h' := h.setServer hkey (t := b.serverStreams.take p)
        (fun q k hq => congrFun (renumber_take ..) q) (take_part h.serverStreams hp hid)
      refine .intro { bk with
        listens := bk.listens.set (rank (fun l => servers keep l.id) b.listens i)
          ⟨id, .knocking (b.serverNumber keep p) m⟩
        serverStreams := bk.serverStreams.take (b.serverNumber keep p) } ?_ ?_ hpan
      · simp [rename, step, hpan, listenStep, hl', hch', hcheck, Listen.relabel, ListenPc.relabel]
      · exact { h' with
          listens := set_eq_pick h'.listens hl hid hid
            (by simp [Listen.relabel, ListenPc.relabel, serverNumber]) }
  | @recvBad i id p m hl hch hcheck =>
      have hid : servers keep id = true := (keep_of_listen hl).symm.trans hk
      have hl' := h.listen hl hid
      have hp := hkey.listens i _ p hl rfl
      have hch' : bk.serverStreams.ch (b.serverNumber keep p) = some m :=
        (ch_part h.serverStreams hp hid).trans hch
      have h' := h.setServer hkey (t := b.serverStreams.take p)
        (fun q k hq => congrFun (renumber_take ..) q) (take_part h.serverStreams hp hid)
      refine .intro { bk with
        listens := bk.listens.set (rank (fun l => servers keep l.id) b.listens i) ⟨id, .returned⟩
        serverStreams := bk.serverStreams.take (b.serverNumber keep p) } ?_ ?_ hpan
      · simp [rename, step, hpan, listenStep, hl', hch', hcheck, Listen.relabel, ListenPc.relabel]
      · exact { h' with listens := set_eq_pick h'.listens hl hid hid rfl }
  | @knocked i id p m error hl =>
      have hid : servers keep id = true := (keep_of_listen hl).symm.trans hk
      have hl' := h.listen hl hid
      refine .intro { bk with
        listens := bk.listens.set (rank (fun l => servers keep l.id) b.listens i)
          ⟨id, .acking (b.serverNumber keep p) m error⟩ } ?_ ?_ hpan
      · simp [rename, step, hpan, listenStep, hl', Listen.relabel, ListenPc.relabel]
      · exact { h with listens := set_eq_pick h.listens hl hid hid rfl }
  | @ack i id p m error hl =>
      have hid : servers keep id = true := (keep_of_listen hl).symm.trans hk
      have hl' := h.listen hl hid
      refine .intro { bk with
        listens := bk.listens.set (rank (fun l => servers keep l.id) b.listens i)
          ⟨id, .selecting (b.serverNumber keep p)⟩
        out := bk.out ++ [⟨ackInfo id error, m.origin⟩] } ?_ ?_ hpan
      · simp [rename, step, hpan, listenStep, hl', Listen.relabel, ListenPc.relabel]
      · exact { h with listens := set_eq_pick h.listens hl hid hid rfl }
  | @ackFail i id p m error hl =>
      have hid : servers keep id = true := (keep_of_listen hl).symm.trans hk
      have hl' := h.listen hl hid
      refine .intro { bk with
        listens := bk.listens.set (rank (fun l => servers keep l.id) b.listens i)
          ⟨id, .returned⟩ } ?_ ?_ hpan
      · simp [rename, step, hpan, listenStep, hl', Listen.relabel, ListenPc.relabel]
      · exact { h with listens := set_eq_pick h.listens hl hid hid rfl }
  | @done i id p hl hclosed =>
      have hid : servers keep id = true := (keep_of_listen hl).symm.trans hk
      have hl' := h.listen hl hid
      have hclosed' : bk.serverStreams.closed (b.serverNumber keep p) = true :=
        (closed_part h.serverStreams (hkey.listens i _ p hl rfl) hid).trans hclosed
      refine .intro { bk with
        listens := bk.listens.set (rank (fun l => servers keep l.id) b.listens i)
          ⟨id, .returned⟩ } ?_ ?_ hpan
      · simp [rename, step, hpan, listenStep, hl', hclosed', Listen.relabel, ListenPc.relabel]
      · exact { h with listens := set_eq_pick h.listens hl hid hid rfl }
  | @accept id =>
      have hid : servers keep id = true := hk
      have h' := h.setServer hkey (t := b.serverStreams.fetch id)
        (fun q k hq => renumber_fetch _ _ hq) (fetch_part h.serverStreams hid)
      refine .intro { bk with
        listeners := bk.listeners ++ [⟨id, bk.serverStreams.slot id, .fetched⟩]
        serverStreams := bk.serverStreams.fetch id } ?_ ?_ hpan
      · simp [rename, step, hpan]
      · rw [slot_part h.serverStreams hid]
        exact { h' with listeners := concat_eq_pick h'.listeners hid rfl }
  | @spawn j id p hl =>
      have hid : servers keep id = true := (keep_of_listener hl).symm.trans hk
      have hl' := h.listener hl hid
      refine .intro { bk with
        listeners := bk.listeners.set (rank (fun l => servers keep l.id) b.listeners j)
          ⟨id, b.serverNumber keep p, .spawned⟩
        listens := bk.listens ++ [⟨id, .starting⟩] } ?_ ?_ hpan
      · simp [rename, step, hpan, listenerStep, hl', Listener.relabel]
      · exact { h with
          listeners := set_eq_pick h.listeners hl hid hid rfl
          listens := concat_eq_pick h.listens hid rfl }
  | @register j id p ok hl =>
      have hid : servers keep id = true := (keep_of_listener hl).symm.trans hk
      have hl' := h.listener hl hid
      refine .intro { bk with
        listeners := bk.listeners.set (rank (fun l => servers keep l.id) b.listeners j)
          ⟨id, b.serverNumber keep p, if ok then .serving else .failed⟩ } ?_ ?_ hpan
      · simp [rename, step, hpan, listenerStep, hl', Listener.relabel]
      · exact { h with listeners := set_eq_pick h.listeners hl hid hid rfl }
  | @close j id p pc hl hpc =>
      have hid : servers keep id = true := (keep_of_listener hl).symm.trans hk
      have hl' := h.listener hl hid
      have hp := hkey.listeners j _ hl
      have h' := h.setServer hkey (t := b.serverStreams.closeDone p)
        (fun q k hq => congrFun (renumber_closeDone ..) q) (closeDone_part h.serverStreams hp hid)
      refine .intro { bk with
        listeners := bk.listeners.set (rank (fun l => servers keep l.id) b.listeners j)
          ⟨id, b.serverNumber keep p, .closing⟩
        serverStreams := bk.serverStreams.closeDone (b.serverNumber keep p) } ?_ ?_ hpan
      · rcases hpc with rfl | rfl <;>
          simp [rename, step, hpan, listenerStep, hl', Listener.relabel]
      · exact { h' with
          listeners := set_eq_pick h'.listeners hl hid hid
            (by simp [Listener.relabel, serverNumber]) }
  | @remove j id p hl =>
      have hid : servers keep id = true := (keep_of_listener hl).symm.trans hk
      have hl' := h.listener hl hid
      have h' := h.setServer hkey (t := b.serverStreams.erase id)
        (fun _ _ _ => rfl) (erase_part h.serverStreams hid)
      refine .intro { bk with
        listeners := bk.listeners.set (rank (fun l => servers keep l.id) b.listeners j)
          ⟨id, b.serverNumber keep p, .closed⟩
        serverStreams := bk.serverStreams.erase id } ?_ ?_ hpan
      · simp [rename, step, hpan, listenerStep, hl', Listener.relabel]
      · exact { h' with listeners := set_eq_pick h'.listeners hl hid hid rfl }

/-- A step that concerns the part is one of the part. -/
theorem Part.move_keep (h : Part keep b bk) (hkey : Keyed b) (hserver : ServerKeyed b)
    (hpan : bk.panicked = false) (hmove : Move b a b') (hk : (b.concern a).all keep = true) :
    Follows keep bk (b.rename keep a) b' := by
  cases hmove with
  | run hmove => exact h.run_keep hkey hserver hpan hmove hk
  | caller hmove => exact h.caller_keep hkey hpan hmove hk
  | accepter hmove => exact h.accepter_keep hserver hpan hmove hk

/-- A step that does not concern the part leaves it alone. -/
theorem Part.move_skip (h : Part keep b bk) (hkey : Keyed b) (hserver : ServerKeyed b)
    (hmove : Move b a b') (hk : (b.concern a).all keep = false) : Part keep b' bk := by
  cases hmove with
  | run hmove => exact h.run_skip hkey hserver hmove hk
  | caller hmove => exact h.caller_skip hkey hmove hk
  | accepter hmove => exact h.accepter_skip hserver hmove hk

end Steps

end GRPCBroker

end GoPlugin
