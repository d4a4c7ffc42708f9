import GoPlugin.GRPCBrokerParts

/-!
# The gRPC broker as a product of brokers for single keys

The part of a broker that belongs to one key runs on its own: the steps of a run that concern
the key are a run of a broker that sees no other key, and it ends with the same entry and the
same queued message.  What a slot does can therefore be read off runs on a single key.  While
nobody receives from the slot, no timer fires and no listener is closed, the slot fills with
the first message, the later ones are dropped, and there is one `timeoutWait` if the key is a
client key.
-/

namespace GoPlugin

namespace GRPCBroker

open Tally PendingTable SubTable LabelledSystem

/-! ### What concerns one key -/

/-- The table that the entries of a role are in. -/
def table (b : GRPCBroker) : StreamRole → PendingTable UInt32 Letter
  | .client => b.clientStreams
  | .server => b.serverStreams

/-- The entry of the key, if there is one, and the message queued in it. -/
def content (b : GRPCBroker) (k : StreamKey) : Option (Option Letter) :=
  ((b.table k.role).entry k.id).map (b.table k.role).ch

/-- The messages queued for the key, in the entry or in cells that the table has forgotten. -/
def buffered (b : GRPCBroker) (k : StreamKey) : List Letter :=
  ((b.table k.role).cells.filter fun c => c.key = k.id).filterMap Pending.ch

/-- The `timeoutWait` goroutines for the key. -/
def watchers (b : GRPCBroker) (k : StreamKey) : List TimeoutWait :=
  b.waits.filter fun w => (⟨.client, w.id⟩ : StreamKey) = k

/-- The message that `Run` receives. -/
def Act.received : Act → Option Letter
  | .run (.recv m) => some m
  | _ => none

/-- The messages for the key that `Run` receives. -/
def received (k : StreamKey) (as : List Act) : List Letter :=
  as.filterMap fun a => a.received.filter fun m => m.info.streamKey = k

/-- What happens in a broker that only ever sees the key. -/
def Act.sees (k : StreamKey) : Act → Bool
  | .run (.recv m) => m.info.streamKey = k
  | .dial id | .knock id _ => (⟨.client, id⟩ : StreamKey) = k
  | .accept id => (⟨.server, id⟩ : StreamKey) = k
  | .run _ | .call _ _ | .wait _ _ | .listen _ _ | .listener _ _ => true

/-- Somebody receives from a slot, a timer fires or a listener is closed. -/
def Act.disturbs : Act → Bool
  | .call _ .recv | .call _ .expire | .wait _ .expire | .listen _ .recv | .listener _ .close =>
      true
  | _ => false

/-- The steps of the run that concern the key, under the numbers that the threads have among
    those of the key. -/
def subrunOf (k : StreamKey) (as : List Act) : List Act :=
  subrun step (view fun k' => k' = k) init as

/-! ### The sub-run -/

/-- A run and the run of a part go together. -/
structure Tracks (keep : StreamKey → Bool) (b bk : GRPCBroker) : Prop where
  part : Part keep b bk
  keyed : Keyed b
  serverKeyed : ServerKeyed b
  panicked : bk.panicked = true → b.panicked = true

theorem Tracks.keep {keep : StreamKey → Bool} {b bk b' : GRPCBroker} {a a' : Act}
    (h : Tracks keep b bk) (hstep : b.step a = some b') (hview : b.view keep a = some a') :
    ∃ bk', bk.step a' = some bk' ∧ Tracks keep b' bk' := by
  obtain ⟨hpan, hmove⟩ := move_of_step hstep
  have hlive : bk.panicked = false := by
    rw [Bool.eq_false_iff]
    intro hp
    rw [h.panicked hp] at hpan
    cases hpan
  unfold view at hview
  split at hview
  · next hk =>
      cases hview
      obtain ⟨bk', hbk, hpart, hp⟩ := h.part.move_keep h.keyed h.serverKeyed hlive hmove hk
      exact ⟨bk', hbk, hpart, h.keyed.move hmove, h.serverKeyed.move hmove, hp⟩
  · cases hview

theorem Tracks.skip {keep : StreamKey → Bool} {b bk b' : GRPCBroker} {a : Act}
    (h : Tracks keep b bk) (hstep : b.step a = some b') (hview : b.view keep a = none) :
    Tracks keep b' bk := by
  obtain ⟨hpan, hmove⟩ := move_of_step hstep
  unfold view at hview
  split at hview
  · cases hview
  · next hk =>
      have hpart := h.part.move_skip h.keyed h.serverKeyed hmove (Bool.eq_false_iff.mpr hk)
      refine ⟨hpart, h.keyed.move hmove, h.serverKeyed.move hmove, ?_⟩
      intro hp
      rw [h.panicked hp] at hpan
      cases hpan

/-- The steps that concern some keys are a run of the part of the broker for these keys. -/
theorem exec_part (keep : StreamKey → Bool) {as : List Act} {b : GRPCBroker}
    (hrun : exec step init as = some b) :
    ∃ bk, exec step init (subrun step (view keep) init as) = some bk ∧ Part keep b bk := by
  have hinit : Tracks keep init init :=
    ⟨part_init keep, keyed_init, serverKeyed_init, id⟩
  obtain ⟨bk, hbk, h⟩ := exec_subrun (R := Tracks keep)
    (fun b a b' bk a' h hstep hview => h.keep hstep hview)
    (fun b a b' bk h hstep hview => h.skip hstep hview) hinit hrun
  exact ⟨bk, hbk, h.part⟩

theorem sees_of_view {k : StreamKey} {b : GRPCBroker} {a a' : Act}
    (h : b.view (fun k' => k' = k) a = some a') : a'.sees k = true := by
  unfold view at h
  split at h
  · next hk =>
      cases h
      cases a with
      | run a => cases a <;> simp_all [rename, concern, Act.sees]
      | dial id | knock id ok | accept id => simp_all [rename, concern, Act.sees]
      | call | wait | listen | listener => rfl
  · cases h

theorem received_subrunOf (k : StreamKey) {as : List Act} {b : GRPCBroker}
    (hrun : exec step init as = some b) :
    (subrunOf k as).filterMap Act.received = received k as := by
  refine filterMap_subrun (fun b a => ?_) hrun
  unfold view
  cases a with
  | run a =>
      cases a with
      | recv m =>
          by_cases hm : m.info.streamKey = k <;>
            simp [concern, rename, Act.received, Option.filter, hm]
      | lookup | offer | spawn | stop => split <;> rfl
  | dial | knock | call | wait | listen | accept | listener => split <;> rfl

/-! ### The part for one key -/

section OneKey

variable {k : StreamKey} {b bk : GRPCBroker}

theorem Part.table_eq {keep : StreamKey → Bool} (h : Part keep b bk) (role : StreamRole) :
    bk.table role = (b.table role).restrict fun id => keep ⟨role, id⟩ := by
  cases role with
  | client => exact h.clientStreams
  | server => exact h.serverStreams

theorem Part.content_eq (h : Part (fun k' => k' = k) b bk) : bk.content k = b.content k := by
  rw [content, content, h.table_eq]
  exact content_restrict (by simp)

theorem Part.buffered_eq (h : Part (fun k' => k' = k) b bk) :
    b.buffered k = (bk.table k.role).cells.filterMap Pending.ch := by
  have hkey : ∀ id, (⟨k.role, id⟩ : StreamKey) = k ↔ id = k.id := by
    intro id
    constructor
    · intro hid
      rw [← hid]
    · intro hid
      rw [hid]
  rw [h.table_eq, cells_restrict, buffered]
  simp only [hkey]

theorem Part.length_watchers (h : Part (fun k' => k' = k) b bk) :
    (b.watchers k).length = bk.waits.length := by
  rw [h.waits, pick, List.length_map]
  rfl

/-- If the broker is not working on the key, then neither is the part for it. -/
theorem Part.run_idle (h : Part (fun k' => k' = k) b bk) (hrun : b.run.key ≠ some k) :
    bk.run.key = none := by
  rw [h.run]
  cases hpc : b.run with
  | receiving | stopped => rfl
  | routing m | offering m p =>
      have hm : m.info.streamKey ≠ k := by simpa [hpc, RunPc.key] using hrun
      simp [RunPc.only, RunPc.key, hm]
  | spawning id p =>
      have hid : (⟨.client, id⟩ : StreamKey) ≠ k := by simpa [hpc, RunPc.key] using hrun
      simp [RunPc.only, RunPc.key, clients, hid]

end OneKey

/-! ### A slot that nobody reads -/

def CallPc.patient : CallPc → Bool
  | .fetching | .waiting _ | .sendFailed => true
  | .took _ _ | .expired _ | .used _ _ | .acked _ _ | .refused _ _ | .timedOut => false

def ListenPc.patient : ListenPc → Bool
  | .starting | .selecting _ => true
  | .knocking _ _ | .acking _ _ _ | .returned => false

def ListenerPc.patient : ListenerPc → Bool
  | .fetched | .spawned | .serving | .failed => true
  | .closing | .closed => false

/-- The `timeoutWait` goroutines of a broker for one key, once its slot is full. -/
def watch (k : StreamKey) : List TimeoutWait :=
  match k.role with
  | .client => [⟨k.id, 0, .waiting⟩]
  | .server => []

/-- `Run` has no message, or one for `k` that it cannot queue. -/
def RunPc.Later (k : StreamKey) : RunPc → Prop
  | .receiving | .stopped => True
  | .routing m => m.info.streamKey = k
  | .offering m p => m.info.streamKey = k ∧ p = 0
  | .spawning _ _ => False

/-- How far a broker for one key has come with the messages `ms` it has received, if its slot
    has the given content and these are its `timeoutWait` goroutines. -/
inductive Stage (k : StreamKey) :
    List Letter → Option (Option Letter) → RunPc → List TimeoutWait → Prop where
  | idle {content run} (hempty : content.join = none)
      (hrun : run = .receiving ∨ run = .stopped) : Stage k [] content run []
  | routing {content m} (hempty : content.join = none) (hm : m.info.streamKey = k) :
      Stage k [m] content (.routing m) []
  | offering {m} (hm : m.info.streamKey = k) : Stage k [m] (some none) (.offering m 0) []
  | spawning {m} (hk : k.role = .client) :
      Stage k [m] (some (some m)) (.spawning k.id 0) []
  | full {m later run} (hrun : run.Later k) :
      Stage k (m :: later) (some (some m)) run (watch k)

section Stages

variable {k : StreamKey} {ms : List Letter} {content : Option (Option Letter)} {run : RunPc}
  {waits : List TimeoutWait} {m : Letter} {p : Nat}

/-- A lookup makes the entry and changes nothing else. -/
theorem Stage.fetch (h : Stage k ms content run waits) :
    Stage k ms (some content.join) run waits := by
  cases h with
  | idle hempty hrun =>
      rw [hempty]
      exact .idle rfl hrun
  | routing hempty hm =>
      rw [hempty]
      exact .routing rfl hm
  | offering hm => exact .offering hm
  | spawning hk => exact .spawning hk
  | full hrun => exact .full hrun

theorem Stage.recv (h : Stage k ms content .receiving waits) (hm : m.info.streamKey = k) :
    Stage k (ms ++ [m]) content (.routing m) waits := by
  cases h with
  | idle hempty hrun => exact .routing hempty hm
  | full hrun => exact .full hm

theorem Stage.lookup (h : Stage k ms content (.routing m) waits) :
    Stage k ms (some content.join) (.offering m 0) waits := by
  cases h with
  | idle hempty hrun => rcases hrun with hrun | hrun <;> cases hrun
  | routing hempty hm =>
      rw [hempty]
      exact .offering hm
  | full hrun => exact .full ⟨hrun, rfl⟩

theorem Stage.key_of_routing (h : Stage k ms content (.routing m) waits) :
    m.info.streamKey = k := by
  cases h with
  | idle hempty hrun => rcases hrun with hrun | hrun <;> cases hrun
  | routing hempty hm => exact hm
  | full hrun => exact hrun

theorem Stage.key_of_offering (h : Stage k ms content (.offering m p) waits) :
    m.info.streamKey = k ∧ p = 0 ∧ ∃ c, content = some c := by
  cases h with
  | idle hempty hrun => rcases hrun with hrun | hrun <;> cases hrun
  | offering hm => exact ⟨hm, rfl, _, rfl⟩
  | full hrun => exact ⟨hrun.1, hrun.2, _, rfl⟩

/-- The first message gets into the slot. -/
theorem Stage.queue (h : Stage k ms content (.offering m p) waits)
    (hempty : content.join = none) : ms = [m] ∧ waits = [] := by
  cases h with
  | idle hempty hrun => rcases hrun with hrun | hrun <;> cases hrun
  | offering hm => exact ⟨rfl, rfl⟩
  | full hrun => cases hempty

/-- A later one does not. -/
theorem Stage.drop (h : Stage k ms content (.offering m p) waits) {m' : Letter}
    (hfull : content.join = some m') : Stage k ms content .receiving waits := by
  cases h with
  | idle hempty hrun => rcases hrun with hrun | hrun <;> cases hrun
  | offering hm => cases hfull
  | full hrun => exact .full trivial

theorem Stage.spawn {id : UInt32} (h : Stage k ms content (.spawning id p) waits) :
    Stage k ms content .receiving (waits ++ [⟨id, p, .waiting⟩]) := by
  cases h with
  | idle hempty hrun => rcases hrun with hrun | hrun <;> cases hrun
  | spawning hk =>
      have hwatch : [] ++ [⟨k.id, 0, .waiting⟩] = watch k := by simp [watch, hk]
      rw [hwatch]
      exact .full trivial
  | full hrun => exact hrun.elim

theorem Stage.stop (h : Stage k ms content .receiving waits) :
    Stage k ms content .stopped waits := by
  cases h with
  | idle hempty hrun => exact .idle hempty (Or.inr rfl)
  | full hrun => exact .full trivial

/-- There is a `timeoutWait` for a client key only, and it waits. -/
theorem Stage.mem_waits (h : Stage k ms content run waits) {w : TimeoutWait} (hw : w ∈ waits) :
    k.role = .client ∧ w.pc = .waiting := by
  cases h with
  | idle | routing | offering | spawning => cases hw
  | full hrun =>
      unfold watch at hw
      split at hw
      · next hk =>
          rw [List.mem_singleton.mp hw]
          exact ⟨hk, rfl⟩
      · cases hw

end Stages

/-- A broker that has only seen `k`, in which no thread has got a message, given up or been
    told to stop, after `Run` has received `ms`. -/
structure Undisturbed (k : StreamKey) (ms : List Letter) (b : GRPCBroker) : Prop where
  slot : ∃ content, (b.table k.role).Lone k.id content ∧ Stage k ms content b.run b.waits
  calls : ∀ c ∈ b.calls, (⟨.client, c.id⟩ : StreamKey) = k ∧ c.pc.patient = true
  listens : ∀ l ∈ b.listens, (⟨.server, l.id⟩ : StreamKey) = k ∧ l.pc.patient = true
  listeners : ∀ l ∈ b.listeners, (⟨.server, l.id⟩ : StreamKey) = k ∧ l.pc.patient = true

theorem undisturbed_init (k : StreamKey) : Undisturbed k [] init := by
  refine ⟨⟨none, ?_, .idle rfl (Or.inl rfl)⟩, by simp [init], by simp [init], by simp [init]⟩
  rcases k with ⟨_ | _, id⟩ <;> exact ⟨rfl, rfl⟩

section Steps

variable {k : StreamKey} {ms : List Letter} {b b' : GRPCBroker} {a : Act}

theorem append_none (h : a.received = none) : ms ++ a.received.toList = ms := by
  rw [h, Option.toList_none, List.append_nil]

theorem Undisturbed.run {a : RunAct} (h : Undisturbed k ms b) (hmove : RunMove b a b')
    (hsees : (Act.run a).sees k = true) :
    Undisturbed k (ms ++ (Act.run a).received.toList) b' := by
  obtain ⟨⟨content, hlone, hstage⟩, hcalls, hlistens, hlisteners⟩ := h
  cases hmove with
  | recv hrun =>
      rw [hrun] at hstage
      have hstage' := hstage.recv (of_decide_eq_true hsees)
      exact ⟨⟨content, hlone, hstage'⟩, hcalls, hlistens, hlisteners⟩
  | @lookupServer m hrun hrole =>
      rw [hrun] at hstage
      obtain rfl := hstage.key_of_routing
      rw [ConnInfo.streamKey_of_knock hrole] at hlone hstage hcalls hlistens hlisteners ⊢
      rw [append_none rfl]
      have hstage' := hstage.lookup
      rw [← hlone.slot] at hstage'
      exact ⟨⟨_, hlone.fetch, hstage'⟩, hcalls, hlistens, hlisteners⟩
  | @lookupClient m hrun hrole =>
      rw [hrun] at hstage
      obtain rfl := hstage.key_of_routing
      rw [ConnInfo.streamKey_of_other hrole] at hlone hstage hcalls hlistens hlisteners ⊢
      rw [append_none rfl]
      have hstage' := hstage.lookup
      rw [← hlone.slot] at hstage'
      exact ⟨⟨_, hlone.fetch, hstage'⟩, hcalls, hlistens, hlisteners⟩
  | @queueServer m p hrun hrole hch =>
      rw [hrun] at hstage
      obtain ⟨rfl, rfl, c, rfl⟩ := hstage.key_of_offering
      rw [ConnInfo.streamKey_of_knock hrole] at hlone hstage hcalls hlistens hlisteners ⊢
      obtain ⟨rfl, hwaits⟩ := hstage.queue (hlone.ch_zero.symm.trans hch)
      refine ⟨⟨_, hlone.put m, ?_⟩, hcalls, hlistens, hlisteners⟩
      rw [hwaits]
      exact .full trivial
  | @queueClient m p hrun hrole hch =>
      rw [hrun] at hstage
      obtain ⟨rfl, rfl, c, rfl⟩ := hstage.key_of_offering
      rw [ConnInfo.streamKey_of_other hrole] at hlone hstage hcalls hlistens hlisteners ⊢
      obtain ⟨rfl, hwaits⟩ := hstage.queue (hlone.ch_zero.symm.trans hch)
      refine ⟨⟨_, hlone.put m, ?_⟩, hcalls, hlistens, hlisteners⟩
      rw [hwaits]
      exact .spawning rfl
  | @dropServer m p m' hrun hrole hch =>
      rw [hrun] at hstage
      obtain ⟨rfl, rfl, c, rfl⟩ := hstage.key_of_offering
      rw [ConnInfo.streamKey_of_knock hrole] at hlone hstage hcalls hlistens hlisteners ⊢
      rw [append_none rfl]
      have hstage' := hstage.drop (hlone.ch_zero.symm.trans hch)
      exact ⟨⟨_, hlone, hstage'⟩, hcalls, hlistens, hlisteners⟩
  | @dropClient m p m' hrun hrole hch =>
      rw [hrun] at hstage
      obtain ⟨rfl, rfl, c, rfl⟩ := hstage.key_of_offering
      rw [ConnInfo.streamKey_of_other hrole] at hlone hstage hcalls hlistens hlisteners ⊢
      rw [append_none rfl]
      have hstage' := hstage.drop (hlone.ch_zero.symm.trans hch)
      exact ⟨⟨_, hlone, hstage'⟩, hcalls, hlistens, hlisteners⟩
  | spawn hrun =>
      rw [hrun] at hstage
      rw [append_none rfl]
      exact ⟨⟨content, hlone, hstage.spawn⟩, hcalls, hlistens, hlisteners⟩
  | stop hrun =>
      rw [hrun] at hstage
      rw [append_none rfl]
      exact ⟨⟨content, hlone, hstage.stop⟩, hcalls, hlistens, hlisteners⟩

theorem Undisturbed.caller (h : Undisturbed k ms b) (hmove : CallerMove b a b')
    (hsees : a.sees k = true) (hcalm : a.disturbs = false) : Undisturbed k ms b' := by
  obtain ⟨⟨content, hlone, hstage⟩, hcalls, hlistens, hlisteners⟩ := h
  cases hmove with
  | dial =>
      obtain rfl := of_decide_eq_true hsees
      refine ⟨⟨_, hlone.fetch, hstage.fetch⟩, ?_, hlistens, hlisteners⟩
      intro c hc
      rcases List.mem_append.mp hc with hold | hnew
      · exact hcalls c hold
      · rw [List.mem_singleton.mp hnew]
        exact ⟨rfl, rfl⟩
  | knock | knockFail =>
      obtain rfl := of_decide_eq_true hsees
      refine ⟨⟨_, hlone, hstage⟩, ?_, hlistens, hlisteners⟩
      intro c hc
      rcases List.mem_append.mp hc with hold | hnew
      · exact hcalls c hold
      · rw [List.mem_singleton.mp hnew]
        exact ⟨rfl, rfl⟩
  | fetch hcall =>
      obtain ⟨rfl, -⟩ := hcalls _ (List.mem_of_getElem? hcall)
      refine ⟨⟨_, hlone.fetch, hstage.fetch⟩, ?_, hlistens, hlisteners⟩
      intro c hc
      rcases List.mem_or_eq_of_mem_set hc with hold | rfl
      · exact hcalls c hold
      · exact ⟨rfl, rfl⟩
  | recv | expire | waitExpire => cases hcalm
  | closeDone hcall | doubleClose hcall | acked hcall | refused hcall | reap hcall =>
      cases (hcalls _ (List.mem_of_getElem? hcall)).2
  | waitDone hwait hclosed =>
      obtain ⟨hrole, -⟩ := hstage.mem_waits (List.mem_of_getElem? hwait)
      rw [hrole] at hlone
      cases (hlone.closed _).symm.trans hclosed
  | clean hwait => cases (hstage.mem_waits (List.mem_of_getElem? hwait)).2

theorem Undisturbed.accepter (h : Undisturbed k ms b) (hmove : AccepterMove b a b')
    (hsees : a.sees k = true) (hcalm : a.disturbs = false) : Undisturbed k ms b' := by
  obtain ⟨⟨content, hlone, hstage⟩, hcalls, hlistens, hlisteners⟩ := h
  cases hmove with
  | fetch hl =>
      obtain ⟨rfl, -⟩ := hlistens _ (List.mem_of_getElem? hl)
      refine ⟨⟨_, hlone.fetch, hstage.fetch⟩, hcalls, ?_, hlisteners⟩
      intro l hl
      rcases List.mem_or_eq_of_mem_set hl with hold | rfl
      · exact hlistens l hold
      · exact ⟨rfl, rfl⟩
  | recv | recvBad | close => cases hcalm
  | knocked hl | ack hl | ackFail hl => cases (hlistens _ (List.mem_of_getElem? hl)).2
  | done hl hclosed =>
      obtain ⟨rfl, -⟩ := hlistens _ (List.mem_of_getElem? hl)
      cases (hlone.closed _).symm.trans hclosed
  | accept =>
      obtain rfl := of_decide_eq_true hsees
      refine ⟨⟨_, hlone.fetch, hstage.fetch⟩, hcalls, hlistens, ?_⟩
      intro l hl
      rcases List.mem_append.mp hl with hold | hnew
      · exact hlisteners l hold
      · rw [List.mem_singleton.mp hnew]
        exact ⟨rfl, rfl⟩
  | spawn hl =>
      have hkey := (hlisteners _ (List.mem_of_getElem? hl)).1
      refine ⟨⟨_, hlone, hstage⟩, hcalls, ?_, ?_⟩
      · intro l hl
        rcases List.mem_append.mp hl with hold | hnew
        · exact hlistens l hold
        · rw [List.mem_singleton.mp hnew]
          exact ⟨hkey, rfl⟩
      · intro l hl
        rcases List.mem_or_eq_of_mem_set hl with hold | rfl
        · exact hlisteners l hold
        · exact ⟨hkey, rfl⟩
  | @register j id p ok hl =>
      have hkey := (hlisteners _ (List.mem_of_getElem? hl)).1
      refine ⟨⟨_, hlone, hstage⟩, hcalls, hlistens, ?_⟩
      intro l hl
      rcases List.mem_or_eq_of_mem_set hl with hold | rfl
      · exact hlisteners l hold
      · cases ok <;> exact ⟨hkey, rfl⟩
  | remove hl => cases (hlisteners _ (List.mem_of_getElem? hl)).2

theorem Undisturbed.move (h : Undisturbed k ms b) (hmove : Move b a b')
    (hsees : a.sees k = true) (hcalm : a.disturbs = false) :
    Undisturbed k (ms ++ a.received.toList) b' := by
  cases hmove with
  | run hmove => exact h.run hmove hsees
  | caller hmove =>
      have hnone : a.received = none := by cases hmove <;> rfl
      rw [append_none hnone]
      exact h.caller hmove hsees hcalm
  | accepter hmove =>
      have hnone : a.received = none := by cases hmove <;> rfl
      rw [append_none hnone]
      exact h.accepter hmove hsees hcalm

theorem Undisturbed.exec {as : List Act} (h : Undisturbed k ms b)
    (hrun : exec step b as = some b') (hsees : ∀ a ∈ as, a.sees k = true)
    (hcalm : ∀ a ∈ as, a.disturbs = false) :
    Undisturbed k (ms ++ as.filterMap Act.received) b' := by
  induction as generalizing ms b with
  | nil =>
      cases hrun
      rw [List.filterMap_nil, List.append_nil]
      exact h
  | cons a as ih =>
      obtain ⟨b₁, hb₁, hrest⟩ := exec_cons_eq_some.mp hrun
      have h₁ := h.move (move_of_step hb₁).2 (hsees a List.mem_cons_self)
        (hcalm a List.mem_cons_self)
      have hend := ih h₁ hrest (fun a ha => hsees a (List.mem_cons_of_mem _ ha))
        (fun a ha => hcalm a (List.mem_cons_of_mem _ ha))
      have hms : (a :: as).filterMap Act.received =
          a.received.toList ++ as.filterMap Act.received := by
        cases ha : a.received <;> simp [ha]
      rw [hms, ← List.append_assoc]
      exact hend

end Steps

theorem length_watch (k : StreamKey) :
    (watch k).length = if k.role = .client then 1 else 0 := by
  unfold watch
  split <;> next hk => simp [hk]

/-- The slot of the key has the first of the messages that `Run` has received for it, unless
    `Run` is still busy with that one.  The later ones are in no slot.  With the first one goes
    a `timeoutWait` in the broker `bk` for the key, if it is a client key. -/
def KeepsFirst (k : StreamKey) (b bk : GRPCBroker) : List Letter → Prop
  | [] => b.buffered k = [] ∧ bk.waits.length = 0
  | m :: later => (later = [] → b.run.key ≠ some k) →
      b.content k = some (some m) ∧ b.buffered k = [m] ∧
        bk.waits.length = if k.role = .client then 1 else 0

/-- What an undisturbed broker for one key says about the broker it is a part of. -/
theorem Undisturbed.keepsFirst {k : StreamKey} {ms : List Letter} {b bk : GRPCBroker}
    (h : Undisturbed k ms bk) (hpart : Part (fun k' => k' = k) b bk) :
    KeepsFirst k b bk ms := by
  obtain ⟨⟨content, hlone, hstage⟩, -, -, -⟩ := h
  have hcontent : b.content k = content := hpart.content_eq.symm.trans hlone.entry
  have hbusy : bk.run.key = some k → b.run.key = some k := by
    intro hkey
    by_contra hidle
    rw [hpart.run_idle hidle] at hkey
    cases hkey
  generalize hrun : bk.run = run at hstage hbusy
  generalize hwaits : bk.waits = waits at hstage
  cases hstage with
  | idle hempty hrun =>
      refine ⟨?_, by rw [hwaits, List.length_nil]⟩
      rw [hpart.buffered_eq]
      rcases content with _ | _ | m
      · simp [hlone.1]
      · simp [hlone.1]
      · cases hempty
  -- Run still has the first message, or is about to start the `timeoutWait` for it
  | routing hempty hm =>
      intro hdone
      exact absurd (hbusy (congrArg some hm)) (hdone rfl)
  | offering hm =>
      intro hdone
      exact absurd (hbusy (congrArg some hm)) (hdone rfl)
  | spawning hk =>
      intro hdone
      have hkey : (⟨.client, k.id⟩ : StreamKey) = k := by rw [← hk]
      exact absurd (hbusy (congrArg some hkey)) (hdone rfl)
  | full hrun =>
      intro hdone
      refine ⟨hcontent, ?_, by rw [hwaits, length_watch]⟩
      rw [hpart.buffered_eq]
      simp [hlone.1]

/-- **The pending tables are a product.**  For every key, the steps of a run that concern it are
    a run of a broker that only sees this key, and at the end that broker has the entry and the
    queued message that the broker has for the key.  If nobody has received from the slot, no
    timer has fired and no listener was closed, then the slot has the first message that `Run`
    received for the key, once `Run` has dealt with it, the later ones are in no slot, and there
    is one `timeoutWait` if the key is a client key, and none if it is a server key. -/
theorem pending_tables_product (k : StreamKey) {as : List Act} {b : GRPCBroker}
    (hrun : exec step init as = some b) :
    ∃ bk, exec step init (subrunOf k as) = some bk ∧
      (∀ a ∈ subrunOf k as, a.sees k = true) ∧ Part (fun k' => k' = k) b bk ∧
      bk.content k = b.content k ∧ (b.watchers k).length = bk.waits.length ∧
      ((∀ a ∈ subrunOf k as, a.disturbs = false) → KeepsFirst k b bk (received k as)) := by
  obtain ⟨bk, hbk, hpart⟩ : ∃ bk, exec step init (subrunOf k as) = some bk ∧
      Part (fun k' => k' = k) b bk := exec_part _ hrun
  have hsees : ∀ a ∈ subrunOf k as, a.sees k = true := by
    intro a ha
    exact forall_mem_subrun (P := fun a => a.sees k = true) (fun _ _ _ h => sees_of_view h) ha
  refine ⟨bk, hbk, hsees, hpart, hpart.content_eq, hpart.length_watchers, ?_⟩
  intro hcalm
  have hend := (undisturbed_init k).exec hbk hsees hcalm
  rw [List.nil_append, received_subrunOf k hrun] at hend
  exact hend.keepsFirst hpart

/-- The address that a peer sends for a service. -/
def advert (id : UInt32) (address : String) : Letter := ⟨⟨id, "unix", address, none⟩, 0⟩

/-- Two messages for client stream 7, with a knock for server stream 7 and a `Dial` of another
    service between them. -/
def sevenTwice : List Act :=
  [.run (.recv (advert 7 "a")), .run .lookup, .run .offer, .run .spawn,
    .run (.recv ⟨knockInfo 7, 0⟩), .run .lookup, .run .offer, .dial 9,
    .run (.recv (advert 9 "c")), .run .lookup, .run .offer, .run .spawn, .call 0 .recv,
    .run (.recv (advert 7 "b")), .run .lookup, .run .offer]

theorem pending_tables_product_seven : ∃ b bk, exec step init sevenTwice = some b ∧
    exec step init (subrunOf ⟨.client, 7⟩ sevenTwice) = some bk ∧
    b.content ⟨.client, 7⟩ = some (some (advert 7 "a")) ∧
    b.buffered ⟨.client, 7⟩ = [advert 7 "a"] ∧ bk.waits.length = 1 := by
  obtain ⟨b, hrun⟩ : ∃ b, exec step init sevenTwice = some b :=
    Option.isSome_iff_exists.mp (by decide)
  obtain ⟨bk, hbk, -, -, -, -, hfirst⟩ := pending_tables_product ⟨.client, 7⟩ hrun
  have hms : received ⟨.client, 7⟩ sevenTwice = [advert 7 "a", advert 7 "b"] := by decide
  have hkeeps := hfirst (by decide)
  rw [hms] at hkeeps
  obtain ⟨hcontent, hbuffered, hwaits⟩ := hkeeps (by simp)
  exact ⟨b, bk, hrun, hbk, hcontent, hbuffered, hwaits⟩

end GRPCBroker

end GoPlugin
