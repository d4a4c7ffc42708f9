import GoPlugin.MuxBrokerPair

/-!
# `Dispense` over net/rpc (`rpc_server.go`, `rpc_client.go`)

The host's `RPCClient.Dispense(name)` asks the plugin's `dispenseServer` for an implementation.
The handler makes it, takes an id from the broker's counter, starts a goroutine that waits in
`Accept(id)` to serve the implementation, and returns the id; the host then dials it.  Only the
id ties the connection to the implementation.

What is assumed of net/rpc: a reply reaches the call that it answers.  A call may fail at any
time.  What `p.Server` returns is left to the environment: two calls may get the same object.
`RegisterName` of a new server fails for an object without a method that net/rpc can call, which
`registers` says; `serve` then logs the error and returns, with the stream acked and open.
-/

namespace GoPlugin

open Tally LabelledSystem

/-! ### What the session keeps -/

namespace MuxLink

/-- The broker's part in a step of the session. -/
theorem step_broker {l l' : MuxLink} {a : Act} (h : l.step a = some l') :
    l'.broker = l.broker ∨ ∃ b, l.broker.Move b l'.broker ∧
      ∀ id, b = .accept id → a = .broker (.accept id) := by
  cases a with
  | dial id =>
      cases h
      exact Or.inl rfl
  | dialer d a =>
      simp only [step, Option.bind_eq_some_iff, Option.map_eq_some_iff] at h
      obtain ⟨c, hc, c', hdial, rfl⟩ := h
      exact Or.inl rfl
  | acceptStream d =>
      simp only [step] at h
      split at h
      · obtain ⟨b, hb, rfl⟩ := Option.map_eq_some_iff.mp h
        exact Or.inr ⟨_, (MuxBroker.move_of_step hb).2, by simp⟩
      · cases h
  | readID =>
      simp only [step] at h
      split at h
      · simp only [Option.bind_eq_some_iff, Option.map_eq_some_iff] at h
        obtain ⟨x, -, y, -, b, hb, rfl⟩ := h
        exact Or.inr ⟨_, (MuxBroker.move_of_step hb).2, by simp⟩
      · cases h
  | ack i =>
      simp only [step] at h
      split at h
      · simp only [Option.bind_eq_some_iff, Option.map_eq_some_iff] at h
        obtain ⟨b, hb, ds, -, rfl⟩ := h
        exact Or.inr ⟨_, (MuxBroker.move_of_step hb).2, by simp⟩
      · cases h
  | ackFail i sent =>
      simp only [step] at h
      split at h
      · split at h
        · simp only [Option.bind_eq_some_iff, Option.map_eq_some_iff] at h
          obtain ⟨b, hb, ds, -, rfl⟩ := h
          exact Or.inr ⟨_, (MuxBroker.move_of_step hb).2, by simp⟩
        · cases h
      · cases h
  | send i bs =>
      simp only [step] at h
      split at h
      · obtain ⟨ds, -, rfl⟩ := Option.map_eq_some_iff.mp h
        exact Or.inl rfl
      · cases h
  | broker a =>
      simp only [step] at h
      split at h
      · obtain ⟨b, hb, rfl⟩ := Option.map_eq_some_iff.mp h
        refine Or.inr ⟨_, (MuxBroker.move_of_step hb).2, ?_⟩
        rintro id rfl
        rfl
      · cases h

theorem step_accepts_next {l l' : MuxLink} {a : Act} (h : l.step a = some l') {i : Nat}
    {c : MuxBroker.AcceptCall} (hc : l.broker.accepts[i]? = some c) :
    ∃ c', l'.broker.accepts[i]? = some c' ∧ c'.id = c.id ∧ (c.pc.finished = true → c' = c) := by
  rcases step_broker h with hsame | ⟨b, hb, -⟩
  · rw [hsame]
    exact ⟨c, hc, rfl, fun _ => rfl⟩
  · exact hb.accepts_next hc

theorem step_accepts_cases {l l' : MuxLink} {a : Act} (h : l.step a = some l') {i : Nat}
    {c' : MuxBroker.AcceptCall} (hc : l'.broker.accepts[i]? = some c') :
    (∃ c, l.broker.accepts[i]? = some c ∧ c.id = c'.id) ∨
      (i = l.broker.accepts.length ∧ a = .broker (.accept c'.id)) := by
  rcases step_broker h with hsame | ⟨b, hb, haccept⟩
  · rw [hsame] at hc
    exact Or.inl ⟨c', hc, rfl⟩
  · rcases hb.accepts_cases hc with hold | ⟨x, pc, -, hold, -⟩ | ⟨hi, ha, -, -⟩
    · exact Or.inl ⟨c', hold, rfl⟩
    · exact Or.inl ⟨_, hold, rfl⟩
    · exact Or.inr ⟨hi, haccept _ ha⟩

/-- The `Dial` calls keep their ids. -/
theorem Move.dials_next {l l' : MuxLink} (h : Move l l') {d : Nat} {c : MuxDial}
    (hc : l.dials[d]? = some c) : ∃ c', l'.dials[d]? = some c' ∧ c'.id = c.id := by
  cases h with
  | dial => exact ⟨c, getElem?_concat_of_some hc _, rfl⟩
  | dialer he hdial =>
      refine ids_set he ?_ hc
      cases hdial <;> rfl
  | readID hrun hn he | ack hcall hn he | ackFail hcall hsent hn he | send hcall hn he =>
      exact ids_set he rfl hc
  | acceptStream | broker => exact ⟨c, hc, rfl⟩

end MuxLink

/-! ### The model -/

/-- Where the handler `dispenseServer.Dispense` of a call stands. -/
inductive HandlerPc where
  | creating                               -- before `p.Server`
  | reserving (impl : Nat)                 -- before `NextId`
  | starting (impl : Nat) (id : UInt32)    -- before the `go` statement
  | replied (impl : Nat) (id : UInt32)     -- the id is returned
  | failed                                 -- an error is returned
deriving DecidableEq, Repr

/-- Where the goroutine of a handler stands. -/
inductive GoroutinePc where
  | idle               -- not started, or before `Accept`
  | accepting (i : Nat)    -- in the broker's `i`-th `Accept` call
  | serving (i : Nat)
  | refused (i : Nat)      -- `RegisterName` returned an error
  | failed (i : Nat)       -- `Accept` returned an error
deriving DecidableEq, Repr

/-- The `Accept` call of the goroutine. -/
def GoroutinePc.accept : GoroutinePc → Option Nat
  | .idle => none
  | .accepting i | .serving i | .refused i | .failed i => some i

/-- Where `RPCClient.Dispense` stands. -/
inductive DispensePc where
  | calling              -- in `control.Call`
  | replied (id : UInt32)    -- before `broker.Dial`
  | dialing (d : Nat)        -- in the `d`-th `Dial` call, or past it
  | failed
deriving DecidableEq, Repr

/-- A `Dispense(name)` call. -/
structure DispenseCall where
  name : ByteString
  handler : HandlerPc
  goroutine : GoroutinePc
  client : DispensePc
deriving DecidableEq, Repr

/-- The goroutine of a call serves its implementation on the `stream`-th stream that arrived. -/
structure Service where
  stream : Nat
  call : Nat
  impl : Nat
deriving DecidableEq, Repr

/-- The streams that the host dials, the counter of the plugin's broker, and the calls.
    `issued` records for whom the counter was drawn, which is an application or a call. -/
structure Dispenser where
  link : MuxLink
  nextID : UInt32
  issued : List (UInt32 × Option Nat)
  calls : List DispenseCall
  served : List Service

namespace Dispenser

def init : Dispenser where
  link := .init
  nextID := 0
  issued := []
  calls := []
  served := []

inductive Act where
  | dispense (name : ByteString)             -- `Dispense` up to `control.Call`
  | server (k : Nat) (impl : Option Nat)     -- the result of `p.Server`
  | nextID (k : Nat)
  | start (k : Nat)                          -- the `go` statement
  | accept (k : Nat)                         -- the goroutine calls `Accept`
  | serve (k : Nat)                          -- it goes on with what `Accept` returned
  | reply (k : Nat) (ok : Bool)              -- `control.Call` returns
  | dial (k : Nat)
  | appNextID                                -- an application on the plugin calls `NextId`
  | appAccept (id : UInt32)                  -- and `Accept`
  | link (a : MuxLink.Act)                   -- everything else on the session
deriving DecidableEq, Repr

/-- The actions on the session that start an `Accept` call. -/
def accepts : MuxLink.Act → Bool
  | .broker (.accept _) => true
  | _ => false

/-- `names` are the plugins that each side has been given, and `registers` says which
    implementations `RegisterName` takes. -/
def step (names : Both (List ByteString)) (registers : Nat → Bool) (s : Dispenser) :
    Act → Option Dispenser
  | .dispense name =>
      if names.host.contains name then
        some { s with calls := s.calls ++ [⟨name, .creating, .idle, .calling⟩] }
      else none
  | .server k impl =>
      match s.calls[k]? with
      | some ⟨name, .creating, g, c⟩ =>
          match if names.plugin.contains name then impl else none with
          | some impl => some { s with calls := s.calls.set k ⟨name, .reserving impl, g, c⟩ }
          | none => some { s with calls := s.calls.set k ⟨name, .failed, g, c⟩ }
      | _ => none
  | .nextID k =>
      match s.calls[k]? with
      | some ⟨name, .reserving impl, g, c⟩ =>
          some { s with
            nextID := s.nextID + 1
            issued := s.issued ++ [(s.nextID + 1, some k)]
            calls := s.calls.set k ⟨name, .starting impl (s.nextID + 1), g, c⟩ }
      | _ => none
  | .start k =>
      match s.calls[k]? with
      | some ⟨name, .starting impl id, g, c⟩ =>
          some { s with calls := s.calls.set k ⟨name, .replied impl id, g, c⟩ }
      | _ => none
  | .accept k =>
      match s.calls[k]? with
      | some ⟨name, .replied impl id, .idle, c⟩ =>
          (s.link.step (.broker (.accept id))).map fun l =>
            { s with
              link := l
              calls := s.calls.set k
                ⟨name, .replied impl id, .accepting s.link.broker.accepts.length, c⟩ }
      | _ => none
  | .serve k =>
      match s.calls[k]? with
      | some ⟨name, .replied impl id, .accepting i, c⟩ =>
          match (s.link.broker.accepts[i]?).map MuxBroker.AcceptCall.pc with
          | some (.returned n) =>
              if registers impl then
                some { s with
                  calls := s.calls.set k ⟨name, .replied impl id, .serving i, c⟩
                  served := ⟨n, k, impl⟩ :: s.served }
              else some { s with calls := s.calls.set k ⟨name, .replied impl id, .refused i, c⟩ }
          | some (.ackFailed _) | some .timedOut =>
              some { s with calls := s.calls.set k ⟨name, .replied impl id, .failed i, c⟩ }
          | _ => none
      | _ => none
  | .reply k ok =>
      match s.calls[k]? with
      | some ⟨name, .replied impl id, g, .calling⟩ =>
          some { s with
            calls := s.calls.set k
              ⟨name, .replied impl id, g, if ok then .replied id else .failed⟩ }
      | some ⟨name, h, g, .calling⟩ =>
          -- an error of the handler, or of the connection
          if ok then none else some { s with calls := s.calls.set k ⟨name, h, g, .failed⟩ }
      | _ => none
  | .dial k =>
      match s.calls[k]? with
      | some ⟨name, h, g, .replied id⟩ =>
          (s.link.step (.dial id)).map fun l =>
            { s with
              link := l
              calls := s.calls.set k ⟨name, h, g, .dialing s.link.dials.length⟩ }
      | _ => none
  | .appNextID =>
      some { s with
        nextID := s.nextID + 1
        issued := s.issued ++ [(s.nextID + 1, none)] }
  | .appAccept id => (s.link.step (.broker (.accept id))).map fun l => { s with link := l }
  | .link a =>
      if accepts a then none else (s.link.step a).map fun l => { s with link := l }

/-- Applications accept only ids that `NextId` gave to applications. -/
def acceptsOwn (s : Dispenser) : Act → Bool
  | .appAccept id => s.issued.contains (id, none)
  | _ => true

/-! ### What one step can do -/

inductive Move (registers : Nat → Bool) (s : Dispenser) : Act → Dispenser → Prop where
  | dispense {name} :
      Move registers s (.dispense name)
        { s with calls := s.calls ++ [⟨name, .creating, .idle, .calling⟩] }
  | create {k name impl r g c} (hk : s.calls[k]? = some ⟨name, .creating, g, c⟩) :
      Move registers s (.server k r) { s with calls := s.calls.set k ⟨name, .reserving impl, g, c⟩ }
  | refuse {k name r g c} (hk : s.calls[k]? = some ⟨name, .creating, g, c⟩) :
      Move registers s (.server k r) { s with calls := s.calls.set k ⟨name, .failed, g, c⟩ }
  | nextID {k name impl g c} (hk : s.calls[k]? = some ⟨name, .reserving impl, g, c⟩) :
      Move registers s (.nextID k)
        { s with
          nextID := s.nextID + 1
          issued := s.issued ++ [(s.nextID + 1, some k)]
          calls := s.calls.set k ⟨name, .starting impl (s.nextID + 1), g, c⟩ }
  | start {k name impl id g c} (hk : s.calls[k]? = some ⟨name, .starting impl id, g, c⟩) :
      Move registers s (.start k) { s with calls := s.calls.set k ⟨name, .replied impl id, g, c⟩ }
  | accept {k name impl id c l} (hk : s.calls[k]? = some ⟨name, .replied impl id, .idle, c⟩)
      (hl : s.link.step (.broker (.accept id)) = some l) :
      Move registers s (.accept k)
        { s with
          link := l
          calls := s.calls.set k
            ⟨name, .replied impl id, .accepting s.link.broker.accepts.length, c⟩ }
  | serve {k name impl id i c a n}
      (hk : s.calls[k]? = some ⟨name, .replied impl id, .accepting i, c⟩)
      (ha : s.link.broker.accepts[i]? = some a) (hpc : a.pc = .returned n)
      (hok : registers impl = true) :
      Move registers s (.serve k)
        { s with
          calls := s.calls.set k ⟨name, .replied impl id, .serving i, c⟩
          served := ⟨n, k, impl⟩ :: s.served }
  | unregistered {k name impl id i c}
      (hk : s.calls[k]? = some ⟨name, .replied impl id, .accepting i, c⟩)
      (hno : registers impl = false) :
      Move registers s (.serve k)
        { s with calls := s.calls.set k ⟨name, .replied impl id, .refused i, c⟩ }
  | giveUp {k name impl id i c a}
      (hk : s.calls[k]? = some ⟨name, .replied impl id, .accepting i, c⟩)
      (ha : s.link.broker.accepts[i]? = some a) (hdone : a.pc.finished = true)
      (hpc : ∀ n, a.pc ≠ .returned n) :
      Move registers s (.serve k)
        { s with calls := s.calls.set k ⟨name, .replied impl id, .failed i, c⟩ }
  | reply {k name impl id g} (hk : s.calls[k]? = some ⟨name, .replied impl id, g, .calling⟩) :
      Move registers s (.reply k true)
        { s with calls := s.calls.set k ⟨name, .replied impl id, g, .replied id⟩ }
  | replyFail {k name h g} (hk : s.calls[k]? = some ⟨name, h, g, .calling⟩) :
      Move registers s (.reply k false) { s with calls := s.calls.set k ⟨name, h, g, .failed⟩ }
  | dial {k name h g id l} (hk : s.calls[k]? = some ⟨name, h, g, .replied id⟩)
      (hl : s.link.step (.dial id) = some l) :
      Move registers s (.dial k)
        { s with
          link := l
          calls := s.calls.set k ⟨name, h, g, .dialing s.link.dials.length⟩ }
  | appNextID :
      Move registers s .appNextID
        { s with nextID := s.nextID + 1, issued := s.issued ++ [(s.nextID + 1, none)] }
  | appAccept {id l} (hl : s.link.step (.broker (.accept id)) = some l) :
      Move registers s (.appAccept id) { s with link := l }
  | link {a l} (ha : accepts a = false) (hl : s.link.step a = some l) :
      Move registers s (.link a) { s with link := l }

theorem move_of_step {names : Both (List ByteString)} {registers : Nat → Bool}
    {s s' : Dispenser} {a : Act} (h : step names registers s a = some s') :
    Move registers s a s' := by
  cases a with
  | dispense name =>
      simp only [step] at h
      split at h <;> cases h
      exact .dispense
  | server k impl =>
      simp only [step] at h
      split at h
      · split at h <;> cases h
        · exact .create ‹_›
        · exact .refuse ‹_›
      · cases h
  | nextID k =>
      simp only [step] at h
      split at h <;> cases h
      exact .nextID ‹_›
  | start k =>
      simp only [step] at h
      split at h <;> cases h
      exact .start ‹_›
  | accept k =>
      simp only [step] at h
      split at h
      · obtain ⟨l, hl, rfl⟩ := Option.map_eq_some_iff.mp h
        exact .accept ‹_› hl
      · cases h
  | serve k =>
      simp only [step] at h
      split at h
      · split at h
        · next hpc =>
            obtain ⟨a, ha, hpc⟩ := Option.map_eq_some_iff.mp hpc
            split at h <;> cases h
            · exact .serve ‹_› ha hpc ‹_›
            · exact .unregistered ‹_› (Bool.eq_false_iff.mpr ‹_›)
        · next hpc =>
            cases h
            obtain ⟨a, ha, hpc⟩ := Option.map_eq_some_iff.mp hpc
            exact .giveUp ‹_› ha (by rw [hpc]; rfl) (by simp [hpc])
        · next hpc =>
            cases h
            obtain ⟨a, ha, hpc⟩ := Option.map_eq_some_iff.mp hpc
            exact .giveUp ‹_› ha (by rw [hpc]; rfl) (by simp [hpc])
        · cases h
      · cases h
  | reply k ok =>
      simp only [step] at h
      split at h
      · cases ok <;> cases h
        · exact .replyFail ‹_›
        · exact .reply ‹_›
      · cases ok <;> cases h
        exact .replyFail ‹_›
      · cases h
  | dial k =>
      simp only [step] at h
      split at h
      · obtain ⟨l, hl, rfl⟩ := Option.map_eq_some_iff.mp h
        exact .dial ‹_› hl
      · cases h
  | appNextID =>
      cases h
      exact .appNextID
  | appAccept id =>
      obtain ⟨l, hl, rfl⟩ := Option.map_eq_some_iff.mp h
      exact .appAccept hl
  | link a =>
      simp only [step] at h
      split at h
      · cases h
      · obtain ⟨l, hl, rfl⟩ := Option.map_eq_some_iff.mp h
        exact .link (Bool.eq_false_iff.mpr ‹_›) hl

/-! ### Every id belongs to one call -/

section Sound

variable {registers : Nat → Bool}

/-- What holds of the `k`-th call. -/
structure CallSound (registers : Nat → Bool) (s : Dispenser) (k : Nat) (x : DispenseCall) :
    Prop where
  starting : ∀ impl id, x.handler = .starting impl id → (id, some k) ∈ s.issued
  replied : ∀ impl id, x.handler = .replied impl id → (id, some k) ∈ s.issued
  goroutine : ∀ i, x.goroutine.accept = some i → ∃ a impl,
    s.link.broker.accepts[i]? = some a ∧ x.handler = .replied impl a.id
  serving : ∀ i, x.goroutine = .serving i → ∃ y ∈ s.served, y.call = k
  refused : ∀ i impl id, x.goroutine = .refused i → x.handler = .replied impl id →
    registers impl = false
  gaveUp : ∀ i, x.goroutine = .failed i → ∃ a, s.link.broker.accepts[i]? = some a ∧
    a.pc.finished = true ∧ ∀ n, a.pc ≠ .returned n
  client : ∀ id, x.client = .replied id → ∃ impl, x.handler = .replied impl id
  dialing : ∀ d, x.client = .dialing d → ∃ c impl,
    s.link.dials[d]? = some c ∧ x.handler = .replied impl c.id

/-- Somebody who is entitled to its id has made the `i`-th `Accept` call. -/
def Entitled (s : Dispenser) (i : Nat) (id : UInt32) : Prop :=
  (id, none) ∈ s.issued ∨ ∃ (k : Nat) (x : DispenseCall) (impl : Nat), s.calls[k]? = some x ∧
    x.goroutine.accept = some i ∧ x.handler = .replied impl id

/-- The goroutine of the call has the stream that it serves. -/
def ServiceSound (registers : Nat → Bool) (s : Dispenser) (y : Service) : Prop :=
  registers y.impl = true ∧ ∃ (x : DispenseCall) (i : Nat) (a : MuxBroker.AcceptCall),
    s.calls[y.call]? = some x ∧ x.goroutine.accept = some i ∧
    s.link.broker.accepts[i]? = some a ∧ a.pc = .returned y.stream ∧
    x.handler = .replied y.impl a.id

/-- The counter has come by the ids that were drawn. -/
structure Counted (next : UInt32) (issued : List (UInt32 × Option Nat)) : Prop where
  count : next = UInt32.ofNat issued.length
  ids : ∀ (n : Nat) x, issued[n]? = some x → x.1 = UInt32.ofNat (n + 1)

structure Sound (registers : Nat → Bool) (s : Dispenser) : Prop where
  paired : s.link.Paired
  counted : Counted s.nextID s.issued
  calls : ∀ (k : Nat) x, s.calls[k]? = some x → s.CallSound registers k x
  accepts : ∀ (i : Nat) (a : MuxBroker.AcceptCall), s.link.broker.accepts[i]? = some a →
    s.Entitled i a.id
  services : ∀ y ∈ s.served, s.ServiceSound registers y

theorem sound_init : Sound registers init := by
  constructor
  case paired => exact MuxLink.paired_init
  case counted => constructor <;> simp [init]
  all_goals simp [init, MuxLink.init, MuxBroker.init]

/-- What only grows from one state to the next. -/
structure Grows (s s' : Dispenser) : Prop where
  issued : ∀ x ∈ s.issued, x ∈ s'.issued
  accepts : ∀ (i : Nat) (a : MuxBroker.AcceptCall), s.link.broker.accepts[i]? = some a →
    ∃ a', s'.link.broker.accepts[i]? = some a' ∧ a'.id = a.id ∧ (a.pc.finished = true → a' = a)
  dials : ∀ (d : Nat) (c : MuxDial), s.link.dials[d]? = some c →
    ∃ c', s'.link.dials[d]? = some c' ∧ c'.id = c.id
  served : ∀ y ∈ s.served, y ∈ s'.served

theorem Grows.of_link {s s' : Dispenser} {a : MuxLink.Act}
    (hissued : s'.issued = s.issued) (hserved : s'.served = s.served)
    (h : s.link.step a = some s'.link) : Grows s s' where
  issued _ hx := hissued ▸ hx
  accepts _ _ ha := MuxLink.step_accepts_next h ha
  dials _ _ hc := (MuxLink.move_of_step h).dials_next hc
  served _ hy := hserved ▸ hy

theorem Grows.of_issued {s s' : Dispenser} (hlink : s'.link = s.link)
    (h : ∀ x ∈ s.issued, x ∈ s'.issued) (hserved : ∀ y ∈ s.served, y ∈ s'.served) :
    Grows s s' where
  issued := h
  accepts _ a ha := ⟨a, hlink ▸ ha, rfl, fun _ => rfl⟩
  dials _ c hc := ⟨c, hlink ▸ hc, rfl⟩
  served := hserved

theorem CallSound.mono {s s' : Dispenser} {k : Nat} {x : DispenseCall}
    (h : s.CallSound registers k x) (hgrows : Grows s s') : s'.CallSound registers k x where
  starting impl id hx := hgrows.issued _ (h.starting impl id hx)
  replied impl id hx := hgrows.issued _ (h.replied impl id hx)
  goroutine i hi := by
    obtain ⟨a, impl, ha, hx⟩ := h.goroutine i hi
    obtain ⟨a', ha', hid, -⟩ := hgrows.accepts i a ha
    exact ⟨a', impl, ha', hid ▸ hx⟩
  serving i hi := by
    obtain ⟨y, hy, hk⟩ := h.serving i hi
    exact ⟨y, hgrows.served y hy, hk⟩
  gaveUp i hi := by
    obtain ⟨a, ha, hdone, hpc⟩ := h.gaveUp i hi
    obtain ⟨a', ha', -, hsame⟩ := hgrows.accepts i a ha
    cases hsame hdone
    exact ⟨a, ha', hdone, hpc⟩
  refused := h.refused
  client := h.client
  dialing d hd := by
    obtain ⟨c, impl, hc, hx⟩ := h.dialing d hd
    obtain ⟨c', hc', hid⟩ := hgrows.dials d c hc
    exact ⟨c', impl, hc', hid ▸ hx⟩

/-- The calls that there are keep the `Accept` call of their goroutine, and what they replied. -/
def Keeps (s s' : Dispenser) : Prop :=
  ∀ (j : Nat) (y : DispenseCall), s.calls[j]? = some y → ∃ y', s'.calls[j]? = some y' ∧
    (∀ i, y.goroutine.accept = some i → y'.goroutine.accept = some i) ∧
    ∀ impl id, y.handler = .replied impl id → y'.handler = .replied impl id

theorem keeps_of_calls_eq {s s' : Dispenser} (h : s'.calls = s.calls) : Keeps s s' :=
  fun _ y hy => ⟨y, h ▸ hy, fun _ hi => hi, fun _ _ hh => hh⟩

theorem keeps_of_set {s s' : Dispenser} {k : Nat} {x x' : DispenseCall}
    (hx : s.calls[k]? = some x) (h : s'.calls = s.calls.set k x')
    (haccept : ∀ i, x.goroutine.accept = some i → x'.goroutine.accept = some i)
    (hhandler : ∀ impl id, x.handler = .replied impl id → x'.handler = .replied impl id) :
    Keeps s s' := by
  intro j y hy
  rw [h]
  rcases getElem?_set_of_some hy k x' with ⟨rfl, hnew⟩ | ⟨-, hold⟩
  · cases hx.symm.trans hy
    exact ⟨x', hnew, haccept, hhandler⟩
  · exact ⟨y, hold, fun _ hi => hi, fun _ _ hh => hh⟩

theorem Entitled.mono {s s' : Dispenser} {i : Nat} {id : UInt32} (h : s.Entitled i id)
    (hgrows : Grows s s') (hkeeps : Keeps s s') : s'.Entitled i id := by
  rcases h with happ | ⟨k, x, impl, hx, hi, hid⟩
  · exact Or.inl (hgrows.issued _ happ)
  · obtain ⟨x', hx', haccept, hhandler⟩ := hkeeps k x hx
    exact Or.inr ⟨k, x', impl, hx', haccept i hi, hhandler impl id hid⟩

theorem ServiceSound.mono {s s' : Dispenser} {y : Service} (h : s.ServiceSound registers y)
    (hgrows : Grows s s') (hkeeps : Keeps s s') : s'.ServiceSound registers y := by
  obtain ⟨hok, x, i, a, hx, hi, ha, hpc, hid⟩ := h
  obtain ⟨x', hx', haccept, hhandler⟩ := hkeeps y.call x hx
  obtain ⟨a', ha', -, hsame⟩ := hgrows.accepts i a ha
  cases hsame (by rw [hpc]; rfl)
  exact ⟨hok, x', i, a, hx', haccept i hi, ha', hpc, hhandler _ _ hid⟩

theorem Counted.draw {next : UInt32} {issued : List (UInt32 × Option Nat)}
    (h : Counted next issued) (o : Option Nat) :
    Counted (next + 1) (issued ++ [(next + 1, o)]) := by
  have hsucc : next + 1 = UInt32.ofNat (issued.length + 1) := by
    rw [h.count, UInt32.ofNat_add]
    rfl
  constructor
  · rw [List.length_append]
    exact hsucc
  · intro n x hx
    rcases getElem?_concat_cases hx with hold | ⟨rfl, rfl⟩
    · exact h.ids n x hold
    · exact hsucc

/-- What a step has to show. -/
theorem Sound.next {s s' : Dispenser} (h : Sound registers s) (hgrows : Grows s s')
    (hkeeps : Keeps s s') (hpaired : s'.link.Paired) (hcounted : Counted s'.nextID s'.issued)
    (hcalls : ∀ (j : Nat) y, s'.calls[j]? = some y →
      s.calls[j]? = some y ∨ s'.CallSound registers j y)
    (haccepts : ∀ (i : Nat) (a : MuxBroker.AcceptCall), s'.link.broker.accepts[i]? = some a →
      (∃ a₀, s.link.broker.accepts[i]? = some a₀ ∧ a₀.id = a.id) ∨ s'.Entitled i a.id)
    (hserved : ∀ y ∈ s'.served, y ∈ s.served ∨ s'.ServiceSound registers y) :
    Sound registers s' where
  paired := hpaired
  counted := hcounted
  calls j y hy := by
    rcases hcalls j y hy with hold | hnew
    · exact (h.calls j y hold).mono hgrows
    · exact hnew
  accepts i a ha := by
    rcases haccepts i a ha with ⟨a₀, ha₀, hid⟩ | hnew
    · exact hid ▸ (h.accepts i a₀ ha₀).mono hgrows hkeeps
    · exact hnew
  services y hy := by
    rcases hserved y hy with hold | hnew
    · exact (h.services y hold).mono hgrows hkeeps
    · exact hnew

/-- A step in which the `k`-th call becomes `x'` and the session is left alone. -/
theorem Sound.setCall {s s' : Dispenser} (h : Sound registers s) {k : Nat} {x x' : DispenseCall}
    (hx : s.calls[k]? = some x) (hset : s'.calls = s.calls.set k x') (hlink : s'.link = s.link)
    (haccept : ∀ i, x.goroutine.accept = some i → x'.goroutine.accept = some i)
    (hhandler : ∀ impl id, x.handler = .replied impl id → x'.handler = .replied impl id)
    (hgrows : Grows s s') (hcounted : Counted s'.nextID s'.issued)
    (hsound : s'.CallSound registers k x')
    (hserved : ∀ y ∈ s'.served, y ∈ s.served ∨ s'.ServiceSound registers y) :
    Sound registers s' := by
  refine h.next hgrows (keeps_of_set hx hset haccept hhandler) (hlink ▸ h.paired) hcounted ?_ ?_
    hserved
  · intro j y hy
    rw [hset] at hy
    rcases getElem?_set_cases hy with ⟨rfl, rfl⟩ | ⟨-, hold⟩
    · exact Or.inr hsound
    · exact Or.inl hold
  · intro i a ha
    rw [hlink] at ha
    exact Or.inl ⟨a, ha, rfl⟩

/-- Before the reply nothing but the handler has moved. -/
theorem CallSound.setHandler {s s' : Dispenser} {k : Nat} {name : ByteString}
    {pc pc' : HandlerPc} {g : GoroutinePc} {c : DispensePc}
    (h : s.CallSound registers k ⟨name, pc, g, c⟩) (hpc : ∀ impl id, pc ≠ .replied impl id)
    (hstarting : ∀ impl id, pc' = .starting impl id → (id, some k) ∈ s'.issued)
    (hreplied : ∀ impl id, pc' = .replied impl id → (id, some k) ∈ s'.issued) :
    s'.CallSound registers k ⟨name, pc', g, c⟩ where
  starting := hstarting
  replied := hreplied
  goroutine i hi := by
    obtain ⟨a, impl, -, hx⟩ := h.goroutine i hi
    exact absurd hx (hpc _ _)
  serving i hi := by
    obtain ⟨a, impl, -, hx⟩ := h.goroutine i (by rw [show g = .serving i from hi]; rfl)
    exact absurd hx (hpc _ _)
  refused i impl id hi hx := by
    obtain ⟨a, impl', -, hx'⟩ := h.goroutine i (by rw [show g = .refused i from hi]; rfl)
    exact absurd hx' (hpc _ _)
  gaveUp i hi := by
    obtain ⟨a, impl, -, hx⟩ := h.goroutine i (by rw [show g = .failed i from hi]; rfl)
    exact absurd hx (hpc _ _)
  client id hid := by
    obtain ⟨impl, hx⟩ := h.client id hid
    exact absurd hx (hpc _ _)
  dialing d hd := by
    obtain ⟨_, impl, -, hx⟩ := h.dialing d hd
    exact absurd hx (hpc _ _)

/-- A step of the session that is no step of a call. -/
theorem Sound.setLink {s : Dispenser} (h : Sound registers s) {a : MuxLink.Act} {l : MuxLink}
    (hl : s.link.step a = some l) (hown : ∀ id, a = .broker (.accept id) → (id, none) ∈ s.issued) :
    Sound registers { s with link := l } := by
  refine h.next (.of_link rfl rfl hl) (keeps_of_calls_eq rfl)
    (h.paired.move (MuxLink.move_of_step hl)) h.counted (fun _ _ hy => Or.inl hy) ?_
    fun _ hy => Or.inl hy
  intro i c hc
  rcases MuxLink.step_accepts_cases hl hc with hold | ⟨-, ha⟩
  · exact Or.inl hold
  · exact Or.inr (Or.inl (hown _ ha))

theorem Sound.accept {s : Dispenser} (h : Sound registers s) {k : Nat} {name : ByteString}
    {impl : Nat} {id : UInt32} {c : DispensePc} {l : MuxLink}
    (hk : s.calls[k]? = some ⟨name, .replied impl id, .idle, c⟩)
    (hl : s.link.step (.broker (.accept id)) = some l) :
    Sound registers { s with
      link := l
      calls := s.calls.set k
        ⟨name, .replied impl id, .accepting s.link.broker.accepts.length, c⟩ } := by
  set s' : Dispenser := { s with
    link := l
    calls := s.calls.set k
      ⟨name, .replied impl id, .accepting s.link.broker.accepts.length, c⟩ } with hs'
  have hgrows : Grows s s' := .of_link rfl rfl hl
  have hcall := (h.calls k _ hk).mono hgrows
  obtain ⟨hlt, -⟩ := List.getElem?_eq_some_iff.mp hk
  have hnew : s'.calls[k]? =
      some ⟨name, .replied impl id, .accepting s.link.broker.accepts.length, c⟩ :=
    List.getElem?_set_self hlt
  have haccept : ∃ p, l.broker.accepts[s.link.broker.accepts.length]? =
      some ⟨id, p, .waiting⟩ := by
    simp only [MuxLink.step, MuxLink.internal, if_true] at hl
    obtain ⟨b, hb, rfl⟩ := Option.map_eq_some_iff.mp hl
    obtain ⟨-, hmove⟩ := MuxBroker.move_of_step hb
    cases hmove
    exact ⟨_, List.getElem?_concat_length⟩
  refine h.next hgrows (keeps_of_set hk rfl (by simp [GoroutinePc.accept]) fun _ _ hh => hh)
    (h.paired.move (MuxLink.move_of_step hl)) h.counted ?_ ?_ fun _ hy => Or.inl hy
  · intro j y hy
    rcases getElem?_set_cases hy with ⟨rfl, rfl⟩ | ⟨-, hold⟩
    · refine Or.inr ⟨hcall.starting, hcall.replied, ?_, by simp, by simp, by simp, hcall.client,
        hcall.dialing⟩
      rintro _ ⟨⟩
      obtain ⟨p, hp⟩ := haccept
      exact ⟨_, impl, hp, rfl⟩
    · exact Or.inl hold
  · intro i a ha
    rcases MuxLink.step_accepts_cases hl ha with hold | ⟨rfl, hid⟩
    · exact Or.inl hold
    · cases hid
      exact Or.inr (Or.inr ⟨k, _, impl, hnew, rfl, rfl⟩)

theorem Sound.dial {s : Dispenser} (h : Sound registers s) {k : Nat} {name : ByteString}
    {pc : HandlerPc} {g : GoroutinePc} {id : UInt32} {l : MuxLink}
    (hk : s.calls[k]? = some ⟨name, pc, g, .replied id⟩)
    (hl : s.link.step (.dial id) = some l) :
    Sound registers { s with
      link := l
      calls := s.calls.set k ⟨name, pc, g, .dialing s.link.dials.length⟩ } := by
  have hpaired := h.paired.move (MuxLink.move_of_step hl)
  cases hl
  set s' : Dispenser := { s with
    link := { s.link with dials := s.link.dials ++ [⟨id, .writing, [], []⟩] }
    calls := s.calls.set k ⟨name, pc, g, .dialing s.link.dials.length⟩ } with hs'
  have hgrows : Grows s s' := .of_link (a := .dial id) rfl rfl rfl
  have hcall := (h.calls k _ hk).mono hgrows
  obtain ⟨impl, hhandler⟩ := hcall.client id rfl
  refine h.next hgrows (keeps_of_set hk rfl (fun _ hi => hi) fun _ _ hh => hh) hpaired
    h.counted ?_ (fun i a ha => Or.inl ⟨a, ha, rfl⟩) fun _ hy => Or.inl hy
  intro j y hy
  rcases getElem?_set_cases hy with ⟨rfl, rfl⟩ | ⟨-, hold⟩
  · refine Or.inr ⟨hcall.starting, hcall.replied, hcall.goroutine, hcall.serving, hcall.refused,
      hcall.gaveUp, by simp, ?_⟩
    rintro _ ⟨⟩
    exact ⟨_, impl, List.getElem?_concat_length, hhandler⟩
  · exact Or.inl hold

theorem Sound.move {s s' : Dispenser} {a : Act} (h : Sound registers s)
    (hown : s.acceptsOwn a = true) (hmove : Move registers s a s') : Sound registers s' := by
  cases hmove with
  | dispense =>
      refine h.next (.of_issued rfl (fun _ hx => hx) fun _ hy => hy) ?_ h.paired h.counted ?_
        (fun i a ha => Or.inl ⟨a, ha, rfl⟩) fun _ hy => Or.inl hy
      · intro j y hy
        exact ⟨y, getElem?_concat_of_some hy _, fun _ hi => hi, fun _ _ hh => hh⟩
      · intro j y hy
        rcases getElem?_concat_cases hy with hold | ⟨-, rfl⟩
        · exact Or.inl hold
        · exact Or.inr ⟨by simp, by simp, by simp [GoroutinePc.accept], by simp, by simp, by simp,
            by simp, by simp⟩
  | create hk | refuse hk =>
      refine h.setCall hk rfl rfl (fun _ hi => hi) (by simp)
        (.of_issued rfl (fun _ hx => hx) fun _ hy => hy) h.counted ?_ fun _ hy => Or.inl hy
      exact (h.calls _ _ hk).setHandler (by simp) (by simp) (by simp)
  | nextID hk =>
      refine h.setCall hk rfl rfl (fun _ hi => hi) (by simp)
        (.of_issued rfl (fun _ hx => List.mem_append_left _ hx) fun _ hy => hy)
        (h.counted.draw _) ?_
        fun _ hy => Or.inl hy
      refine (h.calls _ _ hk).setHandler (by simp) ?_ (by simp)
      rintro _ _ ⟨⟩
      exact List.mem_append_right _ (List.mem_singleton.mpr rfl)
  | start hk =>
      refine h.setCall hk rfl rfl (fun _ hi => hi) (by simp)
        (.of_issued rfl (fun _ hx => hx) fun _ hy => hy) h.counted ?_ fun _ hy => Or.inl hy
      refine (h.calls _ _ hk).setHandler (by simp) (by simp) ?_
      rintro _ _ ⟨⟩
      exact (h.calls _ _ hk).starting _ _ rfl
  | accept hk hl => exact h.accept hk hl
  | @serve k name impl id i c a n hk ha hpc hok =>
      have hcall := h.calls k _ hk
      obtain ⟨hlt, -⟩ := List.getElem?_eq_some_iff.mp hk
      refine h.setCall hk rfl rfl (fun _ hi => hi) (fun _ _ hh => hh)
        (.of_issued rfl (fun _ hx => hx) fun _ hy => List.mem_cons_of_mem _ hy) h.counted
        ⟨hcall.starting, hcall.replied, hcall.goroutine,
          fun _ _ => ⟨_, List.mem_cons_self, rfl⟩, by simp, by simp, hcall.client,
          hcall.dialing⟩ ?_
      intro y hy
      rcases List.mem_cons.mp hy with rfl | hold
      · obtain ⟨a', impl', ha', hid⟩ := hcall.goroutine i rfl
        cases ha.symm.trans ha'
        exact Or.inr ⟨hok, _, i, a, List.getElem?_set_self hlt, rfl, ha, hpc, by cases hid; rfl⟩
      · exact Or.inl hold
  | unregistered hk hno =>
      have hcall := h.calls _ _ hk
      refine h.setCall hk rfl rfl (fun _ hi => hi) (fun _ _ hh => hh)
        (.of_issued rfl (fun _ hx => hx) fun _ hy => hy) h.counted
        ⟨hcall.starting, hcall.replied, hcall.goroutine, by simp, ?_, by simp, hcall.client,
          hcall.dialing⟩ fun _ hy => Or.inl hy
      rintro _ _ _ - ⟨⟩
      exact hno
  | giveUp hk ha hdone hpc =>
      have hcall := h.calls _ _ hk
      refine h.setCall hk rfl rfl (fun _ hi => hi) (fun _ _ hh => hh)
        (.of_issued rfl (fun _ hx => hx) fun _ hy => hy) h.counted
        ⟨hcall.starting, hcall.replied, hcall.goroutine, by simp, by simp, ?_, hcall.client,
          hcall.dialing⟩ fun _ hy => Or.inl hy
      rintro _ ⟨⟩
      exact ⟨_, ha, hdone, hpc⟩
  | reply hk =>
      have hcall := h.calls _ _ hk
      refine h.setCall hk rfl rfl (fun _ hi => hi) (fun _ _ hh => hh)
        (.of_issued rfl (fun _ hx => hx) fun _ hy => hy) h.counted
        ⟨hcall.starting, hcall.replied, hcall.goroutine, hcall.serving, hcall.refused,
          hcall.gaveUp, ?_, by simp⟩ fun _ hy => Or.inl hy
      rintro _ ⟨⟩
      exact ⟨_, rfl⟩
  | replyFail hk =>
      have hcall := h.calls _ _ hk
      exact h.setCall hk rfl rfl (fun _ hi => hi) (fun _ _ hh => hh)
        (.of_issued rfl (fun _ hx => hx) fun _ hy => hy) h.counted
        ⟨hcall.starting, hcall.replied, hcall.goroutine, hcall.serving, hcall.refused,
          hcall.gaveUp, by simp, by simp⟩ fun _ hy => Or.inl hy
  | dial hk hl => exact h.dial hk hl
  | appNextID =>
      exact h.next (.of_issued rfl (fun _ hx => List.mem_append_left _ hx) fun _ hy => hy)
        (keeps_of_calls_eq rfl) h.paired (h.counted.draw _) (fun _ _ hy => Or.inl hy)
        (fun _ a ha => Or.inl ⟨a, ha, rfl⟩) fun _ hy => Or.inl hy
  | appAccept hl =>
      refine h.setLink hl ?_
      rintro _ ⟨⟩
      simpa [acceptsOwn] using hown
  | link ha hl =>
      refine h.setLink hl ?_
      rintro _ rfl
      cases ha

/-- While the counter has not come round, an id was drawn once. -/
theorem Counted.unique {next : UInt32} {issued : List (UInt32 × Option Nat)}
    (h : Counted next issued) (hlt : issued.length < UInt32.size) {id : UInt32} {o o' : Option Nat}
    (ho : (id, o) ∈ issued) (ho' : (id, o') ∈ issued) : o = o' := by
  obtain ⟨n, hn⟩ := List.mem_iff_getElem?.mp ho
  obtain ⟨n', hn'⟩ := List.mem_iff_getElem?.mp ho'
  have hidn : id = UInt32.ofNat (n + 1) := h.ids n _ hn
  have hidn' : id = UInt32.ofNat (n' + 1) := h.ids n' _ hn'
  have hid := congrArg UInt32.toNat (hidn.symm.trans hidn')
  have hbound : ∀ {k : Nat} {x : UInt32 × Option Nat}, issued[k]? = some x → k < issued.length :=
    fun hk => (List.getElem?_eq_some_iff.mp hk).1
  have hnlt := hbound hn
  have hnlt' := hbound hn'
  simp only [UInt32.toNat_ofNat'] at hid
  have hsize : UInt32.size = 4294967296 := rfl
  have heq : n = n' := by omega
  subst heq
  cases hn.symm.trans hn'
  rfl

end Sound

end Dispenser

end GoPlugin
