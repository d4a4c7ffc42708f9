import GoPlugin.MuxBrokerConservation
import GoPlugin.GRPCBrokerPending

/-!
# No broker closes a `doneCh` twice

In both brokers the consumer of a pending entry closes its `doneCh`, and another
goroutine removes the entry from the table later.  In between, the entry can be filled
and drawn from again, and the second consumer then closes a closed channel.  This module
adds to the ownership invariant of the net/rpc broker its counterpart for `Dial` of the
gRPC broker; for both, entries that are filled once are closed once.
-/

namespace GoPlugin

open Tally PendingTable LabelledSystem

namespace GRPCBroker

/-- A `Dial` call has received a message from entry `p` and not yet closed its `doneCh`. -/
def Call.opens (p : Nat) : Call → Nat
  | ⟨.dial, _, .took q _⟩ => if q = p then 1 else 0
  | _ => 0

/-- A `Dial` call has closed the `doneCh` of entry `p`. -/
def Call.closes (p : Nat) : Call → Nat
  | ⟨.dial, _, .used q _⟩ => if q = p then 1 else 0
  | _ => 0

def Call.draws (p : Nat) (c : Call) : Nat := c.opens p + c.closes p

/-- The client entry that the action puts a message into, if it does. -/
def fills (b : GRPCBroker) : Act → Option Nat
  | .run .offer =>
      match b.run with
      | .offering m p =>
          if m.info.serverKnock = false ∧ b.clientStreams.ch p = none then some p else none
      | _ => none
  | _ => none

/-- `Run` queues no message in an entry that a `Dial` has already drawn from. -/
def QueuesUnused (b : GRPCBroker) (a : Act) : Prop :=
  ∀ p ∈ b.fills a, ∀ c ∈ b.calls, c.draws p = 0

instance (b : GRPCBroker) (a : Act) : Decidable (b.QueuesUnused a) :=
  inferInstanceAs (Decidable (∀ p ∈ b.fills a, ∀ c ∈ b.calls, c.draws p = 0))

/-- Whether the slot of client entry `p` is taken, as a count. -/
def full (b : GRPCBroker) (p : Nat) : Nat := if (b.clientStreams.ch p).isSome then 1 else 0

/-- What holds as long as no entry is filled again after a `Dial` drew from it. -/
structure DrawnOnce (b : GRPCBroker) : Prop where
  once : ∀ p, tally (Call.draws p) b.calls + b.full p ≤ 1
  closer : ∀ p, b.clientStreams.closed p = true → 1 ≤ tally (Call.closes p) b.calls
  running : b.panicked = false

theorem drawnOnce_init : DrawnOnce init := by
  constructor <;> simp [init, full, ch, PendingTable.closed, PendingTable.empty]

/-- A move that fills no slot, closes nothing and has no `Dial` draw or close. -/
theorem DrawnOnce.frame {b b' : GRPCBroker} (h : DrawnOnce b)
    (hfull : ∀ p, b'.full p ≤ b.full p)
    (hclosed : ∀ p, b'.clientStreams.closed p = b.clientStreams.closed p)
    (hdraws : ∀ p, tally (Call.draws p) b'.calls = tally (Call.draws p) b.calls)
    (hcloses : ∀ p, tally (Call.closes p) b'.calls = tally (Call.closes p) b.calls)
    (hpanicked : b'.panicked = b.panicked) : DrawnOnce b' where
  once p := by
    have := h.once p
    have := hfull p
    rw [hdraws]
    omega
  closer p hp := by
    rw [hcloses]
    exact h.closer p (by rwa [hclosed] at hp)
  running := by rw [hpanicked, h.running]

/-- A call that moves on without drawing or closing keeps its weights. -/
theorem tally_calls_set {b : GRPCBroker} {i : Nat} {c : Call} (f : Call → Nat) (c' : Call)
    (hcall : b.calls[i]? = some c) (hsame : f c' = f c) :
    tally f (b.calls.set i c') = tally f b.calls := by
  have := tally_set f c' hcall
  omega

theorem DrawnOnce.queue {b : GRPCBroker} {m : Letter} {p : Nat} (h : DrawnOnce b)
    (hlt : p < b.clientStreams.cells.length) (hunused : ∀ c ∈ b.calls, c.draws p = 0) :
    DrawnOnce { b with run := .spawning m.info.serviceId p
                       clientStreams := b.clientStreams.put p m } where
  once q := by
    have hq := h.once q
    by_cases hqp : q = p
    · subst hqp
      have hzero : tally (Call.draws q) b.calls = 0 := tally_eq_zero.mpr hunused
      simp [full, ch_put, hlt, hzero]
    · simpa [full, ch_put, hqp] using hq
  closer q hq := h.closer q (by simpa using hq)
  running := h.running

/-- The message of the entry moves from the slot to the call. -/
theorem DrawnOnce.recv {b : GRPCBroker} {i p : Nat} {kind : CallKind} {id : UInt32} {m : Letter}
    (h : DrawnOnce b) (hcall : b.calls[i]? = some ⟨kind, id, .waiting p⟩)
    (hch : b.clientStreams.ch p = some m) :
    DrawnOnce { b with calls := b.calls.set i ⟨kind, id, .took p m⟩
                       clientStreams := b.clientStreams.take p } where
  once q := by
    have hq := h.once q
    have hset := tally_set (Call.draws q) ⟨kind, id, .took p m⟩ hcall
    have hnew : Call.draws q ⟨kind, id, .took p m⟩ ≤ if p = q then 1 else 0 := by
      cases kind <;> simp [Call.draws, Call.opens, Call.closes]
    have hold : Call.draws q ⟨kind, id, .waiting p⟩ = 0 := by
      cases kind <;> rfl
    by_cases hqp : q = p
    · subst hqp
      simp only [full, hch, ch_take, if_true, Option.isSome_some, Option.isSome_none] at hq hnew ⊢
      grind
    · simp only [full, ch_take, if_neg hqp, if_neg (Ne.symm hqp)] at hq hnew ⊢
      omega
  closer q hq := by
    have hset := tally_calls_set (Call.closes q) ⟨kind, id, .took p m⟩ hcall
      (by cases kind <;> rfl)
    have := h.closer q (by simpa using hq)
    simp only [hset, this]
  running := h.running

theorem DrawnOnce.closeDone {b : GRPCBroker} {i p : Nat} {id : UInt32} {m : Letter}
    (h : DrawnOnce b) (hcall : b.calls[i]? = some ⟨.dial, id, .took p m⟩) :
    DrawnOnce { b with calls := b.calls.set i ⟨.dial, id, .used p m⟩
                       clientStreams := b.clientStreams.closeDone p } where
  once q := by
    have hset := tally_calls_set (Call.draws q) ⟨.dial, id, .used p m⟩ hcall
      (by simp [Call.draws, Call.opens, Call.closes])
    simpa only [hset, full, ch_closeDone] using h.once q
  closer q hq := by
    have hset := tally_set (Call.closes q) ⟨.dial, id, .used p m⟩ hcall
    simp only [Call.closes] at hset
    simp only [closed_closeDone] at hq ⊢
    by_cases hqp : q = p
    · simp only [hqp, if_true] at hset ⊢
      omega
    · simp only [hqp, false_and, if_false] at hq
      have := h.closer q hq
      omega
  running := h.running

/-- A `Dial` about to close a `doneCh` finds it open. -/
theorem DrawnOnce.doneCh_open {b : GRPCBroker} (h : DrawnOnce b) {i p : Nat} {id : UInt32}
    {m : Letter} (hcall : b.calls[i]? = some ⟨.dial, id, .took p m⟩) :
    b.clientStreams.closed p = false := by
  -- the call that closed it and this one would both have drawn from the entry
  by_contra hclosed
  have hone := h.once p
  have hcloses := h.closer p (by simpa using hclosed)
  have hopens := le_tally (Call.opens p) hcall
  have hsplit : tally (Call.draws p) b.calls =
      tally (Call.opens p) b.calls + tally (Call.closes p) b.calls := tally_add ..
  simp only [Call.opens, if_true] at hopens
  omega

theorem DrawnOnce.caller {b b' : GRPCBroker} {a : Act} (h : DrawnOnce b)
    (hmove : CallerMove b a b') : DrawnOnce b' := by
  cases hmove with
  | recv hcall hch => exact h.recv hcall hch
  | closeDone hcall hopen => exact h.closeDone hcall
  | @doubleClose i id p m hcall hclosed =>
      rw [h.doneCh_open hcall] at hclosed
      cases hclosed
  | dial =>
      exact h.frame (by simp [full]) (by simp) (by simp [Call.draws, Call.opens, Call.closes])
        (by simp [Call.closes]) rfl
  | fetch hcall =>
      exact h.frame (by simp [full]) (by simp)
        (fun p => tally_calls_set _ _ hcall (by simp [Call.draws, Call.opens, Call.closes]))
        (fun p => tally_calls_set _ _ hcall (by simp [Call.closes])) rfl
  | knock | knockFail =>
      exact h.frame (fun _ => Nat.le_refl _) (fun _ => rfl)
        (by simp [Call.draws, Call.opens, Call.closes]) (by simp [Call.closes]) rfl
  | acked hcall hcheck | refused hcall hcheck | expire hcall | reap hcall =>
      exact h.frame (fun _ => Nat.le_refl _) (fun _ => rfl)
        (fun p => tally_calls_set _ _ hcall (by simp [Call.draws, Call.opens, Call.closes]))
        (fun p => tally_calls_set _ _ hcall (by simp [Call.closes])) rfl
  | waitDone | waitExpire | clean =>
      exact h.frame (fun _ => Nat.le_refl _) (fun _ => rfl) (fun _ => rfl) (fun _ => rfl) rfl

theorem DrawnOnce.move {b b' : GRPCBroker} {a : Act} (hkey : Keyed b) (h : DrawnOnce b)
    (hguard : b.QueuesUnused a) (hmove : Move b a b') : DrawnOnce b' := by
  cases hmove with
  | caller hmove => exact h.caller hmove
  | accepter hmove =>
      obtain ⟨hstreams, -, hcalls, -, hpanicked⟩ := hmove.client_eq
      exact h.frame (by simp [full, hstreams]) (by simp [hstreams]) (by simp [hcalls])
        (by simp [hcalls]) hpanicked
  | run hmove =>
      cases hmove with
      | queueClient hrun hrole hch =>
          refine h.queue (lt_length_of_keyOf (hkey.offering _ _ hrun hrole)) ?_
          apply hguard
          simp [fills, hrun, hrole, hch]
      | lookupClient hrun hrole =>
          exact h.frame (by simp [full]) (by simp) (fun _ => rfl) (fun _ => rfl) rfl
      | _ => exact h.frame (fun _ => Nat.le_refl _) (fun _ => rfl) (fun _ => rfl) (fun _ => rfl) rfl

theorem drawnOnce_of_exec {as : List Act} {b : GRPCBroker}
    (hguard : Along step QueuesUnused init as) (hrun : exec step init as = some b) :
    Keyed b ∧ DrawnOnce b := by
  have hstep : ∀ s a s', Keyed s ∧ DrawnOnce s → QueuesUnused s a → step s a = some s' →
      Keyed s' ∧ DrawnOnce s' := by
    rintro s a s' ⟨hkey, honce⟩ hg hs
    obtain ⟨-, hmove⟩ := move_of_step hs
    exact ⟨hkey.move hmove, honce.move hkey hg hmove⟩
  exact exec_invariant hstep ⟨keyed_init, drawnOnce_init⟩ hguard hrun

end GRPCBroker

/-- **No double close.**  In every run of either broker in which `Run` never queues
    anything in an entry that an `Accept` or a `Dial` has already drawn from, every call
    about to close a `doneCh` finds it open, and the process does not crash. -/
theorem doneCh_closed_once {as : List MuxBroker.Act} {bs : List GRPCBroker.Act} {m : MuxBroker}
    {b : GRPCBroker} (hmux : Along MuxBroker.step MuxBroker.QueuesUnused .init as)
    (hm : exec MuxBroker.step .init as = some m)
    (hgrpc : Along GRPCBroker.step GRPCBroker.QueuesUnused .init bs)
    (hb : exec GRPCBroker.step .init bs = some b) :
    (m.panicked = false ∧ ∀ (i p c : Nat) (id : UInt32),
      m.accepts[i]? = some ⟨id, p, .took c⟩ → m.streams.closed p = false) ∧
    (b.panicked = false ∧ ∀ (i p : Nat) (id : UInt32) (l : Letter),
      b.calls[i]? = some ⟨.dial, id, .took p l⟩ → b.clientStreams.closed p = false) := by
  constructor
  · obtain ⟨-, -, honce⟩ := MuxBroker.drawnOnce_of_exec hmux hm
    exact ⟨honce.running, fun i p c id hcall => honce.doneCh_open hcall⟩
  · obtain ⟨-, honce⟩ := GRPCBroker.drawnOnce_of_exec hgrpc hb
    exact ⟨honce.running, fun i p id l hcall => honce.doneCh_open hcall⟩

namespace GRPCBroker

/-- A ConnInfo for id 7 arrives, and its `timeoutWait` starts. -/
def connInfoSeven : List Act :=
  [.run (.recv ⟨⟨7, "unix", "/tmp/plugin", none⟩, 0⟩), .run .lookup, .run .offer, .run .spawn]

/-- The `i`-th call is a `Dial(7)` that receives what is queued. -/
def dialSeven (i : Nat) : List Act := [.dial 7, .call i .recv, .call i .finish]

end GRPCBroker

theorem doneCh_closed_once_dialled :
    ∃ m b, exec MuxBroker.step .init (MuxBroker.queueSeven ++ MuxBroker.acceptSeven 0) = some m ∧
      exec GRPCBroker.step .init (GRPCBroker.connInfoSeven ++ GRPCBroker.dialSeven 0) = some b ∧
      (m.streams.closed 0 = true ∧ m.panicked = false) ∧
      b.clientStreams.closed 0 = true ∧ b.panicked = false :=
  have h := @doneCh_closed_once (MuxBroker.queueSeven ++ MuxBroker.acceptSeven 0)
    (GRPCBroker.connInfoSeven ++ GRPCBroker.dialSeven 0) _ _ (by decide) rfl (by decide) rfl
  ⟨_, _, rfl, rfl, ⟨rfl, h.1.1⟩, rfl, h.2.1⟩

/-- The second stream, or ConnInfo, for id 7 is queued in the entry of the first one, whose
    `doneCh` is closed and whose `timeoutWait` has not run yet.  The call that receives it
    closes `doneCh` again. -/
theorem second_use_closes_doneCh_twice :
    (Along MuxBroker.step MuxBroker.NonOverlapping .init
        (MuxBroker.queueSeven ++ MuxBroker.acceptSeven 0 ++ MuxBroker.queueSeven
          ++ [.accept 7, .call 1 .recv, .call 1 .closeDone]) ∧
      (exec MuxBroker.step .init
        (MuxBroker.queueSeven ++ MuxBroker.acceptSeven 0 ++ MuxBroker.queueSeven
          ++ [.accept 7, .call 1 .recv, .call 1 .closeDone])).any fun m => m.panicked) ∧
    (Along GRPCBroker.step GRPCBroker.NonOverlapping .init
        (GRPCBroker.connInfoSeven ++ GRPCBroker.dialSeven 0 ++ GRPCBroker.connInfoSeven
          ++ GRPCBroker.dialSeven 1) ∧
      (exec GRPCBroker.step .init
        (GRPCBroker.connInfoSeven ++ GRPCBroker.dialSeven 0 ++ GRPCBroker.connInfoSeven
          ++ GRPCBroker.dialSeven 1)).any fun b => b.panicked) := by
  decide

end GoPlugin
