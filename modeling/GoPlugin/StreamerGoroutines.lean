import GoPlugin.Streamer

/-!
# The goroutines of a streamer

`gRPCBrokerServer` and `gRPCBrokerClientImpl` with their channels: the `StartStream` calls, the
sender goroutine that each of them starts, and the `Send` calls.  A `Send` makes a reply channel,
gives it away with its message, and closes it when it returns; a sender goroutine writes to it
after `stream.Send`.

The two types differ in `StartStream`: the client opens the stream itself, which may fail, and
cancels its context in the end.
-/

namespace GoPlugin

open Tally LabelledSystem

universe u v

inductive StreamerKind where
  | server | client
deriving DecidableEq, Repr

/-- What `Send` returns: "broker closed", or what `stream.Send` returned. -/
inductive SendResult (ε : Type v) where
  | brokerClosed
  | streamed (err : Option ε)
deriving DecidableEq, Repr

/-- Where a `Send` call stands. -/
inductive CallPc (ε : Type v) where
  | offering                     -- in the select on `quit` and `send`
  | waiting                      -- in `<-ch`
  | closing (r : SendResult ε)   -- before the deferred `close(ch)`
  | returned (r : SendResult ε)
deriving DecidableEq, Repr

/-- A `Send` call with its reply channel, which has the number of the call. -/
structure StreamerCall (μ : Type u) (ε : Type v) where
  msg : μ
  pc : CallPc ε
  chClosed : Bool
deriving DecidableEq, Repr

/-- Where a sender goroutine stands. -/
inductive GoSenderPc (μ : Type u) (ε : Type v) where
  | selecting
  | sending (i : μ) (ch : Nat)               -- in `stream.Send(se.i)`
  | replying (ch : Nat) (err : Option ε)     -- in `se.ch <- err`
  | exited
deriving DecidableEq, Repr

structure GoSender (μ : Type u) (ε : Type v) where
  stream : Nat
  pc : GoSenderPc μ ε
deriving DecidableEq, Repr

/-- Where a `StartStream` call stands. -/
inductive StartStreamPc (μ : Type u) where
  | opening             -- in `s.client.StartStream`
  | receiving           -- in `stream.Recv`
  | offering (i : μ)    -- in the select on `doneCh`, `quit` and `recv`
  | closing             -- before the deferred `Close`
  | cancelling          -- before the deferred `cancelFunc`
  | returned
deriving DecidableEq, Repr

structure StartStreamCall (μ : Type u) where
  pc : StartStreamPc μ
  done : Bool            -- `doneCh` is closed
deriving DecidableEq, Repr

/-- A call of `stream.Send`: by which sender, with which message, and its result.  `ch` is the
    reply channel that came with the message. -/
structure StreamSend (μ : Type u) (ε : Type v) where
  sender : Nat
  ch : Nat
  msg : μ
  err : Option ε
deriving DecidableEq, Repr

/-- A message that passed between a sender and a call, in one direction or the other. -/
structure Passed where
  sender : Nat
  ch : Nat
deriving DecidableEq, Repr

/-- The streamer.  The fields from `taken` on are records of what has happened. -/
structure StreamerState (μ : Type u) (ε : Type v) where
  quit : Bool
  calls : List (StreamerCall μ ε)
  streams : List (StartStreamCall μ)
  senders : List (GoSender μ ε)
  panicked : Bool
  taken : List Passed
  sent : List (StreamSend μ ε)
  replied : List Passed
  received : List μ
deriving DecidableEq, Repr

namespace StreamerState

variable {μ : Type u} {ε : Type v}

def new : StreamerState μ ε where
  quit := false
  calls := []
  streams := []
  senders := []
  panicked := false
  taken := []
  sent := []
  replied := []
  received := []

inductive Act (μ : Type u) (ε : Type v) where
  | send (msg : μ)
  | refuse (c : Nat)                            -- `quit` is closed
  | hand (g c : Nat)                            -- sender `g` receives from `s.send`
  | streamSend (g : Nat) (err : Option ε)
  | reply (g : Nat)
  | closeCh (c : Nat)
  | exit (g : Nat)                              -- `quit` is closed, or the context is done
  | startStream
  | opened (st : Nat) (ok : Bool)
  | streamRecv (st : Nat) (msg : Option μ)      -- `none` is an error
  | deliver (st : Nat)                          -- to a `Recv` call
  | leave (st : Nat)
  | deferredClose (st : Nat)
  | cancel (st : Nat)
  | contextDone (st : Nat)
  | close
deriving DecidableEq, Repr

def setCall (s : StreamerState μ ε) (c : Nat) (x : StreamerCall μ ε) : StreamerState μ ε :=
  { s with calls := s.calls.set c x }

def setSender (s : StreamerState μ ε) (g : Nat) (y : GoSender μ ε) : StreamerState μ ε :=
  { s with senders := s.senders.set g y }

def setStream (s : StreamerState μ ε) (st : Nat) (z : StartStreamCall μ) : StreamerState μ ε :=
  { s with streams := s.streams.set st z }

/-- The `go` statement of the stream with this number. -/
def goSender (s : StreamerState μ ε) (st : Nat) : StreamerState μ ε :=
  { s with senders := s.senders ++ [⟨st, .selecting⟩] }

/-- The stream's context is done. -/
def streamDone (s : StreamerState μ ε) (st : Nat) : Bool :=
  match s.streams[st]? with
  | some z => z.done
  | none => false

def step (kind : StreamerKind) (s : StreamerState μ ε) : Act μ ε → Option (StreamerState μ ε)
  | .send msg => some { s with calls := s.calls ++ [⟨msg, .offering, false⟩] }
  | .refuse c =>
      match s.calls[c]? with
      | some ⟨msg, .offering, chClosed⟩ =>
          if s.quit then some (s.setCall c ⟨msg, .closing .brokerClosed, chClosed⟩) else none
      | _ => none
  | .hand g c =>
      match s.senders[g]?, s.calls[c]? with
      | some ⟨st, .selecting⟩, some ⟨msg, .offering, chClosed⟩ =>
          some { (s.setSender g ⟨st, .sending msg c⟩).setCall c ⟨msg, .waiting, chClosed⟩ with
            taken := s.taken ++ [⟨g, c⟩] }
      | _, _ => none
  | .streamSend g err =>
      match s.senders[g]? with
      | some ⟨st, .sending msg ch⟩ =>
          some { s.setSender g ⟨st, .replying ch err⟩ with sent := s.sent ++ [⟨g, ch, msg, err⟩] }
      | _ => none
  | .reply g =>
      match s.senders[g]? with
      | some ⟨st, .replying ch err⟩ =>
          match s.calls[ch]? with
          -- a send on a closed channel panics
          | some ⟨_, _, true⟩ => some { s with panicked := true }
          | some ⟨msg, .waiting, false⟩ =>
              some { (s.setSender g ⟨st, .selecting⟩).setCall ch
                  ⟨msg, .closing (.streamed err), false⟩ with
                replied := s.replied ++ [⟨g, ch⟩] }
          | _ => none
      | _ => none
  | .closeCh c =>
      match s.calls[c]? with
      | some ⟨_, .closing _, true⟩ => some { s with panicked := true }
      | some ⟨msg, .closing r, false⟩ => some (s.setCall c ⟨msg, .returned r, true⟩)
      | _ => none
  | .exit g =>
      match s.senders[g]? with
      | some ⟨st, .selecting⟩ =>
          if s.quit || s.streamDone st then some (s.setSender g ⟨st, .exited⟩) else none
      | _ => none
  | .startStream =>
      match kind with
      | .server =>
          some (goSender { s with streams := s.streams ++ [⟨.receiving, false⟩] } s.streams.length)
      | .client => some { s with streams := s.streams ++ [⟨.opening, false⟩] }
  | .opened st ok =>
      match s.streams[st]? with
      | some ⟨.opening, done⟩ =>
          if ok then some ((s.setStream st ⟨.receiving, done⟩).goSender st)
          else some (s.setStream st ⟨.closing, done⟩)
      | _ => none
  | .streamRecv st msg =>
      match s.streams[st]?, msg with
      | some ⟨.receiving, done⟩, some i => some (s.setStream st ⟨.offering i, done⟩)
      | some ⟨.receiving, done⟩, none => some (s.setStream st ⟨.closing, done⟩)
      | _, _ => none
  | .deliver st =>
      match s.streams[st]? with
      | some ⟨.offering i, done⟩ =>
          some { s.setStream st ⟨.receiving, done⟩ with received := s.received ++ [i] }
      | _ => none
  | .leave st =>
      match s.streams[st]? with
      | some ⟨.offering _, done⟩ =>
          if done || s.quit then some (s.setStream st ⟨.closing, done⟩) else none
      | _ => none
  | .deferredClose st =>
      match s.streams[st]?, kind with
      | some ⟨.closing, done⟩, .server =>
          some { s.setStream st ⟨.returned, done⟩ with quit := true }
      | some ⟨.closing, done⟩, .client =>
          some { s.setStream st ⟨.cancelling, done⟩ with quit := true }
      | _, _ => none
  | .cancel st =>
      match s.streams[st]? with
      | some ⟨.cancelling, _⟩ => some (s.setStream st ⟨.returned, true⟩)
      | _ => none
  | .contextDone st =>
      match s.streams[st]? with
      | some z => some (s.setStream st { z with done := true })
      | none => none
  | .close => some { s with quit := true }

/-! ### What one step can do -/

/-- What concerns neither the calls nor the senders. -/
structure Apart (s s' : StreamerState μ ε) : Prop where
  calls : s'.calls = s.calls
  panicked : s'.panicked = s.panicked
  taken : s'.taken = s.taken
  sent : s'.sent = s.sent
  replied : s'.replied = s.replied

inductive Move (s : StreamerState μ ε) : StreamerState μ ε → Prop where
  | send {msg} : Move s { s with calls := s.calls ++ [⟨msg, .offering, false⟩] }
  | refuse {c msg chClosed} (hc : s.calls[c]? = some ⟨msg, .offering, chClosed⟩) :
      Move s (s.setCall c ⟨msg, .closing .brokerClosed, chClosed⟩)
  | hand {g c st msg chClosed} (hg : s.senders[g]? = some ⟨st, .selecting⟩)
      (hc : s.calls[c]? = some ⟨msg, .offering, chClosed⟩) :
      Move s { (s.setSender g ⟨st, .sending msg c⟩).setCall c ⟨msg, .waiting, chClosed⟩ with
        taken := s.taken ++ [⟨g, c⟩] }
  | streamSend {g st msg ch err} (hg : s.senders[g]? = some ⟨st, .sending msg ch⟩) :
      Move s { s.setSender g ⟨st, .replying ch err⟩ with sent := s.sent ++ [⟨g, ch, msg, err⟩] }
  | reply {g st ch err msg} (hg : s.senders[g]? = some ⟨st, .replying ch err⟩)
      (hc : s.calls[ch]? = some ⟨msg, .waiting, false⟩) :
      Move s { (s.setSender g ⟨st, .selecting⟩).setCall ch
          ⟨msg, .closing (.streamed err), false⟩ with
        replied := s.replied ++ [⟨g, ch⟩] }
  | replyClosed {g ch : Nat} {st err msg pc} (hg : s.senders[g]? = some ⟨st, .replying ch err⟩)
      (hc : s.calls[ch]? = some ⟨msg, pc, true⟩) : Move s { s with panicked := true }
  | closeCh {c msg r} (hc : s.calls[c]? = some ⟨msg, .closing r, false⟩) :
      Move s (s.setCall c ⟨msg, .returned r, true⟩)
  | closeClosed {c : Nat} {msg r} (hc : s.calls[c]? = some ⟨msg, .closing r, true⟩) :
      Move s { s with panicked := true }
  | exit {g st} (hg : s.senders[g]? = some ⟨st, .selecting⟩) : Move s (s.setSender g ⟨st, .exited⟩)
  | spawn {s' : StreamerState μ ε} {st} (h : Apart s s')
      (hsenders : s'.senders = s.senders ++ [⟨st, .selecting⟩]) : Move s s'
  | apart {s' : StreamerState μ ε} (h : Apart s s') (hsenders : s'.senders = s.senders) : Move s s'

theorem move_of_step {kind : StreamerKind} {s s' : StreamerState μ ε} {a : Act μ ε}
    (h : s.step kind a = some s') : Move s s' := by
  cases a with
  | send msg =>
      cases h
      exact .send
  | refuse c =>
      simp only [step] at h
      split at h
      · split at h <;> cases h
        exact .refuse ‹_›
      · cases h
  | hand g c =>
      simp only [step] at h
      split at h <;> cases h
      exact .hand ‹_› ‹_›
  | streamSend g err =>
      simp only [step] at h
      split at h <;> cases h
      exact .streamSend ‹_›
  | reply g =>
      simp only [step] at h
      split at h
      · split at h <;> cases h
        · exact .replyClosed ‹_› ‹_›
        · exact .reply ‹_› ‹_›
      · cases h
  | closeCh c =>
      simp only [step] at h
      split at h <;> cases h
      · exact .closeClosed ‹_›
      · exact .closeCh ‹_›
  | exit g =>
      simp only [step] at h
      split at h
      · split at h <;> cases h
        exact .exit ‹_›
      · cases h
  | startStream =>
      simp only [step] at h
      split at h <;> cases h
      · exact .spawn ⟨rfl, rfl, rfl, rfl, rfl⟩ rfl
      · exact .apart ⟨rfl, rfl, rfl, rfl, rfl⟩ rfl
  | opened st ok =>
      simp only [step] at h
      split at h
      · split at h <;> cases h
        · exact .spawn ⟨rfl, rfl, rfl, rfl, rfl⟩ rfl
        · exact .apart ⟨rfl, rfl, rfl, rfl, rfl⟩ rfl
      · cases h
  | leave st =>
      simp only [step] at h
      split at h
      · split at h <;> cases h
        exact .apart ⟨rfl, rfl, rfl, rfl, rfl⟩ rfl
      · cases h
  | close =>
      cases h
      exact .apart ⟨rfl, rfl, rfl, rfl, rfl⟩ rfl
  | streamRecv | deliver | deferredClose | cancel | contextDone =>
      simp only [step] at h
      split at h <;> cases h <;> exact .apart ⟨rfl, rfl, rfl, rfl, rfl⟩ rfl

end StreamerState

/-! ### Every message that is taken is answered -/

section Weights

variable {μ : Type u} {ε : Type v}

/-- A sender has taken the message. -/
def CallPc.handed : CallPc ε → Nat
  | .waiting | .closing (.streamed _) | .returned (.streamed _) => 1
  | _ => 0

/-- The call has its answer. -/
def CallPc.answered : CallPc ε → Nat
  | .closing (.streamed _) | .returned (.streamed _) => 1
  | _ => 0

/-- The sender has the message of call `c`. -/
def GoSenderPc.holding (c : Nat) : GoSenderPc μ ε → Nat
  | .sending _ ch | .replying ch _ => if ch = c then 1 else 0
  | _ => 0

theorem GoSenderPc.holding_eq_one {c : Nat} (pc : GoSenderPc μ ε) (h : pc.holding c ≠ 0) :
    pc.holding c = 1 := by
  cases pc with
  | sending i ch | replying ch err =>
      rw [holding] at h ⊢
      split at h
      · next heq => rw [if_pos heq]
      · exact absurd rfl h
  | _ => exact absurd rfl h

/-- The sender is about to answer call `c`. -/
def GoSenderPc.replyingTo (c : Nat) : GoSenderPc μ ε → Nat
  | .replying ch _ => if ch = c then 1 else 0
  | _ => 0

def Passed.ofCall (c : Nat) (e : Passed) : Nat := if e.ch = c then 1 else 0

def StreamSend.forCall (c : Nat) (e : StreamSend μ ε) : Nat := if e.ch = c then 1 else 0

end Weights

namespace StreamerState

variable {μ : Type u} {ε : Type v}

/-- The books of every call: a message that was taken is with one sender or answered, and what was
    sent on a stream is about to be answered or answered. -/
structure Balanced (s : StreamerState μ ε) : Prop where
  taken : ∀ c, tally (Passed.ofCall c) s.taken = weightAt (fun x => x.pc.handed) s.calls c
  replied : ∀ c, tally (Passed.ofCall c) s.replied = weightAt (fun x => x.pc.answered) s.calls c
  held : ∀ c, tally (Passed.ofCall c) s.taken =
    tally (fun y => y.pc.holding c) s.senders + tally (Passed.ofCall c) s.replied
  sent : ∀ c, tally (StreamSend.forCall c) s.sent =
    tally (fun y => y.pc.replyingTo c) s.senders + tally (Passed.ofCall c) s.replied

theorem balanced_new : Balanced (new : StreamerState μ ε) := by
  constructor <;> intro c <;> rfl

section Balance

variable {s s' : StreamerState μ ε}

/-- What the two records say of a call that a sender takes or answers. -/
theorem ofCall_add_weightAt {f : StreamerCall μ ε → Nat} {g c : Nat} {x x' : StreamerCall μ ε}
    (hc : s.calls[c]? = some x) (hx : f x = 0) (hx' : f x' = 1) {l : List Passed} {c' : Nat}
    (h : tally (Passed.ofCall c') l = weightAt f s.calls c') :
    tally (Passed.ofCall c') (l ++ [⟨g, c⟩]) = weightAt f (s.calls.set c x') c' := by
  rw [weightAt_set f x' hc, tally_append, tally_cons, tally_nil, h, Passed.ofCall]
  split
  · next heq =>
      subst heq
      rw [weightAt_of_some f hc, hx, hx']
  · rfl

theorem Balanced.hand (h : Balanced s) {g c st : Nat} {msg : μ} {chClosed : Bool}
    (hg : s.senders[g]? = some ⟨st, .selecting⟩)
    (hc : s.calls[c]? = some ⟨msg, .offering, chClosed⟩) :
    Balanced { (s.setSender g ⟨st, .sending msg c⟩).setCall c ⟨msg, .waiting, chClosed⟩ with
      taken := s.taken ++ [⟨g, c⟩] } where
  taken c' := ofCall_add_weightAt hc rfl rfl (h.taken c')
  replied c' :=
    (h.replied c').trans (weightAt_set_of_eq ⟨msg, .waiting, chClosed⟩ hc rfl c').symm
  held c' := by
    have hset : tally _ _ + 0 = tally _ _ + Passed.ofCall c' ⟨g, c⟩ :=
      tally_set (fun y : GoSender μ ε => y.pc.holding c') ⟨st, .sending msg c⟩ hg
    have hheld := h.held c'
    dsimp only [StreamerState.setCall, setSender]
    rw [tally_append, tally_cons, tally_nil]
    omega
  sent c' := by
    have hset : tally _ _ + 0 = tally _ _ + 0 :=
      tally_set (fun y : GoSender μ ε => y.pc.replyingTo c') ⟨st, .sending msg c⟩ hg
    have hsent := h.sent c'
    dsimp only [StreamerState.setCall, setSender]
    omega

theorem Balanced.streamSend (h : Balanced s) {g st ch : Nat} {msg : μ} {err : Option ε}
    (hg : s.senders[g]? = some ⟨st, .sending msg ch⟩) :
    Balanced { s.setSender g ⟨st, .replying ch err⟩ with
      sent := s.sent ++ [⟨g, ch, msg, err⟩] } where
  taken := h.taken
  replied := h.replied
  held c' := by
    have hset : tally _ _ + Passed.ofCall c' ⟨g, ch⟩ = tally _ _ + Passed.ofCall c' ⟨g, ch⟩ :=
      tally_set (fun y : GoSender μ ε => y.pc.holding c') ⟨st, .replying ch err⟩ hg
    have hheld := h.held c'
    dsimp only [setSender]
    omega
  sent c' := by
    have hset : tally _ _ + 0 = tally _ _ + StreamSend.forCall c' ⟨g, ch, msg, err⟩ :=
      tally_set (fun y : GoSender μ ε => y.pc.replyingTo c') ⟨st, .replying ch err⟩ hg
    have hsent := h.sent c'
    dsimp only [setSender]
    rw [tally_append, tally_cons, tally_nil]
    omega

theorem Balanced.reply (h : Balanced s) {g st ch : Nat} {msg : μ} {err : Option ε}
    (hg : s.senders[g]? = some ⟨st, .replying ch err⟩)
    (hc : s.calls[ch]? = some ⟨msg, .waiting, false⟩) :
    Balanced { (s.setSender g ⟨st, .selecting⟩).setCall ch
        ⟨msg, .closing (.streamed err), false⟩ with
      replied := s.replied ++ [⟨g, ch⟩] } where
  taken c' := (h.taken c').trans
    (weightAt_set_of_eq ⟨msg, .closing (.streamed err), false⟩ hc rfl c').symm
  replied c' := ofCall_add_weightAt hc rfl rfl (h.replied c')
  held c' := by
    have hset : tally _ _ + Passed.ofCall c' ⟨g, ch⟩ = tally _ _ + 0 :=
      tally_set (fun y : GoSender μ ε => y.pc.holding c') ⟨st, .selecting⟩ hg
    have hheld := h.held c'
    dsimp only [StreamerState.setCall, setSender]
    rw [tally_append, tally_cons, tally_nil]
    omega
  sent c' := by
    have hset : tally _ _ + Passed.ofCall c' ⟨g, ch⟩ = tally _ _ + 0 :=
      tally_set (fun y : GoSender μ ε => y.pc.replyingTo c') ⟨st, .selecting⟩ hg
    have hsent := h.sent c'
    dsimp only [StreamerState.setCall, setSender]
    rw [tally_append, tally_cons, tally_nil]
    omega

/-- A call in the same position towards its sender can take the place of another one. -/
theorem Balanced.setCall (h : Balanced s) {c : Nat} {x x' : StreamerCall μ ε}
    (hc : s.calls[c]? = some x) (hhanded : x'.pc.handed = x.pc.handed)
    (hanswered : x'.pc.answered = x.pc.answered) : Balanced (s.setCall c x') where
  taken c' := (h.taken c').trans (weightAt_set_of_eq x' hc hhanded c').symm
  replied c' := (h.replied c').trans (weightAt_set_of_eq x' hc hanswered c').symm
  held := h.held
  sent := h.sent

/-- A sender without a message does not count. -/
theorem Balanced.of_senders (h : Balanced s) (happart : Apart s s')
    (hholding : ∀ c, tally (fun y : GoSender μ ε => y.pc.holding c) s'.senders =
      tally (fun y => y.pc.holding c) s.senders)
    (hreplying : ∀ c, tally (fun y : GoSender μ ε => y.pc.replyingTo c) s'.senders =
      tally (fun y => y.pc.replyingTo c) s.senders) : Balanced s' where
  taken c := by rw [happart.taken, happart.calls, h.taken c]
  replied c := by rw [happart.replied, happart.calls, h.replied c]
  held c := by rw [happart.taken, happart.replied, hholding, h.held c]
  sent c := by rw [happart.sent, happart.replied, hreplying, h.sent c]

theorem Balanced.move (h : Balanced s) (hmove : Move s s') : Balanced s' := by
  cases hmove with
  | send =>
      refine ⟨fun c => ?_, fun c => ?_, h.held, h.sent⟩
      · rw [weightAt_concat, ← h.taken c]
        split <;> rfl
      · rw [weightAt_concat, ← h.replied c]
        split <;> rfl
  | refuse hc => exact h.setCall hc rfl rfl
  | @closeCh c msg r hc =>
      cases r with
      | brokerClosed => exact h.setCall hc rfl rfl
      | streamed err => exact h.setCall hc rfl rfl
  | hand hg hc => exact h.hand hg hc
  | streamSend hg => exact h.streamSend hg
  | reply hg hc => exact h.reply hg hc
  | replyClosed | closeClosed => exact ⟨h.taken, h.replied, h.held, h.sent⟩
  | @exit g st hg =>
      refine h.of_senders ⟨rfl, rfl, rfl, rfl, rfl⟩ ?_ ?_
      · intro c
        exact tally_set (fun y : GoSender μ ε => y.pc.holding c) ⟨st, .exited⟩ hg
      · intro c
        exact tally_set (fun y : GoSender μ ε => y.pc.replyingTo c) ⟨st, .exited⟩ hg
  | spawn happart hsenders =>
      refine h.of_senders happart ?_ ?_ <;> intro c <;> rw [hsenders, tally_append] <;> rfl
  | apart happart hsenders =>
      refine h.of_senders happart ?_ ?_ <;> intro c <;> rw [hsenders]

end Balance

/-! ### What is sent is what the call gave -/

/-- A reply channel is closed with the return of its call.  A sender has the message of the call
    whose channel it has, what a call is answered is the result for its message, and who has taken
    a message has answered or still has it. -/
structure Faithful (s : StreamerState μ ε) : Prop where
  channel : ∀ (c : Nat) x, s.calls[c]? = some x → (x.chClosed = true ↔ ∃ r, x.pc = .returned r)
  sending : ∀ (g : Nat) st msg ch, s.senders[g]? = some ⟨st, .sending msg ch⟩ →
    ∃ x, s.calls[ch]? = some x ∧ x.msg = msg
  replying : ∀ (g : Nat) st ch err, s.senders[g]? = some ⟨st, .replying ch err⟩ →
    ∃ x, s.calls[ch]? = some x ∧ ⟨g, ch, x.msg, err⟩ ∈ s.sent
  answered : ∀ (c : Nat) x err, s.calls[c]? = some x →
    x.pc = .closing (.streamed err) ∨ x.pc = .returned (.streamed err) →
      ∃ g, ⟨g, c, x.msg, err⟩ ∈ s.sent
  pending : ∀ e ∈ s.taken, e ∈ s.replied ∨
    ∃ y, s.senders[e.sender]? = some y ∧ y.pc.holding e.ch = 1

theorem faithful_new : Faithful (new : StreamerState μ ε) := by
  constructor <;> simp [new]

section Faith

variable {s s' : StreamerState μ ε}

/-- Calls keep their message. -/
theorem Move.calls_next (h : Move s s') {c : Nat} {x : StreamerCall μ ε}
    (hx : s.calls[c]? = some x) : ∃ x', s'.calls[c]? = some x' ∧ x'.msg = x.msg := by
  have hset : ∀ {i : Nat} {y y' : StreamerCall μ ε}, s.calls[i]? = some y → y'.msg = y.msg →
      ∃ x', (s.calls.set i y')[c]? = some x' ∧ x'.msg = x.msg := by
    intro i y y' hi hmsg
    rcases getElem?_set_of_some hx i y' with ⟨rfl, hnew⟩ | ⟨-, hold⟩
    · cases hi.symm.trans hx
      exact ⟨y', hnew, hmsg⟩
    · exact ⟨x, hold, rfl⟩
  cases h with
  | send => exact ⟨x, getElem?_concat_of_some hx _, rfl⟩
  | refuse hc | closeCh hc | hand _ hc | reply _ hc => exact hset hc rfl
  | spawn happart | apart happart =>
      rw [happart.calls]
      exact ⟨x, hx, rfl⟩
  | _ => exact ⟨x, hx, rfl⟩

/-- The records grow. -/
theorem Move.sent_subset (h : Move s s') : s.sent ⊆ s'.sent := by
  cases h with
  | streamSend => exact List.subset_append_left _ _
  | spawn happart | apart happart => rw [happart.sent]; exact List.Subset.refl _
  | _ => exact List.Subset.refl _

theorem Move.replied_subset (h : Move s s') : s.replied ⊆ s'.replied := by
  cases h with
  | reply => exact List.subset_append_left _ _
  | spawn happart | apart happart => rw [happart.replied]; exact List.Subset.refl _
  | _ => exact List.Subset.refl _

/-- How a `Send` call goes on. -/
inductive CallMove (s : StreamerState μ ε) (c : Nat) :
    StreamerCall μ ε → StreamerCall μ ε → Prop where
  | refuse {msg chClosed} :
      CallMove s c ⟨msg, .offering, chClosed⟩ ⟨msg, .closing .brokerClosed, chClosed⟩
  | hand {msg chClosed} : CallMove s c ⟨msg, .offering, chClosed⟩ ⟨msg, .waiting, chClosed⟩
  | reply {g : Nat} {st err msg} (hg : s.senders[g]? = some ⟨st, .replying c err⟩) :
      CallMove s c ⟨msg, .waiting, false⟩ ⟨msg, .closing (.streamed err), false⟩
  | close {msg r} : CallMove s c ⟨msg, .closing r, false⟩ ⟨msg, .returned r, true⟩

theorem Move.calls_cases (h : Move s s') {c : Nat} {x' : StreamerCall μ ε}
    (hx' : s'.calls[c]? = some x') :
    s.calls[c]? = some x' ∨ (∃ msg, x' = ⟨msg, .offering, false⟩) ∨
      ∃ x, s.calls[c]? = some x ∧ CallMove s c x x' := by
  have hset : ∀ {i : Nat} {y y' : StreamerCall μ ε}, s.calls[i]? = some y →
      CallMove s i y y' → (s.calls.set i y')[c]? = some x' →
      s.calls[c]? = some x' ∨ (∃ msg, x' = ⟨msg, .offering, false⟩) ∨
        ∃ x, s.calls[c]? = some x ∧ CallMove s c x x' := by
    intro i y y' hi hmove hc
    rcases getElem?_set_cases hc with ⟨rfl, rfl⟩ | ⟨-, hold⟩
    · exact Or.inr (Or.inr ⟨y, hi, hmove⟩)
    · exact Or.inl hold
  cases h with
  | @send msg =>
      rcases getElem?_concat_cases hx' with hold | ⟨-, rfl⟩
      · exact Or.inl hold
      · exact Or.inr (Or.inl ⟨msg, rfl⟩)
  | refuse hc => exact hset hc .refuse hx'
  | hand _ hc => exact hset hc .hand hx'
  | reply hg hc => exact hset hc (.reply hg) hx'
  | closeCh hc => exact hset hc .close hx'
  | spawn happart | apart happart => exact Or.inl (happart.calls ▸ hx')
  | _ => exact Or.inl hx'

/-- How a sender goroutine goes on. -/
inductive SenderMove (s s' : StreamerState μ ε) (g : Nat) : GoSender μ ε → GoSender μ ε → Prop where
  | hand {st c msg} (hc : ∃ x, s.calls[c]? = some x ∧ x.msg = msg) :
      SenderMove s s' g ⟨st, .selecting⟩ ⟨st, .sending msg c⟩
  | streamSend {st msg ch err} (hsent : ⟨g, ch, msg, err⟩ ∈ s'.sent) :
      SenderMove s s' g ⟨st, .sending msg ch⟩ ⟨st, .replying ch err⟩
  | reply {st ch err} (hreplied : ⟨g, ch⟩ ∈ s'.replied) :
      SenderMove s s' g ⟨st, .replying ch err⟩ ⟨st, .selecting⟩
  | exit {st} : SenderMove s s' g ⟨st, .selecting⟩ ⟨st, .exited⟩

/-- A sender is a new one, or it is where it was, or it has gone on. -/
theorem Move.senders_cases (h : Move s s') {g : Nat} {y' : GoSender μ ε}
    (hy' : s'.senders[g]? = some y') :
    (s.senders[g]? = none ∧ y'.pc = .selecting) ∨
      ∃ y, s.senders[g]? = some y ∧ (y' = y ∨ SenderMove s s' g y y') := by
  have hset : ∀ {i : Nat} {z z' : GoSender μ ε}, s.senders[i]? = some z →
      SenderMove s s' i z z' → (s.senders.set i z')[g]? = some y' →
      (s.senders[g]? = none ∧ y'.pc = .selecting) ∨
        ∃ y, s.senders[g]? = some y ∧ (y' = y ∨ SenderMove s s' g y y') := by
    intro i z z' hi hmove hg
    rcases getElem?_set_cases hg with ⟨rfl, rfl⟩ | ⟨-, hold⟩
    · exact Or.inr ⟨z, hi, Or.inr hmove⟩
    · exact Or.inr ⟨y', hold, Or.inl rfl⟩
  cases h with
  | hand hg hc => exact hset hg (.hand ⟨_, hc, rfl⟩) hy'
  | streamSend hg => exact hset hg (.streamSend (by simp)) hy'
  | reply hg hc => exact hset hg (.reply (by simp)) hy'
  | exit hg => exact hset hg .exit hy'
  | spawn happart hsenders =>
      rw [hsenders] at hy'
      rcases getElem?_concat_cases hy' with hold | ⟨rfl, rfl⟩
      · exact Or.inr ⟨y', hold, Or.inl rfl⟩
      · exact Or.inl ⟨List.getElem?_eq_none (Nat.le_refl _), rfl⟩
  | apart happart hsenders => exact Or.inr ⟨y', hsenders ▸ hy', Or.inl rfl⟩
  | _ => exact Or.inr ⟨y', hy', Or.inl rfl⟩

theorem Move.length_senders (h : Move s s') : s.senders.length ≤ s'.senders.length := by
  cases h with
  | hand | streamSend | reply | exit => simp [setCall, setSender]
  | spawn happart hsenders => simp [hsenders]
  | apart happart hsenders => exact Nat.le_of_eq (congrArg List.length hsenders.symm)
  | _ => exact Nat.le_refl _

/-- A sender does not go away. -/
theorem Move.senders_next (h : Move s s') {g : Nat} {y : GoSender μ ε}
    (hy : s.senders[g]? = some y) :
    ∃ y', s'.senders[g]? = some y' ∧ (y' = y ∨ SenderMove s s' g y y') := by
  obtain ⟨hlt, -⟩ := List.getElem?_eq_some_iff.mp hy
  have hy' := List.getElem?_eq_getElem (Nat.lt_of_lt_of_le hlt h.length_senders)
  refine ⟨_, hy', ?_⟩
  rcases h.senders_cases hy' with ⟨hnone, -⟩ | ⟨z, hz, hmove⟩
  · cases hnone.symm.trans hy
  · cases hz.symm.trans hy
    exact hmove

/-- Who takes a message has it. -/
theorem Move.taken_cases (h : Move s s') {e : Passed} (he : e ∈ s'.taken) :
    e ∈ s.taken ∨ ∃ y, s'.senders[e.sender]? = some y ∧ y.pc.holding e.ch = 1 := by
  cases h with
  | @hand g c st msg chClosed hg hc =>
      rcases List.mem_append.mp he with hold | hnew
      · exact Or.inl hold
      · obtain ⟨hlt, -⟩ := List.getElem?_eq_some_iff.mp hg
        cases List.mem_singleton.mp hnew
        exact Or.inr ⟨_, List.getElem?_set_self hlt, if_pos rfl⟩
  | spawn happart | apart happart => exact Or.inl (happart.taken ▸ he)
  | _ => exact Or.inl he

theorem Faithful.move (h : Faithful s) (hmove : Move s s') : Faithful s' where
  channel c x hx := by
    rcases hmove.calls_cases hx with hold | ⟨msg, rfl⟩ | ⟨x₀, hx₀, hcall⟩
    · exact h.channel c x hold
    · simp
    · have hchannel := h.channel c x₀ hx₀
      cases hcall with
      | refuse | hand => simpa using hchannel
      | reply | close => simp
  sending g st msg ch hg := by
    rcases hmove.senders_cases hg with ⟨-, hpc⟩ | ⟨y, hy, rfl | hsender⟩
    · cases hpc
    · obtain ⟨x, hx, hmsg⟩ := h.sending g st msg ch hy
      obtain ⟨x', hx', hkept⟩ := hmove.calls_next hx
      exact ⟨x', hx', hkept.trans hmsg⟩
    · cases hsender with
      | hand hc =>
          obtain ⟨x, hx, hmsg⟩ := hc
          obtain ⟨x', hx', hkept⟩ := hmove.calls_next hx
          exact ⟨x', hx', hkept.trans hmsg⟩
  replying g st ch err hg := by
    rcases hmove.senders_cases hg with ⟨-, hpc⟩ | ⟨y, hy, rfl | hsender⟩
    · cases hpc
    · obtain ⟨x, hx, hsent⟩ := h.replying g st ch err hy
      obtain ⟨x', hx', hkept⟩ := hmove.calls_next hx
      exact ⟨x', hx', hkept ▸ hmove.sent_subset hsent⟩
    · cases hsender with
      | streamSend hsent =>
          obtain ⟨x, hx, rfl⟩ := h.sending g st _ ch hy
          obtain ⟨x', hx', hkept⟩ := hmove.calls_next hx
          exact ⟨x', hx', hkept ▸ hsent⟩
  answered c x err hx hpc := by
    rcases hmove.calls_cases hx with hold | ⟨msg, rfl⟩ | ⟨x₀, hx₀, hcall⟩
    · obtain ⟨g, hsent⟩ := h.answered c x err hold hpc
      exact ⟨g, hmove.sent_subset hsent⟩
    · rcases hpc with hpc | hpc <;> cases hpc
    · cases hcall with
      | refuse | hand => rcases hpc with hpc | hpc <;> cases hpc
      | @reply g st err' msg hg =>
          obtain ⟨x, hx', hsent⟩ := h.replying g st c err' hg
          cases hx₀.symm.trans hx'
          rcases hpc with hpc | hpc
          · cases hpc
            exact ⟨g, hmove.sent_subset hsent⟩
          · cases hpc
      | close =>
          rcases hpc with hpc | hpc
          · cases hpc
          · cases hpc
            obtain ⟨g, hsent⟩ := h.answered c _ err hx₀ (Or.inl rfl)
            exact ⟨g, hmove.sent_subset hsent⟩
  pending e he := by
    rcases hmove.taken_cases he with hold | hholding
    · rcases h.pending e hold with hreplied | ⟨y, hy, hholding⟩
      · exact Or.inl (hmove.replied_subset hreplied)
      · obtain ⟨y', hy', rfl | hsender⟩ := hmove.senders_next hy
        · exact Or.inr ⟨y', hy', hholding⟩
        · cases hsender with
          | hand | exit => cases hholding
          | streamSend => exact Or.inr ⟨_, hy', hholding⟩
          | @reply st ch err hreplied =>
              have hch : ch = e.ch := by
                by_contra hne
                rw [GoSenderPc.holding, if_neg hne] at hholding
                cases hholding
              subst hch
              exact Or.inl hreplied
    · exact Or.inr hholding

end Faith

/-! ### The rendezvous -/

/-- The invariant of every run. -/
structure Sound (s : StreamerState μ ε) : Prop extends Balanced s, Faithful s where
  safe : s.panicked = false

section Run

variable {s s' : StreamerState μ ε}

/-- Whoever has the message of a call finds the call waiting. -/
theorem Sound.waiting_of_holding (h : Sound s) {g c : Nat} {y : GoSender μ ε}
    (hy : s.senders[g]? = some y) (hholding : y.pc.holding c = 1) :
    ∃ x, s.calls[c]? = some x ∧ x.pc = .waiting := by
  have hle := le_tally (fun y : GoSender μ ε => y.pc.holding c) hy
  have htaken := h.taken c
  have hreplied := h.replied c
  have hheld := h.held c
  cases hx : s.calls[c]? with
  | none =>
      rw [weightAt, hx] at htaken
      dsimp only at hle htaken
      omega
  | some x =>
      refine ⟨x, rfl, ?_⟩
      rw [weightAt_of_some _ hx] at htaken hreplied
      obtain ⟨msg, pc, chClosed⟩ := x
      cases pc with
      | waiting => rfl
      | offering =>
          simp only [CallPc.handed] at htaken
          omega
      | closing r | returned r =>
          cases r <;> simp only [CallPc.handed, CallPc.answered] at htaken hreplied <;> omega

theorem Sound.move (h : Sound s) (hmove : Move s s') : Sound s' := by
  refine ⟨h.toBalanced.move hmove, h.toFaithful.move hmove, ?_⟩
  cases hmove with
  | @replyClosed g ch st err msg pc hg hc =>
      obtain ⟨x, hx, hwaiting⟩ := h.waiting_of_holding hg (if_pos rfl)
      cases hc.symm.trans hx
      obtain ⟨r, hr⟩ := (h.channel ch _ hc).mp rfl
      cases hwaiting.symm.trans hr
  | @closeClosed c msg r hc =>
      obtain ⟨r', hr'⟩ := (h.channel c _ hc).mp rfl
      cases hr'
  | spawn happart | apart happart => exact happart.panicked.trans h.safe
  | _ => exact h.safe

theorem sound_new : Sound (new : StreamerState μ ε) := ⟨balanced_new, faithful_new, rfl⟩

theorem sound_of_exec {kind : StreamerKind} {run : List (Act μ ε)}
    (h : exec (step kind) new run = some s) : Sound s :=
  exec_invariant_of_step (fun _ _ _ hs hstep => hs.move (move_of_step hstep)) sound_new h

/-- What `Send` is for. -/
structure Rendezvous (s : StreamerState μ ε) : Prop where
  /-- A call that was refused has given its message to nobody. -/
  refused : ∀ (c : Nat) x, s.calls[c]? = some x → x.pc = .returned .brokerClosed →
    (∀ e ∈ s.taken, e.ch ≠ c) ∧ ∀ e ∈ s.sent, e.ch ≠ c
  /-- Any other call returns the result of the one `stream.Send` that was made with its message. -/
  streamed : ∀ (c : Nat) x err, s.calls[c]? = some x → x.pc = .returned (.streamed err) →
    ∃ g, s.sent.filter (fun e => e.ch = c) = [⟨g, c, x.msg, err⟩]
  /-- No message is handed over twice. -/
  once : ∀ c, (s.taken.filter fun e => e.ch = c).length ≤ 1 ∧
    (s.sent.filter fun e => e.ch = c).length ≤ 1
  /-- Nobody sends on a closed reply channel or closes one again. -/
  safe : s.panicked = false
  /-- A sender does not exit before it has answered. -/
  answers : ∀ (g : Nat) st, s.senders[g]? = some ⟨st, .exited⟩ → ∀ e ∈ s.taken, e.sender = g →
    e ∈ s.replied
  /-- A call that waits has a sender that will answer it. -/
  served : ∀ (c : Nat) x, s.calls[c]? = some x → x.pc = .waiting →
    ∃ (g : Nat) (y : GoSender μ ε), s.senders[g]? = some y ∧ y.pc.holding c = 1

theorem length_taken (s : StreamerState μ ε) (c : Nat) :
    (s.taken.filter fun e => e.ch = c).length = tally (Passed.ofCall c) s.taken :=
  (tally_ite (fun e : Passed => e.ch = c) s.taken).symm

theorem length_sent (s : StreamerState μ ε) (c : Nat) :
    (s.sent.filter fun e => e.ch = c).length = tally (StreamSend.forCall c) s.sent :=
  (tally_ite (fun e : StreamSend μ ε => e.ch = c) s.sent).symm

/-- What was sent was taken before. -/
theorem Sound.sent_le_taken (h : Sound s) (c : Nat) :
    tally (StreamSend.forCall c) s.sent ≤ tally (Passed.ofCall c) s.taken := by
  have hle : tally (fun y : GoSender μ ε => y.pc.replyingTo c) s.senders ≤
      tally (fun y => y.pc.holding c) s.senders := by
    refine tally_le_tally fun y _ => ?_
    obtain ⟨st, pc⟩ := y
    cases pc with
    | replying => exact Nat.le_refl _
    | _ => exact Nat.zero_le _
  have hsent := h.sent c
  have hheld := h.held c
  omega

theorem Sound.taken_le_one (h : Sound s) (c : Nat) :
    tally (Passed.ofCall c) s.taken ≤ 1 := by
  rw [h.taken c, weightAt]
  split
  · next x _ =>
      obtain ⟨msg, pc, chClosed⟩ := x
      cases pc with
      | closing r | returned r => cases r <;> simp [CallPc.handed]
      | _ => simp [CallPc.handed]
  · exact Nat.zero_le 1

theorem Sound.rendezvous (h : Sound s) : Rendezvous s where
  refused c x hx hpc := by
    have htaken := h.taken c
    rw [weightAt_of_some _ hx, hpc, ← length_taken] at htaken
    have hsent := h.sent_le_taken c
    rw [← length_sent, ← length_taken, htaken] at hsent
    constructor
    · intro e he
      simpa using List.filter_eq_nil_iff.mp (List.length_eq_zero_iff.mp htaken) e he
    · intro e he
      simpa using List.filter_eq_nil_iff.mp (List.length_eq_zero_iff.mp
        (Nat.le_zero.mp hsent)) e he
  streamed c x err hx hpc := by
    obtain ⟨g, hmem⟩ := h.answered c x err hx (Or.inr hpc)
    have hfilter : ⟨g, c, x.msg, err⟩ ∈ s.sent.filter fun e => e.ch = c :=
      List.mem_filter.mpr ⟨hmem, by simp⟩
    have hle : (s.sent.filter fun e => e.ch = c).length ≤ 1 := by
      rw [length_sent]
      exact Nat.le_trans (h.sent_le_taken c) (h.taken_le_one c)
    have hpos := List.length_pos_of_mem hfilter
    obtain ⟨e, he⟩ := List.length_eq_one_iff.mp (Nat.le_antisymm hle hpos)
    rw [he] at hfilter ⊢
    exact ⟨g, by rw [List.mem_singleton.mp hfilter]⟩
  once c := by
    rw [length_taken, length_sent]
    exact ⟨h.taken_le_one c, Nat.le_trans (h.sent_le_taken c) (h.taken_le_one c)⟩
  safe := h.safe
  answers g st hg e he hsender := by
    rcases h.pending e he with hreplied | ⟨y, hy, hholding⟩
    · exact hreplied
    · rw [hsender] at hy
      cases hg.symm.trans hy
      cases hholding
  served c x hx hpc := by
    have htaken := h.taken c
    have hreplied := h.replied c
    have hheld := h.held c
    rw [weightAt_of_some _ hx, hpc] at htaken hreplied
    simp only [CallPc.handed, CallPc.answered] at htaken hreplied
    have hne : tally (fun y : GoSender μ ε => y.pc.holding c) s.senders ≠ 0 := by omega
    rw [Ne, tally_eq_zero, not_forall] at hne
    obtain ⟨y, hy⟩ := hne
    rw [Classical.not_imp] at hy
    obtain ⟨g, hg⟩ := List.mem_iff_getElem?.mp hy.1
    exact ⟨g, y, hg, y.pc.holding_eq_one hy.2⟩

/-- **`Send` is a rendezvous.**  For both types, with any number of `Send` calls, streams and sender
    goroutines, and in any interleaving with `Close` and the ends of streams: a call that returns
    was refused with its message in nobody's hands, or it returns the result of the one
    `stream.Send` with its message; no message is handed over twice, nobody writes to a closed
    reply channel, and no sender leaves a message that it has taken unanswered. -/
theorem send_rendezvous (kind : StreamerKind) (run : List (Act μ ε))
    (h : exec (step kind) new run = some s) : Rendezvous s :=
  (sound_of_exec h).rendezvous

/-- Two calls on a client, of which one is refused, and a sender that leaves afterwards. -/
def clientRun : List (Act String String) :=
  [.startStream, .opened 0 true, .send "a", .send "b", .hand 0 1, .contextDone 0,
    .streamSend 0 (some "EOF"), .close, .refuse 0, .reply 0, .exit 0, .closeCh 1, .closeCh 0]

theorem send_rendezvous_client :
    ∃ s, exec (step .client) new clientRun = some s ∧
      s.calls = [⟨"a", .returned .brokerClosed, true⟩,
        ⟨"b", .returned (.streamed (some "EOF")), true⟩] ∧ Rendezvous s :=
  ⟨_, rfl, rfl, send_rendezvous .client clientRun rfl⟩

end Run

end StreamerState

end GoPlugin
