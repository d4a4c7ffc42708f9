import GoPlugin.LabelledSystem
import GoPlugin.Tally

/-!
# The streamers of the gRPC broker (`gRPCBrokerServer`, `gRPCBrokerClientImpl`)

`Send` offers its message, with a reply channel, to the sender goroutines that `StartStream`
starts.  Both channels are unbuffered, so a message passes in one step from the call to the
goroutine, and the result of `stream.Send` passes back in one.  The two types have the same code
for all that.

The receiving half of `StartStream` hands messages to the broker's `Run` and is modelled with it.
-/

namespace GoPlugin

open Tally LabelledSystem

universe u

/-- Where a `Send` call stands. -/
inductive SendPc where
  | offering             -- in the select on `quit` and `send`
  | handed               -- in `<-ch`
  | returned (ok : Bool)
  | closed               -- returned "broker closed"
deriving DecidableEq, Repr

structure SendCall (μ : Type u) where
  msg : μ
  pc : SendPc
deriving DecidableEq, Repr

/-- Where a sender goroutine stands. -/
inductive SenderPc where
  | selecting
  | sending (c : Nat)                -- in `stream.Send` with the message of call `c`
  | replying (c : Nat) (ok : Bool)   -- before `se.ch <- err`
  | exited
deriving DecidableEq, Repr

/-- `sent` records the calls of `stream.Send`: whose message, and the result. -/
structure Streamer (μ : Type u) where
  quit : Bool
  sends : List (SendCall μ)
  senders : List SenderPc
  sent : List (Nat × Bool)
  panicked : Bool
deriving DecidableEq, Repr

namespace Streamer

variable {μ : Type u}

def new : Streamer μ where
  quit := false
  sends := []
  senders := []
  sent := []
  panicked := false

inductive Act (μ : Type u) where
  | send (msg : μ)
  | refuse (c : Nat)                  -- `quit` is closed
  | startStream
  | hand (g c : Nat)                  -- sender `g` takes the message of call `c`
  | streamSend (g : Nat) (ok : Bool)
  | reply (g : Nat)
  | exit (g : Nat)                    -- `quit` is closed, or the stream's context is done
  | close
deriving DecidableEq, Repr

def step (s : Streamer μ) : Act μ → Option (Streamer μ)
  | .send msg => some { s with sends := s.sends ++ [⟨msg, .offering⟩] }
  | .refuse c =>
      match s.sends[c]? with
      | some ⟨msg, .offering⟩ =>
          if s.quit then some { s with sends := s.sends.set c ⟨msg, .closed⟩ } else none
      | _ => none
  | .startStream => some { s with senders := s.senders ++ [.selecting] }
  | .hand g c =>
      match s.senders[g]?, s.sends[c]? with
      | some .selecting, some ⟨msg, .offering⟩ =>
          some { s with
            senders := s.senders.set g (.sending c)
            sends := s.sends.set c ⟨msg, .handed⟩ }
      | _, _ => none
  | .streamSend g ok =>
      match s.senders[g]? with
      | some (.sending c) =>
          some { s with
            senders := s.senders.set g (.replying c ok)
            sent := s.sent ++ [(c, ok)] }
      | _ => none
  | .reply g =>
      match s.senders[g]? with
      | some (.replying c ok) =>
          match s.sends[c]? with
          | some ⟨msg, .handed⟩ =>
              some { s with
                senders := s.senders.set g .selecting
                sends := s.sends.set c ⟨msg, .returned ok⟩ }
          -- a call that has returned has closed its channel
          | some ⟨_, .returned _⟩ | some ⟨_, .closed⟩ => some { s with panicked := true }
          | _ => none
      | _ => none
  | .exit g =>
      match s.senders[g]? with
      | some .selecting => some { s with senders := s.senders.set g .exited }
      | _ => none
  | .close => some { s with quit := true }

/-! ### What one step can do -/

inductive Move (s : Streamer μ) : Act μ → Streamer μ → Prop where
  | send {msg} : Move s (.send msg) { s with sends := s.sends ++ [⟨msg, .offering⟩] }
  | refuse {c msg} (hc : s.sends[c]? = some ⟨msg, .offering⟩) (hquit : s.quit = true) :
      Move s (.refuse c) { s with sends := s.sends.set c ⟨msg, .closed⟩ }
  | startStream : Move s .startStream { s with senders := s.senders ++ [.selecting] }
  | hand {g c msg} (hg : s.senders[g]? = some .selecting)
      (hc : s.sends[c]? = some ⟨msg, .offering⟩) :
      Move s (.hand g c)
        { s with
          senders := s.senders.set g (.sending c)
          sends := s.sends.set c ⟨msg, .handed⟩ }
  | streamSend {g ok c} (hg : s.senders[g]? = some (.sending c)) :
      Move s (.streamSend g ok)
        { s with senders := s.senders.set g (.replying c ok), sent := s.sent ++ [(c, ok)] }
  | reply {g c ok msg} (hg : s.senders[g]? = some (.replying c ok))
      (hc : s.sends[c]? = some ⟨msg, .handed⟩) :
      Move s (.reply g)
        { s with
          senders := s.senders.set g .selecting
          sends := s.sends.set c ⟨msg, .returned ok⟩ }
  | replyClosed {g c ok x} (hg : s.senders[g]? = some (.replying c ok))
      (hc : s.sends[c]? = some x) (hpc : x.pc = .closed ∨ ∃ r, x.pc = .returned r) :
      Move s (.reply g) { s with panicked := true }
  | exit {g} (hg : s.senders[g]? = some .selecting) :
      Move s (.exit g) { s with senders := s.senders.set g .exited }
  | close : Move s .close { s with quit := true }

theorem move_of_step {s s' : Streamer μ} {a : Act μ} (h : s.step a = some s') : Move s a s' := by
  cases a with
  | send msg =>
      cases h
      exact .send
  | refuse c =>
      simp only [step] at h
      split at h
      · split at h <;> cases h
        exact .refuse ‹_› ‹_›
      · cases h
  | startStream =>
      cases h
      exact .startStream
  | hand g c =>
      simp only [step] at h
      split at h <;> cases h
      exact .hand ‹_› ‹_›
  | streamSend g ok =>
      simp only [step] at h
      split at h <;> cases h
      exact .streamSend ‹_›
  | reply g =>
      simp only [step] at h
      split at h
      · split at h <;> cases h
        · exact .reply ‹_› ‹_›
        · exact .replyClosed ‹_› ‹_› (Or.inr ⟨_, rfl⟩)
        · exact .replyClosed ‹_› ‹_› (Or.inl rfl)
      · cases h
  | exit g =>
      simp only [step] at h
      split at h <;> cases h
      exact .exit ‹_›
  | close =>
      cases h
      exact .close

/-! ### What was sent was given to `Send` -/

/-- `Send` calls keep their message. -/
theorem Move.sends_next {s s' : Streamer μ} {a : Act μ} (h : Move s a s') {c : Nat}
    {x : SendCall μ} (hx : s.sends[c]? = some x) :
    ∃ x', s'.sends[c]? = some x' ∧ x'.msg = x.msg := by
  have hset : ∀ {i : Nat} {y y' : SendCall μ}, s.sends[i]? = some y → y'.msg = y.msg →
      ∃ x', (s.sends.set i y')[c]? = some x' ∧ x'.msg = x.msg := by
    intro i y y' hi hmsg
    rcases getElem?_set_of_some hx i y' with ⟨rfl, hnew⟩ | ⟨-, hold⟩
    · cases hi.symm.trans hx
      exact ⟨y', hnew, hmsg⟩
    · exact ⟨x, hold, rfl⟩
  cases h with
  | send => exact ⟨x, getElem?_concat_of_some hx _, rfl⟩
  | refuse hc | hand _ hc | reply _ hc => exact hset hc rfl
  | _ => exact ⟨x, hx, rfl⟩

/-- New calls come by `Send`. -/
theorem Move.sends_cases {s s' : Streamer μ} {a : Act μ} (h : Move s a s') {c : Nat}
    {x : SendCall μ} (hx : s'.sends[c]? = some x) :
    (∃ x₀, s.sends[c]? = some x₀ ∧ x₀.msg = x.msg) ∨ (c = s.sends.length ∧ a = .send x.msg) := by
  cases h with
  | send =>
      rcases getElem?_concat_cases hx with hold | ⟨hc, rfl⟩
      · exact Or.inl ⟨x, hold, rfl⟩
      · exact Or.inr ⟨hc, rfl⟩
  | refuse hc | hand _ hc | reply _ hc =>
      rcases getElem?_set_cases hx with ⟨rfl, rfl⟩ | ⟨-, hold⟩
      · exact Or.inl ⟨_, hc, rfl⟩
      · exact Or.inl ⟨x, hold, rfl⟩
  | _ => exact Or.inl ⟨x, hx, rfl⟩

/-- The record of `stream.Send` grows at its end. -/
theorem Move.sent_next {s s' : Streamer μ} {a : Act μ} (h : Move s a s') {n : Nat}
    {y : Nat × Bool} (hy : s.sent[n]? = some y) : s'.sent[n]? = some y := by
  cases h with
  | streamSend => exact getElem?_concat_of_some hy _
  | _ => exact hy

/-- What the senders have, and what was sent, was given to `Send`. -/
structure Known (s : Streamer μ) : Prop where
  senders : ∀ (g c : Nat), s.senders[g]? = some (.sending c) → ∃ x, s.sends[c]? = some x
  sent : ∀ (n c : Nat) ok, s.sent[n]? = some (c, ok) → ∃ x, s.sends[c]? = some x

theorem known_new : Known (new : Streamer μ) := by
  constructor <;> simp [new]

theorem Known.move {s s' : Streamer μ} {a : Act μ} (h : Known s) (hmove : Move s a s') :
    Known s' := by
  have hnext : ∀ {c : Nat}, (∃ x, s.sends[c]? = some x) → ∃ x, s'.sends[c]? = some x := by
    rintro c ⟨x, hx⟩
    obtain ⟨x', hx', -⟩ := hmove.sends_next hx
    exact ⟨x', hx'⟩
  -- another sender is where it was
  have hset : ∀ {g i c : Nat} {pc : SenderPc}, pc ≠ .sending c →
      (s.senders.set i pc)[g]? = some (.sending c) → ∃ x, s'.sends[c]? = some x := by
    intro g i c pc hpc hg
    rcases getElem?_set_cases hg with ⟨-, heq⟩ | ⟨-, hold⟩
    · exact absurd heq.symm hpc
    · exact hnext (h.senders g c hold)
  cases hmove with
  | send | refuse | replyClosed | close =>
      exact ⟨fun g c hg => hnext (h.senders g c hg), fun n c ok hn => hnext (h.sent n c ok hn)⟩
  | startStream =>
      refine ⟨fun g c hg => ?_, fun n c ok hn => hnext (h.sent n c ok hn)⟩
      rcases getElem?_concat_cases hg with hold | ⟨-, heq⟩
      · exact hnext (h.senders g c hold)
      · cases heq
  | hand hg hc =>
      refine ⟨fun g c hg => ?_, fun n c ok hn => hnext (h.sent n c ok hn)⟩
      rcases getElem?_set_cases hg with ⟨-, heq⟩ | ⟨-, hold⟩
      · cases heq
        exact hnext ⟨_, hc⟩
      · exact hnext (h.senders g c hold)
  | streamSend hg =>
      refine ⟨fun g c => hset (by simp), fun n c ok hn => ?_⟩
      rcases getElem?_concat_cases hn with hold | ⟨-, heq⟩
      · exact hnext (h.sent n c ok hold)
      · cases heq
        exact h.senders _ _ hg
  | reply hg | exit hg =>
      exact ⟨fun g c => hset (by simp), fun n c ok hn => hnext (h.sent n c ok hn)⟩

end Streamer

end GoPlugin
