import GoPlugin.StreamerGoroutines

/-!
# One step for a rendezvous

`Streamer` lets a message and its reply pass in one step each, and knows neither reply channels nor
`StartStream` calls.  Every run of the goroutines is such a run, once the steps that it does not
know are left out: a call has returned there when it has its reply.
-/

namespace GoPlugin

open LabelledSystem

universe u v

variable {μ : Type u} {ε : Type v}

def SendResult.coarse : SendResult ε → SendPc
  | .brokerClosed => .closed
  | .streamed err => .returned err.isNone

def CallPc.coarse : CallPc ε → SendPc
  | .offering => .offering
  | .waiting => .handed
  | .closing r | .returned r => r.coarse

def StreamerCall.coarse (x : StreamerCall μ ε) : SendCall μ := ⟨x.msg, x.pc.coarse⟩

def GoSender.coarse (y : GoSender μ ε) : SenderPc :=
  match y.pc with
  | .selecting => .selecting
  | .sending _ ch => .sending ch
  | .replying ch err => .replying ch err.isNone
  | .exited => .exited

def StreamSend.coarse (e : StreamSend μ ε) : Nat × Bool := (e.ch, e.err.isNone)

namespace StreamerState

def coarse (s : StreamerState μ ε) : Streamer μ where
  quit := s.quit
  sends := s.calls.map StreamerCall.coarse
  senders := s.senders.map GoSender.coarse
  sent := s.sent.map StreamSend.coarse
  panicked := s.panicked

/-- The step of `Streamer` that an action is. -/
def view (kind : StreamerKind) (_ : StreamerState μ ε) : Act μ ε → Option (Streamer.Act μ)
  | .send msg => some (.send msg)
  | .refuse c => some (.refuse c)
  | .hand g c => some (.hand g c)
  | .streamSend g err => some (.streamSend g err.isNone)
  | .reply g => some (.reply g)
  | .exit g => some (.exit g)
  | .startStream => if kind = .server then some .startStream else none
  | .opened _ ok => if ok then some .startStream else none
  | .deferredClose _ | .close => some .close
  | _ => none

variable {s s' : StreamerState μ ε}

theorem coarse_call {c : Nat} {x : StreamerCall μ ε} (h : s.calls[c]? = some x) :
    s.coarse.sends[c]? = some x.coarse := by
  rw [coarse, List.getElem?_map, h]
  rfl

theorem coarse_sender {g : Nat} {y : GoSender μ ε} (h : s.senders[g]? = some y) :
    s.coarse.senders[g]? = some y.coarse := by
  rw [coarse, List.getElem?_map, h]
  rfl

theorem coarse_setCall (s : StreamerState μ ε) (c : Nat) (x : StreamerCall μ ε) :
    (s.setCall c x).coarse = { s.coarse with sends := s.coarse.sends.set c x.coarse } := by
  simp [coarse, setCall, List.map_set]

theorem coarse_setSender (s : StreamerState μ ε) (g : Nat) (y : GoSender μ ε) :
    (s.setSender g y).coarse = { s.coarse with senders := s.coarse.senders.set g y.coarse } := by
  simp [coarse, setSender, List.map_set]

theorem coarse_goSender (s : StreamerState μ ε) (st : Nat) :
    (s.goSender st).coarse = { s.coarse with senders := s.coarse.senders ++ [.selecting] } := by
  simp [coarse, goSender, GoSender.coarse]

section Step

variable {kind : StreamerKind}

theorem step_coarse_refuse {c : Nat} (h : s.step kind (.refuse c) = some s') :
    s.coarse.step (.refuse c) = some s'.coarse := by
  simp only [step] at h
  split at h
  · next hc =>
      split at h
      · next hquit =>
          cases h
          have hcall := coarse_call hc
          rw [StreamerCall.coarse, CallPc.coarse] at hcall
          rw [coarse_setCall, Streamer.step, hcall]
          exact if_pos hquit
      · cases h
  · cases h

theorem step_coarse_hand {g c : Nat} (h : s.step kind (.hand g c) = some s') :
    s.coarse.step (.hand g c) = some s'.coarse := by
  simp only [step] at h
  split at h
  · next st msg chClosed hg hc =>
      cases h
      have hcall := coarse_call hc
      have hsender := coarse_sender hg
      rw [StreamerCall.coarse, CallPc.coarse] at hcall
      rw [GoSender.coarse] at hsender
      have hnext := coarse_setCall (s.setSender g ⟨st, .sending msg c⟩) c ⟨msg, .waiting, chClosed⟩
      rw [coarse_setSender] at hnext
      rw [Streamer.step, hcall, hsender]
      exact congrArg some hnext.symm
  · cases h

theorem step_coarse_streamSend {g : Nat} {err : Option ε}
    (h : s.step kind (.streamSend g err) = some s') :
    s.coarse.step (.streamSend g err.isNone) = some s'.coarse := by
  simp only [step] at h
  split at h
  · next st msg ch hg =>
      cases h
      have hsender := coarse_sender hg
      rw [GoSender.coarse] at hsender
      rw [Streamer.step, hsender]
      simp [coarse, setSender, List.map_set, GoSender.coarse, StreamSend.coarse]
  · cases h

theorem step_coarse_reply (hs : Sound s) {g : Nat} (h : s.step kind (.reply g) = some s') :
    s.coarse.step (.reply g) = some s'.coarse := by
  have hsafe := (hs.move (move_of_step h)).safe
  simp only [step] at h
  split at h
  · next st ch err hg =>
      split at h
      · cases h
        cases hsafe
      · next msg hc =>
          cases h
          have hcall := coarse_call hc
          have hsender := coarse_sender hg
          rw [StreamerCall.coarse, CallPc.coarse] at hcall
          rw [GoSender.coarse] at hsender
          have hnext := coarse_setCall (s.setSender g ⟨st, .selecting⟩) ch
            ⟨msg, .closing (.streamed err), false⟩
          rw [coarse_setSender] at hnext
          simp only [Streamer.step, hsender, hcall]
          exact congrArg some hnext.symm
      · cases h
  · cases h

theorem step_coarse_exit {g : Nat} (h : s.step kind (.exit g) = some s') :
    s.coarse.step (.exit g) = some s'.coarse := by
  simp only [step] at h
  split at h
  · next st hg =>
      split at h
      · cases h
        have hsender := coarse_sender hg
        rw [GoSender.coarse] at hsender
        rw [coarse_setSender, Streamer.step, hsender]
        rfl
      · cases h
  · cases h

/-- An action that `Streamer` knows is its step. -/
theorem step_coarse (hs : Sound s) {a : Act μ ε} {b : Streamer.Act μ}
    (hstep : s.step kind a = some s') (hview : s.view kind a = some b) :
    s.coarse.step b = some s'.coarse := by
  cases a with
  | send msg =>
      cases hview
      cases hstep
      simp [Streamer.step, coarse, StreamerCall.coarse, CallPc.coarse]
  | refuse c =>
      cases hview
      exact step_coarse_refuse hstep
  | hand g c =>
      cases hview
      exact step_coarse_hand hstep
  | streamSend g err =>
      cases hview
      exact step_coarse_streamSend hstep
  | reply g =>
      cases hview
      exact step_coarse_reply hs hstep
  | exit g =>
      cases hview
      exact step_coarse_exit hstep
  | startStream =>
      cases kind with
      | server =>
          cases hview
          cases hstep
          rw [coarse_goSender]
          rfl
      | client => cases hview
  | opened st ok =>
      cases ok with
      | true =>
          cases hview
          simp only [step] at hstep
          split at hstep
          · cases hstep
            rw [coarse_goSender]
            rfl
          · cases hstep
      | false => cases hview
  | deferredClose st =>
      cases hview
      simp only [step] at hstep
      split at hstep <;> cases hstep <;> rfl
  | close =>
      cases hview
      cases hstep
      rfl
  | closeCh | streamRecv | deliver | leave | cancel | contextDone => cases hview

/-- Any other action leaves what `Streamer` knows as it is. -/
theorem coarse_of_hidden (hs : Sound s) {a : Act μ ε} (hstep : s.step kind a = some s')
    (hview : s.view kind a = none) : s'.coarse = s.coarse := by
  have hsafe := (hs.move (move_of_step hstep)).safe
  cases a with
  | closeCh c =>
      simp only [step] at hstep
      split at hstep <;> cases hstep
      · cases hsafe
      · next msg r hc =>
          have hset : s.coarse.sends.set c (StreamerCall.coarse ⟨msg, .returned r, true⟩) =
              s.coarse.sends := by
            obtain ⟨hlt, heq⟩ := List.getElem?_eq_some_iff.mp (coarse_call hc)
            conv_rhs => rw [← List.set_getElem_self hlt, heq]
            rfl
          rw [coarse_setCall, hset]
  | startStream =>
      cases kind with
      | server => cases hview
      | client =>
          cases hstep
          rfl
  | opened st ok =>
      cases ok with
      | true => cases hview
      | false =>
          simp only [step] at hstep
          split at hstep <;> cases hstep
          rfl
  | leave st =>
      simp only [step] at hstep
      split at hstep
      · split at hstep <;> cases hstep
        rfl
      · cases hstep
  | streamRecv | deliver | cancel | contextDone =>
      simp only [step] at hstep
      split at hstep <;> cases hstep <;> rfl
  | send | refuse | hand | streamSend | reply | exit | deferredClose | close => cases hview

end Step

/-- **The goroutines refine the streamer.**  Every run of them is, without the steps that it does
    not know, a run of `Streamer` that ends in the same state. -/
theorem coarse_run {kind : StreamerKind} {run : List (Act μ ε)}
    (h : exec (step kind) new run = some s) :
    exec Streamer.step Streamer.new (subrun (step kind) (view kind) new run) = some s.coarse := by
  have hkeep : ∀ (s : StreamerState μ ε) a s' (t : Streamer μ) b, Sound s ∧ t = s.coarse →
      s.step kind a = some s' → s.view kind a = some b →
      ∃ t', t.step b = some t' ∧ Sound s' ∧ t' = s'.coarse := by
    rintro s a s' t b ⟨hs, rfl⟩ hstep hview
    exact ⟨s'.coarse, step_coarse hs hstep hview, hs.move (move_of_step hstep), rfl⟩
  have hhide : ∀ (s : StreamerState μ ε) a s' (t : Streamer μ), Sound s ∧ t = s.coarse →
      s.step kind a = some s' → s.view kind a = none → Sound s' ∧ t = s'.coarse := by
    rintro s a s' t ⟨hs, rfl⟩ hstep hview
    exact ⟨hs.move (move_of_step hstep), (coarse_of_hidden hs hstep hview).symm⟩
  obtain ⟨t, ht, -, rfl⟩ := exec_subrun hkeep hhide (t := Streamer.new) ⟨sound_new, rfl⟩ h
  exact ht

end StreamerState

end GoPlugin
