import GoPlugin.LabelledSystem

/-!
# The session of the plugin's muxer (`GRPCServerMuxer.session`)

`NewGRPCServerMuxer` starts a goroutine that accepts one connection and makes it a yamux session.
It reports an error on an unbuffered channel, and closes the channel in any case.  `Accept`,
`Close`, `Listener` and `Dial` begin with a `session` call, which waits for the channel and looks at
the session then.

The error has one receiver.  The calls after it find the channel closed and no session, which the
source has down as what should never happen.
-/

namespace GoPlugin

open Tally LabelledSystem

/-- Which call of `acceptSession` failed. -/
inductive SetupError where
  | accept
  | yamux
deriving DecidableEq, Repr

/-- Where `acceptSession` stands. -/
inductive AcceptSessionPc where
  | accepting                    -- in `ln.Accept`
  | creating (n : Nat)           -- in `yamux.Server`, on the `n`-th connection
  | sending (e : SetupError)     -- in the send on `sessionErrCh`
  | closing                      -- before `close(sessionErrCh)`
  | returned
deriving DecidableEq, Repr

/-- `acceptSession` has reported what came of it, or has nothing to report. -/
def AcceptSessionPc.past : AcceptSessionPc → Bool
  | .closing | .returned => true
  | _ => false

/-- What a `session` call returns. -/
inductive SessionResult where
  | session (n : Nat)
  | failed (e : SetupError)
  | timedOut
  | noSession                    -- "no connection established and no error received"
deriving DecidableEq, Repr

/-- Where a `session` call stands. -/
inductive SessionPc where
  | selecting
  | checking                     -- before it looks at `m.sess`
  | returned (r : SessionResult)
deriving DecidableEq, Repr

structure ServerSession where
  goroutine : AcceptSessionPc
  sess : Option Nat
  closed : Bool                  -- `sessionErrCh`
  calls : List SessionPc
deriving DecidableEq, Repr

/-- The call has returned what `acceptSession` reported. -/
def SessionPc.informed : SessionPc → Nat
  | .returned (.failed _) => 1
  | _ => 0

namespace ServerSession

def init : ServerSession := ⟨.accepting, none, false, []⟩

inductive Act where
  | accept (r : Option Nat)      -- `ln.Accept` returns
  | create (ok : Bool)           -- `yamux.Server` returns
  | close
  | call                         -- a goroutine calls `session`
  | receive (i : Nat)            -- the `i`-th call receives the error
  | closed (i : Nat)             -- it finds the channel closed
  | timeout (i : Nat)
  | check (i : Nat)
deriving DecidableEq, Repr

def setCall (s : ServerSession) (i : Nat) (pc : SessionPc) : ServerSession :=
  { s with calls := s.calls.set i pc }

def step (s : ServerSession) : Act → Option ServerSession
  | .accept r =>
      match s.goroutine, r with
      | .accepting, some n => some { s with goroutine := .creating n }
      | .accepting, none => some { s with goroutine := .sending .accept }
      | _, _ => none
  | .create ok =>
      match s.goroutine with
      | .creating n =>
          if ok then some { s with goroutine := .closing, sess := some n }
          else some { s with goroutine := .sending .yamux }
      | _ => none
  | .close =>
      match s.goroutine with
      | .closing => some { s with goroutine := .returned, closed := true }
      | _ => none
  | .call => some { s with calls := s.calls ++ [.selecting] }
  | .receive i =>
      match s.goroutine, s.calls[i]? with
      | .sending e, some .selecting =>
          some { s.setCall i (.returned (.failed e)) with goroutine := .closing }
      | _, _ => none
  | .closed i =>
      match s.calls[i]? with
      | some .selecting => if s.closed then some (s.setCall i .checking) else none
      | _ => none
  | .timeout i =>
      match s.calls[i]? with
      | some .selecting => some (s.setCall i (.returned .timedOut))
      | _ => none
  | .check i =>
      match s.calls[i]? with
      | some .checking =>
          some (s.setCall i (.returned (match s.sess with
            | some n => .session n
            | none => .noSession)))
      | _ => none

/-! ### What one step can do -/

inductive Next (s : ServerSession) : Act → ServerSession → Prop where
  | accept {n} (h : s.goroutine = .accepting) :
      Next s (.accept (some n)) { s with goroutine := .creating n }
  | acceptFails (h : s.goroutine = .accepting) :
      Next s (.accept none) { s with goroutine := .sending .accept }
  | create {n} (h : s.goroutine = .creating n) :
      Next s (.create true) { s with goroutine := .closing, sess := some n }
  | createFails {n} (h : s.goroutine = .creating n) :
      Next s (.create false) { s with goroutine := .sending .yamux }
  | close (h : s.goroutine = .closing) :
      Next s .close { s with goroutine := .returned, closed := true }
  | call : Next s .call { s with calls := s.calls ++ [.selecting] }
  | receive {i e} (h : s.goroutine = .sending e) (hi : s.calls[i]? = some .selecting) :
      Next s (.receive i)
        { s with goroutine := .closing, calls := s.calls.set i (.returned (.failed e)) }
  | closed {i} (h : s.closed = true) (hi : s.calls[i]? = some .selecting) :
      Next s (.closed i) { s with calls := s.calls.set i .checking }
  | timeout {i} (hi : s.calls[i]? = some .selecting) :
      Next s (.timeout i) { s with calls := s.calls.set i (.returned .timedOut) }
  | check {i r} (hi : s.calls[i]? = some .checking)
      (hr : (∃ n, s.sess = some n ∧ r = .session n) ∨ (s.sess = none ∧ r = .noSession)) :
      Next s (.check i) { s with calls := s.calls.set i (.returned r) }

theorem next_of_step {s s' : ServerSession} {a : Act} (h : step s a = some s') : Next s a s' := by
  cases a with
  | accept r =>
      simp only [step] at h
      split at h
      · next hg =>
          cases h
          exact .accept hg
      · next hg =>
          cases h
          exact .acceptFails hg
      · cases h
  | create ok =>
      simp only [step] at h
      split at h
      · next n hg =>
          cases ok with
          | true =>
              cases h
              exact .create hg
          | false =>
              cases h
              exact .createFails hg
      · cases h
  | close =>
      simp only [step] at h
      split at h
      · next hg =>
          cases h
          exact .close hg
      · cases h
  | call =>
      cases h
      exact .call
  | receive i =>
      simp only [step] at h
      split at h
      · next e hg hi =>
          cases h
          exact .receive hg hi
      · cases h
  | closed i =>
      simp only [step] at h
      split at h
      · next hi =>
          split at h
          · next hclosed =>
              cases h
              exact .closed hclosed hi
          · cases h
      · cases h
  | timeout i =>
      simp only [step] at h
      split at h
      · next hi =>
          cases h
          exact .timeout hi
      · cases h
  | check i =>
      simp only [step] at h
      split at h
      · next hi =>
          cases h
          refine .check hi ?_
          cases hsess : s.sess with
          | none => exact Or.inr ⟨rfl, rfl⟩
          | some n => exact Or.inl ⟨n, rfl, rfl⟩
      · cases h

/-! ### What the calls return -/

/-- What a call's place says about the session. -/
def Fits (sess : Option Nat) (closed : Bool) : SessionPc → Prop
  | .selecting | .returned .timedOut => True
  | .checking => closed = true
  | .returned (.session n) => sess = some n
  | .returned (.failed _) => sess = none
  | .returned .noSession => closed = true ∧ sess = none

structure Sound (s : ServerSession) : Prop where
  closed : s.closed = true ↔ s.goroutine = .returned
  early : s.goroutine.past = false → s.sess = none
  informed : tally SessionPc.informed s.calls =
    if s.goroutine.past = true ∧ s.sess = none then 1 else 0
  fits : ∀ pc ∈ s.calls, Fits s.sess s.closed pc

theorem sound_init : Sound init := by
  refine ⟨by simp [init], fun _ => rfl, rfl, ?_⟩
  intro pc hpc
  cases hpc

/-- A call goes on. -/
theorem Sound.setCall {s : ServerSession} {i : Nat} {pc pc' : SessionPc} (h : Sound s)
    (hi : s.calls[i]? = some pc) (hinformed : pc'.informed = pc.informed)
    (hfits : Fits s.sess s.closed pc') : Sound { s with calls := s.calls.set i pc' } := by
  refine ⟨h.closed, h.early, ?_, fun q hq => ?_⟩
  · have hset := tally_set SessionPc.informed pc' hi
    have hsum := h.informed
    dsimp only
    omega
  · rcases List.mem_or_eq_of_mem_set hq with hold | rfl
    · exact h.fits q hold
    · exact hfits

/-- Before anything is reported, the calls that have returned have timed out. -/
theorem Sound.early_calls {s : ServerSession} (h : Sound s) (hpast : s.goroutine.past = false)
    {pc : SessionPc} (hpc : pc ∈ s.calls) : pc = .selecting ∨ pc = .returned .timedOut := by
  have hsess := h.early hpast
  have hopen : s.closed = false := by
    by_contra hclosed
    rw [h.closed.mp (by simpa using hclosed)] at hpast
    cases hpast
  have hfits := h.fits pc hpc
  have hnone : pc.informed = 0 := by
    have hsum := h.informed
    rw [if_neg (by simp [hpast]), tally_eq_zero] at hsum
    exact hsum pc hpc
  cases pc with
  | selecting => exact Or.inl rfl
  | checking =>
      rw [Fits, hopen] at hfits
      cases hfits
  | returned r =>
      cases r with
      | timedOut => exact Or.inr rfl
      | session n =>
          rw [Fits, hsess] at hfits
          cases hfits
      | failed e => cases hnone
      | noSession =>
          rw [Fits, hopen] at hfits
          cases hfits.1

theorem Sound.next {s s' : ServerSession} {a : Act} (h : Sound s) (hnext : Next s a s') :
    Sound s' := by
  have hclosed : ∀ {pc : AcceptSessionPc}, s.goroutine = pc → pc ≠ .returned →
      s.closed = false := by
    intro pc hg hpc
    by_contra hclosed
    exact hpc (hg.symm.trans (h.closed.mp (by simpa using hclosed)))
  have hsum := h.informed
  cases hnext with
  | accept hg | acceptFails hg | createFails hg =>
      have hopen := hclosed hg (by simp)
      rw [hg] at hsum
      refine ⟨by simp [hopen], fun _ => h.early (by rw [hg]; rfl), hsum, h.fits⟩
  | create hg =>
      have hopen := hclosed hg (by simp)
      have hearly := @Sound.early_calls s h (by rw [hg]; rfl)
      rw [hg] at hsum
      refine ⟨by simp [hopen], (by intro hpast; cases hpast), ?_, fun pc hpc => ?_⟩
      · simpa [AcceptSessionPc.past] using hsum
      · rcases hearly hpc with rfl | rfl <;> trivial
  | close hg =>
      rw [hg] at hsum
      refine ⟨by simp, (by intro hpast; cases hpast), hsum, fun pc hpc => ?_⟩
      have hfits := h.fits pc hpc
      cases pc with
      | selecting => trivial
      | checking => rfl
      | returned r =>
          cases r with
          | timedOut => trivial
          | session n | failed e => exact hfits
          | noSession => exact ⟨rfl, hfits.2⟩
  | call =>
      refine ⟨h.closed, h.early, by simpa [SessionPc.informed] using hsum, fun pc hpc => ?_⟩
      rcases List.mem_append.mp hpc with hold | hnew
      · exact h.fits pc hold
      · rw [List.mem_singleton.mp hnew]
        trivial
  | @receive i e hg hi =>
      have hopen := hclosed hg (by simp)
      have hsess := h.early (by rw [hg]; rfl)
      have hset := tally_set SessionPc.informed (.returned (.failed e)) hi
      rw [hg] at hsum
      refine ⟨by simp [hopen], (by intro hpast; cases hpast), ?_, fun pc hpc => ?_⟩
      · rw [if_neg (by simp [AcceptSessionPc.past])] at hsum
        rw [if_pos ⟨rfl, hsess⟩]
        simp only [SessionPc.informed] at hset ⊢
        omega
      · rcases List.mem_or_eq_of_mem_set hpc with hold | rfl
        · exact h.fits pc hold
        · exact hsess
  | closed hc hi => exact h.setCall hi rfl hc
  | timeout hi => exact h.setCall hi rfl trivial
  | check hi hr =>
      have hc : s.closed = true := h.fits _ (List.mem_of_getElem? hi)
      rcases hr with ⟨n, hn, rfl⟩ | ⟨hnone, rfl⟩
      · exact h.setCall hi rfl hn
      · exact h.setCall hi rfl ⟨hc, hnone⟩

theorem sound_of_exec {run : List Act} {s : ServerSession} (hrun : exec step init run = some s) :
    Sound s :=
  exec_invariant_of_step (fun _ _ _ h hstep => h.next (next_of_step hstep)) sound_init hrun

/-- **What `session` calls return.**  In every run: if one call returns a session, all calls that do
    not time out return this one.  At most one call returns the error of `acceptSession`, and a call
    returns that there is neither connection nor error only where one did. -/
theorem session_results (run : List Act) {s : ServerSession}
    (hrun : exec step init run = some s) :
    (∀ n, .returned (.session n) ∈ s.calls → s.sess = some n ∧
      ∀ r, .returned r ∈ s.calls → r = .session n ∨ r = .timedOut) ∧
    tally SessionPc.informed s.calls ≤ 1 ∧
    (.returned .noSession ∈ s.calls → tally SessionPc.informed s.calls = 1) := by
  have h := sound_of_exec hrun
  have hsum := h.informed
  refine ⟨fun n hn => ?_, ?_, fun hno => ?_⟩
  · have hsess : s.sess = some n := h.fits _ hn
    refine ⟨hsess, fun r hr => ?_⟩
    have hfits := h.fits _ hr
    cases r with
    | timedOut => exact Or.inr rfl
    | session m =>
        have hm : s.sess = some m := hfits
        rw [hsess] at hm
        cases hm
        exact Or.inl rfl
    | failed e =>
        have hnone : s.sess = none := hfits
        rw [hsess] at hnone
        cases hnone
    | noSession =>
        have hnone := hfits.2
        rw [hsess] at hnone
        cases hnone
  · rw [hsum]
    split <;> omega
  · obtain ⟨hclosed, hsess⟩ : s.closed = true ∧ s.sess = none := h.fits _ hno
    rw [hsum, if_pos ⟨by rw [h.closed.mp hclosed]; rfl, hsess⟩]

/-- `ln.Accept` fails while two calls wait. -/
def acceptFails : List Act :=
  [.call, .call, .accept none, .receive 1, .close, .closed 0, .check 0]

theorem session_results_acceptFails :
    ∃ s, exec step init acceptFails = some s ∧
      s.calls = [.returned .noSession, .returned (.failed .accept)] ∧
      tally SessionPc.informed s.calls = 1 :=
  ⟨_, rfl, rfl, (session_results acceptFails rfl).2.2 (by decide)⟩

end ServerSession

end GoPlugin
